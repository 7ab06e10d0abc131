import DocumentServer.Template.Signature

/-!
What templates can reach of the program that runs them. A function knows the names that it was defined
among, and with those of the language a template can import what the program can. Of all this only time zones
are known here.
-/
namespace DocumentServer.Template.Host

/-- The function whose names a template can look into. -/
def openFunction : String := "lipsum"

def importName : String := "__import__"

def zoneName : String := "ZoneInfo"

/-- The names that a function of the program was defined among. -/
def names : Value :=
  .dict [(.text "__builtins__", .dict [(.text importName, .function importName)])]

def unavailable (name : String) : Fault := ⟨.templateRuntime, s!"'{name}' is not available"⟩

def importModule (given : Given) : Except Fault Value :=
  match given.positional, given.named with
  | [.text "zoneinfo"], [] => .ok (.module "zoneinfo" [(zoneName, .function zoneName)] "")
  | _, _ => .error (unavailable importName)

/-- The regions whose offsets are known. -/
def regions : List (String × Calendar.Zone) :=
  [("UTC", .region "UTC" ⟨.utc, "UTC"⟩ []), ("Asia/Kathmandu", .kathmandu)]

/-- The zone of a region. -/
def zoneOf (given : Given) : Except Fault Value :=
  let found := match given.positional, given.named with
    | [.text key], [] => regions.lookup key
    | _, _ => none
  (found.map fun z => Except.ok (Value.zone z)).getD (.error (unavailable zoneName))

/-- The same local time in another zone, or in none. -/
def replaceZone (t : Calendar.DateTime) (given : Given) : Option (Except Fault Value) :=
  match given.positional, given.named with
  | [], [("tzinfo", .zone z)] => some (.ok (.dateTime { t with offset := some z }))
  | [], [("tzinfo", .none)] => some (.ok (.dateTime { t with offset := none }))
  | [], [("tzinfo", v)] => some (.error (.wrongType
      s!"tzinfo argument must be None or of a tzinfo subclass, not type '{v.typeName}'"))
  | _, _ => none

end DocumentServer.Template.Host
