import DocumentServer.Fault
import DocumentServer.Text.Letter
import DocumentServer.Value.Printer

/-! Levels of logging, by name or by number. -/
namespace DocumentServer.LogLevel

def levels : List (String × Nat) :=
  [("CRITICAL", 50), ("FATAL", 50), ("ERROR", 40), ("WARN", 30), ("WARNING", 30), ("INFO", 20),
   ("DEBUG", 10), ("NOTSET", 0)]

/-- The level before any is chosen. -/
def initial : Value := .int 30

/-- The level that a value asks for. Names count in either case; numbers are taken as they are. -/
def read (v : Value) : Except Fault Value :=
  match v with
  | .int n => .ok (.int n)
  | .bool b => .ok (.bool b)
  | v => match v.text? with
    | some name =>
      match levels.lookup (Text.toUpper name) with
      | some n => .ok (.int n)
      | none =>
        let shown := Text.quote (Text.toUpper name)
        .error (.wrongValue s!"Unknown level: {shown}")
    | none =>
      let shown := v.code
      .error (.wrongType s!"Level not an integer or a valid string: {shown}")

end DocumentServer.LogLevel
