import DocumentServer.Template.Attribute

/-!
Calls of the operations that values offer, and of the functions that every template knows.
-/
namespace DocumentServer.Template
open Value

/-- An operation that takes no arguments. -/
def withoutArguments (name : String) (given : Given) (result : Value) : Except Fault Value :=
  if !given.named.isEmpty then .error (.wrongType s!"{name}() takes no keyword arguments")
  else if given.positional.isEmpty then .ok result
  else .error (.wrongType s!"{name}() takes no arguments ({given.positional.length} given)")

/-- The number of arguments of an operation that takes them by position only. -/
def checkCount (name full : String) (least most : Nat) (given : Given) : Except Fault Unit :=
  let count := given.positional.length
  let lower := Signature.countText least "argument"
  let upper := Signature.countText most "argument"
  if !given.named.isEmpty then .error (.wrongType s!"{full}() takes no keyword arguments")
  else if count < least then .error (.wrongType s!"{name} expected at least {lower}, got {count}")
  else if most < count then .error (.wrongType s!"{name} expected at most {upper}, got {count}")
  else .ok ()

def dictGet (entries : List (Value × Value)) (given : Given) : Except Fault Value := do
  checkCount "get" "dict.get" 1 2 given
  match given.positional with
  | key :: rest =>
    if let some name := key.unhashable? then throw (unhashable name)
    return (lookup? key entries).getD (rest.head?.getD .none)
  | [] => return .none

def dictCall (entries : List (Value × Value)) (name : String) (given : Given) :
    Option (Except Fault Value) :=
  match name with
  | "get" => some (dictGet entries given)
  | "items" => some (withoutArguments "dict.items" given (.view .items entries))
  | "keys" => some (withoutArguments "dict.keys" given (.view .keys entries))
  | "values" => some (withoutArguments "dict.values" given (.view .values entries))
  | "copy" => some (withoutArguments "dict.copy" given (.dict entries))
  | _ => Option.none

/-! ## Text -/

/-- The parts of a text between runs of white space. -/
def words (s : List Char) : List (List Char) :=
  let step (c : Char) (acc : List (List Char) × Bool) : List (List Char) × Bool :=
    if Text.isBlank c then (acc.1, false)
    else match acc with
      | (word :: rest, true) => ((c :: word) :: rest, true)
      | (rest, _) => ([c] :: rest, true)
  (s.foldr step ([], false)).1

/-- The parts of a text between occurrences of a mark that is not empty. -/
def splitAt (mark : List Char) : Nat → List Char → List Char → List (List Char)
  | 0, part, s => [part.reverse ++ s]
  | _, part, [] => [part.reverse]
  | fuel + 1, part, c :: rest =>
    if mark.isPrefixOf (c :: rest) then
      part.reverse :: splitAt mark fuel [] ((c :: rest).drop mark.length)
    else splitAt mark fuel (c :: part) rest

def splitText (s : String) (given : Given) : Except Fault (List String) :=
  match given.positional with
  | [] => .ok ((words s.toList).map String.ofList)
  | [.none] => .ok ((words s.toList).map String.ofList)
  | mark :: _ => match mark.text? with
    | Option.none => .error (.wrongType s!"must be str or None, not {mark.typeName}")
    | some "" => .error (.wrongValue "empty separator")
    | some mark =>
      .ok ((splitAt mark.toList (s.length + 1) [] s.toList).map String.ofList)

def replaceText (s : String) (given : Given) : Except Fault String := do
  checkCount "replace" "str.replace" 2 3 given
  match given.positional.map Value.text? with
  | some old :: some new :: _ =>
    if old.isEmpty then return s
    return String.intercalate new ((splitAt old.toList (s.length + 1) [] s.toList).map String.ofList)
  | some _ :: _ =>
    throw (.wrongType s!"replace() argument 2 must be str, not {typeAt 1}")
  | _ => throw (.wrongType s!"replace() argument 1 must be str, not {typeAt 0}")
where
  typeAt (i : Nat) : String := ((given.positional[i]?).getD .none).typeName

def joinItem (index : Nat) (v : Value) : Except Fault String :=
  match v.text? with
  | some s => .ok s
  | Option.none =>
    .error (.wrongType s!"sequence item {index}: expected str instance, {v.typeName} found")

def joinText (s : String) (given : Given) : Except Fault String := do
  match given.positional with
  | [v] => match items? v with
    | some items =>
      let parts ← items.zipIdx.mapM fun (item, i) => joinItem i item
      return String.intercalate s parts
    | Option.none => throw (.wrongType "can only join an iterable")
  | args =>
    throw (.wrongType s!"str.join() takes exactly one argument ({args.length} given)")

def stripText (left right : Bool) (s : List Char) (isDropped : Char → Bool) : List Char :=
  let s := if left then s.dropWhile isDropped else s
  if right then (s.reverse.dropWhile isDropped).reverse else s

def strip (name : String) (left right : Bool) (s : String) (given : Given) :
    Except Fault String := do
  checkCount name s!"str.{name}" 0 1 given
  match given.positional with
  | [] => return .ofList (stripText left right s.toList Text.isBlank)
  | .none :: _ => return .ofList (stripText left right s.toList Text.isBlank)
  | v :: _ => match v.text? with
    | some dropped => return .ofList (stripText left right s.toList dropped.toList.contains)
    | Option.none => throw (.wrongType s!"{name} arg must be None or str")

/-- Whether a text begins or ends with another one, or with one of several. -/
def affix (name : String) (test : List Char → List Char → Bool) (s : String) (given : Given) :
    Except Fault Value :=
  match given.positional with
  | [] => .error (.wrongType s!"{name}() takes at least 1 argument (0 given)")
  | v :: _ => match v, v.text? with
    | _, some word => .ok (.bool (test word.toList s.toList))
    | .tuple items, _ =>
      .ok (.bool ((items.filterMap Value.text?).any fun word => test word.toList s.toList))
    | v, _ => .error
      (.wrongType s!"{name} first arg must be str or a tuple of str, not {v.typeName}")

/-- An operation on text; `wrap` makes the result markup where the text is. -/
def textCall (wrap : String → Value) (s : String) (name : String) (given : Given) :
    Option (Except Fault Value) :=
  match name with
  | "upper" => some (withoutArguments "str.upper" given (wrap (Text.toUpper s)))
  | "lower" => some (withoutArguments "str.lower" given (wrap (Text.toLower s)))
  | "strip" => some ((strip name true true s given).map wrap)
  | "lstrip" => some ((strip name true false s given).map wrap)
  | "rstrip" => some ((strip name false true s given).map wrap)
  | "split" => some ((splitText s given).map fun parts => .list (parts.map wrap))
  | "replace" => some ((replaceText s given).map wrap)
  | "join" => some ((joinText s given).map wrap)
  | "startswith" => some (affix name (fun word s => word.isPrefixOf s) s given)
  | "endswith" => some (affix name (fun word s => word.isSuffixOf s) s given)
  | _ => Option.none

/-! ## Dates and loops -/

def momentCall (m : Calendar.Moment) (name : String) (given : Given) :
    Option (Except Fault Value) :=
  match name with
  | "isoformat" => some (withoutArguments "date.isoformat" given (.text m.iso))
  | "strftime" => match given.positional.map Value.text? with
    | [some pattern] => some (.ok (.text (m.format pattern)))
    | _ => Option.none
  | _ => Option.none

def cycle (index : Nat) (given : Given) : Except Fault Value :=
  match given.positional[index % given.positional.length]? with
  | some v => .ok v
  | Option.none => .error (.wrongType "no items for cycling given")

/-- Calls a named operation of a value. -/
def callMethod (receiver : Value) (name : String) (given : Given) : Except Fault Value :=
  let result := match receiver with
    | .dict entries => dictCall entries name given
    | .text s => textCall .text s name given
    | .markup s => textCall .markup s name given
    | .date d => momentCall (.date d) name given
    | .dateTime t =>
      if name == "replace" then Host.replaceZone t given else momentCall (.dateTime t) name given
    | .loop _ index _ _ => if name == "cycle" then some (cycle index given) else Option.none
    | _ => Option.none
  result.getD (.error ⟨.templateRuntime, s!"'{receiver.typeName}.{name}' is not available"⟩)

/-! ## Functions -/

def rangeInt (v : Value) : Except Fault Int :=
  match v.int? with
  | some n => .ok n
  | Option.none => .error
    (.wrongType s!"'{v.typeName}' object cannot be interpreted as an integer")

def callRange (given : Given) : Except Fault Value := do
  checkCount "range" "range" 1 3 given
  match ← given.positional.mapM rangeInt with
  | [stop] => return .range 0 stop 1
  | [start, stop] => return .range start stop 1
  | [start, stop, step] =>
    if step == 0 then throw (.wrongValue "range() arg 3 must not be zero")
    return .range start stop step
  | _ => return .none

def callDict (given : Given) : Except Fault Value :=
  let named : List (Value × Value) := given.named.map fun (k, v) => (.text k, v)
  match given.positional with
  | [] => .ok (.dict named)
  | [.dict entries] =>
    .ok (.dict (named.foldl (fun all (k, v) => assign k v all) entries))
  | v :: _ => .error (.wrongType s!"'{v.typeName}' object is not iterable")

def functionNames : List String := ["range", "dict", "namespace", Host.openFunction]

/-- Calls a function that belongs to no value. -/
def callFunction (name : String) (given : Given) : Except Fault Value :=
  if name == "range" then callRange given
  else if name == "dict" then callDict given
  else if name == Host.importName then Host.importModule given
  else if name == Host.zoneName then Host.zoneOf given
  else .error (Host.unavailable name)

def notCallable (v : Value) : Fault := .wrongType s!"'{v.typeName}' object is not callable"

end DocumentServer.Template
