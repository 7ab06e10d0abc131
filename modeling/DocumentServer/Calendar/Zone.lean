import DocumentServer.Calendar.Duration

/-!
Offsets from universal time, and the zones that tell them. A zone has one offset for good, with or
without a name of its own, or it is a region that has changed its offset at times.
-/
namespace DocumentServer.Calendar

/-- A distance from universal time in microseconds, of less than a day either way. -/
structure Offset where
  micros : Int
  inside : micros.natAbs < microsPerDay
  deriving DecidableEq

namespace Offset

def utc : Offset := ⟨0, by decide⟩

def ofMicros? (n : Int) : Option Offset :=
  if h : n.natAbs < microsPerDay then some ⟨n, h⟩ else none

/-- The sign, hours and minutes, with the seconds and microseconds where there are any. -/
def text (mark : List Char) (o : Offset) : List Char :=
  let n := o.micros.natAbs
  let seconds := n / microsPerSecond
  let fraction := n % microsPerSecond
  (if o.micros < 0 then '-' else '+') :: padded 2 (seconds / 3600) ++ mark
    ++ padded 2 (seconds / 60 % 60)
    ++ (if seconds % 60 == 0 && fraction == 0 then [] else mark ++ padded 2 (seconds % 60))
    ++ if fraction == 0 then [] else '.' :: padded 6 fraction

/-- The name of an offset that has none of its own. -/
def name (o : Offset) : List Char :=
  ['U', 'T', 'C'] ++ if o.micros == 0 then [] else o.text [':']

end Offset

/-- What holds in a region for a time. -/
structure ZoneRule where
  offset : Offset
  name : String
  deriving DecidableEq

inductive Zone where
  /-- One offset, with its own name if it has one. -/
  | fixed (offset : Offset) (label : Option String)
  /-- A region by its key: what held at first, and what holds from the local times on at which that
  changed, given in microseconds from the beginning of day 0. -/
  | region (key : String) (first : ZoneRule) (changes : List (Int × ZoneRule))
  deriving DecidableEq

namespace Zone

def ofOffset (offset : Offset) : Zone := .fixed offset none

def utc : Zone := ofOffset .utc

/-- What holds in a region at a local time: the last change up to it counts. -/
def ruleAt (first : ZoneRule) (changes : List (Int × ZoneRule)) (micros : Int) : ZoneRule :=
  changes.foldl (fun rule change => if change.1 ≤ micros then change.2 else rule) first

def offsetAt (z : Zone) (micros : Int) : Offset :=
  match z with
  | fixed offset _ => offset
  | region _ first changes => (ruleAt first changes micros).offset

def nameAt (z : Zone) (micros : Int) : List Char :=
  match z with
  | fixed offset none => offset.name
  | fixed _ (some label) => label.toList
  | region _ first changes => (ruleAt first changes micros).name.toList

/-- Whether two zones count as equal: by the offset if it is for good, and else by the key. -/
def same : Zone → Zone → Bool
  | fixed o _, fixed p _ => o == p
  | region key _ _, region other _ _ => key == other
  | _, _ => false

/-- Kathmandu: the local mean time, from 1920 on five hours and a half ahead, and from 1986 on a quarter of
an hour more. The clock was put forward for that. -/
def kathmandu : Zone :=
  .region "Asia/Kathmandu" ⟨⟨20476000000, by decide⟩, "LMT"⟩
    [(700900 * microsPerDay, ⟨⟨19800000000, by decide⟩, "+0530"⟩),
      (725007 * microsPerDay + 900000000, ⟨⟨20700000000, by decide⟩, "+0545"⟩)]

end Zone
end DocumentServer.Calendar
