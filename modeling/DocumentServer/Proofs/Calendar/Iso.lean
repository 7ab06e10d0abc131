import DocumentServer.Calendar.Moment
import DocumentServer.Proofs.Calendar.Civil
import DocumentServer.Proofs.Text.Numeral
import Mathlib.Data.List.Basic
import Mathlib.Data.List.TakeWhile

/-!
Reading back what was written in ISO 8601 notation. Dates and times come back as they were, and so do
offsets from universal time of at least a second. An offset of less than a second is written with its
fraction, but its whole seconds alone decide whether it is read as an offset at all.
-/
namespace DocumentServer.Calendar

/-- An offset that is there, but less than a second. -/
def Offset.IsFaint (o : Offset) : Prop := o.micros ≠ 0 ∧ o.micros.natAbs < microsPerSecond

/-- The offset that is read where this one was written. -/
def Offset.readBack (o : Offset) : Offset := if o.micros.natAbs < microsPerSecond then .utc else o

theorem Offset.readBack_eq_iff (o : Offset) : o.readBack = o ↔ ¬o.IsFaint := by
  rcases o with ⟨micros, inside⟩
  have second : 0 < microsPerSecond := by decide
  dsimp only [readBack, IsFaint]
  split
  · next small =>
      simp only [utc, Offset.mk.injEq]
      omega
  · next large =>
      simp only [true_iff]
      omega

namespace Iso
open Text

/-! ## Octets -/

theorem encodeChar_ascii {c : Char} (ascii : c.toNat < 0x80) :
    (encodeChar c).map (fun b => Char.ofNat b.toNat) = [c] := by
  have octets : encodeChar c = String.utf8EncodeChar c := rfl
  have same : c.val.toNat = c.toNat := rfl
  have small : c.toNat ≤ 0x7f := by omega
  rw [octets, String.utf8EncodeChar, same]
  simp only [small, if_pos]
  have octet : (UInt8.ofNat c.toNat).toNat = c.toNat := by
    rw [UInt8.toNat_ofNat', Nat.mod_eq_of_lt (by omega)]
  exact congrArg (fun n => [n]) ((congrArg Char.ofNat octet).trans (Char.ofNat_toNat c))

/-- ASCII characters other than the null character. -/
def Ascii (s : List Char) : Prop := ∀ c ∈ s, 0 < c.toNat ∧ c.toNat < 0x80

/-- A text of ASCII characters has one octet for each of them. -/
theorem octetChars_ofList {s : List Char} (ascii : Ascii s) : octetChars (.ofList s) = s := by
  rw [octetChars, encodeUtf8, String.toList_ofList]
  induction s with
  | nil => rfl
  | cons c rest ih =>
      rw [List.flatMap_cons, List.map_append, encodeChar_ascii (ascii c List.mem_cons_self).2,
        ih fun d mem => ascii d (List.mem_cons_of_mem c mem)]
      rfl

/-- Such a text is not cut short. -/
theorem Ascii.takeWhile {s : List Char} (ascii : Ascii s) : s.takeWhile (· != '\x00') = s := by
  refine List.takeWhile_eq_self_iff.2 fun c member => bne_iff_ne.2 ?_
  rintro rfl
  exact absurd (ascii _ member).1 (by decide)

@[simp] theorem ascii_nil : Ascii [] := by simp [Ascii]

@[simp] theorem ascii_cons {c : Char} {s : List Char} : Ascii (c :: s) ↔ (0 < c.toNat ∧ c.toNat < 0x80) ∧ Ascii s :=
  List.forall_mem_cons

@[simp] theorem ascii_append {s t : List Char} : Ascii (s ++ t) ↔ Ascii s ∧ Ascii t :=
  List.forall_mem_append

theorem ascii_of_digits {ds : List Char} (digits : ∀ c ∈ ds, c.isDigit = true) : Ascii ds := by
  intro c mem
  have digit := digits c mem
  simp only [Char.isDigit, Bool.and_eq_true, decide_eq_true_eq] at digit
  have least : 48 ≤ c.val.toNat := digit.1
  have most : c.val.toNat ≤ 57 := digit.2
  exact ⟨Nat.lt_of_lt_of_le (by decide) least, Nat.lt_of_le_of_lt most (by decide)⟩

theorem digits_padded (width n : Nat) : ∀ c ∈ padded width n, c.isDigit = true :=
  all_isDigit_leftpad (all_isDigit_numeral n) width

@[simp] theorem ascii_padded (width n : Nat) : Ascii (padded width n) :=
  ascii_of_digits (digits_padded width n)

/-! ## What is written -/

/-- The microseconds behind the whole seconds, where there are any. -/
def fractionChars (n : Nat) : List Char := if n = 0 then [] else '.' :: padded 6 n

theorem clockText_eq (width n : Nat) :
    Duration.clockText width n = padded width (n / microsPerSecond / 3600) ++
      ':' :: (padded 2 (n / microsPerSecond / 60 % 60) ++
        ':' :: (padded 2 (n / microsPerSecond % 60) ++ fractionChars (n % microsPerSecond))) := by
  simp [Duration.clockText, fractionChars]

/-- An offset behind its sign: a clock reading that leaves its seconds out if there are none. -/
def offsetClock (n : Nat) : List Char :=
  if n / microsPerSecond % 60 = 0 ∧ n % microsPerSecond = 0 then
    padded 2 (n / microsPerSecond / 3600) ++ ':' :: padded 2 (n / microsPerSecond / 60 % 60)
  else Duration.clockText 2 n

theorem offsetText_eq (o : Offset) :
    o.text [':'] = (if o.micros < 0 then '-' else '+') :: offsetClock o.micros.natAbs := by
  by_cases whole : o.micros.natAbs / microsPerSecond % 60 = 0 ∧ o.micros.natAbs % microsPerSecond = 0
  · rw [offsetClock, if_pos whole]
    simp [Offset.text, whole]
  · rw [offsetClock, if_neg whole]
    simp [Offset.text, whole, clockText_eq, fractionChars]

theorem ascii_dateChars (c : Civil) : Ascii (dateChars c) := by
  simp [dateChars]

theorem ascii_fractionChars (n : Nat) : Ascii (fractionChars n) := by
  unfold fractionChars
  split <;> simp

theorem ascii_clockText (width n : Nat) : Ascii (Duration.clockText width n) := by
  simp [clockText_eq, ascii_fractionChars]

theorem ascii_offsetClock (n : Nat) : Ascii (offsetClock n) := by
  unfold offsetClock
  split
  · simp
  · exact ascii_clockText 2 n

theorem ascii_offset (o : Offset) : Ascii (o.text [':']) := by
  rw [offsetText_eq, ascii_cons]
  refine ⟨?_, ascii_offsetClock _⟩
  split <;> decide

/-- What stands behind the clock reading. -/
def zoneChars : Option Offset → List Char
  | none => []
  | some o => o.text [':']

theorem dateTimeChars_eq (t : DateTime) : dateTimeChars t =
    dateChars t.date.civil ++ 'T' :: (Duration.clockText 2 t.time.micros ++ zoneChars t.utcOffset) := by
  rw [dateTimeChars]
  cases t.utcOffset <;> simp [zoneChars]

theorem ascii_dateTimeChars (t : DateTime) : Ascii (dateTimeChars t) := by
  have zone : Ascii (zoneChars t.utcOffset) := by
    cases t.utcOffset with
    | none => exact ascii_nil
    | some o => exact ascii_offset o
  rw [dateTimeChars_eq, ascii_append, ascii_cons, ascii_append]
  exact ⟨ascii_dateChars _, by decide, ascii_clockText _ _, zone⟩

/-! ## Digits -/

theorem digits?_append {ds : List Char} (digits : ∀ c ∈ ds, c.isDigit = true) (rest : List Char) :
    digits? ds.length (ds ++ rest) = some (Nat.ofDigitChars 10 ds 0, rest) := by
  have all : ds.all Char.isDigit = true := List.all_eq_true.2 digits
  simp [digits?, all, ofDigitValues_map]

/-- A padded number is read back from its digits. -/
theorem digits?_padded {width n : Nat} (least : 0 < width) (fits : n < 10 ^ width)
    (rest : List Char) : digits? width (padded width n ++ rest) = some (n, rest) := by
  have read := digits?_append (digits_padded width n) rest
  rw [padded, length_leftpad_numeral least fits, ofDigitChars_leftpad,
    Nat.ofDigitChars_ten_toDigits] at read
  exact read

theorem length_padded {width n : Nat} (least : 0 < width) (fits : n < 10 ^ width) :
    (padded width n).length = width := length_leftpad_numeral least fits

theorem padded_two {n : Nat} (fits : n < 100) :
    ∃ a b, padded 2 n = [a, b] ∧ a.isDigit = true ∧ b.isDigit = true := by
  obtain ⟨a, b, two⟩ := List.length_eq_two.1 (length_padded (by decide : 0 < 2) fits)
  have digits := digits_padded 2 n
  rw [two] at digits
  exact ⟨a, b, two, digits a (by simp), digits b (by simp)⟩

theorem ne_of_isDigit {c d : Char} (digit : c.isDigit = true) (other : d.isDigit = false) : c ≠ d := by
  rintro rfl
  rw [digit] at other
  cases other

/-! ## Dates -/

/-- The fields of a date fit the widths that they are written with. -/
theorem civil_widths (d : Date) :
    d.civil.year.toNat < 10 ^ 4 ∧ d.civil.month < 100 ∧ d.civil.day < 100 := by
  have year := d.civil_year
  have month := d.civil_proper.month_le
  have day := d.civil_proper.day_le
  have most := monthLength_le d.civil.year d.civil.month
  exact ⟨by omega, by omega, by omega⟩

/-- The date stands at the beginning, whatever follows. -/
theorem dateWithin?_dateChars (d : Date) (rest : List Char) :
    dateWithin? 10 (dateChars d.civil ++ rest) = some d := by
  obtain ⟨year, month, day⟩ := civil_widths d
  have back : (d.civil.year.toNat : Int) = d.civil.year := by
    have := d.civil_year
    omega
  obtain ⟨a, b, two, digit, -⟩ := padded_two month
  have notWeek : a ≠ 'W' := ne_of_isDigit digit rfl
  have read : digits? 2 (a :: b :: '-' :: (padded 2 d.civil.day ++ rest)) =
      some (d.civil.month, '-' :: (padded 2 d.civil.day ++ rest)) := by
    have := digits?_padded (by decide : 0 < 2) month ('-' :: (padded 2 d.civil.day ++ rest))
    rwa [two] at this
  have lastRead := digits?_padded (by decide : 0 < 2) day rest
  rw [dateChars, two]
  simp [dateWithin?, digits?_padded (by decide : 0 < 4) year, notWeek, read, mark?, lastRead, back,
    d.ofCivil?_civil]

/-! ## Clock readings -/

/-- A clock reading with one more field in front. -/
def Clock.withField (n : Nat) (clock : Clock) : Clock := { clock with fields := n :: clock.fields }

variable {n : Nat}

/-- The last field, with what follows it out of reach. -/
theorem fields?_last (count : Nat) (separated? : Option Bool) (fits : n < 100) (rest : List Char) :
    fields? (count + 1) separated? (padded 2 n ++ rest) 2 =
      some { fields := [n], micro := 0, complete := front rest == '\x00' } := by
  simp [fields?, digits?_padded (by decide : 0 < 2) fits]

theorem fields?_colon (count : Nat) {separated? : Option Bool} (separates : separated? ≠ some false)
    (fits : n < 100) (rest : List Char) {limit : Nat} (more : 3 < limit) :
    fields? (count + 1) separated? (padded 2 n ++ ':' :: rest) limit =
      (fields? count (some true) rest (limit - 3)).map (Clock.withField n) := by
  have colons : separated?.getD true = true := by
    rcases separated? with _ | _ | _
    · rfl
    · exact absurd rfl separates
    · rfl
  rw [fields?, digits?_padded (by decide : 0 < 2) fits]
  simp [front, colons, Nat.not_le.2 more]
  cases fields? count (some true) rest (limit - 3) <;> rfl

theorem fields?_point (count : Nat) (separated? : Option Bool) (fits : n < 100) (rest : List Char)
    {limit : Nat} (more : 3 < limit) :
    fields? (count + 1) separated? (padded 2 n ++ '.' :: rest) limit =
      (fraction? rest (limit - 3)).map (Clock.withField n) := by
  rw [fields?, digits?_padded (by decide : 0 < 2) fits]
  simp [front, Nat.not_le.2 more]
  cases fraction? rest (limit - 3) <;> rfl

theorem fraction?_padded (fits : n < 10 ^ 6) {rest : List Char} (ends : (front rest).isDigit = false) :
    fraction? (padded 6 n ++ rest) 6 =
      some { fields := [], micro := n, complete := front rest == '\x00' } := by
  have passed : rest.dropWhile Char.isDigit = rest := by
    cases rest with
    | nil => rfl
    | cons c tail => exact List.dropWhile_cons_of_neg (by simpa [front] using ends)
  simp [fraction?, digits?_padded (by decide : 0 < 6) fits, passed]

/-- Hours and minutes with a colon between them, as an offset of whole minutes has them. -/
theorem clock?_minutes {hour minute : Nat} (hours : hour < 100) (minutes : minute < 100) :
    clock? (padded 2 hour ++ ':' :: padded 2 minute) 5 =
      some { fields := [hour, minute], micro := 0, complete := true } := by
  have last := fields?_last 1 (some true) minutes []
  rw [List.append_nil] at last
  rw [clock?, fields?_colon 2 (by decide) hours _ (by decide), last]
  rfl

/-- A clock reading is read back, if it ends where the limit says. -/
theorem clock?_clockText (hours : n / microsPerSecond / 3600 < 100) {rest : List Char}
    (ends : (front rest).isDigit = false) :
    clock? (Duration.clockText 2 n ++ rest) (Duration.clockText 2 n).length =
      some { fields := [n / microsPerSecond / 3600, n / microsPerSecond / 60 % 60,
               n / microsPerSecond % 60],
             micro := n % microsPerSecond, complete := front rest == '\x00' } := by
  have minutes : n / microsPerSecond / 60 % 60 < 100 := by omega
  have seconds : n / microsPerSecond % 60 < 100 := by omega
  have micros : n % microsPerSecond < 10 ^ 6 := Nat.mod_lt _ (by decide)
  rw [clockText_eq, clock?]
  simp only [List.append_assoc, List.cons_append, List.length_append, List.length_cons,
    length_padded (by decide : 0 < 2) hours, length_padded (by decide : 0 < 2) minutes,
    length_padded (by decide : 0 < 2) seconds]
  by_cases whole : n % microsPerSecond = 0
  · simp only [fractionChars, if_pos whole, List.nil_append, List.length_nil]
    rw [fields?_colon 2 (by decide) hours _ (by decide),
      fields?_colon 1 (by decide) minutes _ (by decide), fields?_last 0 _ seconds, whole]
    rfl
  · simp only [fractionChars, if_neg whole, List.cons_append, List.length_cons,
      length_padded (by decide : 0 < 6) micros]
    rw [fields?_colon 2 (by decide) hours _ (by decide),
      fields?_colon 1 (by decide) minutes _ (by decide), fields?_point 0 _ seconds _ (by decide),
      fraction?_padded micros ends]
    rfl

/-! ## Offsets -/

/-- The clock reading of an offset has the whole seconds and the microseconds beyond them. -/
theorem clock?_offsetClock (inside : n < microsPerDay) :
    ∃ c, clock? (offsetClock n) (offsetClock n).length = some c ∧ c.complete = true ∧
      c.seconds = n / microsPerSecond ∧ c.micro = n % microsPerSecond := by
  have hours : n / microsPerSecond / 3600 < 100 := by
    unfold microsPerDay at inside
    unfold microsPerSecond at *
    omega
  have sum : (n / microsPerSecond / 3600 * 60 + n / microsPerSecond / 60 % 60) * 60 +
      n / microsPerSecond % 60 = n / microsPerSecond := by omega
  by_cases whole : n / microsPerSecond % 60 = 0 ∧ n % microsPerSecond = 0
  · have minutes : n / microsPerSecond / 60 % 60 < 100 := by omega
    have length : (offsetClock n).length = 5 := by
      have two := length_padded (by decide : 0 < 2) hours
      have more := length_padded (by decide : 0 < 2) minutes
      simp [offsetClock, whole, two, more]
    rw [length, offsetClock, if_pos whole]
    refine ⟨_, clock?_minutes hours minutes, rfl, ?_, whole.2.symm⟩
    rw [whole.1] at sum
    exact sum
  · have ends : (front []).isDigit = false := rfl
    have read := clock?_clockText hours ends
    rw [List.append_nil] at read
    rw [offsetClock, if_neg whole]
    exact ⟨_, read, rfl, sum, rfl⟩

theorem offset?_offsetClock (o : Offset) :
    offset? (o.micros < 0) (offsetClock o.micros.natAbs) = some o.readBack := by
  obtain ⟨c, read, complete, seconds, micro⟩ := clock?_offsetClock o.inside
  have unfolded : offset? (o.micros < 0) (offsetClock o.micros.natAbs) =
      if c.seconds = 0 then some .utc
      else Offset.ofMicros? (if o.micros < 0 then -(c.seconds * microsPerSecond + c.micro : Int)
        else c.seconds * microsPerSecond + c.micro) := by
    simp only [offset?, read, complete, Option.bind_eq_bind, Option.bind_some, Bool.not_true,
      Bool.false_eq_true, if_false, beq_iff_eq, decide_eq_true_eq]
  rw [unfolded, Offset.readBack]
  by_cases faint : o.micros.natAbs < microsPerSecond
  · rw [if_pos faint, if_pos (by rw [seconds, Nat.div_eq_of_lt faint])]
  · have whole : c.seconds ≠ 0 := by
      rw [seconds]
      exact Nat.ne_of_gt (Nat.div_pos (Nat.not_lt.1 faint) (by decide))
    have sum : (if o.micros < 0 then -(c.seconds * microsPerSecond + c.micro : Int)
        else c.seconds * microsPerSecond + c.micro) = o.micros := by
      have parts := Nat.div_add_mod' o.micros.natAbs microsPerSecond
      rw [← seconds, ← micro] at parts
      split <;> omega
    rw [if_neg faint, if_neg whole, sum]
    exact dif_pos o.inside

/-! ## Dates with a time -/

theorem not_zoneMark_of_isDigit {c : Char} (digit : c.isDigit = true) : isZoneMark c = false := by
  have plus := ne_of_isDigit digit (show '+'.isDigit = false from rfl)
  have minus := ne_of_isDigit digit (show '-'.isDigit = false from rfl)
  have zulu := ne_of_isDigit digit (show 'Z'.isDigit = false from rfl)
  simp [isZoneMark, plus, minus, zulu]

/-- A clock reading goes on up to the mark of the zone. -/
theorem not_zoneMark_clockText (width n : Nat) :
    ∀ c ∈ Duration.clockText width n, isZoneMark c = false := by
  have digits : ∀ w k, ∀ c ∈ padded w k, isZoneMark c = false :=
    fun w k c mem => not_zoneMark_of_isDigit (digits_padded w k c mem)
  have fraction : ∀ k, ∀ c ∈ fractionChars k, isZoneMark c = false := by
    intro k
    unfold fractionChars
    split
    · exact List.forall_mem_nil _
    · exact List.forall_mem_cons.2 ⟨rfl, digits 6 k⟩
  rw [clockText_eq]
  simp only [List.forall_mem_append, List.forall_mem_cons]
  exact ⟨digits _ _, rfl, digits _ _, rfl, digits _ _, fraction _⟩

theorem timeOfDay?_parts (t : TimeOfDay) (complete : Bool) :
    ({ fields := [t.micros / microsPerSecond / 3600, t.micros / microsPerSecond / 60 % 60,
         t.micros / microsPerSecond % 60],
       micro := t.micros % microsPerSecond, complete } : Clock).timeOfDay? = some t := by
  have inside := t.lt_day
  have sum : ((t.micros / microsPerSecond / 3600 * 60 + t.micros / microsPerSecond / 60 % 60) * 60 +
      t.micros / microsPerSecond % 60) * microsPerSecond + t.micros % microsPerSecond = t.micros := by
    have parts := Nat.div_add_mod' t.micros microsPerSecond
    generalize t.micros / microsPerSecond = seconds at parts ⊢
    have whole : (seconds / 3600 * 60 + seconds / 60 % 60) * 60 + seconds % 60 = seconds := by omega
    rw [whole, parts]
  have hour : t.micros / microsPerSecond / 3600 < 24 := by
    unfold microsPerDay at inside
    unfold microsPerSecond at *
    omega
  have minute : t.micros / microsPerSecond / 60 % 60 < 60 := Nat.mod_lt _ (by decide)
  have second : t.micros / microsPerSecond % 60 < 60 := Nat.mod_lt _ (by decide)
  have micro : t.micros % microsPerSecond < microsPerSecond := Nat.mod_lt _ (by decide)
  have made : TimeOfDay.ofMicros? t.micros = some t := dif_pos inside
  show TimeOfDay.ofFields? _ _ _ _ = _
  simp only [TimeOfDay.ofFields?, List.getD_cons_zero, List.getD_cons_succ, hour, minute, second, micro,
    decide_true, Bool.and_true, if_true, sum, made]

theorem front_zoneChars (zone : Option Offset) : (front (zoneChars zone)).isDigit = false := by
  cases zone with
  | none => rfl
  | some o =>
      rw [zoneChars, offsetText_eq]
      split <;> rfl

/-- The clock ends where the mark of the zone stands. -/
theorem takeWhile_clock_zone (micros : Nat) (zone : Option Offset) :
    (Duration.clockText 2 micros ++ zoneChars zone).takeWhile (!isZoneMark ·) =
      Duration.clockText 2 micros := by
  rw [List.takeWhile_append_of_pos fun c mem => by simp [not_zoneMark_clockText _ _ c mem]]
  cases zone with
  | none => exact List.append_nil _
  | some o =>
      rw [zoneChars, offsetText_eq]
      split <;> exact List.append_nil _

theorem time?_zone (t : TimeOfDay) (zone : Option Offset) :
    time? (Duration.clockText 2 t.micros ++ zoneChars zone) = some (t, zone.map Offset.readBack) := by
  have hours : t.micros / microsPerSecond / 3600 < 100 := by
    have inside := t.lt_day
    unfold microsPerDay at inside
    unfold microsPerSecond at *
    omega
  have read := clock?_clockText hours (front_zoneChars zone)
  rw [time?, takeWhile_clock_zone, read]
  simp only [Option.bind_eq_bind, Option.bind_some, List.drop_left, timeOfDay?_parts]
  cases zone with
  | none => rfl
  | some o =>
      have offset := offset?_offsetClock o
      rw [zoneChars, offsetText_eq]
      by_cases negative : o.micros < 0
      · rw [if_pos negative]
        rw [decide_eq_true negative] at offset
        simp [offset]
      · rw [if_neg negative]
        rw [decide_eq_false negative] at offset
        simp [offset]

theorem length_dateChars (d : Date) : (dateChars d.civil).length = 10 := by
  obtain ⟨year, month, day⟩ := civil_widths d
  simp [dateChars, length_padded (by decide : 0 < 4) year, length_padded (by decide : 0 < 2) month,
    length_padded (by decide : 0 < 2) day]

/-- Behind an extended date stands the separator. -/
theorem separatorPosition?_dateChars (d : Date) (rest : List Char) :
    separatorPosition? (dateChars d.civil ++ rest) = some 10 := by
  obtain ⟨year, month, -⟩ := civil_widths d
  obtain ⟨a, b, two, digit, -⟩ := padded_two month
  have notWeek : a ≠ 'W' := ne_of_isDigit digit rfl
  have four := length_padded (by decide : 0 < 4) year
  have long : ((dateChars d.civil ++ rest).length == 7) = false := by
    rw [List.length_append, length_dateChars, beq_eq_false_iff_ne]
    omega
  have hyphen : (dateChars d.civil ++ rest).getD 4 '\x00' = '-' := by
    simp [dateChars, List.getD_eq_getElem?_getD, four]
  have month : (dateChars d.civil ++ rest).getD 5 '\x00' = a := by
    simp [dateChars, List.getD_eq_getElem?_getD, List.getElem?_append_right, four, two]
  simp only [separatorPosition?, long, hyphen, month, notWeek, beq_iff_eq, beq_self_eq_true, if_true,
    if_false, Bool.false_eq_true]

theorem readDate?_date (d : Date) : readDate? (date d) = some d := by
  have read := dateWithin?_dateChars d []
  rw [List.append_nil] at read
  simp [readDate?, date, octetChars_ofList (ascii_dateChars _), length_dateChars, read]

theorem octetChars_dateTime (t : DateTime) : octetChars (dateTime t) =
    dateChars t.date.civil ++ 'T' :: (Duration.clockText 2 t.time.micros ++ zoneChars t.utcOffset) := by
  rw [dateTime, octetChars_ofList (ascii_dateTimeChars t), dateTimeChars_eq]

/-- A time is too long to be read as a date. -/
theorem readDate?_dateTime (t : DateTime) : readDate? (dateTime t) = none := by
  have long : 10 < (octetChars (dateTime t)).length := by
    rw [octetChars_dateTime, List.length_append, length_dateChars, List.length_cons]
    omega
  have seven : ((octetChars (dateTime t)).length == 7) = false := beq_false_of_ne (by omega)
  have eight : ((octetChars (dateTime t)).length == 8) = false := beq_false_of_ne (by omega)
  have ten : ((octetChars (dateTime t)).length == 10) = false := beq_false_of_ne (by omega)
  simp [readDate?, seven, eight, ten]

/-- A time is read back with its date, its time of day and its offset, unless that is faint. -/
theorem readDateTime?_dateTime (t : DateTime) : readDateTime? (dateTime t) =
    some { t with offset := t.utcOffset.map fun o => .ofOffset o.readBack } := by
  have behind : (dateChars t.date.civil ++
      'T' :: (Duration.clockText 2 t.time.micros ++ zoneChars t.utcOffset)).drop 10 =
      'T' :: (Duration.clockText 2 t.time.micros ++ zoneChars t.utcOffset) := by
    rw [← length_dateChars t.date, List.drop_left]
  have one : octetsOfChar 'T' - 1 = 0 := by decide
  simp only [readDateTime?, octetChars_dateTime, separatorPosition?_dateChars, dateWithin?_dateChars,
    behind, one, List.drop_zero, time?_zone, Option.bind_eq_bind, Option.bind_some, Option.map_map]
  rfl

/-! ## What is read -/

theorem micros_of_ofMicros? {m : Int} {o : Offset} (made : Offset.ofMicros? m = some o) :
    o.micros = m := by
  unfold Offset.ofMicros? at made
  split at made
  · cases made
    rfl
  · cases made

/-- An offset that is read has a whole second, or is none at all. -/
theorem not_faint_of_offset? {negative : Bool} {s : List Char} {o : Offset}
    (read : offset? negative s = some o) : ¬o.IsFaint := by
  simp only [offset?, Option.bind_eq_bind, Option.bind_eq_some_iff] at read
  obtain ⟨c, -, read⟩ := read
  split at read
  · cases read
  split at read
  · cases read
    exact fun faint => faint.1 rfl
  · next seconds =>
      have micros := micros_of_ofMicros? read
      rw [beq_iff_eq] at seconds
      rintro ⟨-, small⟩
      unfold microsPerSecond at micros small
      split at micros <;> omega

theorem not_faint_of_time? {s : List Char} {time : TimeOfDay} {zone : Option Offset}
    (read : time? s = some (time, zone)) : ∀ o, zone = some o → ¬o.IsFaint := by
  rintro o rfl
  simp only [time?, Option.bind_eq_bind, Option.bind_eq_some_iff] at read
  obtain ⟨c, -, read⟩ := read
  split at read
  · split at read
    · obtain ⟨zone, made, t, -, same⟩ := by simpa only [Option.bind_eq_some_iff] using read
      cases made
      cases same
    · cases read
  · split at read
    · obtain ⟨zone, made, t, -, same⟩ := by simpa only [Option.bind_eq_some_iff] using read
      cases made
      cases same
      exact fun faint => faint.1 rfl
    · cases read
  · obtain ⟨zone, made, t, -, same⟩ := by simpa only [Option.bind_eq_some_iff] using read
    cases same
    obtain ⟨o, read, same⟩ := Option.map_eq_some_iff.1 made
    cases same
    exact not_faint_of_offset? read

/-- A time that is read has an offset alone, which is not faint. -/
theorem zone_of_readDateTime? {s : String} {t : DateTime} (read : readDateTime? s = some t) :
    ∃ zone : Option Offset, t.offset = zone.map Zone.ofOffset ∧ ∀ o, zone = some o → ¬o.IsFaint := by
  simp only [readDateTime?, Option.bind_eq_bind, Option.bind_eq_some_iff] at read
  obtain ⟨position, -, date, -, read⟩ := read
  split at read
  · cases read
    exact ⟨none, rfl, by rintro o ⟨⟩⟩
  · obtain ⟨⟨time, zone⟩, within, same⟩ := Option.bind_eq_some_iff.1 read
    cases same
    exact ⟨zone, rfl, not_faint_of_time? within⟩

end Iso

namespace DateTime

/-- The same time with its offset alone: fixed, and without a name of its own. -/
def bare (t : DateTime) : DateTime := { t with offset := t.utcOffset.map .ofOffset }

@[simp] theorem date_bare (t : DateTime) : t.bare.date = t.date := rfl

@[simp] theorem time_bare (t : DateTime) : t.bare.time = t.time := rfl

@[simp] theorem utcOffset_bare (t : DateTime) : t.bare.utcOffset = t.utcOffset := by
  rw [utcOffset, bare]
  cases t.utcOffset <;> rfl

@[simp] theorem zoneName_bare (t : DateTime) :
    t.bare.zoneName = (t.utcOffset.map Offset.name).getD [] := by
  rw [zoneName, bare, Option.map_map]
  rfl

theorem bare_of_offset {t : DateTime} {zone : Option Offset} (plain : t.offset = zone.map .ofOffset) :
    t.bare = t := by
  rcases t with ⟨date, time, offset⟩
  cases plain
  cases zone <;> rfl

end DateTime

/-- The moment with its offset alone. -/
def Moment.bare : Moment → Moment
  | .date d => .date d
  | .dateTime t => .dateTime t.bare

/-- The moment that is read where this one was written. -/
def Moment.readBack : Moment → Moment
  | .date d => .date d
  | .dateTime t => .dateTime { t with offset := t.utcOffset.map fun o => .ofOffset o.readBack }

/-- A moment with an offset of less than a second. -/
def Moment.HasFaintOffset (m : Moment) : Prop :=
  ∃ t o, m = .dateTime t ∧ t.utcOffset = some o ∧ o.IsFaint

theorem Moment.read?_iso (m : Moment) : read? m.iso = some m.readBack := by
  cases m with
  | date d => rw [read?, iso, Iso.readDate?_date]; rfl
  | dateTime t => rw [read?, iso, Iso.readDate?_dateTime, Iso.readDateTime?_dateTime]; rfl

theorem Moment.readBack_eq_iff (m : Moment) : m.readBack = m.bare ↔ ¬m.HasFaintOffset := by
  cases m with
  | date d => simp [readBack, bare, HasFaintOffset]
  | dateTime t =>
      cases here : t.utcOffset with
      | none => simp [readBack, bare, DateTime.bare, HasFaintOffset, here]
      | some o =>
          simp [readBack, bare, DateTime.bare, HasFaintOffset, here, Zone.ofOffset,
            Offset.readBack_eq_iff]

end DocumentServer.Calendar
