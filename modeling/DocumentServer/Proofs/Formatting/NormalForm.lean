import DocumentServer.Formatting.Dates
import DocumentServer.Proofs.Calendar.Clock
import DocumentServer.Proofs.Calendar.Iso
import DocumentServer.Proofs.Formatting.Formats

/-!
ISO text as the normal form of dates and times. Text that was written under the key `iso` is read back as
the same moment with its offset alone, and every other format gives the same for both. There are two
exceptions: an offset of less than a second is written but not read, and the name of a zone, where it is
not that of its offset, is not written.
-/
namespace DocumentServer
open Calendar

namespace Calendar

/-! ## Texts of faint offsets -/

/-- A faint offset is written with its fraction, and universal time without one. -/
theorem Offset.text_readBack_ne {o : Offset} (faint : o.IsFaint) : o.readBack.text [':'] ≠ o.text [':'] := by
  have utc : o.readBack.text [':'] = ['+', '0', '0', ':', '0', '0'] := by
    rw [readBack, if_pos faint.2]
    decide
  have fraction : o.micros.natAbs % microsPerSecond ≠ 0 := by
    have some := faint.1
    rw [Nat.mod_eq_of_lt faint.2]
    omega
  have point : '.' ∈ o.text [':'] := by
    have clock : Iso.offsetClock o.micros.natAbs = Duration.clockText 2 o.micros.natAbs :=
      if_neg fun whole => fraction whole.2
    rw [Iso.offsetText_eq, clock, Iso.clockText_eq, Iso.fractionChars, if_neg fraction]
    simp
  intro same
  rw [utc] at same
  rw [← same] at point
  exact absurd point (by decide)

theorem Moment.iso_readBack_ne {m : Moment} (faint : m.HasFaintOffset) : m.readBack.iso ≠ m.iso := by
  obtain ⟨t, o, rfl, offset, faint⟩ := faint
  intro same
  have chars := String.ofList_injective same
  rw [Iso.dateTimeChars_eq, Iso.dateTimeChars_eq, offset] at chars
  have behind := List.append_cancel_left chars
  rw [List.cons.injEq] at behind
  exact Offset.text_readBack_ne faint (List.append_cancel_left behind.2)

/-- Taking a time as universal time where it has no offset does not make its offset faint. -/
theorem DateTime.faint_withOffset (t : DateTime) :
    (Moment.dateTime t.withOffset).HasFaintOffset ↔ (Moment.dateTime t).HasFaintOffset := by
  have utc : ¬Offset.utc.IsFaint := fun faint => faint.1 rfl
  rcases t with ⟨date, time, _ | zone⟩
  · simp [Moment.HasFaintOffset, withOffset, utcOffset, Zone.utc, Zone.ofOffset, Zone.offsetAt, utc]
  · rfl

/-! ## Names of zones -/

namespace DateTime

/-- Its zone has another name than its offset alone would have. -/
def HasOwnName (t : DateTime) : Prop := t.zoneName ≠ t.bare.zoneName

/-- Universal time has no other name. -/
theorem hasOwnName_withOffset (t : DateTime) : t.withOffset.HasOwnName ↔ t.HasOwnName := by
  rcases t with ⟨date, time, _ | zone⟩
  · exact ⟨fun named => absurd rfl named, fun named => absurd rfl named⟩
  · rfl

/-- Two times of which every pattern shows the same. -/
structure Alike (t u : DateTime) : Prop where
  date : t.date = u.date
  time : t.time = u.time
  utcOffset : t.utcOffset = u.utcOffset
  zoneName : t.zoneName = u.zoneName

variable {t u : DateTime}

theorem alike_bare (plain : ¬t.HasOwnName) : t.bare.Alike t :=
  ⟨rfl, rfl, t.utcOffset_bare, (not_not.1 plain).symm⟩

theorem Alike.expand (alike : t.Alike u) (pattern : List Char) :
    Pattern.expand t pattern = Pattern.expand u pattern := by
  have directive : ∀ letter, Pattern.directive? t letter = Pattern.directive? u letter := by
    intro letter
    simp only [Pattern.directive?, alike.date, alike.time, alike.utcOffset, alike.zoneName]
  fun_induction Pattern.expand t pattern with
  | case1 => rfl
  | case2 letter rest ih => rw [Pattern.expand, ih, directive]
  | case3 c rest other ih => rw [Pattern.expand, ih]; exact other

theorem Alike.format (alike : t.Alike u) (pattern : String) :
    Pattern.format t pattern = Pattern.format u pattern := by
  rw [Pattern.format, Pattern.format, alike.expand]

theorem Alike.mail (alike : t.Alike u) : Pattern.mail t = Pattern.mail u := by
  simp only [Pattern.mail, alike.date, alike.time, alike.utcOffset]

theorem Alike.iso (alike : t.Alike u) : Iso.dateTime t = Iso.dateTime u := by
  simp only [Iso.dateTime, Iso.dateTimeChars, alike.date, alike.time, alike.utcOffset]

theorem Alike.epochMicros (alike : t.Alike u) : t.epochMicros = u.epochMicros := by
  simp only [DateTime.epochMicros, instant, localMicros, alike.date, alike.time, alike.utcOffset]

theorem format_zone (t : DateTime) :
    Pattern.format t "%Z" = .ofList (t.zoneName.takeWhile (· != '\x00')) := by
  simp [Pattern.format, Pattern.expand, Pattern.directive?]

theorem format_zone_point (t : DateTime) :
    Pattern.format t "%Z." = .ofList ((t.zoneName ++ ['.']).takeWhile (· != '\x00')) := by
  simp [Pattern.format, Pattern.expand, Pattern.directive?]

/-- The name that follows from an offset has no null character. -/
theorem ascii_zoneName_bare (t : DateTime) : Iso.Ascii t.bare.zoneName := by
  rw [zoneName_bare]
  cases t.utcOffset with
  | none => exact Iso.ascii_nil
  | some o =>
      show Iso.Ascii o.name
      rw [Offset.name, Iso.ascii_append]
      refine ⟨by simp, ?_⟩
      split
      · exact Iso.ascii_nil
      · exact Iso.ascii_offset o

/-- Whether a zone has a name of its own shows in one of two patterns: in its name alone, or, where a
null character ends the name, in what is not written behind it. -/
theorem not_hasOwnName_of_format (alone : Pattern.format t "%Z" = Pattern.format t.bare "%Z")
    (pointed : Pattern.format t "%Z." = Pattern.format t.bare "%Z.") : ¬t.HasOwnName := by
  have bare := t.ascii_zoneName_bare
  have point : Iso.Ascii (t.bare.zoneName ++ ['.']) := Iso.ascii_append.2 ⟨bare, by simp⟩
  rw [format_zone, format_zone] at alone
  rw [format_zone_point, format_zone_point] at pointed
  have name := String.ofList_injective alone
  have behind := String.ofList_injective pointed
  rw [bare.takeWhile] at name
  rw [point.takeWhile] at behind
  rw [HasOwnName, not_not]
  by_cases shown : ∀ c ∈ t.zoneName, (c != '\x00') = true
  · rw [← name, List.takeWhile_eq_self_iff.2 shown]
  · -- nothing is written behind the null character, so the point is missing
    have cut : (t.zoneName.takeWhile (· != '\x00')).length ≠ t.zoneName.length := by
      intro length
      have same := (List.takeWhile_prefix (· != '\x00')).eq_of_length length
      exact shown (List.takeWhile_eq_self_iff.1 same)
    rw [List.takeWhile_append, if_neg cut, name] at behind
    simp at behind

/-- A time whose offset is no more than that shows all of it. -/
theorem plain_of_offset {zone : Option Offset} (plain : t.offset = zone.map .ofOffset)
    (lasting : ∀ o, zone = some o → ¬o.IsFaint) :
    ¬(Moment.dateTime t).HasFaintOffset ∧ ¬t.HasOwnName := by
  have same := bare_of_offset plain
  constructor
  · rintro ⟨_, o, ⟨⟩, offset, faint⟩
    rw [← utcOffset_bare, utcOffset, bare] at offset
    rcases t with ⟨date, time, _⟩
    cases plain
    cases zone with
    | none => cases offset
    | some other =>
        cases offset
        exact lasting other rfl faint
  · rw [HasOwnName, same, not_not]

end DateTime

/-- A moment whose zone has another name than its offset alone would have. -/
def Moment.HasOwnName (m : Moment) : Prop := ∃ t, m = .dateTime t ∧ t.HasOwnName

theorem Moment.hasOwnName_dateTime {t : DateTime} : (Moment.dateTime t).HasOwnName ↔ t.HasOwnName :=
  ⟨fun ⟨_, same, named⟩ => Moment.dateTime.inj same ▸ named, fun named => ⟨t, rfl, named⟩⟩

/-- A moment as it is read has neither a faint offset nor a name of its own. -/
theorem Moment.plain_of_read? {text : String} {m : Moment} (read : Moment.read? text = some m) :
    ¬m.HasFaintOffset ∧ ¬m.HasOwnName := by
  unfold Moment.read? at read
  split at read
  · cases read
    exact ⟨by rintro ⟨_, _, ⟨⟩, _⟩, by rintro ⟨_, ⟨⟩, _⟩⟩
  · obtain ⟨t, within, rfl⟩ := Option.map_eq_some_iff.1 read
    obtain ⟨zone, offset, lasting⟩ := Iso.zone_of_readDateTime? within
    rw [hasOwnName_dateTime]
    exact DateTime.plain_of_offset offset lasting

end Calendar

namespace Formatting

/-! ## Named formats -/

theorem definition_iso_dateFormats : definition "date" dateFormats (.text "iso") = .ok (.text "ISO") :=
  definition_named "date" rfl

theorem definition_iso_timestampFormats :
    definition "timestamp" timestampFormats (.text "iso") = .ok (.text "ISO") :=
  definition_named "timestamp" rfl

variable {v w : Value} {m : Moment} {t u : DateTime} {inner : Formats}

/-! ## Dates -/

theorem momentOf_text (s : String) : momentOf (.text s) = match Moment.read? s with
    | some m => .ok m
    | none => .error ⟨.filterValue, s!"'{s}' is not an ISO date"⟩ := rfl

/-- What is written for a date is what every pattern shows of the moment that the value denotes. -/
theorem formatDate_congr {n : Moment} (hv : momentOf v = .ok m) (hw : momentOf w = .ok n)
    (iso : m.iso = n.iso) (format : ∀ pattern, m.format pattern = n.format pattern)
    (formats : Formats) (key : Value) : formatDate formats v key = formatDate formats w key := by
  simp only [formatDate, hv, hw, ok_bind, iso, format]

theorem formatDate_iso (default : definition "date" inner (.text "iso") = .ok (.text "ISO"))
    (reads : momentOf v = .ok m) : formatDate inner v (.text "iso") = .ok m.iso := by
  rw [formatDate, reads, ok_bind, default, ok_bind]
  rfl

theorem momentOf_iso (m : Moment) : momentOf (.text m.iso) = .ok m.readBack := by
  rw [momentOf_text, m.read?_iso]

/-- What is read from text is neither faint nor named, so that a moment that is has been given. -/
theorem eq_momentValue_of_lost (reads : momentOf v = .ok m)
    (lost : m.HasFaintOffset ∨ m.HasOwnName) : v = momentValue m := by
  unfold momentOf at reads
  split at reads
  · cases reads
    rfl
  · cases reads
    rfl
  · split at reads
    · split at reads
      · next read =>
          cases reads
          have plain := Moment.plain_of_read? read
          exact absurd lost (not_or.2 plain)
      · cases reads
    · cases reads

/-! ## Timestamps -/

theorem timeOf_text (s : String) : timeOf (.text s) = match Iso.readDateTime? s with
    | some t => .ok t
    | none => .error ⟨.filterValue, s!"'{s}' is not an ISO timestamp"⟩ := by
  unfold timeOf
  simp only [toDouble, Value.int?, Value.text?, ok_bind]
  cases Iso.readDateTime? s <;> rfl

/-- What is written for a timestamp is what every pattern shows of the time that the value denotes,
taken as universal time where it has no offset. -/
theorem formatTimestamp_congr (hv : timeOf v = .ok t) (hw : timeOf w = .ok u)
    (alike : t.withOffset.Alike u.withOffset) (formats : Formats) (key : Value) :
    formatTimestamp formats v key = formatTimestamp formats w key := by
  simp only [formatTimestamp, hv, hw, ok_bind, alike.iso, alike.mail, alike.format, unixSeconds,
    alike.epochMicros]

theorem formatTimestamp_iso (default : definition "timestamp" inner (.text "iso") = .ok (.text "ISO"))
    (reads : timeOf v = .ok t) :
    formatTimestamp inner v (.text "iso") = .ok (Iso.dateTime t.withOffset) := by
  rw [formatTimestamp, reads, ok_bind, default, ok_bind]
  rfl

/-- A time that is given as a number is a number of microseconds in universal time. -/
theorem made_of_timeOfSeconds {x : Double} (made : timeOfSeconds x = .ok t) :
    ∃ micros, DateTime.ofLocalMicros? micros (some .utc) = some t := by
  unfold timeOfSeconds at made
  dsimp only at made
  split at made
  · cases made
  split at made
  · split at made
    · cases made
    split at made
    · cases made
    split at made
    · next found =>
        cases made
        exact ⟨_, found⟩
    · cases made
  · cases made

theorem eq_dateTime_of_lost (reads : timeOf v = .ok t)
    (lost : (Moment.dateTime t).HasFaintOffset ∨ t.HasOwnName) : v = .dateTime t := by
  unfold timeOf at reads
  obtain ⟨number, told, reads⟩ := bind_eq_ok.1 reads
  cases number with
  | some x =>
      obtain ⟨micros, made⟩ := made_of_timeOfSeconds reads
      have utc : ∀ o, some Offset.utc = some o → ¬o.IsFaint := by
        rintro o ⟨⟩ faint
        exact faint.1 rfl
      have plain := DateTime.plain_of_offset (DateTime.ofLocalMicros?_eq_some.1 made).2 utc
      exact absurd lost (not_or.2 plain)
  | none =>
      dsimp only at reads
      split at reads
      · cases reads
        rfl
      · split at reads
        · split at reads
          · next read =>
              cases reads
              obtain ⟨zone, offset, lasting⟩ := Iso.zone_of_readDateTime? read
              exact absurd lost (not_or.2 (DateTime.plain_of_offset offset lasting))
          · cases reads
        · cases reads

/-! ## Formats that show names -/

/-- The name of a zone, alone and with a point behind it. -/
def zoneFormats : Formats := named [("zone", "%Z"), ("point", "%Z.")]

theorem formatDate_zone (reads : momentOf v = .ok m) :
    formatDate zoneFormats v (.text "zone") = .ok (m.format "%Z") ∧
      formatDate zoneFormats v (.text "point") = .ok (m.format "%Z.") := by
  have alone : definition "date" zoneFormats (.text "zone") = .ok (.text "%Z") :=
    definition_named "date" rfl
  have pointed : definition "date" zoneFormats (.text "point") = .ok (.text "%Z.") :=
    definition_named "date" rfl
  rw [formatDate, formatDate, reads, ok_bind, ok_bind, alone, pointed]
  exact ⟨rfl, rfl⟩

theorem formatTimestamp_zone (reads : timeOf v = .ok t) :
    formatTimestamp zoneFormats v (.text "zone") = .ok (Pattern.format t.withOffset "%Z") ∧
      formatTimestamp zoneFormats v (.text "point") = .ok (Pattern.format t.withOffset "%Z.") := by
  have alone : definition "timestamp" zoneFormats (.text "zone") = .ok (.text "%Z") :=
    definition_named "timestamp" rfl
  have pointed : definition "timestamp" zoneFormats (.text "point") = .ok (.text "%Z.") :=
    definition_named "timestamp" rfl
  rw [formatTimestamp, formatTimestamp, reads, ok_bind, ok_bind, alone, pointed]
  exact ⟨rfl, rfl⟩

/-! ## The normal form -/

/-- A moment is written alike with its offset alone if its zone has no name of its own. -/
theorem formatDate_bare (hv : momentOf v = .ok m.bare) (hw : momentOf w = .ok m) :
    (∀ formats key, formatDate formats v key = formatDate formats w key) ↔ ¬m.HasOwnName := by
  cases m with
  | date d =>
      have none : ¬(Moment.date d).HasOwnName := by rintro ⟨_, ⟨⟩, _⟩
      exact iff_of_true (formatDate_congr hv hw rfl fun _ => rfl) none
  | dateTime t =>
      rw [Moment.hasOwnName_dateTime]
      constructor
      · intro alike
        have alone := alike zoneFormats (.text "zone")
        have pointed := alike zoneFormats (.text "point")
        rw [(formatDate_zone hv).1, (formatDate_zone hw).1, Except.ok.injEq] at alone
        rw [(formatDate_zone hv).2, (formatDate_zone hw).2, Except.ok.injEq] at pointed
        exact DateTime.not_hasOwnName_of_format alone.symm pointed.symm
      · intro plain
        have alike := DateTime.alike_bare plain
        exact formatDate_congr hv hw alike.iso alike.format

theorem formatTimestamp_bare (hv : timeOf v = .ok t.withOffset.bare) (hw : timeOf w = .ok t) :
    (∀ formats key, formatTimestamp formats v key = formatTimestamp formats w key) ↔
      ¬t.HasOwnName := by
  have aware : t.withOffset.bare.withOffset = t.withOffset.bare := rfl
  rw [← t.hasOwnName_withOffset]
  constructor
  · intro alike
    have alone := alike zoneFormats (.text "zone")
    have pointed := alike zoneFormats (.text "point")
    rw [(formatTimestamp_zone hv).1, (formatTimestamp_zone hw).1, Except.ok.injEq] at alone
    rw [(formatTimestamp_zone hv).2, (formatTimestamp_zone hw).2, Except.ok.injEq] at pointed
    exact DateTime.not_hasOwnName_of_format alone.symm pointed.symm
  · intro plain
    have alike := DateTime.alike_bare plain
    exact formatTimestamp_congr hv hw (aware ▸ alike)

/-- Ten in the morning of the fifth of January 2024. -/
def morning (zone : Zone) : DateTime :=
  { date := ⟨738890, by decide, by decide⟩, time := ⟨36000000000, by decide⟩, offset := some zone }

/-- Five and a half hours, a quarter of a minute and half a second ahead. -/
def fractionalOffset : Offset := ⟨19815500000, by decide⟩

def fractionalZone : Zone := .ofOffset fractionalOffset

/-- A microsecond ahead of universal time. -/
def faintZone : Zone := .ofOffset ⟨1, by decide⟩

theorem faintOffset_lost :
    formatDate dateFormats (.dateTime (morning faintZone)) (.text "iso") =
      .ok "2024-01-05T10:00:00+00:00:00.000001" ∧
    momentOf (.text "2024-01-05T10:00:00+00:00:00.000001") = .ok (.dateTime (morning .utc)) ∧
    formatDate dateFormats (.text "2024-01-05T10:00:00+00:00:00.000001") (.text "iso") =
      .ok "2024-01-05T10:00:00+00:00" ∧
    (morning .utc).utcOffset ≠ (morning faintZone).utcOffset := by
  have written : Iso.dateTime (morning faintZone) = "2024-01-05T10:00:00+00:00:00.000001" := by
    decide
  have back : momentOf (.text "2024-01-05T10:00:00+00:00:00.000001") =
      .ok (.dateTime (morning .utc)) := rfl
  have again : Iso.dateTime (morning .utc) = "2024-01-05T10:00:00+00:00" := by decide
  refine ⟨?_, back, ?_, by decide⟩
  · rw [formatDate_iso definition_iso_dateFormats rfl, Moment.iso, written]
  · rw [formatDate_iso definition_iso_dateFormats back, Moment.iso, again]

/-- An hour ahead, under a name of its own. -/
def centralZone : Zone := .fixed ⟨3600000000, by decide⟩ (some "CET")

end Formatting
end DocumentServer
