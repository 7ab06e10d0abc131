import DocumentServer.Web.Request
import Mathlib.Data.List.TakeWhile

/-!
The path that is read back from the address of a request. A framework only has to put the path and the query
behind an origin that can be read; then no host can shift the path, and a beginning of plain signs is read
back as it is.
-/
namespace DocumentServer.Web

namespace Address

/-- The beginning of an address: a scheme and a place that can be read. -/
def IsOrigin (text : String) : Prop :=
  ∃ scheme place : String, isScheme scheme.toList = true ∧ isPlace place.toList = true ∧
    text = scheme ++ "://" ++ place

/-! ## Schemes -/

theorem ne_colon_of_isSchemeSign {c : Char} (sign : isSchemeSign c = true) : (c != ':') = true := by
  rw [bne_iff_ne]
  rintro rfl
  exact absurd sign (by decide)

theorem not_isGap_of_isSchemeSign {c : Char} (sign : isSchemeSign c = true) : (!isGap c) = true := by
  rw [Bool.not_eq_true', ← Bool.not_eq_true]
  intro gap
  simp only [isGap, List.contains_eq_mem, List.mem_cons, List.not_mem_nil, or_false,
    decide_eq_true_eq] at gap
  rcases gap with rfl | rfl | rfl
  all_goals exact absurd sign (by decide)

theorem visible_of_isAlpha {c : Char} (letter : c.isAlpha = true) : ¬c.toNat ≤ 0x20 := by
  intro small
  have signs : ∀ n ≤ 0x20, (Char.ofNat n).isAlpha = false := by decide
  have none := signs c.toNat small
  rw [Char.ofNat_toNat, letter] at none
  cases none

variable {scheme place rest : List Char}

theorem filter_scheme (valid : isScheme scheme = true) : scheme.filter (!isGap ·) = scheme := by
  rw [isScheme, Bool.and_eq_true] at valid
  exact List.filter_eq_self.2 fun c inside =>
    not_isGap_of_isSchemeSign (List.all_eq_true.1 valid.2 c inside)

theorem dropWhile_scheme (valid : isScheme scheme = true) (rest : List Char) :
    (scheme ++ rest).dropWhile (·.toNat ≤ 0x20) = scheme ++ rest := by
  rw [isScheme, Bool.and_eq_true] at valid
  cases scheme with
  | nil => exact absurd valid.1 (by decide)
  | cons c others =>
      have letter : c.isAlpha = true := by simpa using valid.1
      rw [List.cons_append, List.dropWhile_cons_of_neg]
      simpa using visible_of_isAlpha letter

theorem afterScheme_append (valid : isScheme scheme = true) (rest : List Char) :
    afterScheme (scheme ++ ':' :: rest) = rest := by
  have signs := valid
  rw [isScheme, Bool.and_eq_true] at signs
  have run : (scheme ++ ':' :: rest).takeWhile (· != ':') = scheme := by
    rw [List.takeWhile_append_of_pos fun c inside =>
      ne_colon_of_isSchemeSign (List.all_eq_true.1 signs.2 c inside)]
    simp
  simp only [afterScheme, run, List.drop_left, valid, if_pos]

/-! ## Places -/

theorem splits_isPlace (sound : isPlace place = true) (rest : List Char) :
    let kept := place.filter (!isGap ·)
    ((kept ++ '/' :: rest).takeWhile (!endsPlace ·)) = kept ∧ checkPlace kept = .ok () := by
  rw [isPlace, Bool.and_eq_true] at sound
  constructor
  · rw [List.takeWhile_append_of_pos fun c inside =>
      List.all_eq_true.1 sound.1 c (List.mem_filter.1 inside).1,
      List.takeWhile_cons_of_neg (by decide), List.append_nil]
  · have readable := sound.2
    cases checked : checkPlace (place.filter (!isGap ·)) with
    | ok done => rfl
    | error f =>
        rw [checked] at readable
        cases readable

/-- Behind an origin a path is found, whatever the place is. -/
theorem path?_of_isOrigin {origin rest : String} (sound : IsOrigin origin)
    (rooted : rest.toList.head? = some '/') :
    path? (origin ++ rest) = .ok (.ofList (cutPath (rest.toList.filter (!isGap ·)))) := by
  obtain ⟨scheme, place, valid, known, rfl⟩ := sound
  obtain ⟨tail, path⟩ : ∃ tail, rest.toList = '/' :: tail := by
    cases chars : rest.toList with
    | nil => simp [chars] at rooted
    | cons c tail =>
        rw [chars, List.head?_cons, Option.some.injEq] at rooted
        exact ⟨tail, by rw [rooted]⟩
  have text : (scheme ++ "://" ++ place ++ rest).toList =
      scheme.toList ++ (':' :: '/' :: '/' :: (place.toList ++ rest.toList)) := by
    simp only [String.toList_append, List.append_assoc]
    rfl
  have behind : rest.toList.filter (!isGap ·) = '/' :: tail.filter (!isGap ·) := by
    rw [path, List.filter_cons_of_pos (by decide)]
  obtain ⟨run, readable⟩ := splits_isPlace known (tail.filter (!isGap ·))
  have chars : ((scheme ++ "://" ++ place ++ rest).toList.dropWhile (·.toNat ≤ 0x20)).filter
      (!isGap ·) = scheme.toList ++ (':' :: '/' :: '/' ::
        (place.toList.filter (!isGap ·) ++ '/' :: tail.filter (!isGap ·))) := by
    rw [text, dropWhile_scheme valid, List.filter_append, filter_scheme valid,
      List.filter_cons_of_pos (by decide), List.filter_cons_of_pos (by decide),
      List.filter_cons_of_pos (by decide), List.filter_append, behind]
  simp only [path?, chars, afterScheme_append valid, run, readable, List.drop_left, behind]
  rfl

end Address

/-! ## Frameworks -/

/-- What a framework is documented to do: the path and the query of a request stand in its address behind
an origin, so a host that cannot be read as one does not count, and a link can be made on a base that can
be read. -/
structure Addressing.Lawful [Addressing] : Prop where
  url (r : Request) : ∃ origin, Address.IsOrigin origin ∧
    Addressing.url r = origin ++ (r.path ++ r.querySuffix)
  base (r : Request) : ∃ origin, Address.IsOrigin origin ∧ Addressing.base r = origin ++ "/"
  link (r : Request) (token path : String) :
    Address.path? (Addressing.base r) = .ok path → ∃ url, Addressing.link r token = .ok url

/-- Under a framework that keeps to its documentation every link can be made. -/
theorem Addressing.Lawful.links [Addressing] (lawful : Lawful) (r : Request) (token : String) :
    ∃ url, Addressing.link r token = .ok url := by
  obtain ⟨origin, sound, base⟩ := lawful.base r
  refine lawful.link r token "/" ?_
  rw [base, Address.path?_of_isOrigin sound rfl]
  rfl

namespace Request

variable {r : Request}

def IsRooted (r : Request) : Prop := r.path.toList.head? = some '/'

/-- The path of a request without tabs and line ends, and only up to a question mark or a number sign. -/
def plainPath (r : Request) : String :=
  .ofList (Address.cutPath ((r.path.toList ++ r.querySuffix.toList).filter (!Address.isGap ·)))

/-- Whatever host a request names, the path that the guard sees is its own. -/
theorem addressPath_eq [Addressing] (lawful : Addressing.Lawful) (rooted : r.IsRooted) :
    r.addressPath = .ok r.plainPath := by
  obtain ⟨origin, sound, url⟩ := lawful.url r
  have path : (r.path ++ r.querySuffix).toList = r.path.toList ++ r.querySuffix.toList :=
    String.toList_append
  have begins : (r.path ++ r.querySuffix).toList.head? = some '/' := by
    rw [path, List.head?_append, rooted]
    rfl
  rw [addressPath, url, Address.path?_of_isOrigin sound begins, path]
  rfl

/-! ## Plain beginnings -/

def isPathSign (c : Char) : Bool := c != '?' && c != '#' && !Address.isGap c

/-- What is left of the rest of a path when it is read back. -/
def readBack (r : Request) (rest : List Char) : List Char :=
  Address.cutPath ((rest ++ r.querySuffix.toList).filter (!Address.isGap ·))

/-- A beginning of plain signs is read back as it is. -/
theorem plainPath_append (start rest : List Char) (splits : r.path.toList = '/' :: start ++ rest)
    (plain : start.all isPathSign = true) : r.plainPath.toList = '/' :: start ++ r.readBack rest := by
  have both : ∀ c ∈ start, (c != '?' && c != '#') = true ∧ (!Address.isGap c) = true := by
    intro c inside
    have sign := List.all_eq_true.1 plain c inside
    rwa [isPathSign, Bool.and_eq_true] at sign
  have kept : start.filter (!Address.isGap ·) = start :=
    List.filter_eq_self.2 fun c inside => (both c inside).2
  rw [plainPath, String.toList_ofList, splits, List.append_assoc, List.filter_append,
    List.filter_cons_of_pos (by decide), kept, List.cons_append, Address.cutPath,
    List.takeWhile_cons_of_pos (by decide),
    List.takeWhile_append_of_pos fun c inside => (both c inside).1]
  rfl

theorem querySuffix_cases (r : Request) :
    r.querySuffix.toList = [] ∨ ∃ query, r.querySuffix.toList = '?' :: query := by
  unfold querySuffix
  split
  · exact .inl rfl
  · exact .inr ⟨r.query.toList, by simp⟩

theorem readBack_nil (r : Request) : r.readBack [] = [] := by
  rcases r.querySuffix_cases with none | ⟨query, some⟩
  · simp [readBack, Address.cutPath, none]
  · simp [readBack, Address.cutPath, some, Address.isGap]

theorem readBack_lineFeed (r : Request) : r.readBack ['\n'] = [] := r.readBack_nil

end Request

/-! ## The framework that the server runs on -/

theorem Request.isOrigin_origin (r : Request) : Address.IsOrigin r.origin := by
  refine ⟨r.protocol, r.host, ?_, ?_, rfl⟩
  · unfold protocol
    split
    · assumption
    · decide
  · have own : Address.isPlace r.ownHost.toList = true := by
      unfold ownHost
      split
      · assumption
      · decide
    unfold host
    split
    · split
      · next valid =>
          rw [isHost, Bool.and_eq_true] at valid
          exact valid.1
      · exact own
    · exact own

theorem Addressing.standard_lawful : Addressing.Lawful where
  url r := ⟨r.origin, r.isOrigin_origin, String.append_assoc⟩
  base r := ⟨r.origin, r.isOrigin_origin, rfl⟩
  link r token path read := by
    refine ⟨s!"{r.origin}/api/downloads/{token}", ?_⟩
    have same : Addressing.link r token = r.downloadUrl token := rfl
    have base : Addressing.base r = r.baseUrl := rfl
    rw [base] at read
    rw [same, Request.downloadUrl, read]
    rfl

end DocumentServer.Web
