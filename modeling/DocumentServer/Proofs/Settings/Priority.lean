import DocumentServer.CommandLine.Launch
import DocumentServer.Proofs.Association
import DocumentServer.Proofs.Settings.Fields
import Mathlib.Data.List.Induction

/-!
Which source a setting comes from. Each source is asked under all names that it accepts for a
setting, and one is asked only where no source before it gives the setting. So accepted settings hold
what the first source that gives them was read as, and a default only where none does.
-/
namespace DocumentServer
open Validation

/-! ## Names without regard to case -/

/-- The last binding of a name tells what the name stands for, whatever the case it is written in. -/
def Binds {α : Type} (bindings : List (String × α)) (name : String) (a : α) : Prop :=
  ∃ before written after, bindings = before ++ (written, a) :: after ∧ Text.toLower written = name ∧
    ∀ later ∈ after, Text.toLower later.1 ≠ name

/-- Bindings under their names in small letters. -/
def lowered {α : Type} (bindings : List (String × α)) : Association String α :=
  bindings.foldl (fun done (name, value) => done.put (Text.toLower name) value) []

section Binds

variable {α : Type} {bindings : List (String × α)} {name written : String} {a b : α}

theorem lowered_concat (bindings : List (String × α)) (written : String) (a : α) :
    lowered (bindings ++ [(written, a)]) = (lowered bindings).put (Text.toLower written) a := by
  rw [lowered, List.foldl_append]
  rfl

theorem binds_last (bindings : List (String × α)) (written : String) (a : α) :
    Binds (bindings ++ [(written, a)]) (Text.toLower written) a :=
  ⟨bindings, written, [], rfl, rfl, by simp⟩

theorem Binds.concat (binds : Binds bindings name a) (other : Text.toLower written ≠ name) :
    Binds (bindings ++ [(written, b)]) name a := by
  obtain ⟨before, first, after, rfl, same, last⟩ := binds
  refine ⟨before, first, after ++ [(written, b)], by simp, same, ?_⟩
  intro later member
  rcases List.mem_append.1 member with earlier | new
  · exact last later earlier
  · rw [List.mem_singleton.1 new]
    exact other

/-- A binding behind all others tells of its own name alone. -/
theorem binds_concat : Binds (bindings ++ [(written, b)]) name a →
    Text.toLower written = name ∧ b = a ∨ Text.toLower written ≠ name ∧ Binds bindings name a := by
  rintro ⟨before, first, after, split, same, last⟩
  rcases List.eq_nil_or_concat after with rfl | ⟨between, final, rfl⟩
  · obtain ⟨_, here⟩ := List.append_inj' split (by simp)
    cases here
    exact .inl ⟨same, rfl⟩
  · rw [List.concat_eq_append, ← List.cons_append, ← List.append_assoc] at split
    obtain ⟨rfl, here⟩ := List.append_inj' split (by simp)
    cases here
    rw [List.concat_eq_append] at last
    have other := last (written, b) (by simp)
    exact .inr ⟨other, before, first, between, rfl, same,
      fun later member => last later (by simp [member])⟩

theorem get?_lowered : (lowered bindings).get? name = some a ↔ Binds bindings name a := by
  induction bindings using List.reverseRecOn with
  | nil =>
      constructor
      · intro found
        cases found
      · rintro ⟨before, written, after, split, _⟩
        cases before <;> cases split
  | append_singleton bindings last ih =>
      obtain ⟨written, b⟩ := last
      rw [lowered_concat, Association.get?_put]
      by_cases hit : Text.toLower written = name
      · subst hit
        simp only [BEq.rfl, if_true, Option.some.injEq]
        constructor
        · rintro rfl
          exact binds_last ..
        · intro binds
          rcases binds_concat binds with ⟨_, same⟩ | ⟨other, _⟩
          · exact same
          · exact absurd rfl other
      · rw [if_neg (by simpa using hit), ih]
        constructor
        · intro binds
          exact binds.concat hit
        · intro binds
          rcases binds_concat binds with ⟨same, _⟩ | ⟨_, earlier⟩
          · exact absurd same hit
          · exact earlier

theorem nodup_keys_lowered (bindings : List (String × α)) :
    (lowered bindings).keys.Nodup := by
  induction bindings using List.reverseRecOn with
  | nil => exact List.nodup_nil
  | append_singleton bindings last ih =>
      rw [lowered_concat]
      exact Association.nodup_keys_put ih _ _

end Binds

/-- Where no name is twice, what is left of bindings is what has a value. -/
theorem get?_setOnly {bindings : Association String (Option String)} {name text : String}
    (distinct : bindings.keys.Nodup) :
    Association.get? name (setOnly bindings) = some text ↔ bindings.get? name = some (some text) := by
  induction bindings with
  | nil => simp [setOnly, Association.get?]
  | cons entry rest ih =>
      obtain ⟨first, value⟩ := entry
      simp only [Association.keys, List.map_cons, List.nodup_cons] at distinct
      have later := ih distinct.2
      simp only [setOnly] at later ⊢
      by_cases hit : first = name
      · subst hit
        cases value with
        | some known => simp [Association.get?]
        | none =>
            have absent : Association.get? first rest = none := Association.get?_eq_none_iff.2 distinct.1
            simp [Association.get?, later, absent]
      · cases value <;> simp [Association.get?, hit, later]

theorem firstOf?_eq_none_iff {α : Type} {names : List String} {entries : Association String α} :
    firstOf? names entries = none ↔ ∀ name ∈ names, entries.get? name = none := by
  simp [firstOf?, List.findSome?_eq_none_iff]

theorem firstOf?_eq_some {α : Type} {names : List String} {entries : Association String α}
    {name : String} {a : α} (found : firstOf? names entries = some (name, a)) :
    name ∈ names ∧ entries.get? name = some a := by
  obtain ⟨asked, member, here⟩ := List.exists_of_findSome?_eq_some found
  obtain ⟨value, there, same⟩ := Option.map_eq_some_iff.1 here
  cases same
  exact ⟨member, there⟩

/-! ## Sources -/

/-- The sources that go before a source. -/
def SourceKind.before : SourceKind → List SourceKind
  | .arguments => []
  | .environment => [.arguments]
  | .envFile => [.arguments, .environment]

namespace SettingSources

/-- A source gives a value for a setting, under one of the names that it accepts for it. -/
inductive Gives [SettingLibrary] (s : SettingSources) (setting : SettingName) :
    SourceKind → Value → Prop
  | arguments {name : String} {v : Value} : name ∈ setting.arguments →
      s.arguments.get? name = some v → Gives s setting .arguments v
  | environment {name text : String} : name ∈ setting.variableNames →
      Binds s.environment name text → Gives s setting .environment (.text text)
  | envFile {content name text : String} : s.envFile = some content →
      name ∈ setting.variableNames →
      Binds (SettingLibrary.readFile s.environment content) name (some text) →
      Gives s setting .envFile (.text text)

/-- A setting is what the first source that gives it means, or its default where none does. -/
inductive Decides [SettingLibrary] (s : SettingSources) (setting : SettingName) {α : Type}
    (means : Value → α → Prop) (default : α) : α → Prop
  | given {source : SourceKind} {v : Value} {a : α} : s.Gives setting source v →
      (∀ earlier ∈ source.before, ∀ w, ¬s.Gives setting earlier w) → means v a →
      Decides s setting means default a
  | absent : (∀ source v, ¬s.Gives setting source v) → Decides s setting means default default

end SettingSources

/-- What the settings rely on in the library that collects them. Each source files a setting under the
setting's own name, whichever of its names was used, sources are put together name by name, and a
setting is looked up under each of its names. -/
structure SettingLibrary.Documented [library : SettingLibrary] : Prop where
  order : library.order = [.arguments, .environment, .envFile]
  filed {s : SettingSources} {setting : SettingName} {source : SourceKind} {v : Value} :
    setting ∈ SettingName.all → (library.filed s source).get? setting.name = some v →
    s.Gives setting source v
  unfiled {s : SettingSources} {setting : SettingName} {source : SourceKind} :
    setting ∈ SettingName.all → (library.filed s source).get? setting.name = none →
    ∀ v, ¬s.Gives setting source v
  otherwise {s : SettingSources} {setting : SettingName} {source : SourceKind} {name : String} :
    setting ∈ SettingName.all → name ∈ setting.arguments → name ≠ setting.name →
    (library.filed s source).get? name = none
  merged (states : List (Association String Value)) (name : String) :
    (library.merge states).get? name = states.findSome? (·.get? name)
  picked {setting : SettingName} {values : Association String Value} {v : Value} :
    library.pick? setting values = some v → ∃ name ∈ setting.arguments, values.get? name = some v
  unpicked {setting : SettingName} {values : Association String Value} :
    library.pick? setting values = none → ∀ name ∈ setting.arguments, values.get? name = none

theorem SettingName.name_mem_arguments : ∀ setting ∈ SettingName.all, setting.name ∈ setting.arguments := by
  decide

/-! ## The first source -/

namespace SettingSources

section Library

variable [library : SettingLibrary] (documented : SettingLibrary.Documented)
  {s : SettingSources} {setting : SettingName}

include documented

/-- Under a name of a setting there is what the first source gives for it, of the sources put together. -/
theorem get?_merged (known : setting ∈ SettingName.all) {name : String}
    (named : name ∈ setting.arguments) {v : Value}
    (found : Association.get? name (library.merge (library.order.map (library.filed s))) = some v) :
    ∃ source, s.Gives setting source v ∧ ∀ earlier ∈ source.before, ∀ w, ¬s.Gives setting earlier w := by
  rw [documented.merged, documented.order] at found
  obtain rfl : name = setting.name := by
    by_contra other
    simp [documented.otherwise known named other] at found
  cases args : (library.filed s .arguments).get? setting.name with
  | some w =>
      simp only [List.map_cons, List.findSome?_cons, args, Option.some.injEq] at found
      exact ⟨.arguments, documented.filed known (found ▸ args), by simp [SourceKind.before]⟩
  | none =>
      have noArgument := documented.unfiled known args
      cases env : (library.filed s .environment).get? setting.name with
      | some w =>
          simp only [List.map_cons, List.findSome?_cons, args, env, Option.some.injEq] at found
          refine ⟨.environment, documented.filed known (found ▸ env), ?_⟩
          simpa [SourceKind.before] using noArgument
      | none =>
          have noVariable := documented.unfiled known env
          have file : (library.filed s .envFile).get? setting.name = some v := by
            simpa [args, env] using found
          refine ⟨.envFile, documented.filed known file, ?_⟩
          simpa [SourceKind.before] using ⟨noArgument, noVariable⟩

/-- What is found for a setting is what the first source that gives it gives. -/
theorem gives_of_find? (known : setting ∈ SettingName.all) {given : Given}
    (found : s.find? setting = some given) :
    ∃ source, s.Gives setting source given.value ∧
      ∀ earlier ∈ source.before, ∀ w, ¬s.Gives setting earlier w := by
  obtain ⟨v, picked, rfl⟩ := Option.map_eq_some_iff.1 found
  obtain ⟨name, named, there⟩ := documented.picked picked
  exact get?_merged documented known named there

/-- Nothing is found for a setting only if no source gives it. -/
theorem not_gives_of_find? (known : setting ∈ SettingName.all) (none : s.find? setting = none)
    (source : SourceKind) (v : Value) : ¬s.Gives setting source v := by
  have unpicked := documented.unpicked (Option.map_eq_none_iff.1 none) setting.name
    (SettingName.name_mem_arguments setting known)
  rw [documented.merged, documented.order] at unpicked
  have nowhere : ∀ source, (library.filed s source).get? setting.name = Option.none := by
    intro source
    have each := List.findSome?_eq_none_iff.1 unpicked (library.filed s source)
    exact each (by cases source <;> simp)
  exact documented.unfiled known (nowhere source) v

end Library

/-! ## The library of the server -/

variable {s : SettingSources} {setting : SettingName}

theorem get?_foldCase {name text : String} :
    Association.get? name (foldCase s.environment) = some text ↔ Binds s.environment name text :=
  get?_lowered

theorem get?_fileVariables {name text : String} :
    s.fileVariables.get? name = some text ↔ ∃ content, s.envFile = some content ∧
      Binds (EnvFile.read s.environment content) name (some text) := by
  unfold fileVariables
  cases s.envFile with
  | none => simp [Association.get?]
  | some content =>
      change Association.get? name (setOnly (lowered (EnvFile.read s.environment content))) = _ ↔ _
      rw [get?_setOnly (nodup_keys_lowered _), get?_lowered]
      simp

/-- A source has a value for a setting only if it gives it. -/
theorem gives_of_value? {source : SourceKind} {v : Value} (found : s.value? setting source = some v) :
    s.Gives setting source v := by
  cases source with
  | arguments =>
      obtain ⟨⟨name, w⟩, first, rfl⟩ := Option.map_eq_some_iff.1 found
      obtain ⟨named, there⟩ := firstOf?_eq_some first
      exact .arguments named there
  | environment =>
      obtain ⟨⟨name, text⟩, first, rfl⟩ := Option.map_eq_some_iff.1 found
      obtain ⟨named, there⟩ := firstOf?_eq_some first
      exact .environment named (get?_foldCase.1 there)
  | envFile =>
      obtain ⟨⟨name, text⟩, first, rfl⟩ := Option.map_eq_some_iff.1 found
      obtain ⟨named, there⟩ := firstOf?_eq_some first
      obtain ⟨content, here, binds⟩ := get?_fileVariables.1 there
      exact .envFile here named binds

theorem not_gives_of_value? {source : SourceKind} (none : s.value? setting source = none) (v : Value) :
    ¬s.Gives setting source v := by
  intro gives
  cases gives with
  | arguments named found =>
      rw [firstOf?_eq_none_iff.1 (Option.map_eq_none_iff.1 none) _ named] at found
      cases found
  | environment named binds =>
      have found := get?_foldCase.2 binds
      rw [firstOf?_eq_none_iff.1 (Option.map_eq_none_iff.1 none) _ named] at found
      cases found
  | envFile here named binds =>
      have found := get?_fileVariables.2 ⟨_, here, binds⟩
      rw [firstOf?_eq_none_iff.1 (Option.map_eq_none_iff.1 none) _ named] at found
      cases found

end SettingSources

/-- No two settings have one name. -/
theorem SettingName.nodup_names : (SettingName.all.map SettingName.name).Nodup := by decide

/-- A further name of a setting is no setting's own. -/
theorem SettingName.not_mem_names : ∀ setting ∈ SettingName.all, ∀ name ∈ setting.arguments,
    name ≠ setting.name → name ∉ SettingName.all.map SettingName.name := by
  decide

namespace SettingSources

variable {s : SettingSources} {setting : SettingName} {source : SourceKind}

theorem get?_named {settings : List SettingName} (distinct : (settings.map SettingName.name).Nodup)
    (known : setting ∈ settings) (value? : SettingName → Option Value) :
    Association.get? setting.name (settings.filterMap fun each => (value? each).map (each.name, ·)) =
      value? setting := by
  induction settings with
  | nil => cases known
  | cons first rest ih =>
      simp only [List.map_cons, List.nodup_cons] at distinct
      have absent : ∀ entries, entries = rest.filterMap (fun each => (value? each).map (each.name, ·)) →
          first.name ∉ Association.keys entries := by
        rintro _ rfl named
        obtain ⟨⟨name, v⟩, member, same⟩ := List.mem_map.1 named
        obtain ⟨each, later, made⟩ := List.mem_filterMap.1 member
        obtain ⟨w, _, here⟩ := Option.map_eq_some_iff.1 made
        cases here
        exact distinct.1 (same ▸ List.mem_map_of_mem later)
      rcases List.mem_cons.1 known with rfl | later
      · cases here : value? setting with
        | none =>
            rw [List.filterMap_cons_none (by rw [here]; rfl)]
            exact Association.get?_eq_none_iff.2 (absent _ rfl)
        | some v =>
            rw [List.filterMap_cons_some (by rw [here]; rfl)]
            simp [Association.get?]
      · have other : (first.name == setting.name) = false :=
          beq_eq_false_iff_ne.2 fun same => distinct.1 (same ▸ List.mem_map_of_mem later)
        cases here : value? first with
        | none =>
            rw [List.filterMap_cons_none (by rw [here]; rfl)]
            exact ih distinct.2 later
        | some v =>
            rw [List.filterMap_cons_some (by rw [here]; rfl)]
            simp only [Association.get?, other, Bool.false_eq_true, if_false]
            exact ih distinct.2 later

/-- A source files what it has for a setting under the setting's name. -/
theorem get?_filed (known : setting ∈ SettingName.all) :
    (s.filed source).get? setting.name = s.value? setting source :=
  get?_named SettingName.nodup_names known _

theorem get?_filed_otherwise {name : String} (other : name ∉ SettingName.all.map SettingName.name) :
    (s.filed source).get? name = none := by
  refine Association.get?_eq_none_iff.2 fun named => other ?_
  obtain ⟨⟨_, v⟩, member, rfl⟩ := List.mem_map.1 named
  obtain ⟨each, known, made⟩ := List.mem_filterMap.1 member
  obtain ⟨w, _, here⟩ := Option.map_eq_some_iff.1 made
  cases here
  exact List.mem_map_of_mem known

theorem get?_union (first second : Association String Value) (name : String) :
    (union first second).get? name = (first.get? name).or (second.get? name) := by
  induction first with
  | nil => rfl
  | cons entry rest ih =>
      obtain ⟨key, v⟩ := entry
      rw [union] at ih
      rw [union, List.foldr_cons, Association.get?_put, ih, Association.get?]
      split <;> rfl

theorem get?_unions (states : List (Association String Value)) (done : Association String Value)
    (name : String) : (states.foldl union done).get? name =
      (done.get? name).or (states.findSome? (·.get? name)) := by
  induction states generalizing done with
  | nil => simp
  | cons state rest ih =>
      rw [List.foldl_cons, ih, get?_union, List.findSome?_cons, Option.or_assoc]
      cases state.get? name <;> rfl

end SettingSources

/-- The library of the server does what is documented. -/
theorem SettingLibrary.standard_documented : SettingLibrary.Documented where
  order := rfl
  filed known found := SettingSources.gives_of_value? (SettingSources.get?_filed known ▸ found)
  unfiled known none := SettingSources.not_gives_of_value? (SettingSources.get?_filed known ▸ none)
  otherwise known named other :=
    SettingSources.get?_filed_otherwise (SettingName.not_mem_names _ known _ named other)
  merged states name := SettingSources.get?_unions states [] name
  picked found := by
    obtain ⟨⟨name, w⟩, first, rfl⟩ := Option.map_eq_some_iff.1 found
    exact ⟨name, firstOf?_eq_some first⟩
  unpicked none := firstOf?_eq_none_iff.1 (Option.map_eq_none_iff.1 none)

/-- Where one name alone has a value, that is the first one. -/
theorem value_firstOf? {α : Type} {names : List String} {name : String} {entries : Association String α}
    (named : name ∈ names) (otherwise : ∀ other ∈ names, other ≠ name → entries.get? other = none) :
    (firstOf? names entries).map (·.2) = entries.get? name := by
  cases first : firstOf? names entries with
  | none => exact (firstOf?_eq_none_iff.1 first name named).symm
  | some found =>
      obtain ⟨used, there⟩ := firstOf?_eq_some first
      obtain rfl : found.1 = name := by
        by_contra other
        rw [otherwise _ used other] at there
        cases there
      exact there.symm

/-- With the library of the server, a setting is what the first source has for it. -/
theorem SettingSources.find?_eq {s : SettingSources} {setting : SettingName}
    (known : setting ∈ SettingName.all) :
    s.find? setting = ((s.value? setting .arguments).or
      ((s.value? setting .environment).or (s.value? setting .envFile))).map
        ({ name := s.reported setting, value := · }) := by
  have files := SettingSources.get?_unions
    [s.filed .arguments, s.filed .environment, s.filed .envFile] []
  have alone : ∀ other ∈ setting.arguments, other ≠ setting.name →
      (SettingLibrary.merge (SettingLibrary.order.map s.filed)).get? other = none := by
    intro other named apart
    have absent := SettingName.not_mem_names setting known other named apart
    refine (files other).trans ?_
    simp [get?_filed_otherwise absent, Association.get?]
  have picked : SettingLibrary.pick? setting (SettingLibrary.merge (SettingLibrary.order.map s.filed)) =
      (s.value? setting .arguments).or
        ((s.value? setting .environment).or (s.value? setting .envFile)) := by
    refine (value_firstOf? (SettingName.name_mem_arguments setting known) alone).trans ?_
    refine (files setting.name).trans ?_
    simp only [Association.get?, List.findSome?_cons, get?_filed known, Option.none_or]
    cases s.value? setting .arguments <;> cases s.value? setting .environment <;>
      cases s.value? setting .envFile <;> rfl
  exact congrArg (Option.map _) picked

namespace Settings
open SettingSources

variable {sources : SettingSources} {setting : SettingName} {α β : Type}

/-- A field without issues is decided by the first source that gives it. -/
theorem decides_of_field [SettingLibrary] (documented : SettingLibrary.Documented)
    (known : setting ∈ SettingName.all) {read : Value → Except Problem α} {means : Value → β → Prop}
    (view : α → β) (sound : ∀ {v a}, read v = .ok a → means v (view a)) {default a : α}
    (quiet : field sources setting read default = ([], a)) :
    sources.Decides setting means (view default) (view a) := by
  rcases field_quiet quiet with ⟨absent, rfl⟩ | ⟨given, found, accepted⟩
  · exact .absent (not_gives_of_find? documented known absent)
  · obtain ⟨source, gives, first⟩ := gives_of_find? documented known found
    exact .given gives first (sound accepted)

/-- Every setting is decided by the first source that gives it. -/
structure Decided [SettingLibrary] (sources : SettingSources) (settings : Settings) : Prop where
  templatesRoot : sources.Decides (.plain "templates_root") NamesPath "../templates"
    settings.templatesRoot
  documentsDir : sources.Decides (.plain "documents_dir") (OrNothing NamesPath) none
    settings.documentsDir
  apiKey : sources.Decides (.plain "api_key") (OrNothing IsText) none settings.apiKey
  host : sources.Decides (.plain "host") IsText "0.0.0.0" settings.host
  port : sources.Decides .port IsWhole 4000 settings.port
  size : sources.Decides (.plain "default_page_size") IsText "A4" settings.page.size.text
  orientation : sources.Decides (.plain "default_orientation") IsText "portrait"
    settings.page.orientation.name
  downloadSeconds : sources.Decides (.plain "download_ttl_seconds") IsWhole 300
    settings.downloadSeconds
  rewritesStaticUrls : sources.Decides (.plain "rewrite_static_urls") SaysFlag false
    settings.rewritesStaticUrls
  logLevel : sources.Decides (.plain "log_level") IsText "INFO" settings.logLevel

/-- The port is given by all sources, under three names, and the host by two. The key is given by one
source alone, and the folder as a path with more signs than it needs. -/
def mixedSources : SettingSources where
  arguments := [("HTMDOCS_PORT", .int 2), ("templates_root", .text "/srv//forms/./")]
  environment := [("PORT", "5"), ("htmdocs_Host", "127.0.0.1"), ("HTMDOCS_REWRITE_STATIC_URLS", "Yes")]
  envFile := some "port=7\nHTMDOCS_HOST=localhost\nHTMDOCS_LOG_LEVEL=debug\nHTMDOCS_API_KEY=s3cret\n"

def mixedSettings : Settings where
  templatesRoot := "/srv/forms"
  apiKey := some "s3cret"
  port := 2
  host := "127.0.0.1"
  rewritesStaticUrls := true
  logLevel := "debug"

theorem foldCase_mixedSources : foldCase mixedSources.environment =
    [("port", "5"), ("htmdocs_host", "127.0.0.1"), ("htmdocs_rewrite_static_urls", "Yes")] := by
  decide

theorem fileVariables_mixedSources : mixedSources.fileVariables =
    [("port", "7"), ("htmdocs_host", "localhost"), ("htmdocs_log_level", "debug"),
      ("htmdocs_api_key", "s3cret")] := by
  decide

end Settings
end DocumentServer
