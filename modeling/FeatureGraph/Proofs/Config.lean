import FeatureGraph.Config
import FeatureGraph.Proofs.Assoc
import FeatureGraph.Proofs.Result

/-! # How a configuration is refused

Whatever stands in the file and in the environment, a configuration is had or is refused as an invalid one, with some
exceptions. Settings that are no object and a log level that is no text are used before anyone looks at what they
are, and a text with more within each other than there is room for is not read to its end. -/
namespace FeatureGraph

/-- The URL is more than blanks. -/
def Source.HasUrl (s : Source) : Prop := ∃ c ∈ s.url.toList, Text.isBlank c = false

namespace Config

/-- Null, or an object with an object for each name. -/
def AreSources : Json → Prop
  | .null => True
  | .object ms => ∀ m ∈ ms, ∃ members, m.2 = .object members
  | _ => False

/-- The settings that are found: the section of the object in the file, or none where that counts as not given or where
no file is there and none was asked for. -/
inductive Found (path : Option String) (env : Environment) (files : String → FileState) (calls : Nat) : Json → Prop
  | missing : files (place path env).1 = .missing → (place path env).2 = false →
      Found path env files calls (.object [])
  | file {content : List UInt8} {text : String} {ms : List (String × Json)} :
      files (place path env).1 = .file content → Text.Utf8.decode content = some text →
      Json.loads text calls = .ok (some (.object ms)) →
      Found path env files calls (((Json.object ms).get "provider-knowledge").truthy?.getD (.object []))

def policySetting (env : Environment) (settings : Json) : Json :=
  setting env "KNOWLEDGE_SPATIAL_FILTER_ERRORS" settings "spatialFilterErrors" "skip"

def levelSetting (env : Environment) (settings : Json) : Json :=
  setting env "KNOWLEDGE_LOG_LEVEL" settings "logLevel" "INFO"

/-- Settings are an object, and all of them but the log level can be had from it and the environment. -/
structure Accepted (env : Environment) (calls : Nat) (settings : Json) : Prop where
  object : ∃ ms, settings = .object ms
  sources : AreSources (settings.get "sources")
  environment : ∀ text ∈ env.get? "KNOWLEDGE_SOURCES", ∃ v, Json.loads text calls = .ok (some v) ∧ AreSources v
  policy : ∃ p : Cypher.SpatialPolicy, policySetting env settings = .text p.name

/-- The sources of the environment are not read to their end. -/
def DeepEnvironment (env : Environment) (calls : Nat) (d : Defect) : Prop :=
  ∃ text, env.get? "KNOWLEDGE_SOURCES" = some text ∧ Json.loads text calls = .error d

/-- What goes wrong where a value has another shape than its use needs, or too much is within each other. -/
inductive Escapes (path : Option String) (env : Environment) (files : String → FileState) (calls : Nat) : Defect → Prop
  | directory : files (place path env).1 = .directory →
      Escapes path env files calls
        (.foreign "IsADirectoryError" s!"[Errno 21] Is a directory: {Text.quoted (place path env).1}")
  | deepFile {content : List UInt8} {text : String} {d : Defect} : files (place path env).1 = .file content →
      Text.Utf8.decode content = some text → Json.loads text calls = .error d → Escapes path env files calls d
  | settings {v : Json} : Found path env files calls v → (∀ ms, v ≠ .object ms) →
      Escapes path env files calls (.missingMember v.typeName "get")
  | deepEnvironment {v : Json} {ms : List (String × Json)} {d : Defect} : Found path env files calls v →
      v = .object ms → AreSources (v.get "sources") → DeepEnvironment env calls d → Escapes path env files calls d
  | logLevel {v : Json} : Found path env files calls v → Accepted env calls v → (∀ s, levelSetting env v ≠ .text s) →
      Escapes path env files calls (.missingMember (levelSetting env v).typeName "upper")

section Sources
variable {v : Json} {s : Source} {name : String} {ms : List (String × Json)} {sources : List (String × Source)}

theorem exists_mem_trim_not_isBlank {cs : List Char} (h : Text.trim cs ≠ []) :
    ∃ c ∈ Text.trim cs, Text.isBlank c = false := by
  rw [Text.trim, ne_eq, List.reverse_eq_nil_iff] at h
  exact ⟨_, List.mem_reverse.2 (List.head_mem h), List.head_dropWhile_not Text.isBlank h⟩

theorem hasUrl_of_source? (h : source? v = some s) : s.HasUrl := by
  simp only [source?] at h
  split at h
  · cases h
  · next hne =>
    obtain rfl := Option.some.inj h
    have hurl := exists_mem_trim_not_isBlank (by simpa using hne)
    simpa [Source.HasUrl] using hurl

theorem addSource_delivers (hsources : ∀ p ∈ sources, p.2.HasUrl) :
    Delivers (fun sources => ∀ p ∈ sources, p.2.HasUrl) (addSource sources name v) := by
  cases v with
  | object ms =>
    refine .ok ?_
    cases hs : source? (.object ms) with
    | none => exact hsources
    | some s =>
      intro p hp
      rcases Assoc.mem_put hp with hp | rfl
      · exact hsources p hp
      · exact hasUrl_of_source? hs
  | _ => exact .error _

theorem foldlM_addSource_delivers (hsources : ∀ p ∈ sources, p.2.HasUrl) :
    Delivers (fun sources => ∀ p ∈ sources, p.2.HasUrl)
      (ms.foldlM (fun sources m => addSource sources m.1 m.2) sources) := by
  induction ms generalizing sources with
  | nil => exact .ok hsources
  | cons m ms ih =>
    rw [List.foldlM_cons]
    exact (addSource_delivers hsources).bind fun sources => ih

theorem sourcesOf_delivers (v : Json) : Delivers (fun sources => ∀ p ∈ sources, p.2.HasUrl) (sourcesOf v) := by
  cases v with
  | null => exact .ok (by simp)
  | object ms => exact foldlM_addSource_delivers (by simp)
  | _ => exact .error _

theorem exists_addSource_iff (sources : List (String × Source)) (name : String) :
    (∃ ss, addSource sources name v = .ok ss) ↔ ∃ members, v = .object members := by
  cases v with
  | object ms => exact iff_of_true ⟨_, rfl⟩ ⟨ms, rfl⟩
  | _ => exact iff_of_false (fun ⟨ss, h⟩ => by cases h) fun ⟨members, h⟩ => by cases h

theorem exists_foldlM_addSource_iff :
    (∃ ss, ms.foldlM (fun sources m => addSource sources m.1 m.2) sources = .ok ss) ↔
      ∀ m ∈ ms, ∃ members, m.2 = .object members := by
  induction ms generalizing sources with
  | nil => exact iff_of_true ⟨sources, rfl⟩ (by simp)
  | cons m ms ih =>
    rw [List.foldlM_cons, List.forall_mem_cons, ← exists_addSource_iff sources m.1]
    cases hm : addSource sources m.1 m.2 with
    | error e => exact iff_of_false (fun ⟨ss, h⟩ => by cases h) fun ⟨⟨ss, h⟩, _⟩ => by cases h
    | ok ss => exact ih.trans (by simp)

theorem exists_sourcesOf_iff : (∃ ss, sourcesOf v = .ok ss) ↔ AreSources v := by
  cases v with
  | null => exact iff_of_true ⟨[], rfl⟩ trivial
  | object ms => exact exists_foldlM_addSource_iff
  | _ => exact iff_of_false (fun ⟨ss, h⟩ => by cases h) id

end Sources

section Settings
variable {path : Option String} {env : Environment} {files : String → FileState} {v : Json} {p : Cypher.SpatialPolicy}
  {d : Defect} {f : ConfigFault} {calls : Nat}

theorem environmentSources_delivers (env : Environment) (calls : Nat) :
    Delivers (fun sources => ∀ p ∈ sources, p.2.HasUrl) (environmentSources env calls) := by
  rw [environmentSources]
  split
  · exact .ok (by simp)
  · refine .bind_true fun read => ?_
    cases read with
    | none => exact .error _
    | some v => exact (sourcesOf_delivers v).mapError

theorem exists_environmentSources_iff : (∃ ss, environmentSources env calls = .ok ss) ↔
    ∀ text ∈ env.get? "KNOWLEDGE_SOURCES", ∃ v, Json.loads text calls = .ok (some v) ∧ AreSources v := by
  rw [environmentSources]
  cases env.get? "KNOWLEDGE_SOURCES" with
  | none => exact iff_of_true ⟨[], rfl⟩ nofun
  | some text =>
    simp only [Option.mem_some_iff, forall_eq']
    cases Json.loads text calls with
    | error d => exact iff_of_false (by rintro ⟨ss, ⟨⟩⟩) (by rintro ⟨v, ⟨⟩, -⟩)
    | ok read =>
      cases read with
      | none => exact iff_of_false (by rintro ⟨ss, ⟨⟩⟩) (by rintro ⟨v, ⟨⟩, -⟩)
      | some v =>
        have hsources : (∃ ss, (sourcesOf v).mapError ConfigFault.invalid = .ok ss) ↔ AreSources v := by
          simp only [mapError_eq_ok_iff, exists_sourcesOf_iff]
        have hread : (∃ w, (.ok (some v) : Except Defect (Option Json)) = .ok (some w) ∧ AreSources w) ↔ AreSources v := by
          simp
        exact hsources.trans hread.symm

theorem environmentSources_eq_defect_iff :
    environmentSources env calls = .error (.defect d) ↔ DeepEnvironment env calls d := by
  rw [environmentSources, DeepEnvironment]
  cases env.get? "KNOWLEDGE_SOURCES" with
  | none => exact iff_of_false nofun (by rintro ⟨text, ⟨⟩, -⟩)
  | some text =>
    simp only [Option.some.injEq, exists_eq_left']
    cases Json.loads text calls with
    | error e =>
      constructor
      · rintro ⟨⟩
        rfl
      · rintro ⟨⟩
        rfl
    | ok read =>
      refine iff_of_false ?_ nofun
      cases read with
      | none => nofun
      | some v =>
        intro h
        have hmap : (sourcesOf v).mapError ConfigFault.invalid = .error (.defect d) := h
        cases hv : sourcesOf v <;> simp [hv, Except.mapError] at hmap

theorem Accepted.not_deepEnvironment (h : Accepted env calls v) : ¬DeepEnvironment env calls d := by
  rintro ⟨text, htext, hloads⟩
  obtain ⟨w, hw, -⟩ := h.environment text htext
  rw [hloads] at hw
  cases hw

theorem ofName?_eq_some_iff {s : String} : Cypher.SpatialPolicy.ofName? s = some p ↔ s = p.name := by
  constructor
  · intro h
    unfold Cypher.SpatialPolicy.ofName? at h
    split at h <;> cases h <;> rfl
  · rintro rfl
    cases p <;> rfl

theorem policyOf_eq_ok_iff : policyOf v = .ok p ↔ v = .text p.name := by
  cases v with
  | text s =>
    rw [policyOf, Json.text.injEq, ← ofName?_eq_some_iff]
    cases Cypher.SpatialPolicy.ofName? s <;> simp
  | _ => exact iff_of_false nofun nofun

theorem logLevelOf_of_not_text (h : ∀ s, v ≠ .text s) : logLevelOf v = .error (.missingMember v.typeName "upper") := by
  cases v with
  | text s => exact absurd rfl (h s)
  | _ => rfl

theorem settings_of_file {content : List UInt8} (h : files (place path env).1 = .file content) :
    settings path env files calls = section? (place path env).1 content calls := by
  rw [settings]
  simp only [h]

theorem settings_of_directory (h : files (place path env).1 = .directory) :
    settings path env files calls = .error (.defect
      (.foreign "IsADirectoryError" s!"[Errno 21] Is a directory: {Text.quoted (place path env).1}")) := by
  rw [settings]
  simp only [h]

theorem settings_of_missing (h : files (place path env).1 = .missing) : settings path env files calls =
    if (place path env).2 then .error (.invalid (.fileMissing (place path env).1)) else .ok (.object []) := by
  rw [settings]
  simp only [h]

theorem section?_eq_ok_iff {name : String} {content : List UInt8} : section? name content calls = .ok v ↔
    ∃ text ms, Text.Utf8.decode content = some text ∧ Json.loads text calls = .ok (some (.object ms)) ∧
      v = ((Json.object ms).get "provider-knowledge").truthy?.getD (.object []) := by
  rw [section?]
  cases Text.Utf8.decode content with
  | none => simp
  | some text =>
    simp only [Option.some.injEq, exists_and_left, exists_eq_left']
    cases Json.loads text calls with
    | error e => exact iff_of_false nofun (by rintro ⟨ms, ⟨⟩, -⟩)
    | ok read =>
      rcases read with _ | w
      · exact iff_of_false nofun (by rintro ⟨ms, ⟨⟩, -⟩)
      · cases w with
        | object ms =>
          constructor
          · rintro ⟨⟩
            exact ⟨ms, rfl, rfl⟩
          · rintro ⟨ms, ⟨⟩, rfl⟩
            rfl
        | _ => exact iff_of_false nofun (by rintro ⟨ms, ⟨⟩, -⟩)

theorem section?_eq_defect_iff {name : String} {content : List UInt8} : section? name content calls =
    .error (.defect d) ↔
      ∃ text, Text.Utf8.decode content = some text ∧ Json.loads text calls = .error d := by
  rw [section?]
  cases Text.Utf8.decode content with
  | none => simp
  | some text =>
    simp only [Option.some.injEq, exists_eq_left']
    cases Json.loads text calls with
    | error e =>
      constructor
      · rintro ⟨⟩
        rfl
      · rintro ⟨⟩
        rfl
    | ok read =>
      refine iff_of_false ?_ nofun
      rcases read with _ | _ | _ | _ | _ | _ | _ | _ <;> nofun

theorem settings_eq_ok_iff : settings path env files calls = .ok v ↔ Found path env files calls v := by
  cases hfile : files (place path env).1 with
  | file content =>
    rw [settings_of_file hfile, section?_eq_ok_iff]
    constructor
    · rintro ⟨text, ms, hdecode, hloads, rfl⟩
      exact .file hfile hdecode hloads
    · intro h
      cases h with
      | missing hmissing _ => simp [hfile] at hmissing
      | file hfile' hdecode hloads =>
        obtain rfl := FileState.file.inj (hfile.symm.trans hfile')
        exact ⟨_, _, hdecode, hloads, rfl⟩
  | directory =>
    rw [settings_of_directory hfile]
    refine iff_of_false nofun fun h => ?_
    cases h with
    | missing hmissing _ => simp [hfile] at hmissing
    | file hfile' _ _ => simp [hfile] at hfile'
  | missing =>
    rw [settings_of_missing hfile]
    split
    · next hasked =>
      refine iff_of_false nofun fun h => ?_
      cases h with
      | missing _ hasked' => simp [hasked] at hasked'
      | file hfile' _ _ => simp [hfile] at hfile'
    · next hasked =>
      constructor
      · rintro ⟨⟩
        exact .missing hfile (by simpa using hasked)
      · intro h
        cases h with
        | missing _ _ => rfl
        | file hfile' _ _ => simp [hfile] at hfile'

/-- Settings are found, or are refused, or the path is a directory or that of a file that is not read to its end. -/
theorem settings_eq_defect_iff : settings path env files calls = .error (.defect d) ↔
    (files (place path env).1 = .directory ∧
      d = .foreign "IsADirectoryError" s!"[Errno 21] Is a directory: {Text.quoted (place path env).1}") ∨
    ∃ content text, files (place path env).1 = .file content ∧ Text.Utf8.decode content = some text ∧
      Json.loads text calls = .error d := by
  cases hfile : files (place path env).1 with
  | file content =>
    rw [settings_of_file hfile, section?_eq_defect_iff]
    simp
  | directory =>
    rw [settings_of_directory hfile]
    simp [eq_comm]
  | missing =>
    rw [settings_of_missing hfile]
    split <;> simp

/-! ## Loading -/

theorem load_of_error (h : settings path env files calls = .error f) : load path env files calls = .error f := by
  rw [load, h]
  rfl

theorem load_of_not_object (h : settings path env files calls = .ok v) (hv : ∀ ms, v ≠ .object ms) :
    load path env files calls = .error (.defect (.missingMember v.typeName "get")) := by
  rw [load, h]
  cases v with
  | object ms => exact absurd rfl (hv ms)
  | _ => rfl

/-- The steps from settings that are an object. -/
theorem load_of_object {ms : List (String × Json)} (h : settings path env files calls = .ok (.object ms)) :
    load path env files calls = do
      let fromFile ← (sourcesOf ((Json.object ms).get "sources")).mapError .invalid
      let fromEnvironment ← environmentSources env calls
      let policy ← (policyOf (policySetting env (.object ms))).mapError .invalid
      let logLevel ← (logLevelOf (levelSetting env (.object ms))).mapError .defect
      return {
        sources := Assoc.putAll fromFile fromEnvironment
        logLevel
        policy
        referer := ((Json.object ms).get? "referer").getD (.text defaultReferer) } := by
  rw [load, h]
  rfl

theorem load_of_deepEnvironment {ms : List (String × Json)} (h : settings path env files calls = .ok (.object ms))
    (hsources : AreSources ((Json.object ms).get "sources")) (hd : DeepEnvironment env calls d) :
    load path env files calls = .error (.defect d) := by
  obtain ⟨fromFile, hfile⟩ := exists_sourcesOf_iff.2 hsources
  rw [load_of_object h, hfile, environmentSources_eq_defect_iff.2 hd]
  rfl

/-- Settings that are not accepted are refused, unless the sources of the environment are not read to their end. -/
theorem load_of_not_accepted {ms : List (String × Json)} (h : settings path env files calls = .ok (.object ms))
    (hnot : ¬Accepted env calls (.object ms))
    (hshallow : ∀ d, AreSources ((Json.object ms).get "sources") → ¬DeepEnvironment env calls d) :
    ∃ e, load path env files calls = .error (.invalid e) := by
  rw [load_of_object h]
  cases hfile : sourcesOf ((Json.object ms).get "sources") with
  | error e => exact ⟨e, rfl⟩
  | ok fromFile =>
    cases henv : environmentSources env calls with
    | error e =>
      cases e with
      | invalid e => exact ⟨e, rfl⟩
      | defect d =>
        exact absurd (environmentSources_eq_defect_iff.1 henv) (hshallow d (exists_sourcesOf_iff.1 ⟨_, hfile⟩))
    | ok fromEnvironment =>
      cases hpolicy : policyOf (policySetting env (.object ms)) with
      | error e => exact ⟨e, rfl⟩
      | ok p =>
        exact absurd ⟨⟨ms, rfl⟩, exists_sourcesOf_iff.1 ⟨_, hfile⟩, exists_environmentSources_iff.1 ⟨_, henv⟩, p,
          policyOf_eq_ok_iff.1 hpolicy⟩ hnot

/-- Only the log level decides what becomes of settings that are accepted. -/
theorem load_of_accepted (h : settings path env files calls = .ok v) (hv : Accepted env calls v) :
    ∃ config : String → Config, (∀ level, ∀ p ∈ (config level).sources, p.2.HasUrl) ∧
      load path env files calls = ((logLevelOf (levelSetting env v)).mapError .defect).map config := by
  obtain ⟨ms, rfl⟩ := hv.object
  obtain ⟨fromFile, hfile⟩ := exists_sourcesOf_iff.2 hv.sources
  obtain ⟨fromEnvironment, henv⟩ := exists_environmentSources_iff.2 hv.environment
  obtain ⟨p, hp⟩ := hv.policy
  refine ⟨fun logLevel => {
    sources := Assoc.putAll fromFile fromEnvironment
    logLevel
    policy := p
    referer := ((Json.object ms).get? "referer").getD (.text defaultReferer) }, fun _ source hsource => ?_, ?_⟩
  · rcases Assoc.mem_putAll hsource with hsource | hsource
    · exact sourcesOf_delivers _ _ hfile source hsource
    · exact environmentSources_delivers _ _ _ henv source hsource
  · rw [load_of_object h, hfile, henv, policyOf_eq_ok_iff.2 hp]
    cases logLevelOf (levelSetting env (.object ms)) <;> rfl

theorem load_of_level {level : String} (h : settings path env files calls = .ok v) (hv : Accepted env calls v)
    (hlevel : levelSetting env v = .text level) :
    ∃ c, load path env files calls = .ok c ∧ ∀ p ∈ c.sources, p.2.HasUrl := by
  obtain ⟨config, hurls, hload⟩ := load_of_accepted h hv
  refine ⟨config (Text.upper level), ?_, hurls _⟩
  rw [hload, hlevel]
  rfl

theorem load_of_not_level (h : settings path env files calls = .ok v) (hv : Accepted env calls v)
    (hlevel : ∀ level, levelSetting env v ≠ .text level) :
    load path env files calls = .error (.defect (.missingMember (levelSetting env v).typeName "upper")) := by
  obtain ⟨config, -, hload⟩ := load_of_accepted h hv
  rw [hload, logLevelOf_of_not_text hlevel]
  rfl

theorem escapes_iff_of_error (h : settings path env files calls = .error f) :
    Escapes path env files calls d ↔ f = .defect d := by
  constructor
  · intro he
    cases he with
    | directory hfile =>
      rw [settings_eq_defect_iff.2 (.inl ⟨hfile, rfl⟩)] at h
      exact (Except.error.inj h).symm
    | deepFile hfile hdecode hloads =>
      rw [settings_eq_defect_iff.2 (.inr ⟨_, _, hfile, hdecode, hloads⟩)] at h
      exact (Except.error.inj h).symm
    | settings hfound _ | logLevel hfound _ _ | deepEnvironment hfound _ _ _ =>
      rw [settings_eq_ok_iff.2 hfound] at h
      cases h
  · rintro rfl
    rcases settings_eq_defect_iff.1 h with ⟨hfile, rfl⟩ | ⟨content, text, hfile, hdecode, hloads⟩
    · exact .directory hfile
    · exact .deepFile hfile hdecode hloads

theorem escapes_iff_of_ok (h : settings path env files calls = .ok v) : Escapes path env files calls d ↔
    (∀ ms, v ≠ .object ms) ∧ d = .missingMember v.typeName "get" ∨
      ((∃ ms, v = .object ms) ∧ AreSources (v.get "sources") ∧ DeepEnvironment env calls d) ∨
      Accepted env calls v ∧ (∀ s, levelSetting env v ≠ .text s) ∧
        d = .missingMember (levelSetting env v).typeName "upper" := by
  constructor
  · intro he
    cases he with
    | directory hfile =>
      rw [settings_eq_defect_iff.2 (.inl ⟨hfile, rfl⟩)] at h
      cases h
    | deepFile hfile hdecode hloads =>
      rw [settings_eq_defect_iff.2 (.inr ⟨_, _, hfile, hdecode, hloads⟩)] at h
      cases h
    | settings hfound hv =>
      rw [settings_eq_ok_iff.2 hfound] at h
      cases h
      exact .inl ⟨hv, rfl⟩
    | deepEnvironment hfound hv hsources hd =>
      rw [settings_eq_ok_iff.2 hfound] at h
      cases h
      exact .inr (.inl ⟨⟨_, hv⟩, hsources, hd⟩)
    | logLevel hfound hv hlevel =>
      rw [settings_eq_ok_iff.2 hfound] at h
      cases h
      exact .inr (.inr ⟨hv, hlevel, rfl⟩)
  · rintro (⟨hv, rfl⟩ | ⟨⟨ms, hv⟩, hsources, hd⟩ | ⟨hv, hlevel, rfl⟩)
    · exact .settings (settings_eq_ok_iff.1 h) hv
    · exact .deepEnvironment (settings_eq_ok_iff.1 h) hv hsources hd
    · exact .logLevel (settings_eq_ok_iff.1 h) hv hlevel

theorem exists_found_iff_of_ok {P : Json → Prop} (h : settings path env files calls = .ok v) :
    (∃ w, Found path env files calls w ∧ P w) ↔ P v := by
  simp only [← settings_eq_ok_iff, h, Except.ok.injEq, exists_eq_left']

end Settings

/-- There is a configuration exactly where settings are found that are accepted and whose log level is a text; its
sources have URLs, and its policy has one of two names. Otherwise an invalid configuration is refused, unless settings
are no object or the log level of settings that are accepted is no text, or the path is a directory, or the file or the
sources of the environment are not read to their end. -/
theorem load_fails_as (path : Option String) (env : Environment) (files : String → FileState) (calls : Nat) :
    (∀ c, load path env files calls = .ok c →
      (∀ p ∈ c.sources, p.2.HasUrl) ∧ (c.policy.name = "skip" ∨ c.policy.name = "raise")) ∧
    ((∃ c, load path env files calls = .ok c) ↔
      ∃ v, Found path env files calls v ∧ Accepted env calls v ∧ ∃ s, levelSetting env v = .text s) ∧
    ∀ d, load path env files calls = .error (.defect d) ↔ Escapes path env files calls d := by
  have hpolicy (p : Cypher.SpatialPolicy) : p.name = "skip" ∨ p.name = "raise" := by
    cases p <;> simp [Cypher.SpatialPolicy.name]
  cases h : settings path env files calls with
  | error f =>
    rw [load_of_error h]
    refine ⟨nofun, iff_of_false nofun ?_, fun d => ?_⟩
    · rintro ⟨v, hfound, -⟩
      rw [settings_eq_ok_iff.2 hfound] at h
      cases h
    · rw [escapes_iff_of_error h, Except.error.injEq]
  | ok v =>
    simp only [exists_found_iff_of_ok h, escapes_iff_of_ok h]
    by_cases haccepted : Accepted env calls v
    · obtain ⟨ms, rfl⟩ := haccepted.object
      have hshallow (d : Defect) : ¬DeepEnvironment env calls d := haccepted.not_deepEnvironment
      by_cases hlevel : ∃ level, levelSetting env (.object ms) = .text level
      · obtain ⟨level, hlevel⟩ := hlevel
        obtain ⟨c, hload, hurls⟩ := load_of_level h haccepted hlevel
        simpa [hload, haccepted, hlevel, hpolicy, hshallow] using hurls
      · rw [not_exists] at hlevel
        simp [load_of_not_level h haccepted hlevel, haccepted, hlevel, hshallow, eq_comm]
    · by_cases hobject : ∃ ms, v = .object ms
      · obtain ⟨ms, rfl⟩ := hobject
        by_cases hdeep : AreSources ((Json.object ms).get "sources") ∧ ∃ d, DeepEnvironment env calls d
        · obtain ⟨hsources, d, text, htext, hloads⟩ := hdeep
          have hload := load_of_deepEnvironment h hsources ⟨text, htext, hloads⟩
          simp [hload, haccepted, hsources, DeepEnvironment, htext, hloads]
        · obtain ⟨e, he⟩ := load_of_not_accepted h haccepted fun d hsources hd => hdeep ⟨hsources, d, hd⟩
          have hnone (d : Defect) : AreSources ((Json.object ms).get "sources") → ¬DeepEnvironment env calls d :=
            fun hsources hd => hdeep ⟨hsources, d, hd⟩
          simpa [he, haccepted] using hnone
      · rw [not_exists] at hobject
        simp [load_of_not_object h hobject, haccepted, hobject, eq_comm]

/-- Settings that are a list are neither taken nor refused as invalid ones. -/
theorem load_of_list :
    let files : String → FileState := fun _ =>
      .file (Text.Utf8.encode "\x7b\"provider-knowledge\": [1]\x7d")
    ¬((∃ c, load (some "c.json") [] files = .ok c) ∨ ∃ e, load (some "c.json") [] files = .error (.invalid e)) := by
  intro files
  have hsettings : (settings (some "c.json") [] files).toOption.any (·.typeName == "list") := by
    decide +kernel
  obtain ⟨v, hsettings, htype⟩ := exists_of_any_toOption hsettings
  have hv : ∀ ms, v ≠ .object ms := by
    rintro ms rfl
    simp [Json.typeName] at htype
  simp [load_of_not_object hsettings hv]

end Config
end FeatureGraph
