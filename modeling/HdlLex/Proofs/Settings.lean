import HdlLex.Config.Document
import HdlLex.Proofs.Builtin

/-!
# Settings — configuration documents

Every switch of a configuration has a key and a way to write its value. From a
document that sets some of the switches, each on a line of its own, any library
that keeps the laws reads the defaults with these values in place of theirs,
whatever the order of the lines. What it writes for a configuration sets all of
them, so that it is read back.

* `Setting` — a switch with a value, `Setting.set` the configuration that has it.
* `Setting.document` — the document of some settings.
* `Config.settings` — all that a configuration sets.
* `Config.ofSettings` — the defaults overridden by settings.

Main results:

* `Setting.describes_document` — the table that a document of settings describes.
* `Setting.mem_settings_foldl` — what a configuration holds once some switches
  are set.
* `Setting.foldl_set_perm` — distinct switches can be set in any order.
* `Config.isIn_record` — which configuration is in the table of some settings.
* `config_documents_exact` — what documents of settings describe, and that
  what is written is read back.
-/

namespace HdlLex

open Toml

/-- A switch of a configuration with the value that it is given. -/
inductive Setting where
  | unknownChars (policy : UnknownPolicy)
  | nestedComments (nested : Bool)
  | maxCommentDepth (depth : UInt32)
  | unicodeWords (wider : Bool)
  | skipMark (skipped : Bool)
  deriving DecidableEq, Repr

namespace Setting

/-- The key of the switch in documents. -/
def key : Setting → String
  | unknownChars _ => "unknown_chars"
  | nestedComments _ => "nested_block_comments"
  | maxCommentDepth _ => "max_comment_depth"
  | unicodeWords _ => "unicode_identifiers"
  | skipMark _ => "skip_bom"

/-- The value of the switch as documents write it. -/
def valueText : Setting → String
  | unknownChars policy => "\"" ++ policy.name ++ "\""
  | nestedComments nested => toString nested
  | maxCommentDepth depth => toString depth.toNat
  | unicodeWords wider => toString wider
  | skipMark skipped => toString skipped

/-- The line that gives the switch its value, up to its end. -/
def line (setting : Setting) : String := setting.key ++ " = " ++ setting.valueText

/-- The lines of settings one after another; the last one is `closed` by a line feed or not. -/
def document (closed : Bool) : List Setting → String
  | [] => ""
  | [last] => last.line ++ if closed then "\n" else ""
  | first :: next :: later => first.line ++ "\n" ++ document closed (next :: later)

/-- The configuration with the switch set to its value. -/
def set (config : Config) : Setting → Config
  | unknownChars policy => { config with unknownChars := policy }
  | nestedComments nested => { config with nestedComments := nested }
  | maxCommentDepth depth => { config with maxCommentDepth := depth }
  | unicodeWords wider => { config with unicodeWords := wider }
  | skipMark skipped => { config with skipMark := skipped }

/-- What a document holds of the value. -/
def value : Setting → Scalar
  | unknownChars policy => .string policy.name
  | nestedComments nested => .boolean nested
  | maxCommentDepth depth => .integer depth.toNat
  | unicodeWords wider => .boolean wider
  | skipMark skipped => .boolean skipped

/-- The line as one of a key and a value. -/
def assignment (setting : Setting) : Assignment :=
  ⟨setting.key.toList, setting.valueText.toList, setting.value⟩

/-- What a table holds of the switch. -/
def pair (setting : Setting) : String × Scalar := (setting.key, setting.value)

end Setting

/-- All that a configuration sets, in the order in which it is written. -/
def Config.settings (config : Config) : List Setting :=
  [.unknownChars config.unknownChars, .nestedComments config.nestedComments,
    .maxCommentDepth config.maxCommentDepth, .unicodeWords config.unicodeWords,
    .skipMark config.skipMark]

/-- The defaults overridden by settings. -/
def Config.ofSettings (settings : List Setting) : Config := settings.foldl Setting.set {}

-- ---------------------------------------------------------------------------
-- Lines of settings
-- ---------------------------------------------------------------------------

namespace Setting

theorem notates_bool (b : Bool) : Notates (toString b).toList (.boolean b) := by
  cases b with
  | false => exact .ofFalse
  | true => exact .ofTrue

theorem isPlain_assignment (setting : Setting) : setting.assignment.IsPlain where
  key_ne_nil := by cases setting <;> dsimp only [assignment, key] <;> decide
  isBareKeyChar := by cases setting <;> dsimp only [assignment, key] <;> decide
  notates := by
    cases setting with
    | unknownChars policy => exact notates_quoted (by cases policy <;> decide)
    | nestedComments nested => exact notates_bool nested
    | maxCommentDepth depth => exact notates_toString (Nat.lt_trans depth.toNat_lt (by decide))
    | unicodeWords wider => exact notates_bool wider
    | skipMark skipped => exact notates_bool skipped

theorem toList_line (setting : Setting) : setting.line.toList = setting.assignment.line := by
  rw [line, String.toList_append, String.toList_append, List.append_assoc]
  rfl

theorem toList_document (closed : Bool) (settings : List Setting) :
    (document closed settings).toList = Assignment.document closed (settings.map assignment) := by
  induction settings with
  | nil => rfl
  | cons first later ih =>
    cases later with
    | nil =>
      rw [document, String.toList_append, toList_line]
      cases closed with
      | false => rfl
      | true => rfl
    | cons next later =>
      rw [document, String.toList_append, String.toList_append, toList_line, ih, List.append_assoc]
      rfl

/-- A document of distinct switches describes the table of their values. -/
theorem describes_document (closed : Bool) {settings : List Setting}
    (hDistinct : (settings.map key).Nodup) :
    Describes (document closed settings) (settings.map pair) := by
  have hPlain : ∀ a ∈ settings.map assignment, a.IsPlain :=
    List.forall_mem_map.2 fun setting _ => setting.isPlain_assignment
  have hKeys : ((settings.map assignment).map Assignment.key).Nodup := by
    have hLists : (settings.map assignment).map Assignment.key =
        (settings.map key).map String.toList := by
      rw [List.map_map, List.map_map]
      rfl
    rw [hLists]
    exact hDistinct.map fun _ _ => String.toList_injective
  have hPairs : (settings.map assignment).map Assignment.pair = settings.map pair := by
    rw [List.map_map]
    refine List.map_congr_left fun setting _ => ?_
    rw [Function.comp_apply, Assignment.pair, assignment, String.ofList_toList, pair]
  have hDescribes := Describes.ofLines closed hPlain hKeys
  rw [← toList_document, String.ofList_toList, hPairs] at hDescribes
  exact hDescribes

end Setting

-- ---------------------------------------------------------------------------
-- Settings of a configuration
-- ---------------------------------------------------------------------------

namespace Setting

/-- A switch that is set has its value, and all others are as they were. -/
theorem mem_settings_set (config : Config) (first setting : Setting) :
    setting ∈ (first.set config).settings ↔
      setting = first ∨ setting.key ≠ first.key ∧ setting ∈ config.settings := by
  cases first <;> cases setting <;> simp [Config.settings, set, key]

/-- Distinct switches have the values that they are set to, and all others are as they were. -/
theorem mem_settings_foldl {settings : List Setting} (hDistinct : (settings.map key).Nodup)
    (config : Config) (setting : Setting) :
    setting ∈ (settings.foldl set config).settings ↔
      setting ∈ settings ∨ setting.key ∉ settings.map key ∧ setting ∈ config.settings := by
  induction settings generalizing config with
  | nil => simp
  | cons first later ih =>
    rw [List.map_cons, List.nodup_cons] at hDistinct
    have hFirst : setting = first → setting.key ∉ later.map key := by
      rintro rfl
      exact hDistinct.1
    rw [List.foldl_cons, ih hDistinct.2, mem_settings_set, List.map_cons, List.mem_cons,
      List.mem_cons]
    tauto

/-- Distinct switches do not disturb each other. -/
theorem set_comm {first second : Setting} (h : first.key ≠ second.key) (config : Config) :
    second.set (first.set config) = first.set (second.set config) := by
  cases first <;> cases second <;> first | rfl | exact absurd rfl h

theorem foldl_set_perm {settings others : List Setting} (hPerm : settings.Perm others)
    (hDistinct : (settings.map key).Nodup) (config : Config) :
    settings.foldl set config = others.foldl set config := by
  refine hPerm.foldl_eq' (fun first hFirst second hSecond config => ?_) config
  by_cases hKey : first.key = second.key
  · rw [List.inj_on_of_nodup_map hDistinct hFirst hSecond hKey]
  · exact set_comm hKey config

end Setting

-- ---------------------------------------------------------------------------
-- Tables of settings
-- ---------------------------------------------------------------------------

/-- The value of a switch that is set. -/
theorem Setting.lookup_eq_some {settings : List Setting} {setting : Setting}
    (hDistinct : (settings.map key).Nodup) (h : setting ∈ settings) :
    (settings.map pair).lookup setting.key = some setting.value := by
  induction settings with
  | nil => cases h
  | cons first later ih =>
    rw [List.map_cons, List.nodup_cons] at hDistinct
    rw [List.map_cons, pair, List.lookup_cons]
    obtain rfl | hLater := List.mem_cons.1 h
    · rw [beq_self_eq_true]
    · have hOther : setting.key ≠ first.key := fun hSame =>
        hDistinct.1 (hSame ▸ List.mem_map_of_mem hLater)
      rw [beq_eq_false_iff_ne.2 hOther]
      exact ih hDistinct.2 hLater

/-- A table holds no switch that is not set. -/
theorem Setting.lookup_eq_none {settings : List Setting} {setting : Setting}
    (h : setting.key ∉ settings.map key) : (settings.map pair).lookup setting.key = none := by
  refine List.lookup_eq_none_iff.2 fun entry hEntry => ?_
  obtain ⟨other, hMem, rfl⟩ := List.mem_map.1 hEntry
  rw [bne_iff_ne]
  exact fun hSame => h (hSame ▸ List.mem_map_of_mem hMem)

namespace Config

variable {settings : List Setting} {config : Config}

/-- The members of a configuration are distinct and need no escapes. -/
theorem arePlain_members : arePlain members = true := by decide

theorem map_pair_settings (config : Config) :
    config.settings.map Setting.pair = config.record.table := by
  rw [settings, record]
  simp only [Record.table, Kind.scalar, UnknownPolicy.get_names]
  rfl

/-- A switch has its value in the table, or its default where it is not set. -/
theorem isIn_member (hDistinct : (settings.map Setting.key).Nodup) {setting : Setting}
    (h : setting ∈ settings ∨
      setting.key ∉ settings.map Setting.key ∧ setting ∈ ({} : Config).settings)
    {member : Member} {data : member.kind.Data} (hKey : setting.key = member.key)
    (hValue : setting.value = member.kind.scalar data)
    (hDefault : setting ∈ ({} : Config).settings → data = member.default) :
    member.IsIn (settings.map Setting.pair) data := by
  rw [Member.IsIn, ← hKey]
  obtain hMem | ⟨hNew, hMem⟩ := h
  · rw [Setting.lookup_eq_some hDistinct hMem]
    exact hValue
  · rw [Setting.lookup_eq_none hNew]
    exact hDefault hMem

/-- A configuration is in the table of settings if it has these values, and its defaults else. -/
theorem isIn_record (hDistinct : (settings.map Setting.key).Nodup)
    (h : ∀ setting ∈ config.settings, setting ∈ settings ∨
      setting.key ∉ settings.map Setting.key ∧ setting ∈ ({} : Config).settings) :
    config.record.IsIn (settings.map Setting.pair) := by
  simp only [Config.settings, List.forall_mem_cons] at h
  obtain ⟨hPolicy, hNested, hDepth, hWords, hMark, -⟩ := h
  have hName : Setting.value (.unknownChars config.unknownChars) =
      Kind.scalar (.choice UnknownPolicy.names) config.unknownChars.index :=
    congrArg Scalar.string (UnknownPolicy.get_names _).symm
  refine ⟨isIn_member hDistinct hPolicy rfl hName fun hMem => ?_,
    isIn_member hDistinct hNested rfl rfl fun hMem => ?_,
    isIn_member hDistinct hDepth rfl rfl fun hMem => ?_,
    isIn_member hDistinct hWords rfl rfl fun hMem => ?_,
    isIn_member hDistinct hMark rfl rfl fun hMem => ?_, trivial⟩
  · have hDefault : config.unknownChars = default := by simpa [Config.settings] using hMem
    rw [hDefault]
  · have hDefault : config.nestedComments = false := by simpa [Config.settings] using hMem
    exact hDefault
  · have hDefault : config.maxCommentDepth = defaultMaxCommentDepth := by
      simpa [Config.settings] using hMem
    exact hDefault
  · have hDefault : config.unicodeWords = false := by simpa [Config.settings] using hMem
    exact hDefault
  · have hDefault : config.skipMark = true := by simpa [Config.settings] using hMem
    exact hDefault

end Config

-- ---------------------------------------------------------------------------
-- Configurations as documents
-- ---------------------------------------------------------------------------

namespace Config

theorem validate_eq (config : Config) : config.validate =
    if 1 ≤ config.maxCommentDepth then .ok ()
    else .error (.invalid "max_comment_depth must be at least 1") := by
  rw [validate]
  by_cases hDepth : config.maxCommentDepth = 0
  · rw [if_pos hDepth, hDepth]
    rfl
  · rw [if_neg hDepth, if_pos]
    exact UInt32.pos_iff_ne_zero.2 hDepth

section Documents

variable {library : Library}

/-- What is read from a document is valid. -/
theorem validate_of_ofToml {text : String} {config : Config}
    (h : ofToml library text = .ok config) : config.validate = .ok () := by
  rw [ofToml] at h
  split at h
  · cases h
  · rename_i record hRecord
    cases hValid : (ofRecord record).validate with
    | error e =>
      rw [hValid] at h
      cases h
    | ok u =>
      rw [hValid] at h
      cases h
      exact hValid

variable (hLibrary : library.Conforms)
include hLibrary

/-- The configuration in a table is read from the documents that the table describes. -/
theorem ofToml_of_describes {text : String} {table : List (String × Scalar)} {config : Config}
    (h : Describes text table) (hIn : config.record.IsIn table) :
    ofToml library text = config.validate.map fun () => config := by
  rw [ofToml, hLibrary.read_described arePlain_members h hIn]
  dsimp only
  rw [ofRecord_record]

/-- The configuration that a document of distinct settings describes. -/
theorem ofToml_document {settings : List Setting} (hDistinct : (settings.map Setting.key).Nodup)
    (closed : Bool) : ofToml library (Setting.document closed settings) =
      (ofSettings settings).validate.map fun () => ofSettings settings := by
  refine ofToml_of_describes hLibrary (Setting.describes_document closed hDistinct) ?_
  exact isIn_record hDistinct fun setting => (Setting.mem_settings_foldl hDistinct {} setting).1

/-- Every configuration is written, and read back from that if it is valid. -/
theorem exists_toToml (config : Config) : ∃ text, config.toToml library = .ok text ∧
    ofToml library text = config.validate.map fun () => config := by
  obtain ⟨text, hText, hDescribes⟩ := hLibrary.write_describes config.record arePlain_members
  refine ⟨text, by rw [toToml, hText], ofToml_of_describes hLibrary hDescribes ?_⟩
  have hDistinct : (config.settings.map Setting.key).Nodup := by
    change ["unknown_chars", "nested_block_comments", "max_comment_depth", "unicode_identifiers",
      "skip_bom"].Nodup
    decide
  rw [← map_pair_settings]
  exact isIn_record hDistinct fun _ => .inl

end Documents

end Config

end HdlLex
