import HdlLex.Config
import HdlLex.Toml.Record

/-!
# Config — kept in documents

A configuration is a record with one member for every switch. A library reads
and writes such records; what it reads is validated.

* `Config.members` — the keys of the switches, their kinds and their defaults.
* `Config.record`, `Config.ofRecord` — a configuration as a record, and back.
* `Config.ofToml` — the configuration that a text describes, or the error.
* `Config.toToml` — a text that describes the configuration, or the error.
-/

namespace HdlLex

open Toml

namespace UnknownPolicy

/-- The names of all policies. -/
def names : List String := all.map name

/-- The number of the policy among the names. -/
def index : UnknownPolicy → Fin names.length
  | .passThrough => ⟨0, by decide⟩
  | .fatal => ⟨1, by decide⟩

/-- The policy with a number among the names. -/
def ofIndex (index : Fin names.length) : UnknownPolicy := all.get (index.cast (List.length_map name))

theorem ofIndex_index (policy : UnknownPolicy) : ofIndex policy.index = policy := by
  cases policy <;> rfl

theorem get_names (policy : UnknownPolicy) : names.get policy.index = policy.name := by
  cases policy <;> rfl

end UnknownPolicy

namespace Config

/-- The members of a configuration, each with a default for documents that do not mention it. -/
abbrev members : List Member :=
  [⟨"unknown_chars", .choice UnknownPolicy.names, (default : UnknownPolicy).index⟩,
    ⟨"nested_block_comments", .truth, false⟩,
    ⟨"max_comment_depth", .word, defaultMaxCommentDepth⟩,
    ⟨"unicode_identifiers", .truth, false⟩,
    ⟨"skip_bom", .truth, true⟩]

/-- The configuration as a record. -/
def record (config : Config) : Record members :=
  (config.unknownChars.index, config.nestedComments, config.maxCommentDepth, config.unicodeWords,
    config.skipMark, ())

/-- The configuration that a record holds. -/
def ofRecord : Record members → Config
  | (policy, nestedComments, maxCommentDepth, unicodeWords, skipMark, ()) =>
    { unknownChars := .ofIndex policy, nestedComments, maxCommentDepth, unicodeWords, skipMark }

theorem ofRecord_record (config : Config) : ofRecord config.record = config := by
  show { config with unknownChars := .ofIndex config.unknownChars.index } = config
  rw [UnknownPolicy.ofIndex_index]

/-- The valid configuration that a text describes. -/
def ofToml (library : Library) (text : String) : Except ConfigError Config :=
  match library.read members text with
  | .error reason => .error (.malformed reason)
  | .ok record => (ofRecord record).validate.map fun () => ofRecord record

/-- A text that describes the configuration. -/
def toToml (library : Library) (config : Config) : Except ConfigError String :=
  match library.write members config.record with
  | .error reason => .error (.unwritable reason)
  | .ok text => .ok text

end Config

end HdlLex
