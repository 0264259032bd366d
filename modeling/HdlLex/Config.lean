/-!
# Config — how a text is to be read

* `UnknownPolicy` — what becomes of a character that begins no token.
* `Config` — the switches, each with a default.
* `ConfigError` — why a configuration cannot be used.
* `Config.validate` — the one condition on the values.
-/

namespace HdlLex

/-- What becomes of a character that begins no token. -/
inductive UnknownPolicy where
  /-- It becomes a token of its own, with a warning. -/
  | passThrough
  /-- It is an error. -/
  | fatal
  deriving DecidableEq, Repr, Inhabited

namespace UnknownPolicy

/-- Every policy. -/
def all : List UnknownPolicy := [.passThrough, .fatal]

/-- The name of the policy in configuration documents. -/
def name : UnknownPolicy → String
  | .passThrough => "pass_through"
  | .fatal => "fatal"

end UnknownPolicy

/-- How many block comments may be open at once where nothing else is said. -/
def defaultMaxCommentDepth : UInt32 := 64

/-- How a text is to be read. -/
structure Config where
  unknownChars : UnknownPolicy := default
  /-- Whether a block comment may hold further ones. -/
  nestedComments : Bool := false
  /-- How many block comments may be open at once where they nest. -/
  maxCommentDepth : UInt32 := defaultMaxCommentDepth
  /-- Whether words may hold letters and digits beyond ASCII. -/
  unicodeWords : Bool := false
  /-- Whether a byte-order mark at the beginning is passed over. -/
  skipMark : Bool := true
  deriving DecidableEq, Repr

instance : Inhabited Config := ⟨{}⟩

/-- Why a configuration cannot be used. -/
inductive ConfigError where
  /-- The file cannot be read as text. -/
  | unreadable (path reason : String)
  /-- The document is malformed, or a value in it has the wrong form. -/
  | malformed (reason : String)
  /-- The configuration cannot be written as a document. -/
  | unwritable (reason : String)
  /-- The values cannot be used together with the rules they set. -/
  | invalid (reason : String)
  deriving DecidableEq, Repr

/-- The wording of a configuration error. -/
def ConfigError.message : ConfigError → String
  | .unreadable path reason => "failed to read lexer configuration " ++ path ++ ": " ++ reason
  | .malformed reason => "failed to parse lexer configuration: " ++ reason
  | .unwritable reason => "failed to serialize lexer configuration: " ++ reason
  | .invalid reason => "invalid lexer configuration: " ++ reason

/-- The depth of comments has to be at least one. -/
def Config.validate (config : Config) : Except ConfigError Unit :=
  if config.maxCommentDepth = 0 then .error (.invalid "max_comment_depth must be at least 1")
  else .ok ()

end HdlLex
