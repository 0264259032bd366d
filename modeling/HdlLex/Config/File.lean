import HdlLex.Config.Document

/-!
# Config — read from a file

What a file holds is given from outside, so that reading a configuration
from it is a function of its path and its content.

* `FileContent` — what is found under a path.
* `Config.ofFile` — the configuration in a file, or the error.
-/

namespace HdlLex

/-- What is found under a path. -/
inductive FileContent where
  | missing
  | directory
  | bytes (content : ByteArray)

/-- The text of a file, or why there is none. -/
def FileContent.text : FileContent → Except String String
  | .missing => .error "No such file or directory (os error 2)"
  | .directory => .error "Is a directory (os error 21)"
  | .bytes content =>
    match String.fromUTF8? content with
    | some text => .ok text
    | none => .error "stream did not contain valid UTF-8"

/-- The valid configuration in a file. -/
def Config.ofFile (library : Toml.Library) (path : String) (content : FileContent) :
    Except ConfigError Config :=
  match content.text with
  | .ok text => Config.ofToml library text
  | .error reason => .error (.unreadable path reason)

end HdlLex
