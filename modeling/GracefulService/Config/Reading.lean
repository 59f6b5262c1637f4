import GracefulService.Config.Decoding
import GracefulService.Config.Validation
import GracefulService.Toml.Reader

/-!
# Reading a configuration

A configuration is read from the text of a file: the text has to be TOML, its values those of a
configuration, and the configuration sound.
-/

namespace GracefulService

/-- Why a file could not be read. -/
inductive FileFault where
  /-- There is no such file. -/
  | missing
  /-- The file is a directory. -/
  | directory
  /-- The file holds no text. -/
  | notText
deriving DecidableEq, Repr, Inhabited

namespace FileFault

/-- A fault in words. -/
def message : FileFault → String
  | missing => "No such file or directory (os error 2)"
  | directory => "Is a directory (os error 21)"
  | notText => "stream did not contain valid UTF-8"

/-- A fault with the names of its parts. -/
def record : FileFault → String
  | missing =>
    "Os \x7b code: 2, kind: NotFound, message: \"No such file or directory\" \x7d"
  | directory => "Os \x7b code: 21, kind: IsADirectory, message: \"Is a directory\" \x7d"
  | notText => "Error \x7b kind: InvalidData, message: \"stream did not contain valid UTF-8\" \x7d"

end FileFault

/-- Why there is no configuration. -/
inductive ConfigFault where
  /-- The file could not be read. -/
  | file (fault : FileFault)
  /-- The text is not the text of a configuration. -/
  | unreadable
  /-- The configuration is not sound. -/
  | unsound (issues : List Issue)
deriving DecidableEq, Repr, Inhabited

namespace ConfigFault

/-- A fault in words, where it has any that do not change. -/
def message? : ConfigFault → Option String
  | file fault => some ("IO error: " ++ fault.message)
  | unreadable => none
  | unsound issues => some (Config.issuesMessage issues)

/-- A fault with the names of its parts. -/
def record : ConfigFault → String
  | file fault => "Io(" ++ fault.record ++ ")"
  | unreadable => "Parse"
  | unsound issues => "Validation([" ++ ", ".intercalate (issues.map Issue.record) ++ "])"

end ConfigFault

namespace Config

/-- The configuration itself, when it is sound. -/
def checked (config : Config) : Except ConfigFault Config :=
  if config.issues.isEmpty then .ok config else .error (.unsound config.issues)

/-- The configuration that a text holds, sound or not. -/
def ofText? (text : String) : Option Config := do
  Config.decode? .ignored (← Toml.read? text)

/-- Reads a sound configuration from a text. -/
def read (text : String) : Except ConfigFault Config :=
  match ofText? text with
  | some config => config.checked
  | none => .error .unreadable

/-- Reads a sound configuration from a file, given what came of reading the file. -/
def load (contents : Except FileFault ByteArray) : Except ConfigFault Config :=
  match contents with
  | .error fault => .error (.file fault)
  | .ok bytes =>
    match String.fromUTF8? bytes with
    | some text => read text
    | none => .error (.file .notText)

end Config

end GracefulService
