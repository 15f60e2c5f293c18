import Highlighter.Buffer.Basic
import Highlighter.Language.Error

/-! What can go wrong with a command. -/
namespace Highlighter.Console

/-- Why a selection of lines means nothing. -/
inductive LineRangeFault where
  | zero
  | notNumber
  | empty
  | reversed
deriving DecidableEq, Repr

def LineRangeFault.message : LineRangeFault → String
  | zero => "line numbers start at 1"
  | notNumber => "not a number"
  | empty => "empty"
  | reversed => "start is after end"

inductive CommandError where
  | configMissing (path : String)
  | configMalformed (fault : Toml.Fault)
  | unreadable (path : String) (fault : FileFault)
  | alreadyThere (path : String)
  | badLineRange (text : String) (fault : LineRangeFault)
  | buffer (error : BufferError)
  | notDirectory (path : String)
  | language (error : LanguageError)
  | files (fault : FileFault)
deriving DecidableEq, Repr

/-- The wording of an error, with the kind of the error in front. -/
def CommandError.message : CommandError → String
  | configMissing path =>
    String.join ["Configuration error: Configuration file not found: ", path]
  | configMalformed fault =>
    String.join ["Configuration error: Failed to parse configuration: ", fault.message]
  | unreadable path fault =>
    String.join ["File operation failed: Cannot read ", path, ": ", fault.message]
  | alreadyThere path =>
    String.join ["File operation failed: ", path, " already exists (use --force to overwrite)"]
  | badLineRange text fault =>
    String.join ["Validation error: Invalid line range '", text, "': ", fault.message]
  | buffer error => String.join ["Validation error: ", error.message]
  | notDirectory path =>
    String.join ["Validation error: Output path is not a directory: ", path]
  | language error => String.join ["Language error: ", error.message]
  | files fault => String.join ["IO error: ", fault.message]

end Highlighter.Console
