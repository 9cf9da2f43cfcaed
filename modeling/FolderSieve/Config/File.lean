import FolderSieve.Config.Domain
import FolderSieve.Json.Reader
import FolderSieve.Text.Line
import FolderSieve.Text.Utf8

/-!
# Configuration — files

A configuration file is UTF-8 text, JSON once its line breaks are made alike, and a configuration.
`decode` names the first of the three that fails.
-/

namespace FolderSieve.Config.File

/-- Why a file is not a configuration. -/
inductive Fault where
  | notUtf8 (fault : Text.Utf8.Fault)
  /-- The text says what JSON lacks, and where. -/
  | notJson (text : String)
  | mistaken (e : Error)
  deriving DecidableEq, Repr

/-- The domains that the content of a file describes. -/
def decode (content : List UInt8) : Except Fault (List Domain) :=
  match Text.Utf8.decode content with
  | .error fault => .error (.notUtf8 fault)
  | .ok text =>
      let text := Text.unifyBreaks text
      match Json.read text with
      | .error fault => .error (.notJson (fault.message text))
      | .ok v => (Domain.decodeAll v).mapError .mistaken

end FolderSieve.Config.File
