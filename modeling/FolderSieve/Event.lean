import FolderSieve.Options

/-!
# Events

What a run of the program reports besides its result, in the order in which it happens.
-/

namespace FolderSieve

inductive Level where
  | info
  | warning
  | error
  deriving DecidableEq, Repr

namespace Level

def name : Level → String
  | .info => "INFO"
  | .warning => "WARNING"
  | .error => "ERROR"

end Level

inductive Event where
  | loaded (path : String) (domains : Nat)
  | preambleMissing (path : String)
  /-- A filter of the catch-all folder writes an option that cannot hold there. -/
  | optionsIgnored (folder : String) (written : Override)
  | compiled (domain : String) (custom generic : Nat)
  | wrote (bytes : Nat) (path : String)
  | writeFailed (path : String)
  deriving DecidableEq, Repr

namespace Event

def level : Event → Level
  | .loaded .. | .preambleMissing _ | .compiled .. | .wrote .. => .info
  | .optionsIgnored .. => .warning
  | .writeFailed _ => .error

/-- An option as a message shows it. -/
def optionText : Option Bool → String
  | none => "None"
  | some true => "True"
  | some false => "False"

def message : Event → String
  | .loaded path domains => s!"Loaded sieve config from {path}: {domains} domain(s)"
  | .preambleMissing path => s!"Prefix file not found at {path}, using empty prefix"
  | .optionsIgnored folder written =>
      s!"Folder {folder} is under Unknown: ignoring generic={optionText written.generic} " ++
        s!"silent={optionText written.silent}"
  | .compiled domain custom generic =>
      s!"Compiled @{domain}: {custom} custom filter(s), {generic} generic filter(s)"
  | .wrote bytes path => s!"Wrote {bytes} byte(s) to {path}"
  | .writeFailed path => s!"Writing {path} failed"

end Event

end FolderSieve
