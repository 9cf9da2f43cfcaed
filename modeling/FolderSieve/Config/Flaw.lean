import FolderSieve.Text.Quoted

/-!
# Configuration — flaws

A flaw says what a value is not, and the steps that lead to it from where reading started.  Of all
the flaws of a value one is told: the first of those that concern its meaning, or the first of all
if it only has the wrong form (`Flaw.orElse`).
-/

namespace FolderSieve.Config

/-- What is wrong with a value. -/
inductive Fault where
  | notString
  | notList
  | notDictionary
  | notBoolean
  /-- A whole block is not an object; blocks are known by name. -/
  | notBlock (block : String)
  | unknownKey
  | controlCharacter (text : String)
  | aliasNotBoolean (name : String)
  | aliasContradicts (name option : String)
  deriving DecidableEq, Repr

namespace Fault

/-- The fault concerns the meaning of a value and not its form. -/
def ofMeaning : Fault → Bool
  | .controlCharacter _ | .aliasNotBoolean _ | .aliasContradicts _ _ => true
  | .notString | .notList | .notDictionary | .notBoolean | .notBlock _ | .unknownKey => false

/-- The class of a fault. -/
def code : Fault → String
  | .notString => "string_type"
  | .notList => "list_type"
  | .notDictionary => "dict_type"
  | .notBoolean => "bool_type"
  | .notBlock _ => "model_type"
  | .unknownKey => "extra_forbidden"
  | .controlCharacter _ | .aliasNotBoolean _ | .aliasContradicts _ _ => "value_error"

def message : Fault → String
  | .notString => "Input should be a valid string"
  | .notList => "Input should be a valid list"
  | .notDictionary => "Input should be a valid dictionary"
  | .notBoolean => "Input should be a valid boolean"
  | .notBlock block => s!"Input should be a valid dictionary or instance of {block}"
  | .unknownKey => "Extra inputs are not permitted"
  | .controlCharacter text => s!"Value error, {Text.quoted text} contains a control character"
  | .aliasNotBoolean name => s!"Value error, '{name}' must be a boolean"
  | .aliasContradicts name option => s!"Value error, '{name}' contradicts '{option}'"

end Fault

/-- A step into a value. -/
inductive Step where
  | key (name : String)
  | index (i : Nat)
  deriving DecidableEq, Repr

namespace Step

def text : Step → String
  | .key name => name
  | .index i => toString i

end Step

/-- A fault and the way to it. -/
structure Flaw where
  fault : Fault
  way : List Step
  deriving DecidableEq, Repr

namespace Flaw

/-- The flaw as seen from one step further out. -/
def under (step : Step) (f : Flaw) : Flaw :=
  ⟨f.fault, step :: f.way⟩

/-- Of two flaws, in order, the one that is told. -/
def orElse (f g : Flaw) : Flaw :=
  if !f.fault.ofMeaning && g.fault.ofMeaning then g else f

/-- The way to a flaw, with points between its steps. -/
def field (f : Flaw) : String :=
  ".".intercalate (f.way.map Step.text)

end Flaw

/-- What reading a value gives: the value, or the flaw that is told. -/
abbrev Checked := Except Flaw

namespace Checked

/-- Reads one step further in. -/
def under {α : Type} (step : Step) (r : Checked α) : Checked α :=
  r.mapError (Flaw.under step)

/-- Reads two things, both to the end, and puts the results together. -/
def both {α β γ : Type} (f : α → β → γ) : Checked α → Checked β → Checked γ
  | .ok a, .ok b => .ok (f a b)
  | .error e, .ok _ => .error e
  | .ok _, .error e => .error e
  | .error e, .error e' => .error (e.orElse e')

end Checked

end FolderSieve.Config
