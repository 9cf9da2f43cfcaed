import FolderSieve.Config.Error
import FolderSieve.Json.Value
import FolderSieve.Text.Control

/-!
# Configuration — one text or many

Localparts, keywords and secrets are each written as one text or as a list of texts.  `read` takes
either from JSON, without control characters.  `normalize` makes a list of it that is not empty
and holds no empty text, so that what follows need not ask.
-/

namespace FolderSieve.Config

/-- One text, or a list of texts. -/
inductive OneOrMany where
  | one (text : String)
  | many (texts : List String)
  deriving DecidableEq, Repr

namespace OneOrMany

/-- The step into the reading as one text. -/
def oneStep : Step :=
  .key "function-after[_printable(), str]"

/-- The step into the reading as a list. -/
def manyStep : Step :=
  .key "list[function-after[_printable(), str]]"

/-- A string without control characters. -/
def readText : Json.Value → Checked String
  | .string s =>
      if Text.hasControl s then .error ⟨.controlCharacter s, []⟩ else .ok s
  | _ => .error ⟨.notString, []⟩

/-- The items of a list, numbered from `i`, each a text. -/
def readTexts (i : Nat) : List Json.Value → Checked (List String)
  | [] => .ok []
  | v :: vs => ((readText v).under (.index i)).both List.cons (readTexts (i + 1) vs)

/-- A list of texts. -/
def readMany : Json.Value → Checked (List String)
  | .array items => readTexts 0 items
  | _ => .error ⟨.notList, []⟩

/-- One text or many: the first of the two readings that succeeds, or the flaws of both. -/
def read (v : Json.Value) : Checked OneOrMany :=
  match (readText v).under oneStep with
  | .ok text => .ok (.one text)
  | .error f =>
      match (readMany v).under manyStep with
      | .ok texts => .ok (.many texts)
      | .error g => .error (f.orElse g)

/-- The texts as a list. -/
def toList : OneOrMany → List String
  | .one text => [text]
  | .many texts => texts

/-- The first thing that is wrong with texts that a rule is to be made of; `name` says what they
are. -/
def mistake? (x : OneOrMany) (name : String) : Option Mistake :=
  if x = .one "" then some (.textEmpty name)
  else if x.toList.isEmpty then some (.listEmpty name)
  else if x.toList.contains "" then some (.itemEmpty name)
  else if x.toList.any Text.hasControl then some (.itemControl name)
  else none

/-- The texts as a list that is not empty, each text not empty and free of control characters. -/
def normalize (x : OneOrMany) (name : String) (folder : String := "") :
    Except Error (List String) :=
  match x.mistake? name with
  | some mistake => .error ⟨mistake, { folder, field := name }⟩
  | none => .ok x.toList

end OneOrMany

end FolderSieve.Config
