import FolderSieve.Text.Line

/-!
# Settings — environment files

An environment file is a row of assignments `KEY=value`, each at the start of a line and perhaps
after the word `export`; a key without a value is set to nothing.  A value between apostrophes or
quotation marks may hold escapes and line breaks, any other value ends at a comment or at the end
of the line.  What is no assignment is passed over, up to the end of its line.

In a value `${NAME}` and `${NAME:-default}` stand for the value of another variable
(`Text.expand`); an assignment earlier in the file counts before the environment.
-/

namespace FolderSieve.EnvFile

open FolderSieve.Text (isBlank trim)

/-- A variable and its value; `none` is a variable that is set to nothing. -/
abbrev Variable := String × Option String

/-- White space within a line. -/
def isInnerBlank (c : Char) : Bool :=
  isBlank c && c != '\n' && c != '\r'

/-- The text after its leading white space, up to the end of the line. -/
def skipInner (s : List Char) : List Char :=
  s.dropWhile isInnerBlank

/-- The end of a line. -/
def isEnd (c : Char) : Bool :=
  c == '\n' || c == '\r'

/-- The text after the current line. -/
def skipLine (s : List Char) : List Char :=
  (s.dropWhile fun c => !isEnd c).drop 1

/-! ### Keys and values -/

/-- The text after the word `export`, if white space follows it. -/
def skipExport (s : List Char) : List Char :=
  let word := "export".toList
  if word.isPrefixOf s then
    let rest := s.drop word.length
    if (skipInner rest).length < rest.length then skipInner rest else s
  else s

/-- A character of a key without quotes. -/
def isKeyChar (c : Char) : Bool :=
  !isBlank c && c != '=' && c != '#'

/-- A key and the text after it.  At a comment there is no key. -/
def key? (s : List Char) : Option (Option (List Char) × List Char) :=
  match s with
  | '#' :: _ => some (none, s)
  | '\'' :: rest =>
      let key := rest.takeWhile (· != '\'')
      match rest.dropWhile (· != '\'') with
      | '\'' :: rest => if key.isEmpty then none else some (some key, rest)
      | _ => none
  | _ =>
      let key := s.takeWhile isKeyChar
      if key.isEmpty then none else some (some key, s.dropWhile isKeyChar)

/-- What stands before the closing quote `q` and after it.  A backslash takes along the character
behind it. -/
def closing? (q : Char) : List Char → Option (List Char × List Char)
  | [] => none
  | '\\' :: c :: s => (closing? q s).map fun (value, rest) => ('\\' :: c :: value, rest)
  | c :: s =>
      if c = q then some ([], s)
      else (closing? q s).map fun (value, rest) => (c :: value, rest)

/-- The escapes between apostrophes: the apostrophe and the backslash. -/
def apostropheEscape? : Char → Option Char
  | '\\' => some '\\'
  | '\'' => some '\''
  | _ => none

/-- The escapes between quotation marks. -/
def quotationEscape? : Char → Option Char
  | '\\' => some '\\'
  | '\'' => some '\''
  | '"' => some '"'
  | 'a' => some '\x07'
  | 'b' => some '\x08'
  | 'f' => some '\x0c'
  | 'n' => some '\n'
  | 'r' => some '\r'
  | 't' => some '\t'
  | 'v' => some '\x0b'
  | _ => none

/-- Writes out escapes; a backslash before anything else stays. -/
def unescape (escape? : Char → Option Char) : List Char → List Char
  | '\\' :: c :: s =>
      match escape? c with
      | some d => d :: unescape escape? s
      | none => '\\' :: unescape escape? (c :: s)
  | c :: s => c :: unescape escape? s
  | [] => []

/-- The text before a comment, which starts at a number sign after white space. -/
def beforeComment : List Char → List Char
  | [] => []
  | c :: s =>
      if isBlank c && (s.dropWhile isBlank).head? == some '#' then [] else c :: beforeComment s

/-- A value and the text after it. -/
def value? (s : List Char) : Option (List Char × List Char) :=
  match skipInner s with
  | '\'' :: rest =>
      (closing? '\'' rest).map fun (value, rest) => (unescape apostropheEscape? value, rest)
  | '"' :: rest =>
      (closing? '"' rest).map fun (value, rest) => (unescape quotationEscape? value, rest)
  | _ =>
      let line := s.takeWhile fun c => !isEnd c
      some (trim (beforeComment line), s.dropWhile fun c => !isEnd c)

/-! ### Assignments -/

/-- The text after a comment, if there is one. -/
def skipComment (s : List Char) : List Char :=
  match skipInner s with
  | '#' :: rest => rest.dropWhile fun c => !isEnd c
  | _ => s

/-- The text after the end of the line, if nothing but white space is left of it. -/
def lineEnd? (s : List Char) : Option (List Char) :=
  match skipInner s with
  | [] => some []
  | '\r' :: '\n' :: rest => some rest
  | c :: rest => if isEnd c then some rest else none

/-- An assignment and the text after its line; or, where there is none, the text from the place
where that was seen. -/
def assignment (s : List Char) : Except (List Char) (Option Variable × List Char) :=
  let s := skipExport s
  match key? s with
  | none => .error s
  | some (key, rest) =>
      let rest := skipInner rest
      let value : Except (List Char) (Option (List Char) × List Char) :=
        match rest with
        | '=' :: rest =>
            match value? rest with
            | none => .error rest
            | some (value, rest) => .ok (some value, rest)
        | _ => .ok (none, rest)
      match value with
      | .error rest => .error rest
      | .ok (value, rest) =>
          let rest := skipComment rest
          match lineEnd? rest with
          | none => .error rest
          | some rest => .ok (key.map fun k => (String.ofList k, value.map String.ofList), rest)

/-- The first assignment, if it is one, and the text after its line. -/
def next (s : List Char) : Option Variable × List Char :=
  match s.dropWhile isBlank with
  | [] => (none, [])
  | s =>
      match assignment s with
      | .ok found => found
      | .error rest => (none, skipLine rest)

/-- The assignments of a file, with values as they are written.  Each takes up part of the text. -/
def assignments (s : List Char) : List Variable :=
  if s.isEmpty then []
  else if _h : (next s).2.length < s.length then (next s).1.toList ++ assignments (next s).2
  else (next s).1.toList
termination_by s.length

/-! ### Variables in values -/

/-- The variables there are while a file is read. -/
structure Scope where
  assigned : List Variable := []
  environment : List (String × String) := []

namespace Scope

/-- The value of a variable, if it has been assigned in the file or is in the environment. -/
def get? (scope : Scope) (name : String) : Option (Option String) :=
  match scope.assigned.find? fun v => v.1 == name with
  | some v => some v.2
  | none => (scope.environment.find? fun v => v.1 == name).map fun v => some v.2

/-- What a reference stands for: nothing if the variable is set to nothing, and the default if it
is not set. -/
def refer (scope : Scope) (name default : String) : String :=
  match scope.get? name with
  | some value => value.getD ""
  | none => default

/-- Assigns a variable. -/
def assign (scope : Scope) (v : Variable) : Scope :=
  { scope with assigned := v :: scope.assigned.filter fun w => w.1 != v.1 }

end Scope

/-- A reference after its opening `${`: the name, the default and the text after it. -/
def reference? (s : List Char) : Option (String × String × List Char) :=
  let name := String.ofList (s.takeWhile fun c => c != '\x7d' && c != ':')
  match s.dropWhile fun c => c != '\x7d' && c != ':' with
  | '\x7d' :: rest => some (name, "", rest)
  | ':' :: '-' :: rest =>
      match rest.dropWhile (· != '\x7d') with
      | '\x7d' :: after =>
          some (name, String.ofList (rest.takeWhile (· != '\x7d')), after)
      | _ => none
  | _ => none

/-- Puts values in the place of references. -/
def expand (scope : Scope) (s : List Char) : List Char :=
  match s with
  | '$' :: '\x7b' :: rest =>
      match reference? rest with
      | some (name, default, after) =>
          if _h : after.length < rest.length + 2 then
            (scope.refer name default).toList ++ expand scope after
          else (scope.refer name default).toList
      | none => '$' :: '\x7b' :: expand scope rest
  | c :: rest => c :: expand scope rest
  | [] => []
termination_by s.length

/-- The names that a text refers to. -/
def references : List Char → List String
  | '$' :: '\x7b' :: s =>
      match reference? s with
      | some (name, _, _) => name :: references s
      | none => references s
  | _ :: s => references s
  | [] => []

/-- Assigns variables one after another, each with the references in its value written out. -/
def assignAll (scope : Scope) : List Variable → Scope
  | [] => scope
  | (name, value) :: vs =>
      assignAll (scope.assign (name, value.map fun v => String.ofList (expand scope v.toList))) vs

/-- The variables that a file assigns, given those of the environment.  A byte order mark at the
start does not count. -/
def read (environment : List (String × String)) (text : List Char) : List Variable :=
  let text :=
    match text with
    | '\uFEFF' :: rest => rest
    | _ => text
  (assignAll { environment } (assignments (Text.unifyBreaks text))).assigned

end FolderSieve.EnvFile
