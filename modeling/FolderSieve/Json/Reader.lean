import FolderSieve.Json.Value

/-!
# JSON — reading a text

`read` reads one value from a whole text.  Three words beyond the standard are numbers here: `NaN`,
`Infinity` and `-Infinity`.  A string may hold no raw character below the space.  Where a key of an
object comes again, its last value stands at its first place.

Every reader works on the rest of the text and hands back a shorter rest.  A fault says what was
wrong and how much text was left there; `Fault.position` turns that into a place in the text.
-/

namespace FolderSieve.Json

/-- What a text lacks to be JSON. -/
inductive Lack where
  | byteOrderMark
  | value
  | key
  | colon
  | comma
  | closingQuote
  | rawControl
  | escape
  | codeEscape
  | finish
  deriving DecidableEq, Repr

namespace Lack

def message : Lack → String
  | byteOrderMark => "Unexpected UTF-8 BOM (decode using utf-8-sig)"
  | value => "Expecting value"
  | key => "Expecting property name enclosed in double quotes"
  | colon => "Expecting ':' delimiter"
  | comma => "Expecting ',' delimiter"
  | closingQuote => "Unterminated string starting at"
  | rawControl => "Invalid control character at"
  | escape => "Invalid \\escape"
  | codeEscape => "Invalid \\uXXXX escape"
  | finish => "Extra data"

end Lack

/-- What is wrong, and how many characters were left at that place. -/
structure Fault where
  lack : Lack
  left : Nat
  deriving DecidableEq, Repr

namespace Fault

/-- The text of a fault: what is wrong, and its line, column and offset in `text`, of which the
first two start at one. -/
def message (f : Fault) (text : List Char) : String :=
  let before := text.take (text.length - f.left)
  let line := before.count '\n' + 1
  let column := (before.reverse.takeWhile (· != '\n')).length + 1
  s!"{f.lack.message}: line {line} column {column} (char {before.length})"

end Fault

/-- A value read off the front of a text, and the rest of it. -/
structure Taken (α : Type) (s : List Char) where
  value : α
  rest : List Char
  shorter : rest.length < s.length

namespace Taken

/-- What was read after at least one character is read from the longer text as well. -/
def lift {α : Type} {s t : List Char} (h : s.length ≤ t.length) (k : Taken α s) : Taken α t :=
  ⟨k.value, k.rest, Nat.lt_of_lt_of_le k.shorter h⟩

def map {α β : Type} {s : List Char} (f : α → β) (k : Taken α s) : Taken β s :=
  ⟨f k.value, k.rest, k.shorter⟩

end Taken

/-- The blanks of JSON. -/
def isSpace (c : Char) : Bool :=
  c == ' ' || c == '\t' || c == '\n' || c == '\r'

/-- The text after its leading blanks. -/
def skip (s : List Char) : List Char :=
  s.dropWhile isSpace

theorem length_dropWhile_le {α : Type} (p : α → Bool) (s : List α) :
    (s.dropWhile p).length ≤ s.length := by
  induction s with
  | nil => exact Nat.le_refl _
  | cons a s ih =>
      rw [List.dropWhile_cons]
      split
      · exact Nat.le_succ_of_le ih
      · exact Nat.le_refl _

theorem length_skip_le (s : List Char) : (skip s).length ≤ s.length :=
  length_dropWhile_le _ s

/-! ### Strings -/

/-- The value of a hexadecimal digit. -/
def hexValue? (c : Char) : Option Nat :=
  if '0' ≤ c ∧ c ≤ '9' then some (c.toNat - 0x30)
  else if 'a' ≤ c ∧ c ≤ 'f' then some (c.toNat - 0x61 + 10)
  else if 'A' ≤ c ∧ c ≤ 'F' then some (c.toNat - 0x41 + 10)
  else none

/-- The number that four hexadecimal digits spell. -/
def code? (a b c d : Char) : Option Nat := do
  let a ← hexValue? a
  let b ← hexValue? b
  let c ← hexValue? c
  let d ← hexValue? d
  return ((a * 16 + b) * 16 + c) * 16 + d

/-- First half of a pair of surrogates. -/
def isHigh (n : Nat) : Bool :=
  0xD800 ≤ n && n ≤ 0xDBFF

/-- Second half of a pair of surrogates. -/
def isLow (n : Nat) : Bool :=
  0xDC00 ≤ n && n ≤ 0xDFFF

/-- The character beyond the basic plane that a pair of surrogates stands for. -/
def joinPair (high low : Nat) : Char :=
  Char.ofNat (0x10000 + (high - 0xD800) * 0x400 + (low - 0xDC00))

/-- The character with a number; half a pair of surrogates is no character and is replaced. -/
def ofCode (n : Nat) : Char :=
  if isHigh n || isLow n then '\uFFFD' else Char.ofNat n

/-- The character a one-letter escape stands for. -/
def escape? : Char → Option Char
  | '"' => some '"'
  | '\\' => some '\\'
  | '/' => some '/'
  | 'b' => some '\x08'
  | 'f' => some '\x0c'
  | 'n' => some '\n'
  | 'r' => some '\r'
  | 't' => some '\t'
  | _ => none

/-- The escape after `\u`, where `left` characters were left at the `u`.  Four digits are read, of
which none may end the text; after the first half of a pair the second half is read too if more
than its escape is left. -/
def codeEscape (left : Nat) (s : List Char) : Except Fault (Taken Char s) :=
  match s with
  | a :: b :: c :: d :: '\\' :: 'u' :: p :: q :: x :: y :: z :: rest =>
      match code? a b c d with
      | none => .error ⟨.codeEscape, left⟩
      | some high =>
          let single := ⟨ofCode high, '\\' :: 'u' :: p :: q :: x :: y :: z :: rest, by
            simp only [List.length_cons]; omega⟩
          if isHigh high then
            match code? p q x y with
            | none => .error ⟨.codeEscape, rest.length + 6⟩
            | some low =>
                if isLow low then
                  .ok ⟨joinPair high low, z :: rest, by simp only [List.length_cons]; omega⟩
                else .ok single
          else .ok single
  | a :: b :: c :: d :: e :: rest =>
      match code? a b c d with
      | none => .error ⟨.codeEscape, left⟩
      | some n => .ok ⟨ofCode n, e :: rest, by simp only [List.length_cons]; omega⟩
  | _ => .error ⟨.codeEscape, left⟩

/-- The rest of a string after its opening quote, where `start` characters were left at the
quote. -/
def string (start : Nat) (s : List Char) : Except Fault (Taken (List Char) s) :=
  match s with
  | [] => .error ⟨.closingQuote, start⟩
  | '"' :: rest => .ok ⟨[], rest, by simp only [List.length_cons]; omega⟩
  | ['\\'] => .error ⟨.closingQuote, start⟩
  | '\\' :: 'u' :: rest =>
      match codeEscape (rest.length + 1) rest with
      | .error f => .error f
      | .ok c =>
          have h : c.rest.length < rest.length := c.shorter
          match string start c.rest with
          | .error f => .error f
          | .ok k => .ok ⟨c.value :: k.value, k.rest, by
              have := k.shorter
              simp only [List.length_cons]; omega⟩
  | '\\' :: e :: rest =>
      match escape? e with
      | none => .error ⟨.escape, rest.length + 2⟩
      | some c => (string start rest).map fun k =>
          ⟨c :: k.value, k.rest, by have := k.shorter; simp only [List.length_cons]; omega⟩
  | c :: rest =>
      if c.toNat < 0x20 then .error ⟨.rawControl, rest.length + 1⟩
      else (string start rest).map fun k =>
        ⟨c :: k.value, k.rest, by have := k.shorter; simp only [List.length_cons]; omega⟩
termination_by s.length

/-! ### Numbers and words -/

/-- A decimal digit. -/
def isDigit (c : Char) : Bool :=
  '0' ≤ c && c ≤ '9'

/-- The number that digits spell. -/
def ofDigits (ds : List Char) : Nat :=
  ds.foldl (fun n c => n * 10 + (c.toNat - 0x30)) 0

/-- The digits of a whole part: a zero alone, or digits that start with another. -/
def wholeDigits : List Char → List Char × List Char
  | [] => ([], [])
  | c :: s =>
      if c = '0' then (['0'], s)
      else if isDigit c then (c :: s.takeWhile isDigit, s.dropWhile isDigit)
      else ([], c :: s)

/-- The digits after a point, if there is a point and a digit after it. -/
def fractionDigits : List Char → List Char × List Char
  | '.' :: c :: s =>
      if isDigit c then (c :: s.takeWhile isDigit, s.dropWhile isDigit) else ([], '.' :: c :: s)
  | s => ([], s)

/-- The power of ten after an `e`, if there is a digit in it. -/
def exponent? (s : List Char) : Option (Int × List Char) :=
  match s with
  | e :: s =>
      if e = 'e' || e = 'E' then
        let (negative, s) :=
          match s with
          | '-' :: s => (true, s)
          | '+' :: s => (false, s)
          | s => (false, s)
        let digits := s.takeWhile isDigit
        if digits.isEmpty then none
        else
          let n : Int := ofDigits digits
          some (if negative then -n else n, s.dropWhile isDigit)
      else none
  | [] => none

/-- A number and the text after it. -/
def number? (s : List Char) : Option (Value × List Char) :=
  let (negative, s) :=
    match s with
    | '-' :: s => (true, s)
    | s => (false, s)
  let (whole, s) := wholeDigits s
  if whole.isEmpty then none
  else
    let (fraction, s) := fractionDigits s
    let signed (n : Nat) : Int := if negative then -(n : Int) else n
    match exponent? s with
    | some (e, s) =>
        some (.real (.finite (signed (ofDigits (whole ++ fraction))) (e - fraction.length)), s)
    | none =>
        if fraction.isEmpty then some (.int (signed (ofDigits whole)), s)
        else
          some (.real (.finite (signed (ofDigits (whole ++ fraction))) (-(fraction.length : Int))), s)

/-- The words that are values. -/
def words : List (String × Value) :=
  [("null", .null), ("true", .bool true), ("false", .bool false), ("NaN", .real .undefined),
    ("Infinity", .real (.infinite false)), ("-Infinity", .real (.infinite true))]

/-- The text after a word, if it starts with it. -/
def after? : (word : List Char) → List Char → Option (List Char)
  | [], s => some s
  | _ :: _, [] => none
  | a :: word, c :: s => if a = c then after? word s else none

/-- A word or a number. -/
def scalar? (s : List Char) : Option (Value × List Char) :=
  match words.findSome? fun w => (after? w.1.toList s).map fun rest => (w.2, rest) with
  | some found => some found
  | none => number? s

/-- A scalar at the front of a text; it takes up at least one character. -/
def scalar (s : List Char) : Except Fault (Taken Value s) :=
  match scalar? s with
  | none => .error ⟨.value, s.length⟩
  | some (v, rest) =>
      if h : rest.length < s.length then .ok ⟨v, rest, h⟩ else .error ⟨.value, s.length⟩

/-! ### Arrays, objects and whole texts -/

mutual

/-- A value at the front of a text. -/
def value (s : List Char) : Except Fault (Taken Value s) :=
  match s with
  | '"' :: s =>
      (string (s.length + 1) s).map fun k =>
        (k.map fun text => Value.string (String.ofList text)).lift (Nat.le_succ _)
  | '[' :: s =>
      have h := length_skip_le s
      match hs : skip s with
      | ']' :: rest => .ok ⟨.array [], rest, by
          rw [hs] at h; simp only [List.length_cons] at h ⊢; omega⟩
      | inner =>
          match items inner with
          | .error f => .error f
          | .ok k => .ok ⟨.array k.value, k.rest, by
              have := k.shorter
              rw [hs] at h
              simp only [List.length_cons]; omega⟩
  | '\x7b' :: s =>
      have h := length_skip_le s
      match hs : skip s with
      | '\x7d' :: rest => .ok ⟨.object [], rest, by
          rw [hs] at h; simp only [List.length_cons] at h ⊢; omega⟩
      | inner =>
          match members inner with
          | .error f => .error f
          | .ok k => .ok ⟨.object (k.value.foldl (fun ms m => Members.put ms m.1 m.2) []), k.rest, by
              have := k.shorter
              rw [hs] at h
              simp only [List.length_cons]; omega⟩
  | s => scalar s
termination_by (s.length, 0)
decreasing_by
  all_goals
    rw [hs] at h
    apply Prod.Lex.left
    simp only [List.length_cons]
    omega

/-- The items of an array up to its closing bracket, of which there is at least one. -/
def items (s : List Char) : Except Fault (Taken (List Value) s) :=
  match value s with
  | .error f => .error f
  | .ok v =>
      have hv := v.shorter
      have h := length_skip_le v.rest
      match hs : skip v.rest with
      | ']' :: rest => .ok ⟨[v.value], rest, by
          rw [hs] at h; simp only [List.length_cons] at h; omega⟩
      | ',' :: more =>
          have hm := length_skip_le more
          have : (skip more).length < s.length := by
            rw [hs] at h; simp only [List.length_cons] at h; omega
          match items (skip more) with
          | .error f => .error f
          | .ok k => .ok ⟨v.value :: k.value, k.rest, by have := k.shorter; omega⟩
      | rest => .error ⟨.comma, rest.length⟩
termination_by (s.length, 1)

/-- The members of an object up to its closing brace, of which there is at least one. -/
def members (s : List Char) : Except Fault (Taken Members s) :=
  match hq : s with
  | '"' :: t =>
      match string (t.length + 1) t with
      | .error f => .error f
      | .ok key =>
          have hk := key.shorter
          have hc := length_skip_le key.rest
          match hs : skip key.rest with
          | ':' :: more =>
              have hm := length_skip_le more
              have : (skip more).length < s.length := by
                rw [hs] at hc; rw [hq]; simp only [List.length_cons] at hc ⊢; omega
              match value (skip more) with
              | .error f => .error f
              | .ok v =>
                  have hv := v.shorter
                  have hr := length_skip_le v.rest
                  match ht : skip v.rest with
                  | '\x7d' :: rest => .ok ⟨[(String.ofList key.value, v.value)], rest, by
                      rw [ht] at hr; rw [hq] at this
                      simp only [List.length_cons] at hr this ⊢; omega⟩
                  | ',' :: next =>
                      have hn := length_skip_le next
                      have : (skip next).length < s.length := by
                        rw [ht] at hr; simp only [List.length_cons] at hr; omega
                      match members (skip next) with
                      | .error f => .error f
                      | .ok k => .ok ⟨(String.ofList key.value, v.value) :: k.value, k.rest, by
                          have := k.shorter; rw [hq] at *; omega⟩
                  | rest => .error ⟨.comma, rest.length⟩
          | rest => .error ⟨.colon, rest.length⟩
  | s => .error ⟨.key, s.length⟩
termination_by (s.length, 1)

end

/-- The value of a whole text. -/
def read (text : List Char) : Except Fault Value :=
  match text with
  | '\uFEFF' :: _ => .error ⟨.byteOrderMark, text.length⟩
  | _ =>
      match value (skip text) with
      | .error f => .error f
      | .ok v =>
          match skip v.rest with
          | [] => .ok v.value
          | rest => .error ⟨.finish, rest.length⟩

end FolderSieve.Json
