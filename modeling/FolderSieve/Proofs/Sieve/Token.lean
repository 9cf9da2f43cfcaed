import FolderSieve.Proofs.Text.Indentation
import FolderSieve.Sieve.Printer
import Mathlib.Tactic.Tauto

/-!
# Sieve — tokens

The lexical part of the language: white space, hash comments up to the line feed that ends them,
words, tags (a colon and a word), quoted strings and punctuation.  `unquote` reads a quoted string
up to the first quotation mark without a backslash before it; `Token.read` reads a whole text.

`Written s ts` says that the tokens `ts` stand in the text `s`, one after the other, with white
space and comments between them, and each string quoted as `quote` does.

* `read_of_written`: such a text is read as its tokens.
* `Written.indent`: moving the text right moves what stands in the strings, and nothing else.
-/

namespace FolderSieve.Sieve

/-! ### Reading -/

/-- The words that make up a chain: those that open a branch, and the one before the last block. -/
inductive Keyword where
  | arm (opening : Opening)
  | otherwise
  deriving DecidableEq, Repr

namespace Keyword

def text : Keyword → List Char
  | .arm opening => opening.keyword
  | .otherwise => "else".toList

end Keyword

/-- A token of a script. -/
inductive Token where
  | keyword (k : Keyword)
  | word (name : String)
  | tag (name : String)
  | text (s : String)
  | mark (c : Char)
  deriving DecidableEq, Repr

/-- White space between tokens. -/
def isSpace (c : Char) : Bool :=
  c == ' ' || c == '\n' || c == '\r' || c == '\t'

/-- A character that a word starts with. -/
def isWordStart (c : Char) : Bool :=
  c.isAlpha || c == '_'

/-- A character that a word goes on with. -/
def isWordChar (c : Char) : Bool :=
  c.isAlphanum || c == '_'

/-- A punctuation mark: brackets and comma of a list, semicolon, braces of a block. -/
def isMark (c : Char) : Bool :=
  c == '[' || c == ']' || c == ',' || c == ';' || c == '\x7b' || c == '\x7d'

/-- The string that the text after a quotation mark starts with, and the text after it. -/
def unquote : List Char → Option (List Char × List Char)
  | [] => none
  | ['\\'] => none
  | '"' :: s => some ([], s)
  | '\\' :: c :: s => (unquote s).map fun (v, rest) => (c :: v, rest)
  | c :: s => (unquote s).map fun (v, rest) => (c :: v, rest)

/-- The token for a word. -/
def Token.ofWord (w : List Char) : Token :=
  if w = (Keyword.arm .first).text then .keyword (.arm .first)
  else if w = (Keyword.arm .next).text then .keyword (.arm .next)
  else if w = Keyword.otherwise.text then .keyword .otherwise
  else .word (String.ofList w)

theorem length_of_unquote {s : List Char} :
    ∀ {v rest : List Char}, unquote s = some (v, rest) → rest.length < s.length := by
  have step : ∀ {c : Char} {s v rest : List Char},
      (∀ {v rest}, unquote s = some (v, rest) → rest.length < s.length) →
      ((unquote s).map fun (v, rest) => (c :: v, rest)) = some (v, rest) →
        rest.length < s.length + 1 := by
    intro c s v rest ih h
    obtain ⟨⟨v', rest'⟩, hs, he⟩ := Option.map_eq_some_iff.mp h
    cases he
    exact Nat.lt_succ_of_lt (ih hs)
  fun_induction unquote s with
  | case1 => simp
  | case2 => simp
  | case3 s =>
      rintro v rest ⟨⟩
      exact Nat.lt_succ_self _
  | case4 c s ih => exact fun h => Nat.lt_succ_of_lt (step ih h)
  | case5 c s _ _ _ ih => exact step ih

/-- The tokens of a text; `none` if some part of it is none. -/
def Token.read (s : List Char) : Option (List Token) :=
  match s with
  | [] => some []
  | c :: s =>
      if isSpace c then read s
      else if c = '#' then
        if s.contains '\n' then read (s.dropWhile (· != '\n')) else none
      else if c = '"' then
        match _h : unquote s with
        | none => none
        | some (v, rest) => (read rest).map (.text (String.ofList v) :: ·)
      else if isMark c then (read s).map (.mark c :: ·)
      else if isWordStart c then
        (read (s.dropWhile isWordChar)).map (.ofWord (c :: s.takeWhile isWordChar) :: ·)
      else if c = ':' && (s.head?.map isWordStart).getD false then
        (read (s.dropWhile isWordChar)).map (.tag (String.ofList (s.takeWhile isWordChar)) :: ·)
      else none
termination_by s.length
decreasing_by
  all_goals
    first
      | exact Nat.lt_succ_self _
      | exact Nat.lt_succ_of_lt (length_of_unquote ‹_›)
      | exact Nat.lt_succ_of_le (List.dropWhile_sublist _).length_le

/-! ### Classes of characters -/

/-- A word: a letter or an underscore, then letters, digits and underscores. -/
def isWord : List Char → Bool
  | [] => false
  | c :: w => isWordStart c && w.all isWordChar

/-- What stands here would be taken for more of the word before it. -/
def continuesWord (s : List Char) : Bool :=
  (s.head?.map isWordChar).getD false

theorem isWordChar_of_isWordStart {c : Char} (h : isWordStart c = true) : isWordChar c = true := by
  simp only [isWordStart, isWordChar, Char.isAlphanum, Bool.or_eq_true] at h ⊢
  tauto

theorem all_isWordChar_of_isWord {w : List Char} (h : isWord w = true) :
    w.all isWordChar = true := by
  cases w with
  | nil => rfl
  | cons c w =>
      simp only [isWord, Bool.and_eq_true] at h
      simp [isWordChar_of_isWordStart h.1, h.2]

theorem not_isBreak_of_isWordChar {c : Char} (h : isWordChar c = true) :
    Text.isBreak c = false := by
  refine Bool.eq_false_iff.mpr fun hb => ?_
  simp only [Text.isBreak, Bool.or_eq_true, beq_iff_eq] at hb
  rcases hb with ((((((((rfl | rfl) | rfl) | rfl) | rfl) | rfl) | rfl) | rfl) | rfl) | rfl <;> cases h

/-- A character that starts a word starts nothing else. -/
theorem starts_only_word {c : Char} (h : isWordStart c = true) :
    isSpace c = false ∧ c ≠ '#' ∧ c ≠ '"' ∧ isMark c = false := by
  refine ⟨Bool.eq_false_iff.mpr fun hc => ?_, ?_, ?_, Bool.eq_false_iff.mpr fun hc => ?_⟩
  · simp only [isSpace, Bool.or_eq_true, beq_iff_eq] at hc
    rcases hc with ((rfl | rfl) | rfl) | rfl <;> cases h
  · rintro rfl; cases h
  · rintro rfl; cases h
  · simp only [isMark, Bool.or_eq_true, beq_iff_eq] at hc
    rcases hc with ((((rfl | rfl) | rfl) | rfl) | rfl) | rfl <;> cases h

/-- A punctuation mark is nothing else, and ends no line. -/
theorem is_only_mark {c : Char} (h : isMark c = true) :
    isSpace c = false ∧ c ≠ '#' ∧ c ≠ '"' ∧ Text.isBreak c = false := by
  simp only [isMark, Bool.or_eq_true, beq_iff_eq] at h
  rcases h with ((((rfl | rfl) | rfl) | rfl) | rfl) | rfl <;> decide

/-! ### One token -/

theorem unquote_quoted (v s : List Char) : unquote (escape v ++ '"' :: s) = some (v, s) := by
  induction v with
  | nil => rfl
  | cons c v ih =>
      by_cases h : c = '"' ∨ c = '\\'
      · simp [escape, h, unquote, ih]
      · obtain ⟨h₁, h₂⟩ := not_or.mp h
        simp [escape, h₁, h₂, unquote, ih]

namespace Token

theorem read_space {c : Char} (h : isSpace c = true) (s : List Char) : read (c :: s) = read s := by
  rw [read, if_pos h]

theorem read_comment {t : List Char} (h : '\n' ∉ t) (s : List Char) :
    read ('#' :: t ++ '\n' :: s) = read ('\n' :: s) := by
  have hd : (t ++ '\n' :: s).dropWhile (· != '\n') = '\n' :: s := by
    rw [List.dropWhile_append_of_pos fun c hc => by simpa using fun he : c = '\n' => h (he ▸ hc)]
    rfl
  rw [List.cons_append, read, if_neg (by decide), if_pos rfl, if_pos (by simp), hd]

theorem read_quote (v : String) (s : List Char) :
    read (quote v ++ s) = (read s).map (.text v :: ·) := by
  have hq : quote v ++ s = '"' :: (escape v.toList ++ '"' :: s) := by simp [quote]
  rw [hq, read, if_neg (by decide), if_neg (by decide), if_pos rfl, unquote_quoted]
  simp

theorem read_mark {c : Char} (h : isMark c = true) (s : List Char) :
    read (c :: s) = (read s).map (.mark c :: ·) := by
  obtain ⟨h₁, h₂, h₃, -⟩ := is_only_mark h
  rw [read, if_neg (by simp [h₁]), if_neg h₂, if_neg h₃, if_pos h]

/-- A word ends where the text does not go on with it. -/
theorem span_word {w s : List Char} (hw : w.all isWordChar = true)
    (hs : continuesWord s = false) :
    (w ++ s).takeWhile isWordChar = w ∧ (w ++ s).dropWhile isWordChar = s := by
  have hall : ∀ c ∈ w, isWordChar c = true := List.all_eq_true.mp hw
  rw [List.takeWhile_append_of_pos hall, List.dropWhile_append_of_pos hall]
  cases s with
  | nil => simp
  | cons c s =>
      have hc : isWordChar c = false := by simpa [continuesWord] using hs
      simp [hc]

theorem read_word {w : List Char} (hw : isWord w = true) {s : List Char}
    (hs : continuesWord s = false) : read (w ++ s) = (read s).map (.ofWord w :: ·) := by
  cases w with
  | nil => cases hw
  | cons c w =>
      obtain ⟨hc, hw⟩ := Bool.and_eq_true_iff.mp hw
      obtain ⟨h₁, h₂, h₃, h₄⟩ := starts_only_word hc
      obtain ⟨ht, hd⟩ := span_word hw hs
      rw [List.cons_append, read, if_neg (by simp [h₁]), if_neg h₂, if_neg h₃,
        if_neg (by simp [h₄]), if_pos hc, ht, hd]

theorem read_tag {w : List Char} (hw : isWord w = true) {s : List Char}
    (hs : continuesWord s = false) :
    read (':' :: w ++ s) = (read s).map (.tag (String.ofList w) :: ·) := by
  obtain ⟨ht, hd⟩ := span_word (all_isWordChar_of_isWord hw) hs
  have hstart : ((w ++ s).head?.map isWordStart).getD false = true := by
    cases w with
    | nil => cases hw
    | cons c w => exact (Bool.and_eq_true_iff.mp hw).1
  rw [List.cons_append, read, if_neg (by decide), if_neg (by decide), if_neg (by decide),
    if_neg (by decide), if_neg (by decide), if_pos (by rw [hstart]; rfl), ht, hd]

end Token

/-! ### Texts written from tokens -/

/-- The tokens stand in the text, with white space and comments between them. -/
inductive Written : List Char → List Token → Prop where
  | nil : Written [] []
  | space {c : Char} {s : List Char} {ts : List Token} (hc : isSpace c = true)
      (h : Written s ts) : Written (c :: s) ts
  | comment {t s : List Char} {ts : List Token} (ht : '\n' ∉ t)
      (h : Written ('\n' :: s) ts) : Written ('#' :: t ++ '\n' :: s) ts
  | text (v : String) {s : List Char} {ts : List Token} (h : Written s ts) :
      Written (quote v ++ s) (.text v :: ts)
  | mark {c : Char} {s : List Char} {ts : List Token} (hc : isMark c = true)
      (h : Written s ts) : Written (c :: s) (.mark c :: ts)
  | word {w s : List Char} {ts : List Token} (hw : isWord w = true)
      (hs : continuesWord s = false) (h : Written s ts) : Written (w ++ s) (.ofWord w :: ts)
  | tag {w s : List Char} {ts : List Token} (hw : isWord w = true)
      (hs : continuesWord s = false) (h : Written s ts) :
      Written (':' :: w ++ s) (.tag (String.ofList w) :: ts)

/-- **What is written is read.** -/
theorem read_of_written {s : List Char} {ts : List Token} (h : Written s ts) :
    Token.read s = some ts := by
  induction h with
  | nil => rw [Token.read]
  | space hc _ ih => rw [Token.read_space hc, ih]
  | comment ht _ ih => rw [Token.read_comment ht, ih]
  | text v _ ih => rw [Token.read_quote, ih]; rfl
  | mark hc _ ih => rw [Token.read_mark hc, ih]; rfl
  | word hw hs _ ih => rw [Token.read_word hw hs, ih]; rfl
  | tag hw hs _ ih => rw [Token.read_tag hw hs, ih]; rfl

/-! ### Moving right -/

/-- A string as it stands `d` blocks deep. -/
def moved (d : Nat) (v : String) : String :=
  String.ofList (Text.moved^[d] v.toList)

/-- The token with another string, if it is one. -/
def Token.mapText (f : String → String) : Token → Token
  | .text v => .text (f v)
  | t => t

theorem Token.mapText_ofWord (f : String → String) (w : List Char) :
    (ofWord w).mapText f = ofWord w := by
  unfold ofWord
  split
  · rfl
  split
  · rfl
  split <;> rfl

theorem continuesWord_indentFrom (s : List Char) :
    continuesWord (Text.indentFrom false s) = continuesWord s := by
  cases s <;> rfl

/-- Without a line break in it a text stays where it is. -/
theorem indentFrom_append_of_not_isBreak {w : List Char} (h : w.any Text.isBreak = false)
    (s : List Char) : Text.indentFrom false (w ++ s) = w ++ Text.indentFrom false s := by
  induction w with
  | nil => rfl
  | cons c w ih =>
      simp only [List.any_cons, Bool.or_eq_false_iff] at h
      simp [Text.indentFrom, Text.endsLine_of_not_isBreak h.1, ih h.2]

theorem indentFrom_word {w : List Char} (h : w.all isWordChar = true) (s : List Char) :
    Text.indentFrom false (w ++ s) = w ++ Text.indentFrom false s := by
  refine indentFrom_append_of_not_isBreak (List.any_eq_false.mpr fun c hc => ?_) s
  simp [not_isBreak_of_isWordChar (List.all_eq_true.mp h c hc)]

/-- A quoted string that is moved right is one. -/
theorem indentFrom_quote (v : String) (s : List Char) :
    Text.indentFrom false (quote v ++ s) = quote (moved 1 v) ++ Text.indentFrom false s := by
  show '"' :: Text.indentFrom false (escape v.toList ++ ['"'] ++ s) = _
  rw [List.append_assoc, List.singleton_append, Text.indentFrom_quoted]
  simp [quote, moved, Text.moved]

/-- A comment that is moved right is one, up to the same line feed. -/
theorem indentFrom_comment {t : List Char} (h : '\n' ∉ t) (s : List Char) (atStart : Bool) :
    ∃ t', '\n' ∉ t' ∧ Text.indentFrom atStart (t ++ '\n' :: s) =
      t' ++ Text.indentFrom false ('\n' :: s) := by
  have hm : ∀ atStart blank, '\n' ∉ Text.margin atStart blank := fun atStart blank => by
    cases atStart <;> cases blank <;> decide
  induction t generalizing atStart with
  | nil =>
      refine ⟨[], by simp, ?_⟩
      cases atStart <;> rfl
  | cons c t ih =>
      simp only [List.mem_cons, not_or] at h
      obtain ⟨t', ht', he⟩ := ih h.2 (Text.endsLine c (t ++ '\n' :: s))
      refine ⟨Text.margin atStart (Text.startsBlank (c :: (t ++ '\n' :: s))) ++ c :: t', ?_, ?_⟩
      · simp [hm, h.1, ht']
      · simp [Text.indentFrom, he]

theorem Written.margin {s : List Char} {ts : List Token} (h : Written s ts)
    (atStart blank : Bool) : Written (Text.margin atStart blank ++ s) ts := by
  cases atStart <;> cases blank
  case true.false => exact .space rfl (.space rfl (.space rfl (.space rfl h)))
  all_goals exact h

theorem Written.indentFrom {s : List Char} {ts : List Token} (h : Written s ts)
    (atStart : Bool) : Written (Text.indentFrom atStart s) (ts.map (Token.mapText (moved 1))) := by
  suffices hf : Written (Text.indentFrom false s) (ts.map (Token.mapText (moved 1))) by
    cases atStart with
    | false => exact hf
    | true =>
        rw [Text.indentFrom_true]
        exact hf.margin _ _
  induction h with
  | nil => exact .nil
  | @space c s ts hc _ ih =>
      rw [Text.indentFrom]
      refine .space hc ?_
      cases Text.endsLine c s with
      | false => exact ih
      | true =>
          rw [Text.indentFrom_true]
          exact ih.margin _ _
  | @comment t s ts ht _ ih =>
      obtain ⟨t', ht', he⟩ := indentFrom_comment ht s false
      have hc : Text.indentFrom false ('#' :: t ++ '\n' :: s) =
          '#' :: t' ++ '\n' :: Text.indentFrom true s := by
        show '#' :: Text.indentFrom false (t ++ '\n' :: s) = _
        rw [he]
        rfl
      rw [hc]
      exact .comment ht' ih
  | @text v s ts _ ih =>
      rw [indentFrom_quote]
      exact .text _ ih
  | @mark c s ts hc _ ih =>
      rw [Text.indentFrom, Text.endsLine_of_not_isBreak (is_only_mark hc).2.2.2]
      exact .mark hc ih
  | @word w s ts hw hs _ ih =>
      rw [indentFrom_word (all_isWordChar_of_isWord hw), List.map_cons, Token.mapText_ofWord]
      exact .word hw (by rw [continuesWord_indentFrom, hs]) ih
  | @tag w s ts hw hs _ ih =>
      have ht : Text.indentFrom false (':' :: w ++ s) = ':' :: w ++ Text.indentFrom false s := by
        show ':' :: Text.indentFrom false (w ++ s) = _
        rw [indentFrom_word (all_isWordChar_of_isWord hw), List.cons_append]
      rw [ht]
      exact .tag hw (by rw [continuesWord_indentFrom, hs]) ih

/-- **A text moved right** holds the same tokens, with the strings one block deeper. -/
theorem Written.indent {s : List Char} {ts : List Token} (h : Written s ts) :
    Written (Text.indent s) (ts.map (Token.mapText (moved 1))) := by
  rw [Text.indent_eq_indentFrom]
  exact h.indentFrom true

end FolderSieve.Sieve
