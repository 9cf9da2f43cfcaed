import FolderSieve.Proofs.Sieve.Token

/-!
# Sieve — statements

The grammar of scripts, as far as mail filters go:

    statements = *statement
    statement  = phrase ";" / "if" arm *("elsif" arm) ["else" block]
    arm        = phrase block
    block      = "{" statements "}"
    phrase     = word *argument
    argument   = tag / string / "[" string *("," string) "]"

A text is read in three stages.  Its tokens (`Token.read`) are put together to clauses, each of
which is an action, the head of a block or the end of one (`Clause.readAfter`); blocks and chains
are then built from the clauses (`Statement.readIn`).  An `elsif` or an `else` that follows no
branch has no place in a chain and is refused, as is everything else that the grammar lacks.

* `Clause.read_tokens`, `Statement.read_clauses`: what is written out as clauses, and as tokens, is
  read back.
-/

namespace FolderSieve.Sieve

/-- An argument of an action or a test. -/
inductive Argument where
  | tag (name : String)
  | text (s : String)
  | list (ss : List String)
  deriving DecidableEq, Repr

/-- An action or a test: its name and its arguments. -/
structure Phrase where
  name : String
  arguments : List Argument
  deriving DecidableEq, Repr

/-- A statement of a script: an action, or a chain of branches with what is done if none of them is
taken. -/
inductive Statement where
  | action (p : Phrase)
  | chain (arms : List (Phrase × List Statement)) (otherwise : Option (List Statement))

/-- A test and the block it stands before. -/
abbrev Arm := Phrase × List Statement

/-- A piece of a script between two punctuation marks that end one. -/
inductive Clause where
  | action (p : Phrase)
  | arm (opening : Opening) (test : Phrase)
  | otherwise
  | close
  deriving DecidableEq, Repr

/-! ### From tokens to clauses -/

/-- What has been read of a clause. -/
inductive Begun where
  | nothing
  | keyword (k : Keyword)
  /-- A name with arguments, after a keyword if the name is that of a test. -/
  | phrase (opening : Option Opening) (p : Phrase)
  /-- The same within a list. -/
  | list (opening : Option Opening) (p : Phrase) (ss : List String)

/-- The phrase with one more argument. -/
def Phrase.push (p : Phrase) (a : Argument) : Phrase :=
  { p with arguments := p.arguments ++ [a] }

/-- The clauses of tokens that go on with what has been read. -/
def Clause.readAfter : Begun → List Token → Option (List Clause)
  | .nothing, [] => some []
  | .nothing, .keyword k :: ts => readAfter (.keyword k) ts
  | .nothing, .word name :: ts => readAfter (.phrase none ⟨name, []⟩) ts
  | .nothing, .mark '\x7d' :: ts => (readAfter .nothing ts).map (.close :: ·)
  | .keyword .otherwise, .mark '\x7b' :: ts => (readAfter .nothing ts).map (.otherwise :: ·)
  | .keyword (.arm o), .word name :: ts => readAfter (.phrase (some o) ⟨name, []⟩) ts
  | .phrase o p, .tag name :: ts => readAfter (.phrase o (p.push (.tag name))) ts
  | .phrase o p, .text s :: ts => readAfter (.phrase o (p.push (.text s))) ts
  | .phrase o p, .mark '[' :: .text s :: ts => readAfter (.list o p [s]) ts
  | .phrase none p, .mark ';' :: ts => (readAfter .nothing ts).map (.action p :: ·)
  | .phrase (some o) p, .mark '\x7b' :: ts => (readAfter .nothing ts).map (.arm o p :: ·)
  | .list o p ss, .mark ',' :: .text s :: ts => readAfter (.list o p (ss ++ [s])) ts
  | .list o p ss, .mark ']' :: ts => readAfter (.phrase o (p.push (.list ss))) ts
  | _, _ => none

/-- The items of a list after the first, each after a comma. -/
def itemTokens (ss : List String) : List Token :=
  ss.flatMap fun s => [.mark ',', .text s]

namespace Argument

/-- A list is not empty. -/
def Sound : Argument → Prop
  | .tag _ | .text _ => True
  | .list ss => ss ≠ []

def tokens : Argument → List Token
  | .tag name => [.tag name]
  | .text s => [.text s]
  | .list [] => [.mark '[', .mark ']']
  | .list (s :: ss) => .mark '[' :: .text s :: itemTokens ss ++ [.mark ']']

end Argument

namespace Phrase

/-- No list among the arguments is empty. -/
def Sound (p : Phrase) : Prop :=
  ∀ a ∈ p.arguments, a.Sound

def tokens (p : Phrase) : List Token :=
  .word p.name :: p.arguments.flatMap Argument.tokens

end Phrase

namespace Clause

def Sound : Clause → Prop
  | .action p | .arm _ p => p.Sound
  | .otherwise | .close => True

def tokens : Clause → List Token
  | .action p => p.tokens ++ [.mark ';']
  | .arm o p => .keyword (.arm o) :: p.tokens ++ [.mark '\x7b']
  | .otherwise => [.keyword .otherwise, .mark '\x7b']
  | .close => [.mark '\x7d']

theorem readAfter_items (o : Option Opening) (p : Phrase) (ss rest : List String)
    (ts : List Token) :
    readAfter (.list o p ss) (itemTokens rest ++ .mark ']' :: ts) =
      readAfter (.phrase o (p.push (.list (ss ++ rest)))) ts := by
  induction rest generalizing ss with
  | nil => simp [itemTokens, readAfter]
  | cons s rest ih =>
      have hi : itemTokens (s :: rest) = .mark ',' :: .text s :: itemTokens rest := rfl
      rw [hi, List.cons_append, List.cons_append, readAfter, ih, List.append_assoc]
      rfl

theorem readAfter_argument (o : Option Opening) (p : Phrase) {a : Argument} (h : a.Sound)
    (ts : List Token) :
    readAfter (.phrase o p) (a.tokens ++ ts) = readAfter (.phrase o (p.push a)) ts := by
  cases a with
  | tag name => simp [Argument.tokens, readAfter]
  | text s => simp [Argument.tokens, readAfter]
  | list ss =>
      cases ss with
      | nil => exact absurd rfl h
      | cons s ss =>
          have := readAfter_items o p [s] ss ts
          simpa [Argument.tokens, readAfter] using this

theorem readAfter_arguments (o : Option Opening) (name : String) {as : List Argument}
    (h : ∀ a ∈ as, a.Sound) (before : List Argument) (ts : List Token) :
    readAfter (.phrase o ⟨name, before⟩) (as.flatMap Argument.tokens ++ ts) =
      readAfter (.phrase o ⟨name, before ++ as⟩) ts := by
  induction as generalizing before with
  | nil => simp
  | cons a as ih =>
      rw [List.flatMap_cons, List.append_assoc, readAfter_argument o _ (h a (by simp)),
        Phrase.push, ih fun b hb => h b (by simp [hb])]
      simp

theorem readAfter_clause {c : Clause} (h : c.Sound) (ts : List Token) :
    readAfter .nothing (c.tokens ++ ts) = (readAfter .nothing ts).map (c :: ·) := by
  cases c with
  | action p =>
      have := readAfter_arguments none p.name h [] (.mark ';' :: ts)
      simpa [tokens, Phrase.tokens, readAfter] using this
  | arm o p =>
      have := readAfter_arguments (some o) p.name h [] (.mark '\x7b' :: ts)
      simpa [tokens, Phrase.tokens, readAfter] using this
  | otherwise => simp [tokens, readAfter]
  | close => simp [tokens, readAfter]

/-- Clauses are read back from their tokens. -/
theorem read_tokens {cs : List Clause} (h : ∀ c ∈ cs, c.Sound) :
    readAfter .nothing (cs.flatMap tokens) = some cs := by
  induction cs with
  | nil => rfl
  | cons c cs ih =>
      rw [List.flatMap_cons, readAfter_clause (h c (by simp)), ih fun d hd => h d (by simp [hd])]
      rfl

end Clause

/-! ### From clauses to statements -/

/-- A block that is open: the statements before its chain, last first, the branches of the chain
before it, and the test it stands behind, if any. -/
structure Frame where
  before : List Statement
  arms : List Arm
  test : Option Phrase

namespace Frame

/-- The chain once the block is closed. -/
def chain (f : Frame) (body : List Statement) : Statement :=
  match f.test with
  | some test => .chain (f.arms ++ [(test, body)]) none
  | none => .chain f.arms (some body)

end Frame

namespace Statement

/-- The statements of clauses, read within open blocks, innermost first, after the statements of
the innermost block, last first. -/
def readIn : List Frame → List Statement → List Clause → Option (List Statement)
  | [], row, [] => some row.reverse
  | fs, row, .action p :: cs => readIn fs (.action p :: row) cs
  | fs, row, .arm .first test :: cs => readIn (⟨row, [], some test⟩ :: fs) [] cs
  | fs, .chain arms none :: row, .arm .next test :: cs =>
      readIn (⟨row, arms, some test⟩ :: fs) [] cs
  | fs, .chain arms none :: row, .otherwise :: cs => readIn (⟨row, arms, none⟩ :: fs) [] cs
  | f :: fs, row, .close :: cs => readIn fs (f.chain row.reverse :: f.before) cs
  | _, _, _ => none

mutual

/-- No chain is without a branch. -/
def Sound : Statement → Prop
  | .action _ => True
  | .chain arms otherwise => arms ≠ [] ∧ ArmsSound arms ∧ OtherwiseSound otherwise

def RowSound : List Statement → Prop
  | [] => True
  | s :: ss => s.Sound ∧ RowSound ss

def ArmsSound : List Arm → Prop
  | [] => True
  | (_, body) :: arms => RowSound body ∧ ArmsSound arms

def OtherwiseSound : Option (List Statement) → Prop
  | none => True
  | some body => RowSound body

end

mutual

/-- The clauses of a statement. -/
def clauses : Statement → List Clause
  | .action p => [.action p]
  | .chain arms otherwise => armClauses .first arms ++ otherwiseClauses otherwise

/-- The clauses of statements, one after the other. -/
def rowClauses : List Statement → List Clause
  | [] => []
  | s :: ss => s.clauses ++ rowClauses ss

/-- The clauses of branches, of which the first opens the chain or goes on with it. -/
def armClauses : Opening → List Arm → List Clause
  | _, [] => []
  | o, (test, body) :: arms => .arm o test :: rowClauses body ++ .close :: armClauses .next arms

def otherwiseClauses : Option (List Statement) → List Clause
  | none => []
  | some body => .otherwise :: rowClauses body ++ [.close]

end

mutual

theorem readIn_statement : ∀ (s : Statement), s.Sound → ∀ (fs : List Frame)
    (row : List Statement) (cs : List Clause),
    readIn fs row (s.clauses ++ cs) = readIn fs (s :: row) cs
  | .action p, _, fs, row, cs => by simp [clauses, readIn]
  | .chain [] _, h, _, _, _ => absurd rfl h.1
  | .chain ((test, body) :: arms) otherwise, h, fs, row, cs => by
      obtain ⟨-, ⟨hb, ha⟩, ho⟩ := h
      simp [clauses, armClauses, readIn, readIn_row body hb, Frame.chain]
      rw [readIn_arms arms ha, readIn_otherwise otherwise ho]
      rfl

theorem readIn_row : ∀ (ss : List Statement), RowSound ss → ∀ (fs : List Frame)
    (row : List Statement) (cs : List Clause),
    readIn fs row (rowClauses ss ++ cs) = readIn fs (ss.reverse ++ row) cs
  | [], _, fs, row, cs => rfl
  | s :: ss, h, fs, row, cs => by
      rw [rowClauses, List.append_assoc, readIn_statement s h.1, readIn_row ss h.2]
      simp

theorem readIn_arms : ∀ (arms : List Arm), ArmsSound arms → ∀ (fs : List Frame)
    (before : List Arm) (row : List Statement) (cs : List Clause),
    readIn fs (.chain before none :: row) (armClauses .next arms ++ cs) =
      readIn fs (.chain (before ++ arms) none :: row) cs
  | [], _, fs, before, row, cs => by simp [armClauses]
  | (test, body) :: arms, h, fs, before, row, cs => by
      simp [armClauses, readIn, readIn_row body h.1, Frame.chain]
      rw [readIn_arms arms h.2]
      simp

theorem readIn_otherwise : ∀ (o : Option (List Statement)), OtherwiseSound o →
    ∀ (fs : List Frame) (arms : List Arm) (row : List Statement) (cs : List Clause),
    readIn fs (.chain arms none :: row) (otherwiseClauses o ++ cs) =
      readIn fs (.chain arms o :: row) cs
  | none, _, fs, arms, row, cs => by simp [otherwiseClauses]
  | some body, h, fs, arms, row, cs => by
      simp [otherwiseClauses, readIn, readIn_row body h, Frame.chain]

end

/-- Statements are read back from their clauses. -/
theorem read_clauses {ss : List Statement} (h : RowSound ss) :
    readIn [] [] (rowClauses ss) = some ss := by
  have := readIn_row ss h [] [] []
  simpa [readIn] using this

end Statement

/-! ### Whole texts -/

/-- The statements of a script; `none` if it is no sentence of the grammar. -/
def readScript (text : String) : Option (List Statement) :=
  ((Token.read text.toList).bind (Clause.readAfter .nothing)).bind (Statement.readIn [] [])

end FolderSieve.Sieve
