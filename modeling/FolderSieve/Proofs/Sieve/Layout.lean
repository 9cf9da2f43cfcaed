import FolderSieve.Proofs.Sieve.Reading

/-!
# Sieve — strings, comments and what is outside of them

Where a script may be cut into lines.  `Part.read` cuts a text into quoted strings, hash comments and
the characters outside of both, which are the signs that white space, words, tags and punctuation are
made of.  Like `Token.read` it knows no other comments and strings.

Parts are *orderly* if a control character stands nowhere in a string or a comment, and outside of
them only as a line feed behind the end of a command, behind a brace or behind a comment.  `Laid` says
that a text can be cut into such parts, and which comments there are.

* `Laid.exists_parts`: a text that is laid so is read as orderly parts.
* `Laid.indent`: moving the text right leaves its comments alone if each of them is one line.
* `laid_commands`: the text of printable commands.
-/

namespace FolderSieve.Sieve

/-! ### Parts -/

/-- A part of a script. -/
inductive Part where
  | sign (c : Char)
  | quoted (v : String)
  | comment (t : String)
  deriving DecidableEq, Repr

/-- A character outside of strings and comments. -/
def isSign (c : Char) : Bool :=
  isSpace c || isMark c || isWordChar c || c == ':'

/-- A mark that ends a command, or that a block begins or ends with. -/
def isCloser (c : Char) : Bool :=
  c == ';' || c == '\x7b' || c == '\x7d'

namespace Part

def text : Part → List Char
  | .sign c => [c]
  | .quoted v => quote v
  | .comment t => '#' :: t.toList

def comment? : Part → Option String
  | .comment t => some t
  | .sign _ | .quoted _ => none

/-- The parts of a text; `none` if there is none for some of it. -/
def read (s : List Char) : Option (List Part) :=
  match s with
  | [] => some []
  | c :: s =>
      if c = '"' then
        match _h : unquote s with
        | none => none
        | some (v, rest) => (read rest).map (.quoted (String.ofList v) :: ·)
      else if c = '#' then
        (read (s.dropWhile (· != '\n'))).map
          (.comment (String.ofList (s.takeWhile (· != '\n'))) :: ·)
      else if isSign c then (read s).map (.sign c :: ·)
      else none
termination_by s.length
decreasing_by
  all_goals
    first
      | exact Nat.lt_succ_self _
      | exact Nat.lt_succ_of_lt (length_of_unquote ‹_›)
      | exact Nat.lt_succ_of_le (List.dropWhile_sublist _).length_le

/-- A line may end behind the part. -/
def closes : Part → Bool
  | .sign c => isCloser c
  | .quoted _ => false
  | .comment _ => true

/-- The part has no control character in it, or is a line feed where a line may end. -/
def Fits (closed : Bool) : Part → Prop
  | .sign c => Text.isControl c = true → c = '\n' ∧ closed = true
  | .quoted v => Text.hasControl v = false
  | .comment t => Text.hasControl t = false

/-- Each part fits behind the one before it; `closed` says whether a line may end at the start. -/
def Orderly : (closed : Bool) → List Part → Prop
  | _, [] => True
  | closed, p :: ps => p.Fits closed ∧ Orderly p.closes ps

theorem ne_of_isSign {c : Char} (h : isSign c = true) : c ≠ '"' ∧ c ≠ '#' := by
  refine ⟨?_, ?_⟩ <;> rintro rfl <;> cases h

theorem read_sign {c : Char} (h : isSign c = true) (s : List Char) :
    read (c :: s) = (read s).map (.sign c :: ·) := by
  obtain ⟨hq, hh⟩ := ne_of_isSign h
  rw [read, if_neg hq, if_neg hh, if_pos h]

theorem read_quoted (v : String) (s : List Char) :
    read (quote v ++ s) = (read s).map (.quoted v :: ·) := by
  have hq : quote v ++ s = '"' :: (escape v.toList ++ '"' :: s) := by simp [quote]
  rw [hq, read, if_pos rfl, unquote_quoted]
  simp

theorem read_comment {t : String} (h : '\n' ∉ t.toList) (s : List Char) :
    read ('#' :: t.toList ++ '\n' :: s) = (read ('\n' :: s)).map (.comment t :: ·) := by
  have hall : ∀ c ∈ t.toList, (c != '\n') = true := fun c hc => by
    simpa using fun he : c = '\n' => h (he ▸ hc)
  rw [List.cons_append, read, if_neg (by decide), if_pos rfl, List.dropWhile_append_of_pos hall,
    List.takeWhile_append_of_pos hall]
  simp

end Part

/-- Escaping adds backslashes and nothing else. -/
theorem mem_escape {s : List Char} {c : Char} (h : c ∈ escape s) : c = '\\' ∨ c ∈ s := by
  induction s with
  | nil => cases h
  | cons d s ih =>
      rw [escape] at h
      split at h <;> simp only [List.mem_cons] at h ⊢ <;> tauto

/-- To quote a string puts no control character into it. -/
theorem isControl_of_mem_quote {v : String} (hv : Text.hasControl v = false) {c : Char}
    (hc : c ∈ quote v) : Text.isControl c = false := by
  have hall : ∀ c ∈ v.toList, Text.isControl c = false := by simpa [Text.hasControl] using hv
  have hmark : Text.isControl '"' = false := by decide
  simp only [quote, List.cons_append, List.mem_cons, List.mem_append, List.not_mem_nil, or_false]
    at hc
  rcases hc with rfl | hc | rfl
  · exact hmark
  · rcases mem_escape hc with rfl | hc
    · decide
    · exact hall c hc
  · exact hmark

/-! ### Texts of orderly parts -/

/-- The text is made of orderly parts, with the comments given.  The two truth values say whether a
line may end before the text and whether one may end behind it. -/
inductive Laid : Bool → Bool → List Char → List String → Prop
  | nil (closed : Bool) : Laid closed closed [] []
  | sign {before after : Bool} {c : Char} {s : List Char} {ts : List String}
      (hc : isSign c = true) (hp : Text.isControl c = false)
      (h : Laid (isCloser c) after s ts) : Laid before after (c :: s) ts
  | lineFeed {after : Bool} {s : List Char} {ts : List String} (h : Laid false after s ts) :
      Laid true after ('\n' :: s) ts
  | quoted {before after : Bool} {v : String} {s : List Char} {ts : List String}
      (hv : Text.hasControl v = false) (h : Laid false after s ts) :
      Laid before after (quote v ++ s) ts
  | comment {before after : Bool} {t : String} {s : List Char} {ts : List String}
      (ht : Text.hasControl t = false) (h : Laid false after s ts) :
      Laid before after ('#' :: t.toList ++ '\n' :: s) (t :: ts)

/-- Where parts are orderly, a control character is a line feed. -/
theorem Part.eq_lineFeed_of_orderly {closed : Bool} {ps : List Part} (h : Orderly closed ps)
    {c : Char} (hc : c ∈ ps.flatMap text) (hp : Text.isControl c = true) : c = '\n' := by
  induction ps generalizing closed with
  | nil => cases hc
  | cons p ps ih =>
      obtain ⟨hfits, h⟩ := h
      rw [List.flatMap_cons] at hc
      rcases List.mem_append.mp hc with hc | hc
      · cases p with
        | sign d =>
            obtain rfl := List.mem_singleton.mp hc
            exact (hfits hp).1
        | quoted v => exact absurd hp (by simp [isControl_of_mem_quote hfits hc])
        | comment t =>
            rcases List.mem_cons.mp hc with rfl | hc
            · cases hp
            · exact absurd hp (List.any_eq_false.mp hfits c hc)
      · exact ih h hc

/-- A character of a word, or between words. -/
def isPlain (c : Char) : Bool :=
  isSign c && !Text.isControl c && !isCloser c

namespace Laid

variable {a b c : Bool} {s s' w : List Char} {ts ts' : List String}

/-- **A text that is laid out** is read as orderly parts, which make up the text. -/
theorem exists_parts (h : Laid a b s ts) :
    ∃ ps, Part.read s = some ps ∧ ps.flatMap Part.text = s ∧ Part.Orderly a ps ∧
      ps.filterMap Part.comment? = ts := by
  induction h with
  | nil => exact ⟨[], by rw [Part.read], rfl, trivial, rfl⟩
  | @sign _ _ c _ _ hc hp _ ih =>
      obtain ⟨ps, hr, rfl, ho, rfl⟩ := ih
      refine ⟨.sign c :: ps, by rw [Part.read_sign hc, hr]; rfl, rfl, ⟨fun h => ?_, ho⟩, rfl⟩
      rw [hp] at h
      cases h
  | lineFeed _ ih =>
      obtain ⟨ps, hr, rfl, ho, rfl⟩ := ih
      exact ⟨.sign '\n' :: ps, by rw [Part.read_sign (by decide), hr]; rfl, rfl,
        ⟨fun _ => ⟨rfl, rfl⟩, ho⟩, rfl⟩
  | @quoted _ _ v _ _ hv _ ih =>
      obtain ⟨ps, hr, rfl, ho, rfl⟩ := ih
      exact ⟨.quoted v :: ps, by rw [Part.read_quoted, hr]; rfl, rfl, ⟨hv, ho⟩, rfl⟩
  | @comment _ _ t _ _ ht _ ih =>
      obtain ⟨ps, hr, rfl, ho, rfl⟩ := ih
      have hn : '\n' ∉ t.toList := fun hm => List.any_eq_false.mp ht _ hm (by decide)
      refine ⟨.comment t :: .sign '\n' :: ps, ?_, ?_, ⟨ht, fun _ => ⟨rfl, rfl⟩, ho⟩, rfl⟩
      · rw [Part.read_comment hn, Part.read_sign (by decide), hr]
        rfl
      · simp [Part.text]

theorem append (h : Laid a b s ts) (h' : Laid b c s' ts') : Laid a c (s ++ s') (ts ++ ts') := by
  induction h with
  | nil => exact h'
  | sign hc hp _ ih => exact .sign hc hp (ih h')
  | lineFeed _ ih => exact .lineFeed (ih h')
  | quoted hv _ ih => simpa using Laid.quoted hv (ih h')
  | comment ht _ ih => simpa using Laid.comment ht (ih h')

/-- Words and tags with spaces between them. -/
theorem plain (hn : w ≠ []) (hw : w.all isPlain = true) : Laid a false w [] := by
  induction w generalizing a with
  | nil => exact absurd rfl hn
  | cons c w ih =>
      simp only [List.all_cons, isPlain, Bool.and_eq_true, Bool.not_eq_true'] at hw
      obtain ⟨⟨⟨hc, hp⟩, hcloser⟩, hw⟩ := hw
      refine .sign hc hp ?_
      rw [hcloser]
      cases w with
      | nil => exact .nil false
      | cons d w => exact ih (by simp) hw

theorem mark (d : Char) (hc : isSign d = true) (hp : Text.isControl d = false) :
    Laid a (isCloser d) [d] [] :=
  .sign hc hp (.nil _)

theorem string {v : String} (hv : Text.hasControl v = false) : Laid a false (quote v) [] := by
  have h : Laid a false (quote v ++ []) [] := .quoted hv (.nil false)
  rwa [List.append_nil] at h

end Laid

/-! ### Moving right -/

theorem not_isBreak_of_isSign {c : Char} (hc : isSign c = true) (hp : Text.isControl c = false) :
    Text.isBreak c = false := by
  refine Bool.eq_false_iff.mpr fun hb => ?_
  rcases (Text.isBreak_iff_of_not_isControl hp).mp hb with rfl | rfl | rfl <;> cases hc

theorem hasControl_append (s t : String) :
    Text.hasControl (s ++ t) = (Text.hasControl s || Text.hasControl t) := by
  simp [Text.hasControl]

/-- Moving a string puts no control character into it. -/
theorem hasControl_moved {v : String} (h : Text.hasControl v = false) (d : Nat) :
    Text.hasControl (moved d v) = false := by
  refine List.any_eq_false.mpr fun c hc hp => ?_
  have hne : c ≠ ' ' := by
    rintro rfl
    cases hp
  rw [moved, String.toList_ofList, ← List.count_pos_iff, Text.count_iterate_moved hne,
    List.count_pos_iff] at hc
  exact List.any_eq_false.mp h c hc hp

namespace Laid

variable {a b : Bool} {s : List Char} {ts : List String}

theorem margin (h : ∀ a, Laid a b s ts) (atStart blank : Bool) :
    Laid a b (Text.margin atStart blank ++ s) ts := by
  cases atStart <;> cases blank
  case true.false =>
    have hspaces : Laid a false Text.indentation [] := plain (by decide) (by decide)
    exact hspaces.append (h false)
  all_goals exact h a

/-- What can stand anywhere in a line can have the indentation before it. -/
theorem indentFrom_of_false (h : ∀ a, Laid a b (Text.indentFrom false s) ts) (atStart : Bool) :
    Laid a b (Text.indentFrom atStart s) ts := by
  cases atStart with
  | false => exact h a
  | true =>
      rw [Text.indentFrom_true]
      exact margin h true _

theorem indentFrom (h : Laid a b s ts) (ht : ∀ t ∈ ts, Still t) (atStart : Bool) :
    Laid a b (Text.indentFrom atStart s) ts := by
  induction h generalizing atStart with
  | nil closed => exact .nil closed
  | sign hc hp _ ih =>
      refine indentFrom_of_false (fun a => ?_) atStart
      rw [Text.indentFrom, Text.endsLine_of_not_isBreak (not_isBreak_of_isSign hc hp)]
      exact .sign hc hp (ih ht false)
  | @lineFeed _ s _ _ ih =>
      -- the line that the line feed ends is blank, so that no indentation comes before it
      have hl : Text.indentFrom atStart ('\n' :: s) = '\n' :: Text.indentFrom true s := by
        cases atStart <;> rfl
      rw [hl]
      exact .lineFeed (ih ht true)
  | @quoted _ _ v s _ hv _ ih =>
      refine indentFrom_of_false (fun a => ?_) atStart
      rw [indentFrom_quote]
      exact .quoted (hasControl_moved hv 1) (ih ht false)
  | @comment _ _ t s _ hp _ ih =>
      obtain ⟨hstill, ht⟩ := List.forall_mem_cons.mp ht
      refine indentFrom_of_false (fun a => ?_) atStart
      have hc : Text.indentFrom false ('#' :: t.toList ++ '\n' :: s) =
          '#' :: t.toList ++ '\n' :: Text.indentFrom true s := by
        show '#' :: Text.indentFrom false (t.toList ++ '\n' :: s) = _
        rw [indentFrom_append_of_not_isBreak hstill]
        rfl
      rw [hc]
      exact .comment hp (ih ht true)

/-- **A text moved right** is laid out as it was. -/
theorem indent (h : Laid a b s ts) (ht : ∀ t ∈ ts, Still t) : Laid a b (Text.indent s) ts := by
  rw [Text.indent_eq_indentFrom]
  exact h.indentFrom ht true

end Laid

/-! ### Commands -/

mutual

/-- The comments above the branches of a command, as they stand behind the hash sign. -/
def Command.comments : Command → List String
  | .fileInto _ | .addFlag _ => []
  | .branch _ heading _ body => (heading.map (" " ++ ·)).toList ++ commandsComments body
  | .otherwise body => commandsComments body

def commandsComments : List Command → List String
  | [] => []
  | c :: cs => c.comments ++ commandsComments cs

end

mutual

/-- No string and no heading of the command has a control character, and a heading within a block is
one line. -/
def Command.Printable : Command → Prop
  | .fileInto s | .addFlag s => Text.hasControl s = false
  | .branch _ heading test body =>
      (∀ h, heading = some h → Text.hasControl h = false) ∧
        (∀ v ∈ test.strings, Text.hasControl v = false) ∧
          (∀ t ∈ commandsComments body, Still t) ∧ CommandsPrintable body
  | .otherwise body => (∀ t ∈ commandsComments body, Still t) ∧ CommandsPrintable body

def CommandsPrintable : List Command → Prop
  | [] => True
  | c :: cs => c.Printable ∧ CommandsPrintable cs

end

@[simp] theorem commandsComments_append (cs ds : List Command) :
    commandsComments (cs ++ ds) = commandsComments cs ++ commandsComments ds := by
  induction cs with
  | nil => rfl
  | cons c cs ih => simp [commandsComments, ih]

@[simp] theorem commandsPrintable_append (cs ds : List Command) :
    CommandsPrintable (cs ++ ds) ↔ CommandsPrintable cs ∧ CommandsPrintable ds := by
  induction cs with
  | nil => simp [CommandsPrintable]
  | cons c cs ih => simp [CommandsPrintable, ih, and_assoc]

namespace Laid

variable {a : Bool} {s : List Char} {ts : List String}

theorem quotedItems {vs : List String} (h : ∀ v ∈ vs, Text.hasControl v = false) :
    Laid false false (Sieve.quotedItems vs) [] := by
  match vs, h with
  | [], _ => exact .nil false
  | [v], h => exact string (h v (by simp))
  | v :: w :: vs, h =>
      obtain ⟨hv, h⟩ := List.forall_mem_cons.mp h
      have hcomma : Laid false false [','] [] := mark ',' (by decide) (by decide)
      exact (string hv).append (hcomma.append (quotedItems h))

theorem stringList {vs : List String} (h : ∀ v ∈ vs, Text.hasControl v = false) :
    Laid false false (Sieve.stringList vs) [] := by
  have hopen : Laid false false ['['] [] := mark '[' (by decide) (by decide)
  have hclose : Laid false false [']'] [] := mark ']' (by decide) (by decide)
  exact hopen.append ((quotedItems h).append hclose)

theorem test {t : Test} (h : ∀ v ∈ t.strings, Text.hasControl v = false) :
    Laid false false t.text [] := by
  have hspace : Laid false false [' '] [] := mark ' ' (by decide) (by decide)
  have hto : Laid false false (quote "to") [] := string (by decide)
  cases t with
  | headerContains keywords =>
      have hword : Laid false false "header :contains ".toList [] := plain (by decide) (by decide)
      have hnames : Laid false false (Sieve.stringList labelHeaders) [] := stringList (by decide)
      exact (hword.append hnames).append (hspace.append (stringList h))
  | localpartMatches patterns =>
      have hword : Laid false false "envelope :localpart :matches ".toList [] :=
        plain (by decide) (by decide)
      have htext : "envelope :localpart :matches \"to\" ".toList =
          "envelope :localpart :matches ".toList ++ (quote "to" ++ [' ']) := by decide
      unfold Test.text
      rw [htext]
      exact (hword.append (hto.append hspace)).append (stringList h)
  | domainIs domain =>
      have hword : Laid false false "envelope :domain :is ".toList [] :=
        plain (by decide) (by decide)
      have htext : "envelope :domain :is \"to\" ".toList =
          "envelope :domain :is ".toList ++ (quote "to" ++ [' ']) := by decide
      unfold Test.text
      rw [htext]
      exact (hword.append (hto.append hspace)).append (string (h domain (by simp [Test.strings])))

theorem lead (opening : Opening) {heading : Option String}
    (h : ∀ t, heading = some t → Text.hasControl t = false) :
    Laid true false (opening.lead heading) (heading.map (" " ++ ·)).toList := by
  cases heading with
  | some t =>
      have ht : Text.hasControl (" " ++ t) = false := by
        rw [hasControl_append, h t rfl]
        rfl
      have hcomment : Laid true false ('\n' :: ('#' :: (" " ++ t).toList ++ ['\n'])) [" " ++ t] :=
        .lineFeed (.comment ht (.nil false))
      cases opening <;> simpa [Opening.lead] using hcomment
  | none =>
      cases opening with
      | first => exact .lineFeed (.nil false)
      | next => exact mark ' ' (by decide) (by decide)

/-- An action with a string behind it. -/
theorem action {word : List Char} (hn : word ≠ []) (hw : word.all isPlain = true) {v : String}
    (hv : Text.hasControl v = false) :
    Laid true true ('\n' :: word ++ quote v ++ [';']) [] := by
  have hend : Laid false true [';'] [] := mark ';' (by decide) (by decide)
  exact .lineFeed (((plain hn hw).append (string hv)).append hend)

/-- A block begins and ends with a brace, behind which a line may end. -/
theorem block (h : Laid true true s ts) (ht : ∀ t ∈ ts, Still t) :
    Laid false true (Sieve.block s) ts := by
  have hopen : Laid false true [' ', '\x7b'] [] :=
    .sign (by decide) (by decide) (mark '\x7b' (by decide) (by decide))
  have hclose : Laid true true ['\n', '\x7d'] [] := .lineFeed (mark '\x7d' (by decide) (by decide))
  have := (hopen.append (h.indent ht)).append hclose
  simpa [Sieve.block] using this

end Laid

mutual

theorem Command.laid : ∀ c : Command, c.Printable → Laid true true c.text c.comments
  | .fileInto folder, h => by
      have htext : "\nfileinto ".toList = '\n' :: "fileinto ".toList := by decide
      unfold Command.text
      rw [htext]
      exact .action (by decide) (by decide) h
  | .addFlag flag, h => by
      have htext : "\naddflag ".toList = '\n' :: "addflag ".toList := by decide
      unfold Command.text
      rw [htext]
      exact .action (by decide) (by decide) h
  | .branch opening heading test body, h => by
      obtain ⟨hh, ht, hstill, hb⟩ := h
      have hkeyword : Laid false false opening.keyword [] := by
        cases opening <;> exact .plain (by decide) (by decide)
      have hspace : Laid false false [' '] [] := .mark ' ' (by decide) (by decide)
      have hbody := (laid_commands body hb).block hstill
      have hopening := (Laid.lead opening hh).append hkeyword
      have := hopening.append ((hspace.append (.test ht)).append hbody)
      unfold Command.text
      simpa [Command.comments] using this
  | .otherwise body, h => by
      have hword : Laid true false " else".toList [] := .plain (by decide) (by decide)
      exact hword.append ((laid_commands body h.2).block h.1)

/-- **The text of commands** that are printable. -/
theorem laid_commands : ∀ cs : List Command, CommandsPrintable cs →
    Laid true true (commandsText cs) (commandsComments cs)
  | [], _ => .nil true
  | c :: cs, h => (c.laid h.1).append (laid_commands cs h.2)

end

/-- The commands are printable, and `ts` are the comments among them. -/
def Commented (cs : List Command) (ts : List String) : Prop :=
  CommandsPrintable cs ∧ commandsComments cs = ts

namespace Commented

variable {cs ds body : List Command} {ts us : List String}

/-- **A script** of commands with comments. -/
theorem laid_script (h : Commented cs ts) : Laid true true (script cs).toList ts := by
  rw [script, String.toList_ofList, ← h.2]
  exact laid_commands cs h.1

theorem nil : Commented [] [] :=
  ⟨trivial, rfl⟩

theorem append (h : Commented cs ts) (h' : Commented ds us) : Commented (cs ++ ds) (ts ++ us) := by
  refine ⟨(commandsPrintable_append cs ds).mpr ⟨h.1, h'.1⟩, ?_⟩
  rw [commandsComments_append, h.2, h'.2]

/-- A row of commands without comments. -/
theorem map {α : Type} {f : α → Command} {l : List α} (h : ∀ a ∈ l, Commented [f a] []) :
    Commented (l.map f) [] := by
  induction l with
  | nil => exact .nil
  | cons a l ih =>
      obtain ⟨ha, hl⟩ := List.forall_mem_cons.mp h
      exact ha.append (ih hl)

theorem fileInto {folder : String} (h : Text.hasControl folder = false) :
    Commented [.fileInto folder] [] :=
  ⟨⟨h, trivial⟩, rfl⟩

theorem addFlag {flag : String} (h : Text.hasControl flag = false) :
    Commented [.addFlag flag] [] :=
  ⟨⟨h, trivial⟩, rfl⟩

theorem branch (opening : Opening) {heading : Option String} {test : Test}
    (hh : ∀ t, heading = some t → Text.hasControl t = false)
    (ht : ∀ v ∈ test.strings, Text.hasControl v = false) (hb : Commented body ts)
    (hstill : ∀ t ∈ ts, Still t) :
    Commented [.branch opening heading test body] ((heading.map (" " ++ ·)).toList ++ ts) := by
  obtain ⟨hp, rfl⟩ := hb
  exact ⟨⟨⟨hh, ht, hstill, hp⟩, trivial⟩, by simp [commandsComments, Command.comments]⟩

/-- A branch without a heading and without comments in it. -/
theorem plainBranch (opening : Opening) {test : Test}
    (ht : ∀ v ∈ test.strings, Text.hasControl v = false) (hb : Commented body []) :
    Commented [.branch opening none test body] [] :=
  .branch opening (by simp) ht hb (by simp)

theorem otherwise (hb : Commented body []) : Commented [.otherwise body] [] := by
  obtain ⟨hp, hc⟩ := hb
  exact ⟨⟨⟨by simp [hc], hp⟩, trivial⟩, by simp [commandsComments, Command.comments, hc]⟩

end Commented

end FolderSieve.Sieve
