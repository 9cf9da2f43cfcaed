import FolderSieve.Proofs.Sieve.Statement

/-!
# Sieve — commands, read back

Commands are printed block within block, each block moved right as a whole.  `Command.clauses d`
lists the clauses of a command that stands `d` blocks deep: its strings are moved as often, its
heading is gone.

* `written_commands`: the text of sound commands is written from the tokens of their clauses.
* `readScript_eq_some`: a script whose commands have the clauses of given statements is read as these
  statements.

Commands are sound if no string list is empty and no heading holds a line feed.
-/

namespace FolderSieve

/-! ### Strings at a depth -/

/-- A string without a line break, which is read as it is in whatever blocks. -/
abbrev Still (v : String) : Prop :=
  v.toList.any Text.isBreak = false

namespace Sieve

@[simp] theorem moved_zero : moved 0 = id := by
  funext v
  simp [moved]

@[simp] theorem moved_one_moved (d : Nat) (v : String) : moved 1 (moved d v) = moved (d + 1) v := by
  simp [moved, Function.iterate_succ_apply']

theorem moved_one_comp (d : Nat) : moved 1 ∘ moved d = moved (d + 1) :=
  funext (moved_one_moved d)

/-- A string is left alone exactly at the top, or if it holds no line break. -/
theorem moved_eq_self_iff {d : Nat} {v : String} : moved d v = v ↔ d = 0 ∨ Still v := by
  rw [← Text.iterate_moved_eq_self_iff, moved, ← String.toList_inj, String.toList_ofList]

def Argument.mapText (f : String → String) : Argument → Argument
  | .tag name => .tag name
  | .text s => .text (f s)
  | .list ss => .list (ss.map f)

def Phrase.mapText (f : String → String) (p : Phrase) : Phrase :=
  { p with arguments := p.arguments.map (Argument.mapText f) }

def Clause.mapText (f : String → String) : Clause → Clause
  | .action p => .action (p.mapText f)
  | .arm o p => .arm o (p.mapText f)
  | .otherwise => .otherwise
  | .close => .close

theorem Argument.map_tokens (f : String → String) (a : Argument) :
    a.tokens.map (Token.mapText f) = (a.mapText f).tokens := by
  cases a with
  | tag name => rfl
  | text s => rfl
  | list ss =>
      cases ss with
      | nil => rfl
      | cons s ss =>
          simp [Argument.tokens, Argument.mapText, Token.mapText, itemTokens, List.map_flatMap,
            List.flatMap_map]

theorem Phrase.map_tokens (f : String → String) (p : Phrase) :
    p.tokens.map (Token.mapText f) = (p.mapText f).tokens := by
  simp [Phrase.tokens, Phrase.mapText, Token.mapText, List.map_flatMap, List.flatMap_map,
    Argument.map_tokens]

theorem Clause.map_tokens (f : String → String) (cs : List Clause) :
    (cs.flatMap Clause.tokens).map (Token.mapText f) =
      (cs.map (Clause.mapText f)).flatMap Clause.tokens := by
  rw [List.map_flatMap, List.flatMap_map]
  refine congrArg (cs.flatMap ·) (funext fun c => ?_)
  cases c <;> simp [Clause.tokens, Clause.mapText, Token.mapText, Phrase.map_tokens]

/-! ### The clauses of commands -/

namespace Test

/-- The test as the grammar has it, each of its strings shown by `f`. -/
def phrase (f : String → String) : Test → Phrase
  | .headerContains keywords =>
      ⟨"header", [.tag "contains", .list labelHeaders, .list (keywords.map f)]⟩
  | .localpartMatches patterns =>
      ⟨"envelope", [.tag "localpart", .tag "matches", .text "to", .list (patterns.map f)]⟩
  | .domainIs domain => ⟨"envelope", [.tag "domain", .tag "is", .text "to", .text (f domain)]⟩

/-- The strings that a test asks for. -/
def strings : Test → List String
  | .headerContains keywords => keywords
  | .localpartMatches patterns => patterns
  | .domainIs domain => [domain]

/-- The test has something to look for. -/
def Sound : Test → Prop
  | .headerContains keywords => keywords ≠ []
  | .localpartMatches patterns => patterns ≠ []
  | .domainIs _ => True

theorem sound_phrase {t : Test} (h : t.Sound) (f : String → String) : (t.phrase f).Sound := by
  cases t <;> simp_all [phrase, Phrase.Sound, Argument.Sound, Sound, labelHeaders]

/-- The strings that every test has, whatever it asks for, are not moved. -/
theorem mapText_phrase (d : Nat) (f : String → String) (t : Test) :
    (t.phrase f).mapText (moved d) = t.phrase (moved d ∘ f) := by
  have h : ∀ v ∈ ["from", "subject", "to"], moved d v = v := by
    intro v hv
    refine moved_eq_self_iff.mpr (.inr ?_)
    revert v
    decide
  cases t <;> simp_all [phrase, Phrase.mapText, Argument.mapText, labelHeaders]

end Test

/-- The action of filing into a folder. -/
def fileInto (folder : String) : Phrase :=
  ⟨"fileinto", [.text folder]⟩

@[simp] theorem fileInto_inj {folder folder' : String} :
    fileInto folder = fileInto folder' ↔ folder = folder' := by
  simp [fileInto]

/-- The action of setting a flag. -/
def addFlag (flag : String) : Phrase :=
  ⟨"addflag", [.text flag]⟩

mutual

/-- The clauses of a command that stands `d` blocks deep. -/
def Command.clauses (d : Nat) : Command → List Clause
  | .fileInto folder => [.action (Sieve.fileInto (moved d folder))]
  | .addFlag flag => [.action (Sieve.addFlag (moved d flag))]
  | .branch opening _ test body =>
      .arm opening (test.phrase (moved d)) :: commandClauses (d + 1) body ++ [.close]
  | .otherwise body => .otherwise :: commandClauses (d + 1) body ++ [.close]

/-- The clauses of commands, one after the other. -/
def commandClauses (d : Nat) : List Command → List Clause
  | [] => []
  | c :: cs => c.clauses d ++ commandClauses d cs

end

mutual

/-- No string list of the command is empty, and no heading holds a line feed. -/
def Command.Sound : Command → Prop
  | .fileInto _ | .addFlag _ => True
  | .branch _ heading test body =>
      (∀ h, heading = some h → '\n' ∉ h.toList) ∧ test.Sound ∧ CommandsSound body
  | .otherwise body => CommandsSound body

def CommandsSound : List Command → Prop
  | [] => True
  | c :: cs => c.Sound ∧ CommandsSound cs

end

@[simp] theorem commandsSound_append (cs ds : List Command) :
    CommandsSound (cs ++ ds) ↔ CommandsSound cs ∧ CommandsSound ds := by
  induction cs with
  | nil => simp [CommandsSound]
  | cons c cs ih => simp [CommandsSound, ih, and_assoc]

@[simp] theorem commandClauses_append (d : Nat) (cs ds : List Command) :
    commandClauses d (cs ++ ds) = commandClauses d cs ++ commandClauses d ds := by
  induction cs with
  | nil => rfl
  | cons c cs ih => simp [commandClauses, ih]

mutual

theorem Command.map_clauses (d : Nat) : ∀ c : Command,
    (c.clauses d).map (Clause.mapText (moved 1)) = c.clauses (d + 1)
  | .fileInto folder => by
      simp [Command.clauses, Clause.mapText, Phrase.mapText, Sieve.fileInto, Argument.mapText]
  | .addFlag flag => by
      simp [Command.clauses, Clause.mapText, Phrase.mapText, Sieve.addFlag, Argument.mapText]
  | .branch opening heading test body => by
      simp [Command.clauses, Clause.mapText, Test.mapText_phrase, moved_one_comp,
        map_commandClauses (d + 1) body]
  | .otherwise body => by
      simp [Command.clauses, Clause.mapText, map_commandClauses (d + 1) body]

theorem map_commandClauses (d : Nat) : ∀ cs : List Command,
    (commandClauses d cs).map (Clause.mapText (moved 1)) = commandClauses (d + 1) cs
  | [] => rfl
  | c :: cs => by simp [commandClauses, c.map_clauses d, map_commandClauses d cs]

end

mutual

theorem Command.sound_clauses (d : Nat) : ∀ c : Command, c.Sound → ∀ x ∈ c.clauses d, x.Sound
  | .fileInto folder, _ => by
      simp [Command.clauses, Clause.Sound, Phrase.Sound, Sieve.fileInto, Argument.Sound]
  | .addFlag flag, _ => by
      simp [Command.clauses, Clause.Sound, Phrase.Sound, Sieve.addFlag, Argument.Sound]
  | .branch opening heading test body, h => by
      have := sound_commandClauses (d + 1) body h.2.2
      simpa [Command.clauses, Clause.Sound, Test.sound_phrase h.2.1, or_imp, forall_and] using this
  | .otherwise body, h => by
      have := sound_commandClauses (d + 1) body h
      simpa [Command.clauses, Clause.Sound, or_imp, forall_and] using this

theorem sound_commandClauses (d : Nat) : ∀ cs : List Command, CommandsSound cs →
    ∀ x ∈ commandClauses d cs, x.Sound
  | [], _ => by simp [commandClauses]
  | c :: cs, h => by
      have hc := c.sound_clauses d h.1
      have hcs := sound_commandClauses d cs h.2
      simpa [commandClauses, or_imp, forall_and] using ⟨hc, hcs⟩

end

/-! ### Written commands -/

namespace Written

variable {s s' : List Char} {ts ts' : List Token}

/-- A text that does not go on with a word can follow any other. -/
theorem append (h : Written s ts) (h' : Written s' ts') (hs : continuesWord s' = false) :
    Written (s ++ s') (ts ++ ts') := by
  induction h with
  | nil => exact h'
  | space hc _ ih => exact .space hc ih
  | comment ht _ ih => simpa using Written.comment ht ih
  | text v _ ih => simpa using Written.text v ih
  | mark hc _ ih => exact .mark hc ih
  | @word w r _ hw hr _ ih =>
      have : continuesWord (r ++ s') = false := by cases r <;> simp_all [continuesWord]
      simpa using Written.word hw this ih
  | @tag w r _ hw hr _ ih =>
      have : continuesWord (r ++ s') = false := by cases r <;> simp_all [continuesWord]
      simpa using Written.tag hw this ih

theorem quotedItems (v : String) (vs : List String) (h : Written s ts) :
    Written (Sieve.quotedItems (v :: vs) ++ s) (.text v :: itemTokens vs ++ ts) := by
  induction vs generalizing v with
  | nil => exact .text v h
  | cons w vs ih =>
      have : Sieve.quotedItems (v :: w :: vs) ++ s =
          quote v ++ ',' :: (Sieve.quotedItems (w :: vs) ++ s) := by simp [Sieve.quotedItems]
      rw [this]
      exact .text v (.mark rfl (ih w))

theorem stringList {vs : List String} (hv : vs ≠ []) (h : Written s ts) :
    Written (Sieve.stringList vs ++ s) ((Argument.list vs).tokens ++ ts) := by
  cases vs with
  | nil => exact absurd rfl hv
  | cons v vs =>
      have := (Written.mark (c := ']') rfl h).quotedItems v vs
      simpa [Sieve.stringList, Argument.tokens] using Written.mark (c := '[') rfl this

/-- A name that is no keyword, with a space behind it. -/
theorem wordSpace {w : String} (hw : isWord w.toList = true ∧ Token.ofWord w.toList = .word w)
    (h : Written s ts) : Written (w.toList ++ ' ' :: s) (.word w :: ts) :=
  hw.2 ▸ .word hw.1 rfl (.space (by decide) h)

/-- A tag with a space behind it. -/
theorem tagSpace {w : String} (hw : isWord w.toList = true) (h : Written s ts) :
    Written (':' :: w.toList ++ ' ' :: s) (.tag w :: ts) := by
  have := Written.tag hw rfl (.space (c := ' ') (by decide) h)
  rwa [String.ofList_toList] at this

theorem test {t : Test} (ht : t.Sound) (h : Written s ts) :
    Written (t.text ++ s) ((t.phrase (moved 0)).tokens ++ ts) := by
  unfold Test.text
  -- each test is put together from its end, every piece before what is written already
  cases t with
  | headerContains keywords =>
      have hl : labelHeaders ≠ [] := by decide
      have hk := (Written.space (c := ' ') rfl (h.stringList ht)).stringList hl
      have := (hk.tagSpace (w := "contains") (by decide)).wordSpace (w := "header") (by decide)
      simpa [Test.phrase, Phrase.tokens, Argument.tokens] using this
  | localpartMatches patterns =>
      have hp := Written.text "to" (.space (c := ' ') rfl (h.stringList ht))
      have := ((hp.tagSpace (w := "matches") (by decide)).tagSpace (w := "localpart")
        (by decide)).wordSpace (w := "envelope") (by decide)
      simpa [Test.phrase, Phrase.tokens, Argument.tokens, quote, escape] using this
  | domainIs domain =>
      have hd := Written.text "to" (.space (c := ' ') rfl (.text domain h))
      have := ((hd.tagSpace (w := "is") (by decide)).tagSpace (w := "domain")
        (by decide)).wordSpace (w := "envelope") (by decide)
      simpa [Test.phrase, Phrase.tokens, Argument.tokens, quote, escape] using this

/-- What stands before the keyword of a branch is white space and a comment. -/
theorem lead (opening : Opening) {heading : Option String}
    (hh : ∀ h, heading = some h → '\n' ∉ h.toList) (h : Written s ts) :
    Written (opening.lead heading ++ s) ts := by
  cases heading with
  | none => cases opening <;> exact .space rfl h
  | some text =>
      have ht : '\n' ∉ ' ' :: text.toList := by simp [hh text rfl]
      have : opening.lead (some text) ++ s = '\n' :: ('#' :: (' ' :: text.toList) ++ '\n' :: s) := by
        cases opening <;> simp [Opening.lead]
      rw [this]
      exact .space rfl (.comment ht (.space rfl h))

/-- A block, its text moved right. -/
theorem block (hb : Written s ts) (h : Written s' ts') :
    Written (Sieve.block s ++ s')
      (.mark '\x7b' :: ts.map (Token.mapText (moved 1)) ++ .mark '\x7d' :: ts') := by
  have hend : Written ('\n' :: '\x7d' :: s') (.mark '\x7d' :: ts') := .space rfl (.mark rfl h)
  have := Written.space (c := ' ') rfl (.mark (c := '\x7b') rfl (hb.indent.append hend rfl))
  simpa [Sieve.block] using this

end Written

theorem Opening.ofWord_keyword (o : Opening) :
    isWord o.keyword = true ∧ Token.ofWord o.keyword = .keyword (.arm o) := by
  cases o <;> decide

mutual

theorem Command.written : ∀ c : Command, c.Sound → ∀ {s : List Char} {ts : List Token},
    Written s ts → Written (c.text ++ s) ((c.clauses 0).flatMap Clause.tokens ++ ts)
  | .fileInto folder, _, s, ts, h => by
      unfold Command.text
      have := (Written.text folder (.mark (c := ';') rfl h)).wordSpace (w := "fileinto") (by decide)
      simpa [Command.clauses, Clause.tokens, Sieve.fileInto, Phrase.tokens, Argument.tokens]
        using Written.space (c := '\n') rfl this
  | .addFlag flag, _, s, ts, h => by
      unfold Command.text
      have := (Written.text flag (.mark (c := ';') rfl h)).wordSpace (w := "addflag") (by decide)
      simpa [Command.clauses, Clause.tokens, Sieve.addFlag, Phrase.tokens, Argument.tokens]
        using Written.space (c := '\n') rfl this
  | .branch opening heading test body, hc, s, ts, h => by
      obtain ⟨hh, ht, hb⟩ := hc
      obtain ⟨hw, hk⟩ := opening.ofWord_keyword
      -- the body is written as it stands at the top, and moved once by the block around it
      have := ((written_commands body hb).block h).test ht
      have := Written.lead opening hh (.word hw rfl (.space (c := ' ') rfl this))
      unfold Command.text
      simpa [Command.clauses, Clause.tokens, hk, Clause.map_tokens, map_commandClauses] using this
  | .otherwise body, hc, s, ts, h => by
      have hk : isWord "else".toList = true ∧
          Token.ofWord "else".toList = .keyword .otherwise := by decide
      have := Written.space (c := ' ') rfl (.word hk.1 rfl ((written_commands body hc).block h))
      unfold Command.text
      rw [hk.2] at this
      simpa [Command.clauses, Clause.tokens, Clause.map_tokens, map_commandClauses] using this

/-- **The text of commands** is written from the tokens of their clauses. -/
theorem written_commands : ∀ cs : List Command, CommandsSound cs →
    Written (commandsText cs) ((commandClauses 0 cs).flatMap Clause.tokens)
  | [], _ => .nil
  | c :: cs, h => by
      rw [commandsText, commandClauses, List.flatMap_append]
      exact c.written h.1 (written_commands cs h.2)

end

/-- **Reading a script back.**  Sound commands are read as the statements that have their
clauses. -/
theorem readScript_eq_some {cs : List Command} (h : CommandsSound cs) {ss : List Statement}
    (hs : Statement.RowSound ss) (he : Statement.rowClauses ss = commandClauses 0 cs) :
    readScript (script cs) = some ss := by
  rw [readScript, script, String.toList_ofList, read_of_written (written_commands cs h),
    Option.bind_some, Clause.read_tokens (sound_commandClauses 0 cs h), Option.bind_some, ← he,
    Statement.read_clauses hs]

end Sieve

end FolderSieve
