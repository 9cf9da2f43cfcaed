import FolderSieve.Proofs.Sieve.Reading

/-!
# Sieve — rows of commands, read as statements

A row of commands is read as statements with the strings they hold, each of them moved as often as
there are blocks around it.  `Reads cs ss` says so of commands `cs` and statements `ss` with unmoved
strings, and `ArmsRead o cs arms` of branches that open a chain or go on with one.

* `Reads.append`, `ArmsRead.cons`, `ArmsRead.append`, `Reads.chain`, `Reads.closedChain`: how what is
  read of a row is put together from what is read of its parts.
* `Reads.readScript`: the script of commands is read as their statements, moved.
-/

namespace FolderSieve.Sieve

namespace Statement

mutual

/-- The statement as it is read `d` blocks deep. -/
def movedIn (d : Nat) : Statement → Statement
  | .action p => .action (p.mapText (moved d))
  | .chain arms otherwise => .chain (armsMovedIn d arms) (otherwiseMovedIn d otherwise)

/-- Statements as they are read `d` blocks deep. -/
def rowMovedIn (d : Nat) : List Statement → List Statement
  | [] => []
  | s :: ss => s.movedIn d :: rowMovedIn d ss

/-- Branches as they are read `d` blocks deep; their own blocks are one deeper. -/
def armsMovedIn (d : Nat) : List Arm → List Arm
  | [] => []
  | (test, body) :: arms =>
      (test.mapText (moved d), rowMovedIn (d + 1) body) :: armsMovedIn d arms

def otherwiseMovedIn (d : Nat) : Option (List Statement) → Option (List Statement)
  | none => none
  | some body => some (rowMovedIn (d + 1) body)

end

@[simp] theorem movedIn_fileInto (d : Nat) (folder : String) :
    (Statement.action (Sieve.fileInto folder)).movedIn d =
      .action (Sieve.fileInto (moved d folder)) :=
  rfl

@[simp] theorem movedIn_addFlag (d : Nat) (flag : String) :
    (Statement.action (Sieve.addFlag flag)).movedIn d = .action (Sieve.addFlag (moved d flag)) :=
  rfl

theorem rowMovedIn_eq_map (d : Nat) (ss : List Statement) :
    rowMovedIn d ss = ss.map (movedIn d) := by
  induction ss with
  | nil => rfl
  | cons s ss ih => simp [rowMovedIn, ih]

theorem armsMovedIn_eq_map (d : Nat) (arms : List Arm) :
    armsMovedIn d arms =
      arms.map fun a => (a.1.mapText (moved d), rowMovedIn (d + 1) a.2) := by
  induction arms with
  | nil => rfl
  | cons a arms ih => simp [armsMovedIn, ih]

@[simp] theorem rowMovedIn_append (d : Nat) (ss ts : List Statement) :
    rowMovedIn d (ss ++ ts) = rowMovedIn d ss ++ rowMovedIn d ts := by
  simp [rowMovedIn_eq_map]

@[simp] theorem armsMovedIn_append (d : Nat) (as bs : List Arm) :
    armsMovedIn d (as ++ bs) = armsMovedIn d as ++ armsMovedIn d bs := by
  simp [armsMovedIn_eq_map]

theorem armsMovedIn_ne_nil {d : Nat} {arms : List Arm} (h : arms ≠ []) :
    armsMovedIn d arms ≠ [] := by
  simpa [armsMovedIn_eq_map] using h

mutual

theorem sound_movedIn (d : Nat) : ∀ s : Statement, s.Sound → (s.movedIn d).Sound
  | .action _, _ => trivial
  | .chain arms otherwise, ⟨hn, ha, ho⟩ =>
      ⟨armsMovedIn_ne_nil hn, armsSound_movedIn d arms ha, otherwiseSound_movedIn d otherwise ho⟩

theorem rowSound_movedIn (d : Nat) : ∀ ss : List Statement, RowSound ss →
    RowSound (rowMovedIn d ss)
  | [], _ => trivial
  | s :: ss, ⟨hs, hss⟩ => ⟨sound_movedIn d s hs, rowSound_movedIn d ss hss⟩

theorem armsSound_movedIn (d : Nat) : ∀ arms : List Arm, ArmsSound arms →
    ArmsSound (armsMovedIn d arms)
  | [], _ => trivial
  | (_, body) :: arms, ⟨hb, ha⟩ =>
      ⟨rowSound_movedIn (d + 1) body hb, armsSound_movedIn d arms ha⟩

theorem otherwiseSound_movedIn (d : Nat) : ∀ o : Option (List Statement), OtherwiseSound o →
    OtherwiseSound (otherwiseMovedIn d o)
  | none, _ => trivial
  | some body, hb => rowSound_movedIn (d + 1) body hb

end

theorem rowSound_append {ss ts : List Statement} (hs : RowSound ss) (ht : RowSound ts) :
    RowSound (ss ++ ts) := by
  induction ss with
  | nil => exact ht
  | cons s ss ih => exact ⟨hs.1, ih hs.2⟩

theorem armsSound_append {as bs : List Arm} (ha : ArmsSound as) (hb : ArmsSound bs) :
    ArmsSound (as ++ bs) := by
  induction as with
  | nil => exact hb
  | cons a as ih => exact ⟨ha.1, ih ha.2⟩

@[simp] theorem rowClauses_append (ss ts : List Statement) :
    rowClauses (ss ++ ts) = rowClauses ss ++ rowClauses ts := by
  induction ss with
  | nil => rfl
  | cons s ss ih => simp [rowClauses, ih]

/-- Branches behind others go on with their chain. -/
theorem armClauses_append {o : Opening} {as bs : List Arm} (h : as ≠ []) :
    armClauses o (as ++ bs) = armClauses o as ++ armClauses .next bs := by
  induction as generalizing o with
  | nil => exact absurd rfl h
  | cons a as ih =>
      obtain ⟨test, body⟩ := a
      cases as with
      | nil => simp [armClauses]
      | cons a' as =>
          rw [List.cons_append, armClauses, ih (by simp)]
          simp [armClauses]

end Statement

open Statement

/-- Commands are read as statements, whatever blocks there are around them. -/
structure Reads (cs : List Command) (ss : List Statement) : Prop where
  commands : CommandsSound cs
  statements : RowSound ss
  clauses (d : Nat) : rowClauses (rowMovedIn d ss) = commandClauses d cs

/-- Commands are read as the branches of a chain, of which the first opens it or goes on with it. -/
structure ArmsRead (o : Opening) (cs : List Command) (arms : List Arm) : Prop where
  commands : CommandsSound cs
  statements : ArmsSound arms
  clauses (d : Nat) : armClauses o (armsMovedIn d arms) = commandClauses d cs

namespace ArmsRead

variable {o : Opening} {cs cs' : List Command} {arms arms' : List Arm}

theorem nil (o : Opening) : ArmsRead o [] [] :=
  ⟨trivial, trivial, fun _ => rfl⟩

theorem cons {heading : Option String} {test : Test} {body : List Command} {ss : List Statement}
    (hh : ∀ h, heading = some h → '\n' ∉ h.toList) (ht : test.Sound) (hb : Reads body ss)
    (h : ArmsRead .next cs arms) :
    ArmsRead o (.branch o heading test body :: cs) ((test.phrase id, ss) :: arms) where
  commands := ⟨⟨hh, ht, hb.commands⟩, h.commands⟩
  statements := ⟨hb.statements, h.statements⟩
  clauses d := by
    simp [armsMovedIn, armClauses, commandClauses, Command.clauses, Test.mapText_phrase,
      hb.clauses, h.clauses]

theorem append (h : ArmsRead o cs arms) (hn : arms ≠ []) (h' : ArmsRead .next cs' arms') :
    ArmsRead o (cs ++ cs') (arms ++ arms') where
  commands := (commandsSound_append cs cs').mpr ⟨h.commands, h'.commands⟩
  statements := armsSound_append h.statements h'.statements
  clauses d := by
    rw [armsMovedIn_append, armClauses_append (armsMovedIn_ne_nil hn), h.clauses, h'.clauses,
      commandClauses_append]

end ArmsRead

namespace Reads

variable {cs cs' : List Command} {ss ss' : List Statement}

theorem nil : Reads [] [] :=
  ⟨trivial, trivial, fun _ => rfl⟩

theorem append (h : Reads cs ss) (h' : Reads cs' ss') : Reads (cs ++ cs') (ss ++ ss') where
  commands := (commandsSound_append cs cs').mpr ⟨h.commands, h'.commands⟩
  statements := rowSound_append h.statements h'.statements
  clauses d := by simp [h.clauses, h'.clauses]

theorem fileInto (folder : String) :
    Reads [.fileInto folder] [.action (Sieve.fileInto folder)] where
  commands := by simp [CommandsSound, Command.Sound]
  statements := ⟨trivial, trivial⟩
  clauses d := by
    simp [rowMovedIn, rowClauses, Statement.clauses, commandClauses, Command.clauses]

theorem addFlag (flag : String) : Reads [.addFlag flag] [.action (Sieve.addFlag flag)] where
  commands := by simp [CommandsSound, Command.Sound]
  statements := ⟨trivial, trivial⟩
  clauses d := by
    simp [rowMovedIn, rowClauses, Statement.clauses, commandClauses, Command.clauses]

theorem map {α : Type} {f : α → Command} {g : α → Statement} {l : List α}
    (h : ∀ a ∈ l, Reads [f a] [g a]) : Reads (l.map f) (l.map g) := by
  induction l with
  | nil => exact .nil
  | cons a l ih =>
      obtain ⟨ha, hl⟩ := List.forall_mem_cons.mp h
      exact ha.append (ih hl)

theorem chain {arms : List Arm} (h : ArmsRead .first cs arms) (hn : arms ≠ []) :
    Reads cs [.chain arms none] where
  commands := h.commands
  statements := ⟨⟨hn, h.statements, trivial⟩, trivial⟩
  clauses d := by
    simp [rowMovedIn, movedIn, otherwiseMovedIn, rowClauses, Statement.clauses, otherwiseClauses,
      h.clauses]

theorem closedChain {arms : List Arm} (h : ArmsRead .first cs arms) (hn : arms ≠ [])
    (h' : Reads cs' ss') : Reads (cs ++ [.otherwise cs']) [.chain arms (some ss')] where
  commands := (commandsSound_append _ _).mpr ⟨h.commands, h'.commands, trivial⟩
  statements := ⟨⟨hn, h.statements, h'.statements⟩, trivial⟩
  clauses d := by
    simp [rowMovedIn, movedIn, otherwiseMovedIn, rowClauses, Statement.clauses, otherwiseClauses,
      h.clauses, h'.clauses, commandClauses, Command.clauses]

/-- **A script is read** as the statements of its commands, moved. -/
theorem readScript (h : Reads cs ss) :
    Sieve.readScript (script cs) = some (rowMovedIn 0 ss) :=
  readScript_eq_some h.commands (rowSound_movedIn 0 ss h.statements) (h.clauses 0)

end Reads

end FolderSieve.Sieve
