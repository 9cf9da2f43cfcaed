import FolderSieve.Proofs.Rules.Reached
import FolderSieve.Proofs.Rules.Reordering
import FolderSieve.Proofs.Rules.Verbatim
import FolderSieve.Proofs.Sieve.Execution

/-!
# Rules — where mail goes

The script of a domain asks its rules in order, the custom ones by descending path and then the
generic ones by descending path.  Mail is for the first rule of which a localpart matches, and for
the catch-all if there is none (`DomainRules.ruleFor`).

* `DomainRules.performRow_statements`: what the script does with a message is what the block of its
  rule does.
* `DomainRules.performs_block`: this holds of the rules that any walks leave behind.
-/

namespace FolderSieve

open Sieve (Statement)
open Sieve.Statement

section Chains

variable (matching : String → String → Bool) (m : Sieve.Message)

/-- The test of a rule's branch is passed by mail to a localpart that the rule has. -/
theorem Rule.passes_arm (way : String → List String) (home : String) (e : String × Rule) :
    m.passes matching ((Rule.arm way home e).1.mapText (Sieve.moved 0)) =
      e.2.localparts.any fun pattern => matching pattern m.localpart := by
  rw [Rule.arm, Sieve.Test.mapText_phrase, Sieve.moved_zero, Function.comp_id,
    Sieve.Message.passes_phrase]
  rfl

/-- The first branch that is open to a message is that of the first rule that asks for it. -/
theorem Rule.find?_arms (way : String → List String) (home : String) (es : List (String × Rule)) :
    ((es.map (Rule.arm way home)).find? fun a => m.passes matching (a.1.mapText (Sieve.moved 0))) =
      (es.find? fun e => e.2.localparts.any fun pattern => matching pattern m.localpart).map
        (Rule.arm way home) := by
  rw [List.find?_map]
  refine congrArg (fun p => (es.find? p).map (Rule.arm way home)) (funext fun e => ?_)
  exact Rule.passes_arm matching m way home e

/-- What is done with a message that no rule asks for. -/
abbrev RuleSet.catchAllActions : List Sieve.Phrase :=
  [Sieve.addFlag Sieve.seenFlag, Sieve.fileInto Folder.unknown]

theorem RuleSet.performRow_catchAll (passes : Sieve.Phrase → Bool) (d : Nat) :
    Sieve.performRow passes (rowMovedIn d catchAllStatements) = catchAllActions := by
  rw [rowMovedIn_catchAll]
  rfl

/-- What branches do as one chain, closed by the catch-all or open. -/
theorem RuleSet.performRow_chainStatements (passes : Sieve.Phrase → Bool) (closed : Bool)
    (arms : List Sieve.Arm) :
    Sieve.performRow passes (rowMovedIn 0 (chainStatements closed arms)) =
      match arms.find? fun a => passes (a.1.mapText (Sieve.moved 0)) with
      | some a => Sieve.performRow passes (rowMovedIn 1 a.2)
      | none => if closed then catchAllActions else [] := by
  cases arms with
  | nil =>
      cases closed with
      | false => rfl
      | true => exact performRow_catchAll passes 0
  | cons arm arms =>
      rw [chainStatements, rowMovedIn, rowMovedIn, movedIn, Sieve.performRow_chain,
        armsMovedIn_eq_map, List.find?_map]
      have hcomp : ((fun a : Sieve.Arm => passes a.1) ∘
          fun a : Sieve.Arm => (a.1.mapText (Sieve.moved 0), rowMovedIn (0 + 1) a.2)) =
            fun a => passes (a.1.mapText (Sieve.moved 0)) := rfl
      rw [hcomp]
      cases List.find? _ (arm :: arms) with
      | some a => rfl
      | none =>
          cases closed with
          | false => rfl
          | true => exact performRow_catchAll passes 1

end Chains

namespace DomainRules

/-- The rule that mail to a localpart is for: the first one of which a localpart matches. -/
def ruleFor (matching : String → String → Bool) (localpart : String) (d : DomainRules) :
    Option (String × Rule) :=
  (d.custom.ordered ++ d.generic.ordered).find? fun e =>
    e.2.localparts.any fun pattern => matching pattern localpart

section Performed

variable (matching : String → String → Bool) (m : Sieve.Message)

/-- A custom rule that asks for the mail comes before every generic one. -/
theorem ruleFor_mem_custom {d : DomainRules} {localpart : String}
    (h : ∃ e ∈ d.custom.entries, e.2.localparts.any fun p => matching p localpart) :
    ∃ e ∈ d.custom.entries, d.ruleFor matching localpart = some e := by
  obtain ⟨e, he, hm⟩ := h
  have hs : (d.custom.ordered.find? fun e =>
      e.2.localparts.any fun p => matching p localpart).isSome := by
    rw [List.find?_isSome]
    exact ⟨e, mem_sortBy.mpr he, hm⟩
  obtain ⟨f, hf⟩ := Option.isSome_iff_exists.mp hs
  refine ⟨f, mem_sortBy.mp (List.mem_of_find?_eq_some hf), ?_⟩
  rw [ruleFor, List.find?_append, hf, Option.some_or]

/-- The branches of both sets, if their folders lie below the same one. -/
theorem arms_eq_map {d : DomainRules} {home : String} (hc : d.custom.home = home)
    (hg : d.generic.home = home) (way : String → List String) :
    d.arms way = (d.custom.ordered ++ d.generic.ordered).map (Rule.arm way home) := by
  rw [arms, RuleSet.arms, RuleSet.arms, hc, hg, List.map_append]

/-- **What the script of a domain does** with a message is what the block of its rule does, or the
catch-all if no rule asks for it. -/
theorem performRow_statements {d : DomainRules} {home : String} (hc : d.custom.home = home)
    (hg : d.generic.home = home) :
    Sieve.performRow (m.passes matching) (rowMovedIn 0 (d.statements Folder.chain)) =
      match d.ruleFor matching m.localpart with
      | some e => Sieve.performRow (m.passes matching)
          (rowMovedIn 1 (Rule.arm Folder.chain home e).2)
      | none => [Sieve.addFlag Sieve.seenFlag, Sieve.fileInto Folder.unknown] := by
  rw [statements_eq, RuleSet.performRow_chainStatements, arms_eq_map hc hg, Rule.find?_arms,
    ← ruleFor]
  cases d.ruleFor matching m.localpart <;> rfl

/-- The block of a rule files the message, whatever else it does. -/
theorem exists_fileInto_mem_performRow_arm (passes : Sieve.Phrase → Bool) (home : String)
    (e : String × Rule) :
    ∃ folder, Sieve.fileInto folder ∈
      Sieve.performRow passes (rowMovedIn 1 (Rule.arm Folder.chain home e).2) := by
  have hchain : Folder.chain e.1 ≠ [] := by
    rw [← List.length_pos_iff, Folder.length_chain, Folder.names, List.length_map,
      Text.length_split]
    exact Nat.succ_pos _
  obtain ⟨q, qs, hq⟩ := List.exists_cons_of_ne_nil hchain
  refine ⟨Sieve.moved 1 (home ++ q), ?_⟩
  rw [Rule.arm, rowMovedIn_append, Sieve.performRow_append, Rule.rowMovedIn_filingStatements, hq]
  exact List.mem_append_right _ List.mem_cons_self

end Performed

/-- The rules that any walks leave behind can be read. -/
theorem readable_walkAll (domain : String) (firstFolder : Bool) (secrets : List String)
    (trees : List Config.Node) : ((empty domain firstFolder secrets).walkAll trees).Readable := by
  have hs := @sound_of_mem_walkAll domain firstFolder secrets trees
  obtain ⟨es, hr, -⟩ := walkAll_eq_extend (empty domain firstFolder secrets) trees
  rw [hr] at hs ⊢
  exact ⟨⟨(by decide : '\n' ∉ "Custom".toList), fun e he => (hs (o := .custom) he).2⟩,
    ⟨(by decide : '\n' ∉ "Generic".toList), fun e he => (hs (o := .generic) he).2⟩⟩

/-- **Where the mail of a domain goes**, after walks of any trees, failed or not.  The script is
read as one chain that the catch-all closes, or as the catch-all alone.  It does with a message what
the block of one rule does: of the first one of which a localpart matches, the custom rules first,
each set by strictly descending path; if there is none, the message is marked as read and filed as
unknown. -/
theorem performs_block (matching : String → String → Bool) (m : Sieve.Message) (domain : String)
    (firstFolder : Bool) (secrets : List String) (trees : List Config.Node) :
    let d := (empty domain firstFolder secrets).walkAll trees
    let home := if firstFolder then "@" ++ domain ++ "/" else ""
    let script := rowMovedIn 0 (d.statements Folder.chain)
    let run := Sieve.performRow (m.passes matching)
    Sieve.readScript (Sieve.script d.commands) = some script ∧
      (run script = match d.ruleFor matching m.localpart with
        | some e => run (rowMovedIn 1 (e.2.labelStatements e.1 ++
            Rule.filingStatements home (Folder.chain e.1)))
        | none => [Sieve.addFlag Sieve.seenFlag, Sieve.fileInto Folder.unknown]) ∧
      (∃ folder, Sieve.fileInto folder ∈ run script) ∧
      (∀ o, (d.set o).ordered.Perm (d.set o).entries ∧
        ((d.set o).ordered.map (·.1)).Pairwise fun p q => q < p) ∧
      ((∃ e ∈ d.custom.entries, e.2.localparts.any fun p => matching p m.localpart) →
        ∃ e ∈ d.custom.entries, d.ruleFor matching m.localpart = some e) := by
  intro d home script run
  have hrun : run script = _ := performRow_statements matching m
    (home_walkAll domain firstFolder secrets trees .custom)
    (home_walkAll domain firstFolder secrets trees .generic)
  refine ⟨(reads_commands (readable_walkAll domain firstFolder secrets trees)).readScript, hrun,
    ?_, fun o => ⟨sortBy_perm _, ?_⟩, ruleFor_mem_custom matching⟩
  · rw [hrun]
    cases d.ruleFor matching m.localpart with
    | some e => exact exists_fileInto_mem_performRow_arm (m.passes matching) home e
    | none => exact ⟨Folder.unknown, by simp⟩
  · exact RuleSet.pairwise_ordered (nodup_walkAll domain firstFolder secrets trees o)

/-- The first walk ends at a name that is missing, and the rule that it has registered comes before
one of the second walk that asks for the same mail. -/
theorem performs_block_failed_walk :
    let trees : List Config.Node :=
      [.folders [("Bills", .full (.one "pay") (some [("Due", .one "now")])
          (some { silent := some true })), ("", .simple (.one ""))],
        .folders [("Ads", .simple (.many ["ads", "pay"]))]]
    let d := (empty "a.org" false ["+s"]).walkAll trees
    let run (localpart : String) :=
      let m : Sieve.Message := ⟨localpart, fun _ => true, fun _ text => text == "now"⟩
      Sieve.performRow (m.passes (· == ·)) (rowMovedIn 0 (d.statements Folder.chain))
    Sieve.readScript (Sieve.script d.commands) = some (rowMovedIn 0 (d.statements Folder.chain)) ∧
      run "pay" = [Sieve.fileInto "Due", Sieve.fileInto "Bills"] ∧
      run "ads+s" = [Sieve.fileInto "Ads"] ∧
      run "news" = [Sieve.addFlag Sieve.seenFlag, Sieve.fileInto "Unknown"] ∧
      ∃ e ∈ d.custom.entries, d.ruleFor (· == ·) "pay" = some e := by
  intro trees d run
  have h (localpart : String) := performs_block (· == ·)
    ⟨localpart, fun _ => true, fun _ text => text == "now"⟩ "a.org" false ["+s"] trees
  obtain ⟨hread, hpay, -, -, hcustom⟩ := h "pay"
  obtain ⟨-, hads, -⟩ := h "ads+s"
  obtain ⟨-, hnews, -⟩ := h "news"
  exact ⟨hread, hpay.trans (by decide +kernel), hads.trans (by decide +kernel),
    hnews.trans (by decide +kernel), hcustom (by decide +kernel)⟩

end DomainRules

end FolderSieve
