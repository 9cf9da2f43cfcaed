import FolderSieve.Proofs.Rules.Registry
import FolderSieve.Proofs.Rules.Verbatim
import FolderSieve.Proofs.Sieve.Execution

/-!
# Rules — what labels do

The labels of a rule are written in one of four forms, for the sake of the `else` that marks a
message as read.  In all of them a message is filed under each label of which it holds a keyword, and
is marked if the rule is silent and there is no such label.

* `Rule.performRow_keywordChain`: one branch on keywords.
* `Rule.performRow_labelStatements_of_still`: the labels of a rule, whatever their form.
* `RuleSet.performs_labels`: this holds of every rule that a set can get by registrations.
-/

namespace FolderSieve

open Sieve (Message Statement moved)
open Sieve.Statement

namespace Rule

variable (matching : String → String → Bool) (m : Message)

/-- **A branch on keywords** is taken by a message that holds one of them, as they are read. -/
theorem performRow_keywordChain (d : Nat) (keywords : List String) (body : List Statement)
    (otherwise : Option (List Statement)) :
    Sieve.performRow (m.passes matching)
        (rowMovedIn d [.chain [keywordArm keywords body] otherwise]) =
      if keywords.any fun k => m.holds (moved d k) then
        Sieve.performRow (m.passes matching) (rowMovedIn (d + 1) body)
      else Sieve.performOtherwise (m.passes matching) (otherwiseMovedIn d otherwise) := by
  have hp : m.passes matching ((Sieve.Test.headerContains keywords).phrase (moved d)) =
      keywords.any fun k => m.holds (moved d k) := by
    rw [Message.phrase_headerContains, Message.passes_phrase, Message.answers, List.any_map]
    rfl
  rw [rowMovedIn, rowMovedIn, movedIn, keywordArm, armsMovedIn, armsMovedIn,
    Sieve.Test.mapText_phrase, Function.comp_id, Sieve.performRow, Sieve.performRow,
    Sieve.Statement.perform, Sieve.performArms, Sieve.performArms, hp, List.append_nil]
  split <;> rfl

/-- The message holds a keyword of the label. -/
def labelHolds (label : String × List String) : Bool :=
  label.2.any m.holds

/-- What is done to mark a message as read. -/
def markActions (path : String) : List Sieve.Phrase :=
  Sieve.addFlag Sieve.seenFlag ::
    if Folder.isUnknown path then [] else [Sieve.fileInto Folder.unread]

theorem performRow_markStatements (passes : Sieve.Phrase → Bool) (d : Nat) (path : String) :
    Sieve.performRow passes (rowMovedIn d (markStatements path)) = markActions path := by
  rw [rowMovedIn_markStatements]
  unfold markStatements markActions
  split <;> rfl

/-- The keywords of all labels ask for a message that is filed under one of them. -/
theorem any_allKeywords (labels : RuleLabels) :
    (allKeywords labels).any m.holds = labels.any (labelHolds m) := by
  rw [Bool.eq_iff_iff, List.any_eq_true, List.any_eq_true]
  constructor
  · rintro ⟨k, hk, hm⟩
    obtain ⟨l, hl, hk⟩ := mem_allKeywords.mp hk
    exact ⟨l, hl, List.any_eq_true.mpr ⟨k, hk, hm⟩⟩
  · rintro ⟨l, hl, hm⟩
    obtain ⟨k, hk, hm⟩ := List.any_eq_true.mp hm
    exact ⟨k, mem_allKeywords.mpr ⟨l, hl, hk⟩, hm⟩

variable {labels : RuleLabels}

theorem performRow_stillChain {keywords : List String} (h : ∀ k ∈ keywords, Still k) (d : Nat)
    (body : List Statement) (otherwise : Option (List Statement)) :
    Sieve.performRow (m.passes matching)
        (rowMovedIn d [.chain [keywordArm keywords body] otherwise]) =
      if keywords.any m.holds then Sieve.performRow (m.passes matching) (rowMovedIn (d + 1) body)
      else Sieve.performOtherwise (m.passes matching) (otherwiseMovedIn d otherwise) := by
  have hmoved : (keywords.any fun k => m.holds (moved d k)) = keywords.any m.holds := by
    rw [Bool.eq_iff_iff, List.any_eq_true, List.any_eq_true]
    refine exists_congr fun k => and_congr_right fun hk => ?_
    rw [moved_of_still (h k hk)]
  rw [performRow_keywordChain, hmoved]

/-- The branch of a label files a message for which the label holds. -/
theorem performRow_labelChain {l : String × List String} (h : LabelStill l) (d : Nat)
    (otherwise : Option (List Statement)) :
    Sieve.performRow (m.passes matching) (rowMovedIn d [.chain [labelArm l] otherwise]) =
      if labelHolds m l then [Sieve.fileInto l.1]
      else Sieve.performOtherwise (m.passes matching) (otherwiseMovedIn d otherwise) := by
  have hfile : rowMovedIn (d + 1) [.action (Sieve.fileInto l.1)] =
      [.action (Sieve.fileInto l.1)] := by
    simp [rowMovedIn, moved_of_still h.1]
  rw [labelArm, performRow_stillChain matching m h.2, hfile]
  rfl

/-- Branches of labels, one after the other, file a message under each label that holds. -/
theorem performRow_labels (h : ∀ l ∈ labels, LabelStill l) (d : Nat) :
    Sieve.performRow (m.passes matching)
        (rowMovedIn d (labels.map fun label => .chain [labelArm label] none)) =
      (labels.filter (labelHolds m)).map fun l => Sieve.fileInto l.1 := by
  induction labels with
  | nil => rfl
  | cons l labels ih =>
      obtain ⟨hl, h⟩ := List.forall_mem_cons.mp h
      have hcons : (l :: labels).map (fun label => Statement.chain [labelArm label] none) =
          [.chain [labelArm l] none] ++
            labels.map (fun label => .chain [labelArm label] none) := rfl
      rw [hcons, rowMovedIn_append, Sieve.performRow_append, performRow_labelChain matching m hl,
        ih h, List.filter_cons]
      split <;> rfl

/-- **What the labels of a rule do**, if no line breaks within them: the message is filed under each
label that holds, and marked if the rule is silent and none does. -/
theorem performRow_labelStatements_of_still {r : Rule} (h : ∀ l ∈ r.labels.getD [], LabelStill l)
    (path : String) (d : Nat) :
    let held := (r.labels.getD []).filter (labelHolds m)
    Sieve.performRow (m.passes matching) (rowMovedIn d (r.labelStatements path)) =
      held.map (fun l => Sieve.fileInto l.1) ++
        if r.options.silent = true ∧ held = [] then markActions path else [] := by
  have hmark : Sieve.performOtherwise (m.passes matching)
      (otherwiseMovedIn d (some (markStatements path))) = markActions path :=
    performRow_markStatements (m.passes matching) (d + 1) path
  unfold labelStatements
  generalize r.labels.getD [] = labels at h
  by_cases hs : r.options.silent = true
  · simp only [hs, if_true, true_and]
    rcases labels with - | ⟨l, - | ⟨l', labels⟩⟩
    · exact performRow_markStatements (m.passes matching) d path
    · rw [performRow_labelChain matching m (h l List.mem_cons_self), hmark, List.filter_cons]
      split <;> simp
    · -- the outer branch is taken exactly if one of the inner ones is
      have hkeywords : ∀ k ∈ allKeywords (l :: l' :: labels), Still k := by
        intro k hk
        obtain ⟨l'', hl, hk⟩ := mem_allKeywords.mp hk
        exact (h l'' hl).2 k hk
      rw [performRow_stillChain matching m hkeywords, any_allKeywords,
        performRow_labels matching m h, hmark]
      by_cases hany : (l :: l' :: labels).any (labelHolds m) = true
      · obtain ⟨l'', hl, hholds⟩ := List.any_eq_true.mp hany
        have hne : (l :: l' :: labels).filter (labelHolds m) ≠ [] :=
          List.ne_nil_of_mem (List.mem_filter.mpr ⟨hl, hholds⟩)
        rw [if_pos hany, if_neg hne, List.append_nil]
      · have hnil : (l :: l' :: labels).filter (labelHolds m) = [] := by
          simpa [List.filter_eq_nil_iff] using hany
        rw [if_neg hany, hnil, if_pos rfl]
        rfl
  · simp only [hs]
    simpa using performRow_labels matching m h d

end Rule

namespace RuleSet

/-- The rules of a set that begins without any are sound, and their labels have strictly ascending
names, if none is given twice. -/
theorem sound_of_mem_registerAll {name home : String} {xs : List Registration}
    (hd : ∀ x ∈ xs, ∀ given, x.labels = some given → (given.map (·.1)).Nodup) {e : String × Rule}
    (he : e ∈ ((⟨name, home, []⟩ : RuleSet).registerAll xs).entries) :
    e.2.Sound ∧ ((e.2.labels.getD []).map (·.1)).Pairwise fun p q => p < q := by
  refine ⟨(sound_registerAll name home xs e he).2, ?_⟩
  obtain ⟨hr, -, ht⟩ := registerAll_eq_extend ⟨name, home, []⟩ xs
  rw [hr] at he
  obtain ⟨x, hx, he⟩ := List.mem_flatMap.mp he
  cases hl : e.2.labels with
  | none => exact .nil
  | some labels => exact pairwise_labels_of_mem_added (hd x (ht x hx).1) he hl

/-- **Labels and marking as read.**  Take any rule that a set gets by registrations, none of which
gives a label twice, and let no line break within its labels and keywords.  What is written for its
labels is read, and in whatever blocks it stands it does the following with a message: it files it
under each label of which it holds a keyword, by ascending name and once each; then, exactly if the
rule is silent and there is no such label, it marks it as read and files it as unread unless it is
nobody's. -/
theorem performs_labels (matching : String → String → Bool) (m : Message) (name home : String)
    (xs : List Registration)
    (hd : ∀ x ∈ xs, ∀ given, x.labels = some given → (given.map (·.1)).Nodup) {e : String × Rule}
    (he : e ∈ ((⟨name, home, []⟩ : RuleSet).registerAll xs).entries)
    (hu : ∀ l ∈ e.2.labels.getD [], Unbroken l.1 ∧ ∀ k ∈ l.2, Unbroken k) :
    let labels := e.2.labels.getD []
    let held := labels.filter fun l => l.2.any m.holds
    let mark := Sieve.addFlag Sieve.seenFlag ::
      if Folder.isUnknown e.1 then [] else [Sieve.fileInto Folder.unread]
    Sieve.readScript (Sieve.script (e.2.labelCommands e.1)) =
        some (rowMovedIn 0 (e.2.labelStatements e.1)) ∧
      (∀ d, Sieve.performRow (m.passes matching) (rowMovedIn d (e.2.labelStatements e.1)) =
        held.map (fun l => Sieve.fileInto l.1) ++
          if e.2.options.silent = true ∧ held = [] then mark else []) ∧
      (labels.map (·.1)).Pairwise (fun p q => p < q) ∧
      (held.map fun l => Sieve.fileInto l.1).Nodup := by
  intro labels held mark
  obtain ⟨hsound, hpairwise⟩ := sound_of_mem_registerAll hd he
  have hstill : ∀ l ∈ labels, Rule.LabelStill l := by
    intro l hl
    obtain ⟨-, hname, -, hkeywords⟩ := hsound.labels l hl
    obtain ⟨hu, hk⟩ := hu l hl
    exact ⟨(still_iff_unbroken hname).mpr hu,
      fun k hm => (still_iff_unbroken (hkeywords k hm).2).mpr (hk k hm)⟩
  refine ⟨(Rule.reads_labelCommands hsound e.1).readScript,
    Rule.performRow_labelStatements_of_still matching m hstill e.1, hpairwise, ?_⟩
  have hnames : (held.map (·.1)).Pairwise fun p q => p < q :=
    hpairwise.sublist (List.filter_sublist.map _)
  have hfiled : held.map (fun l => Sieve.fileInto l.1) = (held.map (·.1)).map Sieve.fileInto := by
    rw [List.map_map]
    rfl
  rw [hfiled]
  have hnodup : (held.map (·.1)).Nodup := by
    refine hnames.imp ?_
    rintro p _ hlt rfl
    exact String.lt_irrefl p hlt
  exact hnodup.map fun _ _ heq => Sieve.fileInto_inj.mp heq

/-- Two labels with a keyword in common, and the rule is silent. -/
theorem performs_labels_overlap :
    let xs : List Registration := [⟨.custom, "A", .one "x",
      some [("Work", .many ["job", "pay"]), ("Home", .one "pay")], { Options.root with silent := true }⟩]
    let e : String × Rule := ("A", ⟨["x"], some [("Home", ["pay"]), ("Work", ["job", "pay"])],
      { Options.root with silent := true }⟩)
    let run (text : String) :=
      let m : Message := ⟨"x", fun _ => true, fun _ keyword => keyword == text⟩
      Sieve.performRow (m.passes (· == ·)) (rowMovedIn 1 (e.2.labelStatements e.1))
    e ∈ ((⟨"Custom", "", []⟩ : RuleSet).registerAll xs).entries ∧
      run "pay" = [Sieve.fileInto "Home", Sieve.fileInto "Work"] ∧
      run "job" = [Sieve.fileInto "Work"] ∧
      run "tax" = [Sieve.addFlag Sieve.seenFlag, Sieve.fileInto "unread"] := by
  intro xs e run
  have he : e ∈ ((⟨"Custom", "", []⟩ : RuleSet).registerAll xs).entries := by decide +kernel
  have hd : ∀ x ∈ xs, ∀ given, x.labels = some given → (given.map (·.1)).Nodup := by
    simp [xs]
  have hu : ∀ l ∈ e.2.labels.getD [], Unbroken l.1 ∧ ∀ k ∈ l.2, Unbroken k := by
    unfold Unbroken
    decide +kernel
  have hrun (text : String) := (performs_labels (· == ·)
    ⟨"x", fun _ => true, fun _ keyword => keyword == text⟩ "Custom" "" xs hd he hu).2.1 1
  exact ⟨he, (hrun "pay").trans (by decide +kernel), (hrun "job").trans (by decide +kernel),
    (hrun "tax").trans (by decide +kernel)⟩

end RuleSet

end FolderSieve
