import FolderSieve.Proofs.Rules.Labels
import FolderSieve.Proofs.Rules.Reached

/-!
# Rules — the catch-all folder

The folder `Unknown` and what lies below it have no generic rules, and their custom rules have fixed
options.  Which folders these are is a matter of the path alone, however its names were written
down.

* `Folder.isUnknown_iff_exists`: the paths that are meant.
* `Rule.performRow_labelStatements`: a rule for such a path marks a message as read that has none of
  its labels.
* `DomainRules.pinned_walkAll`: all this holds of the rules that any walks leave behind.
-/

namespace FolderSieve

open Sieve (Statement moved)
open Sieve.Statement

theorem Folder.isUnknown_iff_exists {path : String} :
    isUnknown path = true ↔ path = "Unknown" ∨ ∃ rest, path = "Unknown/" ++ rest := by
  rw [isUnknown_iff]
  refine or_congr_right ⟨?_, ?_⟩
  · rintro ⟨rest, h⟩
    refine ⟨String.ofList rest, String.toList_injective ?_⟩
    simp [← h]
  · rintro ⟨rest, rfl⟩
    exact ⟨rest.toList, by rw [String.toList_append]⟩

/-- The name may have a slash in it; a folder of that name elsewhere is not meant. -/
example : ["Unknown/Spam", "A/Unknown", "Unknown2"].map Folder.isUnknown = [true, false, false] := by
  decide

/-- A string without a line break comes of no other string by moving. -/
theorem moved_eq_iff_of_still {d : Nat} {v w : String} (hw : Still w) : moved d v = w ↔ v = w := by
  constructor
  · rintro rfl
    cases d with
    | zero => simp
    | succ d =>
        refine (moved_of_still (List.any_eq_false.mpr fun c hc hb => ?_)).symm
        have hs : c ≠ ' ' := by
          rintro rfl
          cases hb
        have hcount : (moved (d + 1) v).toList.count c = v.toList.count c := by
          rw [moved, String.toList_ofList, Text.count_iterate_moved hs]
        have hm : c ∈ (moved (d + 1) v).toList := by
          rw [← List.count_pos_iff, hcount]
          exact List.count_pos_iff.mpr hc
        exact List.any_eq_false.mp hw c hm hb
  · rintro rfl
    exact moved_of_still hw

theorem count_map_fileInto {d : Nat} {w : String} (hw : Still w) (vs : List String) :
    (vs.map fun v => Sieve.fileInto (moved d v)).count (Sieve.fileInto w) = vs.count w := by
  induction vs with
  | nil => rfl
  | cons v vs ih => simp [List.count_cons, ih, moved_eq_iff_of_still hw]

namespace Rule

/-! ### The labels of a rule for such a path -/

theorem rowActions_keywordChain (d : Nat) (keywords : List String) (body other : List Statement) :
    Sieve.rowActions (rowMovedIn d [.chain [keywordArm keywords body] (some other)]) =
      Sieve.rowActions (rowMovedIn (d + 1) body) ++ Sieve.rowActions (rowMovedIn (d + 1) other) := by
  simp [rowMovedIn, movedIn, armsMovedIn, otherwiseMovedIn, keywordArm, Sieve.rowActions, actions,
    Sieve.armActions, Sieve.otherwiseActions]

theorem rowActions_labels (d : Nat) (labels : RuleLabels) :
    Sieve.rowActions (rowMovedIn d (labels.map fun label => .chain [labelArm label] none)) =
      labels.map fun l => Sieve.fileInto (moved (d + 1) l.1) := by
  induction labels with
  | nil => rfl
  | cons l labels ih =>
      rw [List.map_cons, rowMovedIn, Sieve.rowActions, ih]
      rfl

section Labels

variable {path : String} (hu : Folder.isUnknown path = true)

include hu

theorem markStatements_of_isUnknown :
    markStatements path = [.action (Sieve.addFlag Sieve.seenFlag)] := by
  rw [markStatements, if_pos hu]

variable {r : Rule} (hs : r.options.silent = true)

include hs

theorem performRow_labelStatements (matching : String → String → Bool) (m : Sieve.Message)
    (d : Nat) (h : ∀ l ∈ r.labels.getD [], ∀ k ∈ l.2, m.holds (moved d k) = false) :
    Sieve.performRow (m.passes matching) (rowMovedIn d (r.labelStatements path)) =
      [Sieve.addFlag Sieve.seenFlag] := by
  have hmark (d : Nat) : Sieve.performRow (m.passes matching) (rowMovedIn d (markStatements path)) =
      [Sieve.addFlag Sieve.seenFlag] := by
    rw [performRow_markStatements, markActions, if_pos hu]
  have hchain {keywords : List String} {body : List Statement}
      (hk : ∀ k ∈ keywords, m.holds (moved d k) = false) :
      Sieve.performRow (m.passes matching)
        (rowMovedIn d [.chain [keywordArm keywords body] (some (markStatements path))]) =
          [Sieve.addFlag Sieve.seenFlag] := by
    rw [performRow_keywordChain, if_neg (by simpa using hk)]
    exact hmark (d + 1)
  unfold labelStatements
  generalize r.labels.getD [] = labels at h
  simp only [hs, if_true]
  rcases labels with - | ⟨l, - | ⟨l', labels⟩⟩
  · exact hmark d
  · exact hchain (h l List.mem_cons_self)
  · refine hchain fun k hk => ?_
    obtain ⟨l'', hl, hk⟩ := mem_allKeywords.mp hk
    exact h l'' hl k hk

/-- The actions that stand in the block: filing under each label, and the flag. -/
theorem rowActions_labelStatements (d : Nat) :
    ∃ d', Sieve.rowActions (rowMovedIn d (r.labelStatements path)) =
      ((r.labels.getD []).map fun l => Sieve.fileInto (moved d' l.1)) ++
        [Sieve.addFlag Sieve.seenFlag] := by
  have hmark (d : Nat) : Sieve.rowActions (rowMovedIn d (markStatements path)) =
      [Sieve.addFlag Sieve.seenFlag] := by
    rw [rowMovedIn_markStatements, markStatements_of_isUnknown hu]
    rfl
  unfold labelStatements
  generalize r.labels.getD [] = labels
  simp only [hs, if_true]
  rcases labels with - | ⟨l, - | ⟨l', labels⟩⟩
  · exact ⟨d, hmark d⟩
  · refine ⟨d + 1, ?_⟩
    have := rowActions_keywordChain d l.2 [.action (Sieve.fileInto l.1)] (markStatements path)
    rw [hmark] at this
    exact this
  · refine ⟨d + 2, ?_⟩
    rw [rowActions_keywordChain, rowActions_labels, hmark]

/-- Among these actions, those that file a message as unread are of labels so named. -/
theorem count_rowActions_labelStatements (d : Nat) :
    (Sieve.rowActions (rowMovedIn d (r.labelStatements path))).count
        (Sieve.fileInto Folder.unread) =
      ((r.labels.getD []).map (·.1)).count Folder.unread := by
  obtain ⟨d', h⟩ := rowActions_labelStatements hu hs d
  have hmap : (r.labels.getD []).map (fun l => Sieve.fileInto (moved d' l.1)) =
      ((r.labels.getD []).map (·.1)).map fun v => Sieve.fileInto (moved d' v) := by
    simp
  have hflag : [Sieve.addFlag Sieve.seenFlag].count (Sieve.fileInto Folder.unread) = 0 := by decide
  rw [h, List.count_append, hflag, Nat.add_zero, hmap, count_map_fileInto (by decide)]

end Labels

end Rule

namespace Config.Node

/-- The options of a rule are those its node settles, and a generic rule is never one of the
catch-all folder. -/
theorem options_of_mem_rulesIn {secrets : List String} {o : Origin} {l : String × Node}
    {e : String × Rule} (h : e ∈ rulesIn secrets o l) :
    e.2.options = Folder.settled l.1 l.2.written ∧
      (o = .generic → Folder.isUnknown l.1 = false ∧ e.2.options.generic = true) := by
  cases o with
  | custom =>
      simp only [rulesIn, customRules] at h
      split at h
      · cases h
      split at h
      · cases h
      · rw [List.mem_singleton.mp h]
        simp
  | generic =>
      simp only [rulesIn, genericRules] at h
      split at h
      · rename_i hg
        rw [List.mem_singleton.mp h]
        exact ⟨rfl, fun _ => ⟨hg.2.1, hg.2.2.1⟩⟩
      · cases h

end Config.Node

namespace DomainRules

/-- **The catch-all folder is pinned**, after walks of any trees, failed or not.  Every rule has the
options that a node of its path settles: what the node writes over the options of the root, but
fixed ones in the catch-all folder.  That folder, which is known by its path, has no generic rules,
and all generic rules are generic.  The labels of a custom rule in it are read as a block that marks
a message as read that has none of them, and files as unread only under labels of that name. -/
theorem pinned_walkAll (domain : String) (firstFolder : Bool) (secrets : List String)
    (trees : List Config.Node) :
    let d := (empty domain firstFolder secrets).walkAll trees
    (∀ path, Folder.isUnknown path = true ↔
      path = "Unknown" ∨ ∃ rest, path = "Unknown/" ++ rest) ∧
    (∀ e ∈ d.generic.entries, Folder.isUnknown e.1 = false ∧ e.2.options.generic = true) ∧
    (∀ e ∈ d.custom.entries, Folder.isUnknown e.1 = true → e.2.options = ⟨false, false, true⟩) ∧
    (∀ o, ∀ e ∈ (d.set o).entries, Folder.isUnknown e.1 = false →
      ∃ tree ∈ trees, ∃ node, (e.1, node) ∈ tree.located "" ∧
        e.2.options = node.written.resolve .root) ∧
    ∀ e ∈ d.custom.entries, Folder.isUnknown e.1 = true →
      Sieve.readScript (Sieve.script (e.2.labelCommands e.1)) =
          some (rowMovedIn 0 (e.2.labelStatements e.1)) ∧
        ∀ depth,
          let block := rowMovedIn depth (e.2.labelStatements e.1)
          (∀ matching (m : Sieve.Message),
            (∀ l ∈ e.2.labels.getD [], ∀ k ∈ l.2, m.holds (moved depth k) = false) →
              Sieve.performRow (m.passes matching) block = [Sieve.addFlag Sieve.seenFlag]) ∧
          (Sieve.rowActions block).count (Sieve.fileInto "unread") =
            ((e.2.labels.getD []).map (·.1)).count "unread" := by
  intro d
  have hnode : ∀ o, ∀ e ∈ (d.set o).entries, ∃ tree ∈ trees, ∃ node,
      (e.1, node) ∈ tree.located "" ∧ e.2.options = Folder.settled e.1 node.written ∧
        (o = .generic → Folder.isUnknown e.1 = false ∧ e.2.options.generic = true) := by
    intro o e he
    obtain ⟨tree, ht, l, hl, hr⟩ := exists_located_of_mem_walkAll domain firstFolder secrets trees he
    obtain ⟨ho, hg⟩ := Config.Node.options_of_mem_rulesIn hr
    rw [← Config.Node.fst_of_mem_rulesIn hr] at ho hg
    exact ⟨tree, ht, l.2, Config.Node.fst_of_mem_rulesIn hr ▸ hl, ho, hg⟩
  have hpinned : ∀ e ∈ d.custom.entries, Folder.isUnknown e.1 = true →
      e.2.options = ⟨false, false, true⟩ := by
    intro e he hu
    obtain ⟨-, -, node, -, ho, -⟩ := hnode .custom e he
    rw [ho, Folder.settled, if_pos hu]
  refine ⟨fun _ => Folder.isUnknown_iff_exists, ?_, hpinned, ?_, ?_⟩
  · intro e he
    obtain ⟨-, -, node, -, -, hg⟩ := hnode .generic e he
    exact hg rfl
  · intro o e he hu
    obtain ⟨tree, ht, node, hl, ho, -⟩ := hnode o e he
    refine ⟨tree, ht, node, hl, ?_⟩
    rw [ho, Folder.settled, hu]
    rfl
  · intro e he hu
    have hs : e.2.options.silent = true := by rw [hpinned e he hu]
    have hsound := sound_of_mem_walkAll domain firstFolder secrets trees (o := .custom) he
    exact ⟨(Rule.reads_labelCommands hsound.2 e.1).readScript, fun depth =>
      ⟨fun matching m h => Rule.performRow_labelStatements hu hs matching m depth h,
        Rule.count_rowActions_labelStatements hu hs depth⟩⟩

/-- A folder below the catch-all whose name has a slash in it and whose options are written against
what is settled there, beside two folders that only look alike. -/
theorem pinned_walkAll_slash :
    let tree : Config.Node := .folders
      [("Unknown/Spam", .full (.one "spam") (some [("unread", .one "k")])
          (some { generic := some true, silent := some false })),
        ("A", .folders [("Unknown", .simple (.one "a"))]), ("Unknown2", .simple (.one "u"))]
    let d := (empty "a.org" false []).walkAll [tree]
    let spam : Rule := ⟨["spam"], some [("unread", ["k"])], ⟨false, false, true⟩⟩
    let block := rowMovedIn 0 (spam.labelStatements "Unknown/Spam")
    let m : Sieve.Message := ⟨"spam", fun _ => true, fun _ text => text == "l"⟩
    d.generic.entries.map (·.1) = ["A/Unknown", "A", "Unknown2"] ∧
      ("Unknown/Spam", spam) ∈ d.custom.entries ∧
      spam.options = ⟨false, false, true⟩ ∧
      Sieve.performRow (m.passes (· == ·)) block = [Sieve.addFlag Sieve.seenFlag] ∧
      (Sieve.rowActions block).count (Sieve.fileInto "unread") = 1 := by
  intro tree d spam block m
  have hmem : ("Unknown/Spam", spam) ∈ d.custom.entries := by decide +kernel
  have hu : Folder.isUnknown "Unknown/Spam" = true := by decide
  obtain ⟨-, -, hpinned, -, hblock⟩ := pinned_walkAll "a.org" false [] [tree]
  obtain ⟨hseen, hunread⟩ := (hblock _ hmem hu).2 0
  exact ⟨by decide +kernel, hmem, hpinned _ hmem hu, hseen (· == ·) m (by decide +kernel), hunread⟩

end DomainRules

end FolderSieve
