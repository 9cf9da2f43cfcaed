import Mathlib.Data.List.Infix
import FolderSieve.Proofs.Rules.Fault

/-!
# Rules — what walks leave behind

A walk that fails has taken the first of the registrations on its way, and what these have added
stays.  So the rules that a domain comes to have by walks of any trees, failed or not, are rules of
nodes of these trees, whatever walk they are from.

* `DomainRules.walk_eq_extend`: a walk leaves the rules there were, and behind them the first of the
  rules of the located nodes.
* `DomainRules.walkAll_eq_extend`: walks one after the other leave the rules there were, and behind
  them sound rules of located nodes with paths of their own.
-/

namespace FolderSieve

namespace DomainRules

/-- **A walk that may fail** leaves the rules there were and behind them, in order, the first rules
of the located nodes; these are sound and have paths of their own. -/
theorem walk_eq_extend (d : DomainRules) (tree : Config.Node) :
    ∃ es, (d.walk tree).rules = d.extend es ∧ (∀ o, (d.set o).Fresh (es o)) ∧
      (∀ o, ∀ e ∈ es o, e.1 ≠ "" ∧ e.2.Sound) ∧
      ∀ o, es o <+: (tree.located "").flatMap (Config.Node.rulesIn d.secrets o) := by
  have hnone : ∃ es, d = d.extend es ∧ (∀ o, (d.set o).Fresh (es o)) ∧
      (∀ o, ∀ e ∈ es o, e.1 ≠ "" ∧ e.2.Sound) ∧
      ∀ o, es o <+: (tree.located "").flatMap (Config.Node.rulesIn d.secrets o) :=
    ⟨fun _ => [], by simp, by simp, by simp, fun _ => List.nil_prefix⟩
  cases tree with
  | simple => exact hnone
  | full => exact hnone
  | folders children =>
      let tree := Config.Node.folders children
      obtain ⟨xs, hp, hr⟩ := exists_registered d.secrets d (tree.stations "")
      rw [← Config.Node.sameEnd_steps tree "" .root Folder.pin_empty_root (.inr rfl)] at hr
      obtain ⟨hs, hfresh, hrules⟩ := foldlM_register_eq_ok hr
      refine ⟨_, hrules, hfresh, fun o e he => ?_, fun o => ?_⟩
      · obtain ⟨x, hx, he⟩ := List.mem_flatMap.mp he
        exact Registration.sound_of_mem_addedTo (hs x hx) he
      · rw [← Config.Node.addedTo_stations]
        exact hp.flatMap _

/-! ### Walks one after the other -/

/-- The rules after walks of several trees.  A walk that fails leaves what it has registered. -/
def walkAll (d : DomainRules) (trees : List Config.Node) : DomainRules :=
  trees.foldl (fun d tree => (d.walk tree).rules) d

/-- **Walks one after the other**, failed or not, leave the rules there were and behind them sound
rules of located nodes with paths of their own. -/
theorem walkAll_eq_extend (d : DomainRules) (trees : List Config.Node) :
    ∃ es, d.walkAll trees = d.extend es ∧ (∀ o, (d.set o).Fresh (es o)) ∧
      (∀ o, ∀ e ∈ es o, e.1 ≠ "" ∧ e.2.Sound) ∧
      ∀ o, ∀ e ∈ es o, ∃ tree ∈ trees, ∃ l ∈ tree.located "",
        e ∈ Config.Node.rulesIn d.secrets o l := by
  induction trees generalizing d with
  | nil => exact ⟨fun _ => [], by simp [walkAll], by simp, by simp, by simp⟩
  | cons tree trees ih =>
      obtain ⟨es, hw, hfresh, hs, hp⟩ := walk_eq_extend d tree
      obtain ⟨fs, hr, hfresh', hs', hm⟩ := ih (d.extend es)
      refine ⟨fun o => es o ++ fs o, ?_, fun o => ?_, fun o => ?_, fun o e he => ?_⟩
      · rw [← extend_extend, ← hr, ← hw]
        rfl
      · have := hfresh' o
        rw [set_extend] at this
        exact RuleSet.fresh_append.mpr ⟨hfresh o, this⟩
      · exact List.forall_mem_append.mpr ⟨hs o, hs' o⟩
      · rcases List.mem_append.mp he with he | he
        · obtain ⟨l, hl, he⟩ := List.mem_flatMap.mp ((hp o).subset he)
          exact ⟨tree, List.mem_cons_self, l, hl, he⟩
        · obtain ⟨tree', ht, l, hl, he⟩ := hm o e he
          exact ⟨tree', List.mem_cons_of_mem _ ht, l, hl, he⟩

/-- The first walk ends at a name that is missing; what it has registered stays beside the rules of
the second. -/
example :
    let first := Config.Node.folders [("Bills", .simple (.one "pay")), ("", .simple (.one ""))]
    let second := Config.Node.folders [("Ads", .simple (.one "ads"))]
    let d := (empty "a.org" false []).walkAll [first, second]
    d.custom.entries.map (·.1) = ["Bills", "Ads"] ∧
      d.generic.entries.map (·.1) = ["Bills", "Ads"] := by
  decide +kernel

/-! ### From a domain without rules -/

section FromEmpty

variable (domain : String) (firstFolder : Bool) (secrets : List String) (trees : List Config.Node)

/-- Both sets keep the folder that theirs lie below. -/
theorem home_walkAll (o : Origin) :
    (((empty domain firstFolder secrets).walkAll trees).set o).home =
      if firstFolder then "@" ++ domain ++ "/" else "" := by
  obtain ⟨es, hr, -⟩ := walkAll_eq_extend (empty domain firstFolder secrets) trees
  rw [hr, set_extend]
  cases o <;> rfl

/-- Every rule is sound, and its path is not empty. -/
theorem sound_of_mem_walkAll {o : Origin} {e : String × Rule}
    (he : e ∈ (((empty domain firstFolder secrets).walkAll trees).set o).entries) :
    e.1 ≠ "" ∧ e.2.Sound := by
  obtain ⟨es, hr, -, hs, -⟩ := walkAll_eq_extend (empty domain firstFolder secrets) trees
  rw [hr, set_extend] at he
  refine hs o e ?_
  cases o <;> simpa [RuleSet.extend, set, empty] using he

/-- No path has two rules in one set. -/
theorem nodup_walkAll (o : Origin) :
    ((((empty domain firstFolder secrets).walkAll trees).set o).entries.map (·.1)).Nodup := by
  obtain ⟨es, hr, hfresh, -⟩ := walkAll_eq_extend (empty domain firstFolder secrets) trees
  rw [hr, set_extend]
  cases o
  · exact (hfresh .custom).1
  · exact (hfresh .generic).1

/-- Every rule is one of a located node. -/
theorem exists_located_of_mem_walkAll {o : Origin} {e : String × Rule}
    (he : e ∈ (((empty domain firstFolder secrets).walkAll trees).set o).entries) :
    ∃ tree ∈ trees, ∃ l ∈ tree.located "",
      e ∈ Config.Node.rulesIn (if secrets.isEmpty then [""] else secrets) o l := by
  obtain ⟨es, hr, -, -, hm⟩ := walkAll_eq_extend (empty domain firstFolder secrets) trees
  rw [hr, set_extend] at he
  refine hm o e ?_
  cases o <;> simpa [RuleSet.extend, set, empty] using he

end FromEmpty

end DomainRules

end FolderSieve
