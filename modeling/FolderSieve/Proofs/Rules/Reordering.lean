import Mathlib.Data.List.Nodup
import FolderSieve.Proofs.Rules.Registration
import FolderSieve.Rules.Script

/-!
# Rules — the order of keys

Trees are reorderings of each other if they differ in the order of the children of folder maps and in
the order of labels only (`Node.Reordered`).

* `Node.alike_steps`: the walks of reorderings have alike steps.  These need not be the same steps in
  another order, since a registration holds its labels as they are written; but they are sound
  together and add the same rules, in another order.
* `DomainRules.walk_reordered`: the walks of reorderings fail or succeed together, and lead to the same
  rules in order and to the same text.  What is written first plays no part in it: a rule is refused
  for another of its path in whichever order they come.
-/

namespace FolderSieve

/-! ### Sorted labels and rules -/

/-- An order in which any two names have their places. -/
structure NameOrder (le : String → String → Bool) : Prop where
  trans : ∀ a b c, le a b → le b c → le a c
  total : ∀ a b, le a b || le b a
  antisymm : ∀ a b, le a b → le b a → a = b

theorem NameOrder.ascending : NameOrder fun a b => a ≤ b where
  trans a b c hab hbc := by
    simpa using String.le_trans (of_decide_eq_true hab) (of_decide_eq_true hbc)
  total a b := by simpa using String.le_total a b
  antisymm a b hab hba := String.le_antisymm (of_decide_eq_true hab) (of_decide_eq_true hba)

theorem NameOrder.descending : NameOrder fun a b => b ≤ a where
  trans a b c hab hbc := NameOrder.ascending.trans c b a hbc hab
  total a b := NameOrder.ascending.total b a
  antisymm a b hab hba := NameOrder.ascending.antisymm a b hba hab

section Sorted

variable {α : Type} {le : String → String → Bool} (h : NameOrder le) {key : α → String}

include h

/-- Elements with distinct keys are sorted by them in one way only. -/
theorem sortBy_key_eq_of_perm {l l' : List α} (hd : (l.map key).Nodup) (hp : l.Perm l') :
    sortBy (fun a b => le (key a) (key b)) l = sortBy (fun a b => le (key a) (key b)) l' := by
  refine sortBy_eq_of_perm (fun a b c => h.trans (key a) (key b) (key c))
    (fun a b => h.total (key a) (key b)) ?_ hp
  intro a ha b hb hab hba
  exact List.inj_on_of_nodup_map hd ha hb (h.antisymm _ _ hab hba)

/-- Sorted by distinct keys, no element could stand before one that comes earlier. -/
theorem pairwise_key_sortBy {l : List α} (hd : (l.map key).Nodup) :
    ((sortBy (fun a b => le (key a) (key b)) l).map key).Pairwise fun p q => le q p = false := by
  have hle : ((sortBy (fun a b => le (key a) (key b)) l).map key).Pairwise fun p q => le p q :=
    List.pairwise_map.mpr (pairwise_sortBy (fun a b c => h.trans (key a) (key b) (key c))
      (fun a b => h.total (key a) (key b)) l)
  refine hle.imp₂ ?_ (((sortBy_perm l).map key).nodup_iff.mpr hd)
  intro p q hpq hne
  exact Bool.eq_false_iff.mpr fun hqp => hne (h.antisymm p q hpq hqp)

end Sorted

namespace RuleSet

theorem ruleLabels_eq_of_perm {labels labels' : GivenLabels} (hd : (labels.map (·.1)).Nodup)
    (h : labels.Perm labels') : ruleLabels labels = ruleLabels labels' := by
  have : sortLabels labels = sortLabels labels' := sortBy_key_eq_of_perm .ascending hd h
  rw [ruleLabels, this, ruleLabels]

/-- The labels of a rule have strictly ascending names. -/
theorem pairwise_ruleLabels {labels : GivenLabels} (hd : (labels.map (·.1)).Nodup) :
    ((ruleLabels labels).map (·.1)).Pairwise fun p q => p < q := by
  have hs := pairwise_key_sortBy .ascending hd
  have hnames : (ruleLabels labels).map (·.1) = (sortLabels labels).map (·.1) := by
    simp [ruleLabels]
  rw [hnames]
  exact hs.imp fun h => String.not_le.mp (of_decide_eq_false h)

theorem ordered_eq_of_perm {r r' : RuleSet} (hd : (r.entries.map (·.1)).Nodup)
    (h : r.entries.Perm r'.entries) : r.ordered = r'.ordered :=
  sortBy_key_eq_of_perm .descending hd h

/-- **The rules in order** stand by strictly descending path. -/
theorem pairwise_ordered {r : RuleSet} (hd : (r.entries.map (·.1)).Nodup) :
    (r.ordered.map (·.1)).Pairwise fun p q => q < p :=
  (pairwise_key_sortBy .descending hd).imp fun h => String.not_le.mp (of_decide_eq_false h)

/-- Which rules a set can take does not depend on their order, nor on that of its own. -/
theorem fresh_iff_of_perm {r : RuleSet} {es es' : List (String × Rule)} (h : es.Perm es') :
    r.Fresh es ↔ r.Fresh es' := by
  simp only [Fresh, (h.map _).nodup_iff, h.mem_iff]

/-- A chain shows the rules in order, and the name and the home of the set. -/
theorem chain_congr {r r' : RuleSet} (hn : r.name = r'.name) (hh : r.home = r'.home)
    (ho : r.ordered = r'.ordered) (closed continues : Bool) :
    r.chain closed continues = r'.chain closed continues := by
  have hb : r.branch = r'.branch := by
    funext opening first e
    simp only [branch, hn, hh]
  simp only [chain, branches, ho, hb]

end RuleSet

/-! ### Alike steps -/

/-- Steps that are sound together and add the same rules, in whatever order. -/
structure Alike (steps steps' : List WalkStep) : Prop where
  sound : (∀ s ∈ steps, s.Sound) ↔ ∀ s ∈ steps', s.Sound
  added : ∀ o, (addedBy steps o).Perm (addedBy steps' o)

namespace Alike

variable {a a' b b' : List WalkStep}

theorem refl (a : List WalkStep) : Alike a a :=
  ⟨.rfl, fun _ => .refl _⟩

theorem trans (h : Alike a a') (h' : Alike a' b) : Alike a b :=
  ⟨h.sound.trans h'.sound, fun o => (h.added o).trans (h'.added o)⟩

theorem append (h : Alike a a') (h' : Alike b b') : Alike (a ++ b) (a' ++ b') where
  sound := by rw [List.forall_mem_append, List.forall_mem_append, h.sound, h'.sound]
  added o := by
    rw [addedBy_append, addedBy_append]
    exact (h.added o).append (h'.added o)

theorem of_perm (h : a.Perm a') : Alike a a' :=
  ⟨by simp only [h.mem_iff], fun _ => h.flatMap_right _⟩

/-- Registrations that differ in the order of their labels only. -/
theorem register (x : Registration) {labels : Option Config.Labels}
    (hs : RuleSet.LabelsSound x.labels ↔ RuleSet.LabelsSound labels)
    (hl : x.labels.map RuleSet.ruleLabels = labels.map RuleSet.ruleLabels) :
    Alike [.register x] [.register { x with labels }] where
  sound := by simp [WalkStep.Sound, Registration.Sound, hs]
  added o := by simp [addedBy, WalkStep.addedTo, Registration.addedTo, Registration.added, hl]

end Alike

namespace Config.Node

/-! ### Reordered trees -/

mutual

/-- Trees that differ in the order of children and of labels only. -/
inductive Reordered : Node → Node → Prop
  | simple (localparts : OneOrMany) : Reordered (.simple localparts) (.simple localparts)
  | full (localparts : OneOrMany) {labels labels' : Option Labels} (written : Option Override)
      (h : Option.Rel List.Perm labels labels') :
      Reordered (.full localparts labels written) (.full localparts labels' written)
  | folders {children reordered children' : List (String × Node)}
      (h : ReorderedEach children reordered) (hp : reordered.Perm children') :
      Reordered (.folders children) (.folders children')

/-- Children in their order, each of them reordered in itself. -/
inductive ReorderedEach : List (String × Node) → List (String × Node) → Prop
  | nil : ReorderedEach [] []
  | cons (name : String) {node node' : Node} {rest rest' : List (String × Node)}
      (h : Reordered node node') (hr : ReorderedEach rest rest') :
      ReorderedEach ((name, node) :: rest) ((name, node') :: rest')

end

theorem ReorderedEach.map_fst {children children' : List (String × Node)}
    (h : ReorderedEach children children') : children'.map (·.1) = children.map (·.1) := by
  induction children generalizing children' with
  | nil =>
      cases h
      rfl
  | cons c children ih =>
      cases h with
      | cons name _ hr => simp [ih hr]

/-- Labels in another order are as sound, and the labels of a rule are the same. -/
theorem labels_of_perm {labels labels' : Option Labels}
    (hd : ∀ ls, labels = some ls → (ls.map (·.1)).Nodup)
    (h : Option.Rel List.Perm labels labels') :
    (RuleSet.LabelsSound labels ↔ RuleSet.LabelsSound labels') ∧
      labels.map RuleSet.ruleLabels = labels'.map RuleSet.ruleLabels := by
  cases h with
  | none => exact ⟨.rfl, rfl⟩
  | some h =>
      refine ⟨by simp [RuleSet.LabelsSound, h.mem_iff], ?_⟩
      simp [RuleSet.ruleLabels_eq_of_perm (hd _ rfl) h]

/-! ### Walks of reordered trees -/

section Walks

variable (secrets : List String)

theorem alike_genericSteps (path : String) {labels labels' : Option Labels} (options : Options)
    (hd : ∀ ls, labels = some ls → (ls.map (·.1)).Nodup)
    (h : Option.Rel List.Perm labels labels') :
    Alike (genericSteps secrets path labels options)
      (genericSteps secrets path labels' options) := by
  obtain ⟨hs, hl⟩ := labels_of_perm hd h
  unfold genericSteps
  split
  · exact .register _ hs hl
  · exact .refl _

theorem childrenSteps_eq_flatMap (path : String) (inherited : Options) (alone : Bool)
    (children : List (String × Node)) :
    childrenSteps secrets path inherited alone children = children.flatMap fun c =>
      match nameMistake? path c.1 alone with
      | some e => [.fail e]
      | none => steps secrets (Folder.child path c.1) inherited c.2 := by
  induction children with
  | nil => rfl
  | cons c children ih =>
      obtain ⟨name, node⟩ := c
      rw [childrenSteps, List.flatMap_cons]
      exact congrArg (_ ++ ·) ih

/-- Children in another order have steps in another order. -/
theorem perm_childrenSteps (path : String) (inherited : Options) (alone : Bool)
    {children children' : List (String × Node)} (h : children.Perm children') :
    (childrenSteps secrets path inherited alone children).Perm
      (childrenSteps secrets path inherited alone children') := by
  rw [childrenSteps_eq_flatMap, childrenSteps_eq_flatMap]
  exact h.flatMap_right _

mutual

/-- **Reordered trees** have alike steps. -/
theorem alike_steps : ∀ (node : Node) {node' : Node} (path : String) (inherited : Options),
    node.DistinctLabels → Reordered node node' →
    Alike (node.steps secrets path inherited) (node'.steps secrets path inherited)
  | .simple localparts, _, path, inherited, _, .simple _ => .refl _
  | .full localparts labels none, _, path, inherited, .full _ _ hd, .full _ _ h => by
      obtain ⟨hs, hl⟩ := labels_of_perm hd h
      rw [steps, steps]
      exact (Alike.register _ hs hl).append (alike_genericSteps secrets path _ hd h)
  | .full localparts labels (some written), _, path, inherited, .full _ _ hd, .full _ _ h => by
      obtain ⟨hs, hl⟩ := labels_of_perm hd h
      rw [steps, steps]
      exact (Alike.refl _).append
        ((Alike.register _ hs hl).append (alike_genericSteps secrets path _ hd h))
  | .folders children, _, path, inherited, .folders hd, @Reordered.folders _ _ children' h hp => by
      -- what a folder map asks about its children as a whole is about their names only
      have hnames : (children.map (·.1)).Perm (children'.map (·.1)) := h.map_fst ▸ hp.map _
      have hlength : children.length = children'.length := by simpa using hnames.length_eq
      have hempty : children.isEmpty = children'.isEmpty := by
        rw [Bool.eq_iff_iff, List.isEmpty_iff_length_eq_zero, List.isEmpty_iff_length_eq_zero,
          hlength]
      have hself : (children.any fun c => c.1 == Folder.selfName) =
          children'.any fun c => c.1 == Folder.selfName := by
        simpa [List.any_map, Function.comp_def] using
          hnames.any_eq (f := fun name => name == Folder.selfName)
      rw [steps, steps, hlength, hempty, hself]
      split
      · exact .refl _
      -- first every child is reordered in its place, and then the children are
      · refine Alike.append (Alike.trans ?_ (.of_perm (perm_childrenSteps secrets path _ _ hp)))
          (.refl _)
        exact alike_childrenSteps path _ _ children hd h

theorem alike_childrenSteps (path : String) (inherited : Options) (alone : Bool) :
    ∀ (children : List (String × Node)) {children' : List (String × Node)},
    (∀ c ∈ children, c.2.DistinctLabels) → ReorderedEach children children' →
    Alike (childrenSteps secrets path inherited alone children)
      (childrenSteps secrets path inherited alone children')
  | [], _, _, .nil => .refl _
  | (name, node) :: rest, _, hd, .cons _ h hr => by
      obtain ⟨hn, hd⟩ := List.forall_mem_cons.mp hd
      rw [childrenSteps, childrenSteps]
      refine Alike.append ?_ (alike_childrenSteps path inherited alone rest hd hr)
      split
      · exact .refl _
      · exact alike_steps node _ inherited hn h

end

end Walks

end Config.Node

namespace DomainRules

/-- Alike steps fail or do not fail together. -/
theorem follow_failure_of_alike {d : DomainRules} {steps steps' : List WalkStep}
    (h : Alike steps steps') :
    (d.follow steps).failure = none ↔ (d.follow steps').failure = none := by
  rw [follow_failure_eq_none_iff, follow_failure_eq_none_iff, h.sound]
  simp only [fun o => RuleSet.fresh_iff_of_perm (r := d.set o) (h.added o)]

/-- **The order of keys** plays no part in the rules of a domain.  The walks of a decoded tree and of
a reordered one fail or do not fail together, and if they do not then the rules in order are the
same, and so is the text. -/
theorem walk_reordered (domain : String) (firstFolder : Bool) (secrets : List String)
    {path : String} {v : Json.Value} {tree tree' : Config.Node} (hv : v.DistinctKeys)
    (ht : Config.Node.decode path v = .ok tree) (h : tree.Reordered tree') :
    let w := (empty domain firstFolder secrets).walk tree
    let w' := (empty domain firstFolder secrets).walk tree'
    (w.failure = none ↔ w'.failure = none) ∧
      (w.failure = none →
        w.rules.custom.ordered = w'.rules.custom.ordered ∧
          w.rules.generic.ordered = w'.rules.generic.ordered ∧
          Sieve.script w.rules.commands = Sieve.script w'.rules.commands) := by
  intro w w'
  have hd := Config.Node.distinctLabels_of_decode v path hv ht
  have halike := Config.Node.alike_steps (empty domain firstFolder secrets).secrets tree ""
    .root hd h
  have hfolders : (∃ children, tree = .folders children) ↔ ∃ children, tree' = .folders children := by
    cases h <;> simp
  have hfail : w.failure = none ↔ w'.failure = none := by
    rw [walk_failure_eq_none_iff, walk_failure_eq_none_iff, hfolders, follow_failure_of_alike halike]
  refine ⟨hfail, fun hw => ?_⟩
  obtain ⟨-, hfresh⟩ := follow_failure_eq_none_iff.mp (walk_failure_eq_none_iff.mp hw).2
  have hr : w.rules = _ := walk_rules hw
  have hr' : w'.rules = _ := walk_rules (hfail.mp hw)
  have hordered : ∀ o, (w.rules.set o).ordered = (w'.rules.set o).ordered := by
    intro o
    refine RuleSet.ordered_eq_of_perm ?_ ?_
    · rw [hr]
      cases o
      · exact (hfresh .custom).1
      · exact (hfresh .generic).1
    · rw [hr, hr', set_extend, set_extend]
      exact (halike.added o).append_left _
  refine ⟨hordered .custom, hordered .generic, ?_⟩
  have hchain : ∀ o closed continues,
      (w.rules.set o).chain closed continues = (w'.rules.set o).chain closed continues := by
    intro o
    refine RuleSet.chain_congr ?_ ?_ (hordered o)
    · rw [hr, hr', set_extend, set_extend]
      rfl
    · rw [hr, hr', set_extend, set_extend]
      rfl
  have hc := hchain .custom false false
  have hg := hchain .generic
  simp only [set] at hc hg
  simp only [commands, hc, hg]

/-- `self` behind its sibling, and two labels the other way round. -/
theorem walk_reordered_self_labels :
    let filter labels := Config.Node.full (.one "b") (some labels) none
    let here := ("self", Config.Node.simple (.one "a"))
    let tree := Config.Node.folders
      [("A", .folders [here, ("B", filter [("L", .one "k"), ("K", .one "l")])])]
    let tree' := Config.Node.folders
      [("A", .folders [("B", filter [("K", .one "l"), ("L", .one "k")]), here])]
    let w := (empty "a.org" true []).walk tree
    let w' := (empty "a.org" true []).walk tree'
    w.failure = none ∧ w'.failure = none ∧ w.rules.custom.ordered = w'.rules.custom.ordered ∧
      w.rules.generic.ordered = w'.rules.generic.ordered ∧
      Sieve.script w.rules.commands = Sieve.script w'.rules.commands := by
  intro filter here tree tree' w w'
  let v := Json.Value.object [("A", .object [("self", .string "a"), ("B", .object
    [("localparts", .string "b"),
      ("labels", .object [("L", .string "k"), ("K", .string "l")])])])]
  have hv : v.DistinctKeys := by simp [v]
  have ht : Config.Node.decode "" v = .ok tree := rfl
  have hr : tree.Reordered tree' := by
    have hl : Config.Node.Reordered (filter [("L", .one "k"), ("K", .one "l")])
        (filter [("K", .one "l"), ("L", .one "k")]) := .full _ _ (.some (.swap _ _ _))
    exact .folders (.cons _ (.folders (.cons _ (.simple _) (.cons _ hl .nil)) (.swap _ _ _)) .nil)
      (.refl _)
  obtain ⟨hf, he⟩ := walk_reordered "a.org" true [] hv ht hr
  have hw : w.failure = none := by decide +kernel
  exact ⟨hw, hf.mp hw, he hw⟩

end DomainRules

end FolderSieve
