import FolderSieve.Proofs.Rules.Registry

/-!
# Rules — registrations in any order

What registrations come to depends on what they ask for, and neither on their order nor on that of
their labels.  Whether all of them are taken is a matter of what they ask for as a whole, since a path
that is asked for twice is so in any order; and a rule has its labels, and a set its rules, in an order
of their own.

* `RuleSet.registerEach_eq_ok_iff`: when all of a row of registrations are taken, and what the set
  has then.
* `Registration.Rearranged`: rows that differ in the two orders only, which ask for the same rules
  (`Registration.Rearranged.perm_added`).
* `RuleSet.registerEach_rearranged`: what is registered by rearranged rows.
-/

namespace FolderSieve

namespace Registration

/-- Registrations that differ in the order of their labels only. -/
def Relabelled (x y : Registration) : Prop :=
  ∃ labels, Option.Rel List.Perm x.labels labels ∧ y = { x with labels }

/-- Rows of registrations that differ in their order, and in that of the labels of each. -/
def Rearranged (xs ys : List Registration) : Prop :=
  ∃ zs, List.Forall₂ Relabelled xs zs ∧ zs.Perm ys

/-- No label of the registration is given twice. -/
def DistinctLabels (x : Registration) : Prop :=
  ∀ given, x.labels = some given → (given.map (·.1)).Nodup

theorem Relabelled.sound_iff {x y : Registration} (hd : x.DistinctLabels) (h : x.Relabelled y) :
    x.Sound ↔ y.Sound := by
  obtain ⟨labels, hl, rfl⟩ := h
  simp only [Sound, (Config.Node.labels_of_perm hd hl).1]

theorem Relabelled.added_eq {x y : Registration} (hd : x.DistinctLabels) (h : x.Relabelled y) :
    x.added = y.added := by
  obtain ⟨labels, hl, rfl⟩ := h
  simp only [added, (Config.Node.labels_of_perm hd hl).2]

namespace Rearranged

variable {xs ys : List Registration} (hd : ∀ x ∈ xs, x.DistinctLabels) (h : Rearranged xs ys)

include hd h

theorem sound_iff : (∀ x ∈ xs, x.Sound) ↔ ∀ y ∈ ys, y.Sound := by
  obtain ⟨zs, hz, hp⟩ := h
  have hzs : (∀ x ∈ xs, x.Sound) ↔ ∀ z ∈ zs, z.Sound := by
    clear hp
    induction hz with
    | nil => simp
    | cons hxz _ ih =>
        obtain ⟨hx, hd⟩ := List.forall_mem_cons.mp hd
        rw [List.forall_mem_cons, List.forall_mem_cons, hxz.sound_iff hx, ih hd]
  simp only [hzs, hp.mem_iff]

/-- **Rearranged rows** ask for the same rules. -/
theorem perm_added : (xs.flatMap added).Perm (ys.flatMap added) := by
  obtain ⟨zs, hz, hp⟩ := h
  have hzs : xs.flatMap added = zs.flatMap added := by
    clear hp
    induction hz with
    | nil => rfl
    | cons hxz _ ih =>
        obtain ⟨hx, hd⟩ := List.forall_mem_cons.mp hd
        rw [List.flatMap_cons, List.flatMap_cons, hxz.added_eq hx, ih hd]
  rw [hzs]
  exact hp.flatMap_right _

end Rearranged

end Registration

namespace RuleSet

/-- The set with the rules of registrations one after the other, of which none may be refused. -/
def registerEach (r : RuleSet) : List Registration → Except Config.Error RuleSet
  | [] => .ok r
  | x :: xs =>
      (r.register x.path x.localparts x.labels x.options).bind fun r => r.registerEach xs

/-- **All of a row of registrations** are taken exactly if each is sound and what they ask for has
paths of its own. -/
theorem registerEach_eq_ok_iff {r r' : RuleSet} {xs : List Registration} :
    r.registerEach xs = .ok r' ↔
      (∀ x ∈ xs, x.Sound) ∧ r.Fresh (xs.flatMap Registration.added) ∧
        r' = r.extend (xs.flatMap Registration.added) := by
  induction xs generalizing r with
  | nil => simp [registerEach, eq_comm]
  | cons x xs ih =>
      rw [registerEach, Config.bind_eq_ok_iff]
      simp only [register_eq_ok_iff, List.forall_mem_cons, List.flatMap_cons, fresh_append]
      constructor
      · rintro ⟨_, ⟨hx, hf, rfl⟩, hr⟩
        obtain ⟨hxs, hfs, rfl⟩ := ih.mp hr
        exact ⟨⟨hx, hxs⟩, ⟨hf, hfs⟩, extend_extend r _ _⟩
      · rintro ⟨⟨hx, hxs⟩, ⟨hf, hfs⟩, rfl⟩
        exact ⟨_, ⟨hx, hf, rfl⟩, ih.mpr ⟨hxs, hfs, (extend_extend r _ _).symm⟩⟩

/-- In whatever order rules with paths of their own are added, they come to the same order. -/
theorem ordered_extend_of_perm {r : RuleSet} {es es' : List (String × Rule)}
    (hd : ((r.extend es).entries.map (·.1)).Nodup) (h : es.Perm es') :
    (r.extend es).ordered = (r.extend es').ordered :=
  ordered_eq_of_perm hd (h.append_left _)

/-- **Registrations in any order**, with their labels in any order, if no label is given twice.  If
all of them are taken, from a set without rules, then so are the rearranged ones; the rules in order
are the same, there are as many, and the chain is written the same, with the catch-all or without and
on its own or behind an open chain. -/
theorem registerEach_rearranged (name home : String) {xs ys : List Registration} {r : RuleSet}
    (hd : ∀ x ∈ xs, x.DistinctLabels) (h : Registration.Rearranged xs ys)
    (hr : registerEach ⟨name, home, []⟩ xs = .ok r) :
    ∃ r', registerEach ⟨name, home, []⟩ ys = .ok r' ∧ r'.ordered = r.ordered ∧ r'.size = r.size ∧
      ∀ closed continues, Sieve.script (r'.chain closed continues) =
        Sieve.script (r.chain closed continues) := by
  obtain ⟨hs, hf, rfl⟩ := registerEach_eq_ok_iff.mp hr
  have hp := h.perm_added hd
  have hys := registerEach_eq_ok_iff.mpr
    ⟨(h.sound_iff hd).mp hs, (fresh_iff_of_perm hp).mp hf, rfl⟩
  have hordered := (ordered_extend_of_perm (r := ⟨name, home, []⟩) hf.1 hp).symm
  refine ⟨_, hys, hordered, hp.symm.length_eq, fun closed continues => ?_⟩
  exact congrArg Sieve.script (chain_congr (by rfl) (by rfl) hordered closed continues)

/-- Two labels the other way round, and the registration in front that came behind, which is for the
same path and asks for no rule. -/
theorem registerEach_rearranged_labels :
    let filter labels : Registration := ⟨.custom, "A", .one "x", some labels, .root⟩
    let nothing : Registration := ⟨.custom, "A", .one "", none, .root⟩
    let xs := [filter [("Work", .one "w"), ("Home", .many ["h", "i"])], nothing]
    let ys := [nothing, filter [("Home", .many ["h", "i"]), ("Work", .one "w")]]
    let start : RuleSet := ⟨"Custom", "", []⟩
    let r := start.extend
      [("A", ⟨["x"], some [("Home", ["h", "i"]), ("Work", ["w"])], .root⟩)]
    (∀ x ∈ xs, x.DistinctLabels) ∧ Registration.Rearranged xs ys ∧ start.registerEach xs = .ok r ∧
      ∃ r', start.registerEach ys = .ok r' ∧ r'.ordered = r.ordered ∧ r'.size = 1 := by
  intro filter nothing xs ys start r
  have hd : ∀ x ∈ xs, x.DistinctLabels := by simp [xs, filter, nothing, Registration.DistinctLabels]
  have h : Registration.Rearranged xs ys :=
    ⟨_, .cons ⟨_, .some (.swap _ _ _), rfl⟩ (.cons ⟨none, .none, rfl⟩ .nil), .swap _ _ _⟩
  have hr : start.registerEach xs = .ok r := by rfl
  obtain ⟨r', hr', hordered, hsize, -⟩ := registerEach_rearranged "Custom" "" hd h hr
  exact ⟨hd, h, hr, r', hr', hordered, hsize⟩

end RuleSet

end FolderSieve
