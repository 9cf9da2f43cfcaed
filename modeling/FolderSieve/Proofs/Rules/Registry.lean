import FolderSieve.Proofs.Rules.Reordering

/-!
# Rules — registrations one after the other

A registration that is refused leaves its set as it is, and one that is taken adds its rule, or
none, behind the rules there are.  So a set holds what the registrations ask for that were taken,
whatever was refused in between and why.

* `RuleSet.attempt_eq_none_iff`, `RuleSet.attempt_of_eq_none`: one registration.
* `RuleSet.registerAll_eq_extend`: a row of them.
* `RuleSet.registerAll_empty`: what always holds of a set that begins without rules.
-/

namespace FolderSieve

namespace RuleSet

/-- What a registration makes of the set, and the mistake for which it is refused, if it is.  Which
of the two sets of a domain it is meant for plays no part. -/
def attempt (r : RuleSet) (x : Registration) : RuleSet × Option Config.Error :=
  match r.register x.path x.localparts x.labels x.options with
  | .ok r' => (r', none)
  | .error e => (r, some e)

/-- The set after registrations one after the other. -/
def registerAll (r : RuleSet) (xs : List Registration) : RuleSet :=
  xs.foldl (fun r x => (r.attempt x).1) r

/-- Those of the registrations that are not refused. -/
def taken (r : RuleSet) : List Registration → List Registration
  | [] => []
  | x :: xs =>
      if (r.attempt x).2.isNone then x :: (r.attempt x).1.taken xs else (r.attempt x).1.taken xs

/-! ### One registration -/

/-- **A registration is taken** exactly if it is sound and asks for no rule or for that of a path
without one. -/
theorem attempt_eq_none_iff {r : RuleSet} {x : Registration} :
    (r.attempt x).2 = none ↔ x.Sound ∧ (x.localparts = .one "" ∨ r.has x.path = false) := by
  have hfresh : r.Fresh x.added ↔ x.localparts = .one "" ∨ r.has x.path = false := by
    unfold Registration.added
    split <;> simp_all [Fresh]
  rw [← hfresh]
  unfold attempt
  cases h : r.register x.path x.localparts x.labels x.options with
  | ok r' =>
      obtain ⟨hs, hf, -⟩ := register_eq_ok_iff.mp h
      simp [hs, hf]
  | error e =>
      simp only [reduceCtorEq, false_iff]
      rintro ⟨hs, hf⟩
      rw [register_eq_ok_iff.mpr ⟨hs, hf, rfl⟩] at h
      cases h

/-- A registration that is taken adds what it asks for, which is fresh. -/
theorem attempt_of_eq_none {r : RuleSet} {x : Registration} (h : (r.attempt x).2 = none) :
    x.Sound ∧ r.Fresh x.added ∧ (r.attempt x).1 = r.extend x.added := by
  unfold attempt at h ⊢
  cases hr : r.register x.path x.localparts x.labels x.options with
  | ok r' => exact register_eq_ok_iff.mp hr
  | error e =>
      rw [hr] at h
      cases h

theorem attempt_of_ne_none {r : RuleSet} {x : Registration} (h : (r.attempt x).2 ≠ none) :
    (r.attempt x).1 = r := by
  unfold attempt at h ⊢
  cases hr : r.register x.path x.localparts x.labels x.options with
  | ok r' =>
      rw [hr] at h
      exact absurd rfl h
  | error e => rfl

/-! ### Rows of registrations -/

/-- **Registrations one after the other** add what those ask for that are taken. -/
theorem registerAll_eq_extend (r : RuleSet) (xs : List Registration) :
    r.registerAll xs = r.extend ((r.taken xs).flatMap Registration.added) ∧
      r.Fresh ((r.taken xs).flatMap Registration.added) ∧ ∀ x ∈ r.taken xs, x ∈ xs ∧ x.Sound := by
  induction xs generalizing r with
  | nil => simp [registerAll, taken]
  | cons x xs ih =>
      obtain ⟨hr, hf, ht⟩ := ih (r.attempt x).1
      have hcons : r.registerAll (x :: xs) = (r.attempt x).1.registerAll xs := rfl
      rw [hcons, taken]
      by_cases hx : (r.attempt x).2 = none
      · obtain ⟨hs, hfx, ha⟩ := attempt_of_eq_none hx
        rw [ha] at hr hf ht ⊢
        rw [hx, Option.isNone_none, if_pos rfl, List.flatMap_cons, hr, extend_extend]
        refine ⟨rfl, fresh_append.mpr ⟨hfx, hf⟩, ?_⟩
        rintro y (_ | ⟨_, hy⟩)
        · exact ⟨List.mem_cons_self, hs⟩
        · exact ⟨List.mem_cons_of_mem _ (ht y hy).1, (ht y hy).2⟩
      · rw [attempt_of_ne_none hx] at hr hf ht ⊢
        rw [if_neg (by simpa using hx)]
        exact ⟨hr, hf, fun y hy => ⟨List.mem_cons_of_mem _ (ht y hy).1, (ht y hy).2⟩⟩

theorem registerAll_append (r : RuleSet) (xs ys : List Registration) :
    r.registerAll (xs ++ ys) = (r.registerAll xs).registerAll ys :=
  List.foldl_append

/-- What is registered stays. -/
theorem entries_prefix_registerAll (r : RuleSet) (xs : List Registration) :
    r.entries <+: (r.registerAll xs).entries := by
  rw [(registerAll_eq_extend r xs).1]
  exact List.prefix_append _ _

@[simp] theorem home_registerAll (r : RuleSet) (xs : List Registration) :
    (r.registerAll xs).home = r.home := by
  rw [(registerAll_eq_extend r xs).1]
  rfl

/-- Rules that are registered from none are sound, and their paths are not empty. -/
theorem sound_registerAll (name home : String) (xs : List Registration) :
    ∀ e ∈ ((⟨name, home, []⟩ : RuleSet).registerAll xs).entries, e.1 ≠ "" ∧ e.2.Sound := by
  obtain ⟨hr, -, ht⟩ := registerAll_eq_extend ⟨name, home, []⟩ xs
  rw [hr]
  intro e he
  obtain ⟨x, hx, he⟩ := List.mem_flatMap.mp he
  exact Registration.sound_of_mem_added (ht x hx).2 he

theorem nodup_registerAll (name home : String) (xs : List Registration) :
    (((⟨name, home, []⟩ : RuleSet).registerAll xs).entries.map (·.1)).Nodup := by
  obtain ⟨hr, hf, -⟩ := registerAll_eq_extend ⟨name, home, []⟩ xs
  rw [hr]
  exact hf.1

/-- Each registration that is taken has added one rule, if it asked for one. -/
theorem length_flatMap_added (xs : List Registration) :
    (xs.flatMap Registration.added).length = xs.countP fun x => x.localparts ≠ .one "" := by
  induction xs with
  | nil => rfl
  | cons x xs ih =>
      rw [List.flatMap_cons, List.length_append, ih, List.countP_cons, Registration.added]
      split <;> simp_all [Nat.add_comm]

/-- The labels of a rule that is added have strictly ascending names, if none was given twice. -/
theorem pairwise_labels_of_mem_added {x : Registration}
    (hd : ∀ given, x.labels = some given → (given.map (·.1)).Nodup) {e : String × Rule}
    (he : e ∈ x.added) {labels : RuleLabels} (hl : e.2.labels = some labels) :
    (labels.map (·.1)).Pairwise fun p q => p < q := by
  unfold Registration.added at he
  split at he
  · cases he
  obtain rfl := List.mem_singleton.mp he
  obtain ⟨given, hg, rfl⟩ := Option.map_eq_some_iff.mp hl
  exact pairwise_ruleLabels (hd given hg)

/-- **What always holds of a set** that begins without rules, whatever is registered and refused, if
no label is given twice.  Each rule is sound, with a path and with labels in strictly ascending
order.  At any point of the row a registration is taken exactly if it is sound and asks for no rule
or for that of a path without one.  One that is refused, or asks for no rule, leaves the set as it
is; any other adds its rule, which stays the only one of its path.  So there are as many rules as
registrations that were taken and asked for one. -/
theorem registerAll_empty (name home : String) (xs : List Registration)
    (hd : ∀ x ∈ xs, ∀ given, x.labels = some given → (given.map (·.1)).Nodup) :
    let start : RuleSet := ⟨name, home, []⟩
    let r := start.registerAll xs
    (∀ e ∈ r.entries, e.1 ≠ "" ∧ e.2.Sound ∧ ∀ labels, e.2.labels = some labels →
      (labels.map (·.1)).Pairwise fun p q => p < q) ∧
    (∀ before x after, xs = before ++ x :: after →
      let s := start.registerAll before
      let s' := (s.attempt x).1
      ((s.attempt x).2 = none ↔ x.Sound ∧ (x.localparts = .one "" ∨ s.has x.path = false)) ∧
      ((s.attempt x).2 ≠ none ∨ x.localparts = .one "" → s' = s) ∧
      ((s.attempt x).2 = none ∧ x.localparts ≠ .one "" →
        let e := (x.path, Rule.mk x.localparts.toList (x.labels.map ruleLabels) x.options)
        s.has x.path = false ∧ s'.entries = s.entries ++ [e] ∧ s'.entries <+: r.entries)) ∧
    (r.entries.map (·.1)).Nodup ∧
    r.size = (start.taken xs).countP fun x => x.localparts ≠ .one "" := by
  intro start r
  obtain ⟨hr, hf, ht⟩ := registerAll_eq_extend start xs
  have hentries : r.entries = (start.taken xs).flatMap Registration.added := congrArg entries hr
  refine ⟨?_, ?_, ?_, ?_⟩
  · intro e he
    obtain ⟨x, hx, he⟩ := List.mem_flatMap.mp (hentries ▸ he)
    obtain ⟨hx, hs⟩ := ht x hx
    obtain ⟨hp, hsound⟩ := Registration.sound_of_mem_added hs he
    exact ⟨hp, hsound, fun labels hl => pairwise_labels_of_mem_added (hd x hx) he hl⟩
  · rintro before x after rfl s s'
    refine ⟨attempt_eq_none_iff, ?_, ?_⟩
    · rintro (h | h)
      · exact attempt_of_ne_none h
      · by_cases hx : (s.attempt x).2 = none
        · have ha := (attempt_of_eq_none hx).2.2
          simpa [Registration.added, h] using ha
        · exact attempt_of_ne_none hx
    · rintro ⟨hx, hne⟩ e
      obtain ⟨-, hfresh, ha⟩ := attempt_of_eq_none hx
      have hadded : x.added = [e] := if_neg hne
      rw [hadded] at hfresh ha
      refine ⟨hfresh.2 e List.mem_cons_self, congrArg entries ha, ?_⟩
      have hsplit : r = s'.registerAll after := registerAll_append start before (x :: after)
      rw [hsplit]
      exact entries_prefix_registerAll s' after
  · exact hentries ▸ hf.1
  · rw [size, hentries, length_flatMap_added]

/-- Six registrations of which three are refused, for a path that has a rule, for want of a path and
for an empty localpart, and one asks for no rule. -/
theorem registerAll_empty_refusals :
    let xs : List Registration :=
      [⟨.custom, "A", .many ["x", "y"], some [("Work", .one "w"), ("Home", .many ["h", "i"])],
          .root⟩,
        ⟨.custom, "A", .one "z", none, .root⟩, ⟨.custom, "B", .one "", none, .root⟩,
        ⟨.custom, "", .one "z", none, .root⟩, ⟨.custom, "C", .many ["z", ""], none, .root⟩,
        ⟨.custom, "B", .many ["c", "c"], none, .root⟩]
    let start : RuleSet := ⟨"Custom", "", []⟩
    let r := start.registerAll xs
    r.entries =
        [("A", ⟨["x", "y"], some [("Home", ["h", "i"]), ("Work", ["w"])], .root⟩),
          ("B", ⟨["c", "c"], none, .root⟩)] ∧
      (start.taken xs).map (·.path) = ["A", "B", "B"] ∧ r.size = 2 ∧
      (r.entries.map (·.1)).Nodup := by
  intro xs start r
  have hd : ∀ x ∈ xs, ∀ given, x.labels = some given → (given.map (·.1)).Nodup := by
    simp [xs]
  obtain ⟨-, -, hnodup, hsize⟩ := registerAll_empty "Custom" "" xs hd
  exact ⟨by decide +kernel, by decide +kernel, hsize.trans (by decide +kernel), hnodup⟩

end RuleSet

end FolderSieve
