import FolderSieve.Proofs.Json.Distinct

/-!
# JSON — looking up members

What a key leads to, also after members are taken out of an object or one is put into it.

* `Members.forall_mem_iff`: the keys of an object are those that lead to something.
* `Members.get?_eq_some_iff`, `Members.get?_perm`: looking up among distinct keys.
* `Members.get?_without`, `Members.get?_put`: what is found after a change.
* `Members.get?_entry`: what is found where something that may be missing is written.
-/

namespace FolderSieve.Json.Members

variable {ms : Members} {key : String}

theorem has_eq_false_iff : ms.has key = false ↔ ∀ m ∈ ms, m.1 ≠ key := by
  simp [has]

theorem get?_eq_none_iff : ms.get? key = none ↔ ∀ m ∈ ms, m.1 ≠ key := by
  simp [get?]

theorem has_iff_exists_get? : ms.has key = true ↔ ∃ v, ms.get? key = some v := by
  rw [← Option.isSome_iff_exists, ← Option.ne_none_iff_isSome, Ne, get?_eq_none_iff,
    ← has_eq_false_iff, Bool.not_eq_false]

/-- What is true of the keys of an object is true of those that lead to something. -/
theorem forall_mem_iff {P : String → Prop} :
    (∀ m ∈ ms, P m.1) ↔ ∀ key v, ms.get? key = some v → P key := by
  constructor
  · intro h key v hv
    exact h _ (mem_of_get? hv)
  · intro h m hm
    obtain ⟨v, hv⟩ := has_iff_exists_get?.mp (List.any_eq_true.mpr ⟨m, hm, beq_self_eq_true m.1⟩)
    exact h m.1 v hv

@[simp] theorem get?_nil (key : String) : Members.get? [] key = none :=
  rfl

theorem get?_cons (m : String × Value) (ms : Members) (key : String) :
    Members.get? (m :: ms) key = if m.1 = key then some m.2 else ms.get? key := by
  by_cases h : m.1 = key <;> simp [get?, h]

/-- Where no key is there twice, a key leads to every value that it has. -/
theorem get?_eq_some_iff (hk : (ms.map (·.1)).Nodup) {v : Value} :
    ms.get? key = some v ↔ (key, v) ∈ ms := by
  refine ⟨mem_of_get?, fun hm => ?_⟩
  induction ms with
  | nil => cases hm
  | cons m ms ih =>
      obtain ⟨hnew, hk⟩ := List.nodup_cons.mp hk
      rw [get?_cons]
      rcases List.mem_cons.mp hm with rfl | hm
      · rw [if_pos rfl]
      · have hne : m.1 ≠ key := by
          rintro rfl
          exact hnew (List.mem_map.mpr ⟨_, hm, rfl⟩)
        rw [if_neg hne, ih hk hm]

/-- The order of distinct keys does not matter to what they lead to. -/
theorem get?_perm (hk : (ms.map (·.1)).Nodup) {ms' : Members} (hp : ms.Perm ms') (key : String) :
    ms.get? key = ms'.get? key := by
  have hk' : (ms'.map (·.1)).Nodup := (hp.map _).nodup_iff.mp hk
  refine Option.ext fun v => ?_
  rw [get?_eq_some_iff hk, get?_eq_some_iff hk', hp.mem_iff]

theorem get?_without (ms : Members) (out key : String) :
    (ms.without out).get? key = if key = out then none else ms.get? key := by
  induction ms with
  | nil => simp [without]
  | cons m ms ih =>
      rw [without] at ih
      by_cases hm : m.1 = out
      · rw [without, List.filter_cons_of_neg (by simp [hm]), ih, get?_cons, hm]
        by_cases hk : key = out
        · simp [hk]
        · simp [hk, Ne.symm hk]
      · rw [without, List.filter_cons_of_pos (by simp [hm]), get?_cons, ih, get?_cons]
        by_cases hk : key = out
        · simp [hk, hm]
        · simp [hk]

/-- A key whose value is set in place leads to the new value, if it was there. -/
theorem get?_map_set (ms : Members) (set : String) (v : Value) (key : String) :
    Members.get? (ms.map fun m => if m.1 == set then (set, v) else m) key =
      if key = set then (ms.get? set).map fun _ => v else ms.get? key := by
  induction ms with
  | nil => simp
  | cons m ms ih =>
      rw [List.map_cons, get?_cons, ih, get?_cons, get?_cons]
      by_cases hm : m.1 = set <;> by_cases hk : key = set
      · simp [hm, hk]
      · simp [hm, hk, Ne.symm hk]
      · simp [hm, hk]
      · simp [hm, hk]

theorem get?_append (ms ms' : Members) (key : String) :
    Members.get? (ms ++ ms') key = (ms.get? key).or (ms'.get? key) := by
  rw [get?, List.find?_append, Option.map_or]
  rfl

theorem get?_put (ms : Members) (set : String) (v : Value) (key : String) :
    (ms.put set v).get? key = if key = set then some v else ms.get? key := by
  unfold put
  split
  · rename_i hh
    obtain ⟨w, hw⟩ := has_iff_exists_get?.mp hh
    rw [get?_map_set, hw, Option.map_some]
  · rename_i hh
    have hnone : ms.get? set = none := by
      rw [get?_eq_none_iff, ← has_eq_false_iff, Bool.eq_false_iff]
      exact hh
    rw [get?_append, get?_cons]
    by_cases hk : key = set
    · simp [hk, hnone]
    · simp [hk, Ne.symm hk]

/-- To set a key changes nothing but what it leads to. -/
theorem without_put (ms : Members) (set : String) (v : Value) :
    (ms.put set v).without set = ms.without set := by
  have hmap : (ms.map fun m => if m.1 == set then (set, v) else m).filter (fun m => m.1 != set) =
      ms.filter fun m => m.1 != set := by
    induction ms with
    | nil => rfl
    | cons m ms ih => by_cases hm : m.1 = set <;> simp_all
  unfold put without
  split
  · exact hmap
  · simp

/-- A key with its value, if there is one; if not, the key with null or nothing at all. -/
def entry (nulls : Bool) (key : String) : Option Value → Members
  | some v => [(key, v)]
  | none => if nulls then [(key, .null)] else []

theorem get?_entry (nulls : Bool) (name : String) (v : Option Value) (key : String) :
    (entry nulls name v).get? key =
      if name = key then v.or (if nulls then some .null else none) else none := by
  cases v <;> cases nulls <;> simp [entry, get?_cons]

theorem of_mem_entry {nulls : Bool} {v : Option Value} {m : String × Value}
    (h : m ∈ entry nulls key v) : m.1 = key ∧ (m.2 = .null ∨ v = some m.2) := by
  cases v <;> cases nulls <;> simp_all [entry]

end FolderSieve.Json.Members
