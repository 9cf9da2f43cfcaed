import FolderSieve.Json.Reader

/-!
# JSON — no key twice

Whatever text is read, no object in its value has a key twice, since a key that comes again is put
where it came first.

* `Members.distinct_put`: putting a member keeps the keys of members distinct.
* `distinctKeys_read`: the value of a text has distinct keys throughout.
-/

namespace FolderSieve.Json

/-- No object within the value has a key twice. -/
inductive Value.DistinctKeys : Value → Prop
  | null : DistinctKeys .null
  | bool (b : Bool) : DistinctKeys (.bool b)
  | int (n : Int) : DistinctKeys (.int n)
  | real (x : Real) : DistinctKeys (.real x)
  | string (s : String) : DistinctKeys (.string s)
  | array {items : List Value} (h : ∀ v ∈ items, v.DistinctKeys) : DistinctKeys (.array items)
  | object {ms : Members} (hk : (ms.map (·.1)).Nodup) (h : ∀ m ∈ ms, m.2.DistinctKeys) :
      DistinctKeys (.object ms)

@[simp] theorem distinctKeys_string (s : String) : (Value.string s).DistinctKeys :=
  .string s

@[simp] theorem distinctKeys_object {ms : Members} :
    (Value.object ms).DistinctKeys ↔ (ms.map (·.1)).Nodup ∧ ∀ m ∈ ms, m.2.DistinctKeys := by
  constructor
  · rintro (_ | _ | _ | _ | _ | _ | ⟨hk, h⟩)
    exact ⟨hk, h⟩
  · rintro ⟨hk, h⟩
    exact .object hk h

theorem Members.mem_of_get? {ms : Members} {key : String} {v : Value} (h : ms.get? key = some v) :
    (key, v) ∈ ms := by
  obtain ⟨m, hm, rfl⟩ := Option.map_eq_some_iff.mp h
  have hk : m.1 = key := by simpa using List.find?_some hm
  exact hk ▸ List.mem_of_find?_eq_some hm

namespace Members

/-- Distinct keys, and distinct keys within every member. -/
def Distinct (ms : Members) : Prop :=
  (ms.map (·.1)).Nodup ∧ ∀ m ∈ ms, m.2.DistinctKeys

theorem distinct_put {ms : Members} (h : ms.Distinct) (key : String) {v : Value}
    (hv : v.DistinctKeys) : (ms.put key v).Distinct := by
  obtain ⟨hk, hm⟩ := h
  unfold put
  by_cases hh : ms.has key = true
  · rw [if_pos hh]
    have hfst : (ms.map fun m => if m.1 == key then (key, v) else m).map (·.1) = ms.map (·.1) := by
      rw [List.map_map]
      refine List.map_congr_left fun m _ => ?_
      by_cases he : m.1 = key <;> simp [he]
    refine ⟨hfst ▸ hk, fun m hmem => ?_⟩
    obtain ⟨m', hm', rfl⟩ := List.mem_map.mp hmem
    split
    · exact hv
    · exact hm m' hm'
  · rw [if_neg hh]
    have hnew : key ∉ ms.map (·.1) := by
      rintro hmem
      obtain ⟨m, hm, rfl⟩ := List.mem_map.mp hmem
      exact hh (List.any_eq_true.mpr ⟨m, hm, by simp⟩)
    refine ⟨?_, ?_⟩
    · rw [List.map_append]
      refine List.nodup_append.mpr ⟨hk, by simp, ?_⟩
      rintro a ha b hb rfl
      obtain rfl : a = key := List.mem_singleton.mp hb
      exact hnew ha
    · exact List.forall_mem_append.mpr ⟨hm, by simpa using hv⟩

theorem distinct_foldl_put {ms before : Members} (hm : ∀ m ∈ ms, m.2.DistinctKeys)
    (hb : before.Distinct) : (ms.foldl (fun ms m => Members.put ms m.1 m.2) before).Distinct := by
  induction ms generalizing before with
  | nil => exact hb
  | cons m ms ih =>
      obtain ⟨hv, hm⟩ := List.forall_mem_cons.mp hm
      exact ih hm (distinct_put hb m.1 hv)

end Members

theorem distinctKeys_scalar {s : List Char} {k : Taken Value s} (h : scalar s = .ok k) :
    k.value.DistinctKeys := by
  have hnumber : ∀ {s v rest}, number? s = some (v, rest) → v.DistinctKeys := by
    intro s v rest hn
    simp only [number?] at hn
    repeat' split at hn
    all_goals cases hn
    all_goals first | exact .int _ | exact .real _
  have hwords : ∀ w ∈ words, w.2.DistinctKeys := by
    simp [words, Value.DistinctKeys.null, Value.DistinctKeys.bool, Value.DistinctKeys.real]
  unfold scalar at h
  split at h
  · cases h
  rename_i v rest hv
  split at h
  · cases h
    unfold scalar? at hv
    split at hv
    · rename_i found hf
      cases hv
      obtain ⟨w, hw, hf⟩ := List.exists_of_findSome?_eq_some hf
      obtain ⟨_, -, hf⟩ := Option.map_eq_some_iff.mp hf
      cases hf
      exact hwords w hw
    · exact hnumber hv
  · cases h

mutual

theorem distinctKeys_value (s : List Char) {k : Taken Value s} (h : value s = .ok k) :
    k.value.DistinctKeys := by
  unfold value at h
  split at h
  · rename_i t
    cases ht : string (t.length + 1) t with
    | error e =>
        rw [ht] at h
        cases h
    | ok text =>
        rw [ht] at h
        cases h
        exact .string _
  · rename_i t
    have ht := length_skip_le t
    dsimp only at h
    split at h
    · cases h
      exact .array (by simp)
    · split at h
      · cases h
      · rename_i hi
        cases h
        exact .array (distinctKeys_items _ hi)
  · rename_i t
    have ht := length_skip_le t
    dsimp only at h
    split at h
    · cases h
      exact .object (by simp) (by simp)
    · split at h
      · cases h
      · rename_i hi
        cases h
        have hnil : Members.Distinct [] := ⟨by simp, by simp⟩
        have hd := Members.distinct_foldl_put (distinctKeys_members _ hi) hnil
        exact .object hd.1 hd.2
  · exact distinctKeys_scalar h
termination_by (s.length, 0)
decreasing_by
  all_goals
    apply Prod.Lex.left
    subst_vars
    simp only [List.length_cons]
    omega

theorem distinctKeys_items (s : List Char) {k : Taken (List Value) s} (h : items s = .ok k) :
    ∀ v ∈ k.value, v.DistinctKeys := by
  unfold items at h
  split at h
  · cases h
  rename_i v hv
  have hd := distinctKeys_value s hv
  have hlt := v.shorter
  have hle := length_skip_le v.rest
  dsimp only at h
  split at h
  · cases h
    simpa using hd
  · rename_i more hs
    have hm := length_skip_le more
    have hmore : more.length + 1 ≤ v.rest.length := by simpa [hs] using hle
    split at h
    · cases h
    · rename_i hi
      cases h
      exact List.forall_mem_cons.mpr ⟨hd, distinctKeys_items _ hi⟩
  · cases h
termination_by (s.length, 1)
decreasing_by
  · exact Prod.Lex.right _ (by omega)
  · apply Prod.Lex.left
    omega

theorem distinctKeys_members (s : List Char) {k : Taken Members s} (h : members s = .ok k) :
    ∀ m ∈ k.value, m.2.DistinctKeys := by
  unfold members at h
  split at h
  · rename_i t
    split at h
    · cases h
    rename_i key _
    have hk := key.shorter
    have hc := length_skip_le key.rest
    dsimp only at h
    split at h
    · rename_i more hs
      have hm := length_skip_le more
      have hcolon : more.length + 1 ≤ key.rest.length := by simpa [hs] using hc
      split at h
      · cases h
      rename_i v hv
      have hd := distinctKeys_value _ hv
      have hlt := v.shorter
      have hr := length_skip_le v.rest
      split at h
      · cases h
        simpa using hd
      · rename_i next hn
        have hx := length_skip_le next
        have hcomma : next.length + 1 ≤ v.rest.length := by simpa [hn] using hr
        split at h
        · cases h
        rename_i hi
        cases h
        exact List.forall_mem_cons.mpr ⟨hd, distinctKeys_members _ hi⟩
      · cases h
    · cases h
  · cases h
termination_by (s.length, 1)
decreasing_by
  all_goals
    apply Prod.Lex.left
    subst_vars
    simp only [List.length_cons]
    omega

end

/-- **The value of a text** has distinct keys throughout. -/
theorem distinctKeys_read {text : List Char} {v : Value} (h : read text = .ok v) :
    v.DistinctKeys := by
  unfold read at h
  split at h
  · cases h
  split at h
  · cases h
  rename_i k hk
  split at h
  · cases h
    exact distinctKeys_value _ hk
  · cases h

end FolderSieve.Json
