import FolderSieve.Proofs.Config.FirstFolder
import FolderSieve.Proofs.Config.Grammar
import FolderSieve.Proofs.Config.Respelling

/-!
# Configuration — control characters are refused

A configuration is decoded by many readers, each of which looks at strings and keys in its own way: the
names of domains, the names of folders, texts, the names of labels.  Whatever is read without failing
has no control character in any of its strings and keys.  Where an object had a key twice only the
first of the two would be looked at; no value of a text has one.

* `Json.Value.Holds`: the strings and keys of a value, at any depth.
* `Node.printable_of_isNode`: the values that are decoded as nodes.
* `Domain.printable_of_decode`: the values that are decoded as domains.
* `Domain.decodeAll_eq_error_of_control`: a configuration with a control character is not decoded.
-/

namespace FolderSieve

namespace Json.Value

/-- A string of the value or of something within it, or a key. -/
inductive Holds (t : String) : Value → Prop
  | string : Holds t (.string t)
  | item {items : List Value} {v : Value} (hv : v ∈ items) (h : Holds t v) : Holds t (.array items)
  | key {ms : Members} {v : Value} (hm : (t, v) ∈ ms) : Holds t (.object ms)
  | member {ms : Members} {m : String × Value} (hm : m ∈ ms) (h : Holds t m.2) :
      Holds t (.object ms)

/-- No string and no key of the value has a control character. -/
def Printable (v : Value) : Prop :=
  ∀ t, v.Holds t → Text.hasControl t = false

@[simp] theorem printable_string {s : String} :
    (Value.string s).Printable ↔ Text.hasControl s = false := by
  constructor
  · exact fun h => h s .string
  · rintro h t ⟨⟩
    exact h

@[simp] theorem printable_array {items : List Value} :
    (Value.array items).Printable ↔ ∀ v ∈ items, v.Printable := by
  constructor
  · exact fun h v hv t ht => h t (.item hv ht)
  · rintro h t ht
    cases ht with
    | item hv ht => exact h _ hv t ht

@[simp] theorem printable_object {ms : Members} :
    (Value.object ms).Printable ↔ ∀ m ∈ ms, Text.hasControl m.1 = false ∧ m.2.Printable := by
  constructor
  · exact fun h m hm => ⟨h m.1 (.key hm), fun t ht => h t (.member hm ht)⟩
  · rintro h t ht
    cases ht with
    | key hm => exact (h _ hm).1
    | member hm ht => exact (h _ hm).2 t ht

/-- A value without strings and keys. -/
theorem printable_atom {v : Value} (hs : ∀ s, v ≠ .string s) (ha : ∀ items, v ≠ .array items)
    (ho : ∀ ms, v ≠ .object ms) : v.Printable := by
  intro t ht
  cases ht with
  | string => exact absurd rfl (hs t)
  | item => exact absurd rfl (ha _)
  | key => exact absurd rfl (ho _)
  | member => exact absurd rfl (ho _)

@[simp] theorem printable_null : Value.null.Printable :=
  printable_atom (by simp) (by simp) (by simp)

@[simp] theorem printable_bool (b : Bool) : (Value.bool b).Printable :=
  printable_atom (by simp) (by simp) (by simp)

/-- What counts as a truth value is a boolean or a number. -/
theorem printable_of_counts {b : Bool} {v : Value} (h : Counts b v) : v.Printable := by
  cases h <;> exact printable_atom (by simp) (by simp) (by simp)

end Json.Value

namespace Config

open Json (Members Value)

/-- An object without a key twice, by what its keys lead to. -/
theorem printable_object_of_get? {ms : Members} (hk : (ms.map (·.1)).Nodup)
    (h : ∀ key v, ms.get? key = some v → Text.hasControl key = false ∧ v.Printable) :
    (Value.object ms).Printable :=
  Value.printable_object.mpr fun m hm => h m.1 m.2 ((Members.get?_eq_some_iff hk).mpr hm)

theorem OneOrMany.printable_json {x : OneOrMany} (h : x.Printable) : x.json.Printable := by
  cases x with
  | one s => simpa [json, Printable, toList] using h
  | many ss => simpa [json, Printable, toList] using h

namespace OptionsBlock

theorem hasControl_of_known : ∀ key, Known key → Text.hasControl key = false := by
  have h : ∀ key ∈ optionKeys ++ aliases.map (·.name), Text.hasControl key = false := by decide
  exact fun key hk => h key (List.mem_append.mpr hk)

/-- A block that is read has booleans, null and numbers in it, under keys that are known. -/
theorem printable_of_valid {ms : Members} (hk : (ms.map (·.1)).Nodup) (h : Valid ms) :
    (Value.object ms).Printable := by
  have ha := valid_iff_accepted.mp h
  have hbool {v : Value} {P : Bool → Prop} : (∃ b, v = .bool b ∧ P b) → v.Printable := by
    rintro ⟨b, rfl, -⟩
    exact Value.printable_bool b
  have hallowed {v : Value} : Allowed v → v.Printable := by
    rintro (rfl | ⟨b, rfl⟩)
    · exact Value.printable_null
    · exact Value.printable_bool b
  refine printable_object_of_get? hk fun key v hv => ?_
  refine ⟨hasControl_of_known key ((Members.forall_mem_iff (P := Known)).mp h.known key v hv), ?_⟩
  have hkey := ha.keys _ (Members.mem_of_get? hv)
  simp only [List.mem_cons, List.not_mem_nil, or_false] at hkey
  rcases hkey with rfl | rfl | rfl | rfl | rfl
  · exact hallowed (ha.generic v hv)
  · -- next to an alias an option is whatever counts as what the alias makes of it
    cases ho : ms.get? "orphan" with
    | none => exact hallowed (ha.fullpath ho v hv)
    | some w =>
        obtain ⟨b, -, hb⟩ := ha.orphan w ho
        exact Value.printable_of_counts (hb v hv)
  · cases ho : ms.get? "mark_as_read" with
    | none => exact hallowed (ha.silent ho v hv)
    | some w =>
        obtain ⟨b, -, hb⟩ := ha.markAsRead w ho
        exact Value.printable_of_counts (hb v hv)
  · exact hbool (ha.orphan v hv)
  · exact hbool (ha.markAsRead v hv)

end OptionsBlock

namespace Node

theorem printable_of_isTexts {v : Value} (h : OneOrMany.IsTexts v) : v.Printable := by
  obtain ⟨x, hx, rfl⟩ := h
  exact OneOrMany.printable_json hx

theorem printable_of_isLabels {v : Value} (h : IsLabels v) : v.Printable := by
  obtain ⟨labels, hl, rfl⟩ := h
  refine Value.printable_object.mpr fun m hm => ?_
  obtain ⟨l, hmem, rfl⟩ := List.mem_map.mp hm
  obtain ⟨hn, hx⟩ := hl labels rfl l hmem
  exact ⟨hn, OneOrMany.printable_json hx⟩

theorem hasControl_of_mem_filterKeys : ∀ key ∈ filterKeys, Text.hasControl key = false := by
  decide

theorem printable_of_isFilter {ms : Members} (hd : (Value.object ms).DistinctKeys)
    (h : IsFilter ms) : (Value.object ms).Printable := by
  obtain ⟨hk, hd⟩ := Json.distinctKeys_object.mp hd
  refine printable_object_of_get? hk fun key v hv => ?_
  have hkey := (Members.forall_mem_iff (P := (· ∈ filterKeys))).mp h.known key v hv
  refine ⟨hasControl_of_mem_filterKeys key hkey, ?_⟩
  simp only [filterKeys, List.mem_cons, List.not_mem_nil, or_false] at hkey
  rcases hkey with rfl | rfl | rfl
  · obtain ⟨w, hw, ht⟩ := h.localparts
    obtain rfl := Option.some.inj (hv.symm.trans hw)
    exact printable_of_isTexts ht
  · rcases h.labels v hv with rfl | hl
    · exact Value.printable_null
    · exact printable_of_isLabels hl
  · rcases h.options v hv with rfl | ⟨block, rfl, hb⟩
    · exact Value.printable_null
    · have hblock := hd _ (Members.mem_of_get? hv)
      exact OptionsBlock.printable_of_valid (Json.distinctKeys_object.mp hblock).1 hb

/-- **A node of a folder tree** has no control character in it. -/
theorem printable_of_isNode {v : Value} (hd : v.DistinctKeys) (h : IsNode v) : v.Printable := by
  induction h with
  | yes => exact Value.printable_bool true
  | texts h => exact printable_of_isTexts h
  | filter h => exact printable_of_isFilter hd h
  | folders _ hn _ ih =>
      obtain ⟨-, hd⟩ := Json.distinctKeys_object.mp hd
      exact Value.printable_object.mpr fun m hm => ⟨hn m hm, ih m hm (hd m hm)⟩

end Node

namespace DomainOptions

/-- **An options block of a domain** has no control character in it, also not in a secret. -/
theorem printable_of_read {block : Members} (hk : (block.map (·.1)).Nodup) {o : DomainOptions}
    (h : read (.object block) = .ok o) : (Value.object block).Printable := by
  obtain ⟨_, _, ho, hn, -⟩ := Checked.both_eq_ok_iff.mp h
  obtain ⟨first, secrets, hf, hs, -⟩ := Checked.both_eq_ok_iff.mp ho
  refine printable_object_of_get? hk fun key v hv => ?_
  have hkey := OptionsBlock.noOthers_eq_ok_iff.mp hn _ (Members.mem_of_get? hv)
  simp only [List.mem_cons, List.not_mem_nil, or_false] at hkey
  rcases hkey with rfl | rfl
  · refine ⟨?_, ?_⟩
    · rcases firstFolderKey_eq block with he | he <;> rw [he] <;> decide
    · simp only [readFirstFolder, hv] at hf
      split at hf
      · simp_all
      · rename_i hb
        cases hb
        exact Value.printable_bool _
      · cases hf
  · refine ⟨by decide, ?_⟩
    simp only [readSecrets, hv] at hs
    split at hs
    · simp_all
    · rename_i hb
      cases hb
      exact Value.printable_null
    · rename_i w hb
      cases hb
      obtain ⟨x, hx, -⟩ := map_eq_ok_iff.mp hs
      obtain ⟨hp, rfl⟩ := OneOrMany.read_eq_ok_iff.mp (Checked.under_eq_ok_iff.mp hx)
      exact OneOrMany.printable_json hp

end DomainOptions

namespace Domain

theorem distinctKeys_without {ms : Members} (h : (Value.object ms).DistinctKeys) (key : String) :
    (Value.object (ms.without key)).DistinctKeys := by
  obtain ⟨hk, hd⟩ := Json.distinctKeys_object.mp h
  have hsub : (ms.without key).Sublist ms := List.filter_sublist
  exact .object (hk.sublist (hsub.map _)) fun m hm => hd m (hsub.subset hm)

/-- The options of a domain are in one member, and its tree is in the others. -/
theorem printable_of_decodeMembers {name : String} {ms : Members} {d : Domain}
    (hd : (Value.object ms).DistinctKeys) (h : decodeMembers name ms = .ok d) :
    (Value.object ms).Printable := by
  obtain ⟨options, ho, h⟩ := bind_eq_ok_iff.mp h
  obtain ⟨_, -, h⟩ := bind_eq_ok_iff.mp h
  obtain ⟨tree, ht, -⟩ := map_eq_ok_iff.mp h
  have hnode : Node.IsNode (.object (ms.without optionsKey)) :=
    ((Node.decode_eq_ok_iff _ _).mp ht).1
  have hrest := Node.printable_of_isNode (distinctKeys_without hd optionsKey) hnode
  obtain ⟨hk, hd⟩ := Json.distinctKeys_object.mp hd
  refine printable_object_of_get? hk fun key v hv => ?_
  by_cases hkey : key = optionsKey
  · subst hkey
    refine ⟨by decide, ?_⟩
    rw [decodeOptions, hv, Option.getD_some] at ho
    split at ho
    · have hblock := Json.distinctKeys_object.mp (hd _ (Members.mem_of_get? hv))
      exact DomainOptions.printable_of_read hblock.1 (mapError_eq_ok_iff.mp ho)
    · cases ho
  · have hother : (ms.without optionsKey).get? key = some v := by
      rw [Members.get?_without, if_neg hkey, hv]
    exact Value.printable_object.mp hrest _ (Members.mem_of_get? hother)

/-- **A domain** has no control character in its name and none in its value. -/
theorem printable_of_decode {name : String} {v : Value} {d : Domain} (hv : v.DistinctKeys)
    (h : decode name v = .ok d) : Text.hasControl name = false ∧ v.Printable := by
  unfold decode at h
  split at h
  · cases h
  split at h
  · cases h
  rename_i hc
  refine ⟨by simpa using hc, ?_⟩
  split at h
  · exact printable_of_decodeMembers hv (mapError_eq_ok_iff.mp h)
  · cases h

theorem printable_of_decodeAll {v : Value} {domains : List Domain} (hv : v.DistinctKeys)
    (h : decodeAll v = .ok domains) : v.Printable := by
  cases v with
  | object ms =>
      obtain ⟨-, hd⟩ := Json.distinctKeys_object.mp hv
      have hall : List.Forall₂ (fun m d => decode m.1 m.2 = .ok d) ms domains :=
        mapM_eq_ok_iff.mp h
      refine Value.printable_object.mpr ?_
      clear h hv
      induction hall with
      | nil => simp
      | cons hdec _ ih =>
          obtain ⟨hm, hd⟩ := List.forall_mem_cons.mp hd
          exact List.forall_mem_cons.mpr ⟨printable_of_decode hm hdec, ih hd⟩
  | _ => cases h

/-- **A configuration with a control character** in a string or a key is not decoded. -/
theorem decodeAll_eq_error_of_control {v : Value} (hv : v.DistinctKeys) {t : String}
    (ht : v.Holds t) (hc : Text.hasControl t = true) : ∃ e, decodeAll v = .error e := by
  cases h : decodeAll v with
  | error e => exact ⟨e, rfl⟩
  | ok domains =>
      have hfree := printable_of_decodeAll hv h t ht
      rw [hc] at hfree
      cases hfree

end Domain

end Config

end FolderSieve
