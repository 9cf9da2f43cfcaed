import FolderSieve.Proofs.Config.OptionsBlock

/-!
# Configuration — the grammar of nodes

Which values are nodes of a folder tree (`Node.IsNode`), and which node a value shows
(`Node.Mirrors`): the one relation asks for the right form throughout, the other says what is kept.

* `Node.readFull_eq_ok_iff`: a full filter, by its parts.
* `Node.mirrors_object_iff_of_has`, `Node.mirrors_object_iff_of_not_has`: what an object shows is a
  matter of one key.
* `Node.decode_eq_ok_iff`: a value is decoded exactly if it is a node, as the node it shows.
-/

namespace FolderSieve.Config

open Json (Members Value)

/-! ### The parts of a filter -/

/-- A string or an array of strings, none with a control character. -/
def OneOrMany.IsTexts (v : Value) : Prop :=
  ∃ x : OneOrMany, x.Printable ∧ v = x.json

namespace Node

/-- A key that is missing or leads to null stands for nothing, and any other for what its value
stands for. -/
inductive Optionally {α : Type} (R : Value → α → Prop) : Option Value → Option α → Prop
  | missing : Optionally R none none
  | null : Optionally R (some .null) none
  | given {v : Value} {a : α} (h : R v a) : Optionally R (some v) (some a)

/-- An object whose keys have no control character and whose values are texts. -/
def IsLabels (v : Value) : Prop :=
  ∃ labels, PrintableLabels (some labels) ∧ v = .object (labelMembers labels)

/-- A valid options block. -/
def IsOptions (v : Value) : Prop :=
  ∃ ms, v = .object ms ∧ OptionsBlock.Valid ms

theorem readLabels?_eq_ok_iff {v : Option Value} {labels : Option Labels} :
    readLabels? v = .ok labels ↔ (∀ w, v = some w → w = .null ∨ IsLabels w) ∧
      Optionally (fun w ls => w = .object (labelMembers ls)) v labels := by
  constructor
  · intro h
    unfold readLabels? at h
    split at h
    · cases h
      exact ⟨by simp, .missing⟩
    · cases h
      exact ⟨by simp, .null⟩
    · obtain ⟨ls, hl, rfl⟩ := map_eq_ok_iff.mp h
      obtain ⟨rfl, hp⟩ := readLabels_eq_ok_iff.mp hl
      have hlabels : IsLabels (.object (labelMembers ls)) := ⟨ls, by rintro _ ⟨⟩; exact hp, rfl⟩
      exact ⟨by rintro _ ⟨⟩; exact .inr hlabels, .given rfl⟩
    · cases h
  · rintro ⟨hv, ho⟩
    cases ho with
    | missing => rfl
    | null => rfl
    | given h =>
        subst h
        obtain ⟨ls, hp, he⟩ := (hv _ rfl).resolve_left (by simp)
        obtain rfl := labelMembers_injective (Value.object.inj he)
        exact map_eq_ok_iff.mpr ⟨_, readLabels_eq_ok_iff.mpr ⟨rfl, hp _ rfl⟩, rfl⟩

theorem readOptions?_eq_ok_iff {v : Option Value} {written : Option Override} :
    readOptions? v = .ok written ↔ (∀ w, v = some w → w = .null ∨ IsOptions w) ∧
      Optionally (fun w o => ∃ ms, w = .object ms ∧ OptionsBlock.override ms = o) v written := by
  constructor
  · intro h
    unfold readOptions? at h
    split at h
    · cases h
      exact ⟨by simp, .missing⟩
    · cases h
      exact ⟨by simp, .null⟩
    · obtain ⟨o, ho, rfl⟩ := map_eq_ok_iff.mp h
      obtain ⟨ms, rfl, hv, rfl⟩ := OptionsBlock.read_eq_ok_iff.mp ho
      exact ⟨by rintro _ ⟨⟩; exact .inr ⟨ms, rfl, hv⟩, .given ⟨ms, rfl, rfl⟩⟩
  · rintro ⟨hv, ho⟩
    cases ho with
    | missing => rfl
    | null => rfl
    | given h =>
        obtain ⟨ms, rfl, rfl⟩ := h
        obtain ⟨_, ⟨⟩, hms⟩ := (hv _ rfl).resolve_left (by simp)
        exact map_eq_ok_iff.mpr ⟨_, OptionsBlock.read_eq_ok_iff.mpr ⟨ms, rfl, hms, rfl⟩, rfl⟩

/-- The keys of a filter. -/
def filterKeys : List String :=
  ["localparts", "labels", "options"]

/-- An object that is a filter: texts for localparts, and labels and options if it likes. -/
structure IsFilter (ms : Members) : Prop where
  known : ∀ m ∈ ms, m.1 ∈ filterKeys
  localparts : ∃ v, ms.get? "localparts" = some v ∧ OneOrMany.IsTexts v
  labels : ∀ v, ms.get? "labels" = some v → v = .null ∨ IsLabels v
  options : ∀ v, ms.get? "options" = some v → v = .null ∨ IsOptions v

/-- What is kept of a filter. -/
structure MirrorsFilter (ms : Members) (localparts : OneOrMany) (labels : Option Labels)
    (written : Option Override) : Prop where
  localparts : ms.get? "localparts" = some localparts.json
  labels : Optionally (fun v ls => v = .object (labelMembers ls)) (ms.get? "labels") labels
  options : Optionally (fun v o => ∃ block, v = .object block ∧ OptionsBlock.override block = o)
    (ms.get? "options") written

theorem readFull_eq_ok_iff {ms : Members} {node : Node} :
    readFull ms = .ok node ↔ IsFilter ms ∧ ∃ localparts labels written,
      MirrorsFilter ms localparts labels written ∧ node = .full localparts labels written := by
  have hparts : readFull ms = .ok node ↔ ∃ localparts labels written,
      OneOrMany.read ((ms.get? "localparts").getD .null) = .ok localparts ∧
        readLabels? (ms.get? "labels") = .ok labels ∧
        readOptions? (ms.get? "options") = .ok written ∧
        OptionsBlock.noOthers filterKeys ms = .ok () ∧ node = .full localparts labels written := by
    constructor
    · intro h
      obtain ⟨_, _, hn, hk, rfl⟩ := Checked.both_eq_ok_iff.mp h
      obtain ⟨localparts, _, hp, hb, rfl⟩ := Checked.both_eq_ok_iff.mp hn
      obtain ⟨labels, written, hl, ho, rfl⟩ := Checked.both_eq_ok_iff.mp hb
      exact ⟨localparts, labels, written, Checked.under_eq_ok_iff.mp hp,
        Checked.under_eq_ok_iff.mp hl, Checked.under_eq_ok_iff.mp ho, hk, rfl⟩
    · rintro ⟨localparts, labels, written, hp, hl, ho, hk, rfl⟩
      exact Checked.both_eq_ok_iff.mpr ⟨_, _, Checked.both_eq_ok_iff.mpr
        ⟨_, _, Checked.under_eq_ok_iff.mpr hp, Checked.both_eq_ok_iff.mpr
          ⟨_, _, Checked.under_eq_ok_iff.mpr hl, Checked.under_eq_ok_iff.mpr ho, rfl⟩, rfl⟩,
        hk, rfl⟩
  rw [hparts]
  simp only [OneOrMany.read_eq_ok_iff, readLabels?_eq_ok_iff, readOptions?_eq_ok_iff,
    OptionsBlock.noOthers_eq_ok_iff]
  constructor
  · rintro ⟨localparts, labels, written, ⟨hx, hp⟩, ⟨hl, hl'⟩, ⟨ho, ho'⟩, hk, rfl⟩
    have hp : ms.get? "localparts" = some localparts.json := by
      cases hg : ms.get? "localparts" with
      | none => cases localparts <;> simp [hg, OneOrMany.json] at hp
      | some v => simpa [hg] using hp
    exact ⟨⟨hk, ⟨_, hp, _, hx, rfl⟩, hl, ho⟩, localparts, labels, written, ⟨hp, hl', ho'⟩, rfl⟩
  · rintro ⟨⟨hk, ⟨_, hv, x, hx, rfl⟩, hl, ho⟩, localparts, labels, written, ⟨hp, hl', ho'⟩, rfl⟩
    obtain rfl := OneOrMany.json_injective (Option.some.inj (hv.symm.trans hp))
    exact ⟨x, labels, written, ⟨hx, by rw [hv, Option.getD_some]⟩, ⟨hl, hl'⟩, ⟨ho, ho'⟩, hk, rfl⟩

/-! ### Nodes -/

/-- The values that are nodes of a folder tree. -/
inductive IsNode : Value → Prop
  | yes : IsNode (.bool true)
  | texts {v : Value} (h : OneOrMany.IsTexts v) : IsNode v
  | filter {ms : Members} (h : IsFilter ms) : IsNode (.object ms)
  | folders {ms : Members} (hl : ∀ m ∈ ms, m.1 ≠ "localparts")
      (hn : ∀ m ∈ ms, Text.hasControl m.1 = false) (h : ∀ m ∈ ms, IsNode m.2) :
      IsNode (.object ms)

mutual

/-- The node that a value shows: of the same kind, with what is written in the value, in order. -/
inductive Mirrors : Value → Node → Prop
  | yes : Mirrors (.bool true) (.simple (.one ""))
  | texts {v : Value} {localparts : OneOrMany} (h : v = localparts.json) :
      Mirrors v (.simple localparts)
  | filter {ms : Members} {localparts : OneOrMany} {labels : Option Labels}
      {written : Option Override} (h : MirrorsFilter ms localparts labels written) :
      Mirrors (.object ms) (.full localparts labels written)
  | folders {ms : Members} {children : List (String × Node)}
      (hl : ∀ m ∈ ms, m.1 ≠ "localparts") (h : MirrorsEach ms children) :
      Mirrors (.object ms) (.folders children)

/-- Members that show children, one by one. -/
inductive MirrorsEach : List (String × Value) → List (String × Node) → Prop
  | nil : MirrorsEach [] []
  | cons (name : String) {v : Value} {node : Node} {ms : List (String × Value)}
      {children : List (String × Node)} (h : Mirrors v node) (hr : MirrorsEach ms children) :
      MirrorsEach ((name, v) :: ms) ((name, node) :: children)

end

/-! An object has the key `localparts` or it does not, and this alone says what it is read as. -/

section Object

variable {ms : Members} {node : Node}

theorem not_isTexts_object : ¬OneOrMany.IsTexts (.object ms) := by
  rintro ⟨_ | _, -, h⟩ <;> cases h

theorem isNode_object_iff_of_has (hl : ms.has "localparts" = true) :
    IsNode (.object ms) ↔ IsFilter ms := by
  refine ⟨fun h => ?_, .filter⟩
  cases h with
  | texts h => exact absurd h not_isTexts_object
  | filter h => exact h
  | folders hn => exact absurd hl (by simp [Members.has_eq_false_iff.mpr hn])

theorem mirrors_object_iff_of_has (hl : ms.has "localparts" = true) :
    Mirrors (.object ms) node ↔ ∃ localparts labels written,
      MirrorsFilter ms localparts labels written ∧ node = .full localparts labels written := by
  constructor
  · intro h
    cases h with
    | texts h => rename_i x; cases x <;> cases h
    | filter h => exact ⟨_, _, _, h, rfl⟩
    | folders hn => exact absurd hl (by simp [Members.has_eq_false_iff.mpr hn])
  · rintro ⟨localparts, labels, written, h, rfl⟩
    exact .filter h

theorem IsFilter.has_localparts (h : IsFilter ms) : ms.has "localparts" = true := by
  obtain ⟨v, hv, -⟩ := h.localparts
  exact Members.has_iff_exists_get?.mpr ⟨v, hv⟩

theorem MirrorsFilter.has_localparts {localparts : OneOrMany} {labels : Option Labels}
    {written : Option Override} (h : MirrorsFilter ms localparts labels written) :
    ms.has "localparts" = true :=
  Members.has_iff_exists_get?.mpr ⟨_, h.localparts⟩

theorem isNode_object_iff_of_not_has (hl : ms.has "localparts" = false) :
    IsNode (.object ms) ↔
      (∀ m ∈ ms, Text.hasControl m.1 = false) ∧ ∀ m ∈ ms, IsNode m.2 := by
  constructor
  · intro h
    cases h with
    | texts h => exact absurd h not_isTexts_object
    | filter h => exact absurd h.has_localparts (by simp [hl])
    | folders _ hn h => exact ⟨hn, h⟩
  · rintro ⟨hn, h⟩
    exact .folders (Members.has_eq_false_iff.mp hl) hn h

theorem mirrors_object_iff_of_not_has (hl : ms.has "localparts" = false) :
    Mirrors (.object ms) node ↔ ∃ children, MirrorsEach ms children ∧ node = .folders children := by
  constructor
  · intro h
    cases h with
    | texts h => rename_i x; cases x <;> cases h
    | filter h => exact absurd h.has_localparts (by simp [hl])
    | folders _ h => exact ⟨_, h, rfl⟩
  · rintro ⟨children, h, rfl⟩
    exact .folders (Members.has_eq_false_iff.mp hl) h

end Object

/-- Nothing but `true`, texts and objects is a node. -/
theorem isNode_cases {v : Value} (h : IsNode v) :
    v = .bool true ∨ OneOrMany.IsTexts v ∨ ∃ ms, v = .object ms := by
  cases h with
  | yes => exact .inl rfl
  | texts h => exact .inr (.inl h)
  | filter => exact .inr (.inr ⟨_, rfl⟩)
  | folders => exact .inr (.inr ⟨_, rfl⟩)

theorem mirrors_true_iff {node : Node} :
    Mirrors (.bool true) node ↔ node = .simple (.one "") := by
  constructor
  · intro h
    cases h with
    | yes => rfl
    | texts h => rename_i x; cases x <;> cases h
  · rintro rfl
    exact .yes

/-- Texts show a simple filter. -/
theorem mirrors_texts_iff {x : OneOrMany} {node : Node} :
    Mirrors x.json node ↔ node = .simple x := by
  constructor
  · intro h
    generalize hv : x.json = v at h
    cases h with
    | yes => cases x <;> cases hv
    | texts h => rw [OneOrMany.json_injective (hv.trans h)]
    | filter => cases x <;> cases hv
    | folders => cases x <;> cases hv
  · rintro rfl
    exact .texts rfl

/-- A string or an array is decoded as a simple filter. -/
theorem readSimple_eq_ok_iff {v : Value} {node : Node} (hb : v ≠ .bool true)
    (ho : ∀ ms, v ≠ .object ms) :
    readSimple v = .ok node ↔ IsNode v ∧ Mirrors v node := by
  rw [readSimple, map_eq_ok_iff]
  simp only [Checked.under_eq_ok_iff, OneOrMany.read_eq_ok_iff]
  constructor
  · rintro ⟨x, ⟨hx, hv⟩, rfl⟩
    exact ⟨.texts ⟨x, hx, hv⟩, .texts hv⟩
  · rintro ⟨h, hm⟩
    rcases isNode_cases h with rfl | ⟨x, hx, rfl⟩ | ⟨ms, rfl⟩
    · exact absurd rfl hb
    · exact ⟨x, ⟨hx, rfl⟩, (mirrors_texts_iff.mp hm).symm⟩
    · exact absurd rfl (ho ms)

mutual

/-- **A value is decoded** exactly if it is a node, as the node that it shows.  The recursion is that
of the decoder; where the folder lies plays no part. -/
theorem decode_eq_ok_iff : ∀ (v : Value) (path : String) {node : Node},
    decode path v = .ok node ↔ IsNode v ∧ Mirrors v node
  | .null, path, node | .bool false, path, node | .int _, path, node | .real _, path, node => by
      refine ⟨fun h => (by cases h), fun ⟨h, _⟩ => ?_⟩
      rcases isNode_cases h with h | ⟨_ | _, -, h⟩ | ⟨_, h⟩ <;> cases h
  | .bool true, path, node => by
      constructor
      · intro h
        cases h
        exact ⟨.yes, .yes⟩
      · rintro ⟨-, h⟩
        obtain rfl := mirrors_true_iff.mp h
        rfl
  | .string s, path, node => by
      rw [decode, atFolder, mapError_eq_ok_iff]
      exact readSimple_eq_ok_iff (by simp) (by simp)
  | .array items, path, node => by
      rw [decode, atFolder, mapError_eq_ok_iff]
      exact readSimple_eq_ok_iff (by simp) (by simp)
  | .object ms, path, node => by
      by_cases hl : Json.Members.has ms "localparts" = true
      · rw [decode, if_pos hl, atFolder, mapError_eq_ok_iff, readFull_eq_ok_iff,
          isNode_object_iff_of_has hl, mirrors_object_iff_of_has hl]
      · have hl' : Json.Members.has ms "localparts" = false := by simpa using hl
        rw [decode, if_neg hl, bind_eq_ok_iff, isNode_object_iff_of_not_has hl',
          mirrors_object_iff_of_not_has hl']
        simp only [map_eq_ok_iff, decodeChildren_eq_ok_iff]
        constructor
        · rintro ⟨_, hn, children, ⟨hc, hm⟩, rfl⟩
          exact ⟨⟨checkNames_eq_ok_iff.mp hn, hc⟩, children, hm, rfl⟩
        · rintro ⟨⟨hn, hc⟩, children, hm, rfl⟩
          exact ⟨(), checkNames_eq_ok_iff.mpr hn, children, ⟨hc, hm⟩, rfl⟩

theorem decodeChildren_eq_ok_iff : ∀ (ms : List (String × Value)) (path : String)
    {children : List (String × Node)},
    decodeChildren path ms = .ok children ↔ (∀ m ∈ ms, IsNode m.2) ∧ MirrorsEach ms children
  | [], path, children => by
      constructor
      · intro h
        cases h
        exact ⟨by simp, .nil⟩
      · rintro ⟨-, h⟩
        cases h
        rfl
  | (name, v) :: ms, path, children => by
      rw [List.forall_mem_cons]
      constructor
      · intro h
        rw [decodeChildren] at h
        split at h
        · cases h
        rename_i node hd
        obtain ⟨rest, hr, rfl⟩ := map_eq_ok_iff.mp h
        obtain ⟨hv, hm⟩ := (decode_eq_ok_iff v _).mp hd
        obtain ⟨hms, hmr⟩ := (decodeChildren_eq_ok_iff ms _).mp hr
        exact ⟨⟨hv, hms⟩, .cons name hm hmr⟩
      · rintro ⟨⟨hv, hms⟩, hc⟩
        cases hc with
        | cons _ hm hr =>
            rw [decodeChildren, (decode_eq_ok_iff v _).mpr ⟨hv, hm⟩]
            exact map_eq_ok_iff.mpr ⟨_, (decodeChildren_eq_ok_iff ms path).mpr ⟨hms, hr⟩, rfl⟩

end

end Node

end FolderSieve.Config
