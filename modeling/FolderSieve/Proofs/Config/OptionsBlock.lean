import FolderSieve.Config.OptionsBlock
import FolderSieve.Proofs.Config.Reading
import FolderSieve.Proofs.Json.Members

/-!
# Configuration — which options blocks are read

A block may have the keys of the options and of their aliases.  An alias is a boolean, and the value
of its option, if that is there too, counts as what the alias makes of it; an option without an
alias is a boolean or null.

* `OptionsBlock.foldlM_eq_ok_iff`, `OptionsBlock.get?_unfoldedAll`: aliases written as their options.
* `OptionsBlock.read_eq_ok_iff`: which blocks are read, and what they say of each option.
-/

namespace FolderSieve.Config.OptionsBlock

open Json (Members Value)

/-- The boolean at a key. -/
def boolAt (ms : Members) (key : String) : Option Bool :=
  match ms.get? key with
  | some (.bool b) => some b
  | _ => none

/-! ### One alias -/

namespace Alias

/-- What an alias makes of its option, if the block has the alias. -/
def setting (a : Alias) (ms : Members) : Option Bool :=
  (boolAt ms a.name).map (· != a.inverted)

/-- An alias that is there is a boolean, and the value of its option counts as what the alias makes
of it if it is there too. -/
def Sound (a : Alias) (ms : Members) : Prop :=
  ∀ v, ms.get? a.name = some v → ∃ b, v = .bool b ∧
    ∀ w, ms.get? a.option = some w → w.isTruth (b != a.inverted) = true

/-- The block with the alias written as its option. -/
def unfolded (a : Alias) (ms : Members) : Members :=
  match a.setting ms with
  | none => ms
  | some b => (ms.without a.name).put a.option (.bool b)

/-- A sound alias is missing, or is a boolean that its option agrees with. -/
theorem sound_iff {a : Alias} {ms : Members} :
    a.Sound ms ↔ ms.get? a.name = none ∨ ∃ b, ms.get? a.name = some (.bool b) ∧
      ∀ w, ms.get? a.option = some w → w.isTruth (b != a.inverted) = true := by
  unfold Sound
  cases ms.get? a.name <;> simp

theorem setting_eq_none_iff {a : Alias} {ms : Members} (h : a.Sound ms) :
    a.setting ms = none ↔ ms.get? a.name = none := by
  unfold setting boolAt
  rcases sound_iff.mp h with hn | ⟨b, hn, -⟩ <;> simp [hn]

end Alias

/-- **An alias is taken** exactly if it is sound. -/
theorem fold_eq_ok_iff {a : Alias} {ms ms' : Members} :
    fold a ms = .ok ms' ↔ a.Sound ms ∧ a.unfolded ms = ms' := by
  rw [Alias.sound_iff]
  unfold fold Alias.unfolded Alias.setting boolAt
  cases hn : ms.get? a.name with
  | none => simp
  | some v =>
      cases v with
      | bool b =>
          cases ho : ms.get? a.option with
          | none => simp
          | some w =>
              by_cases hw : w.isTruth (b != a.inverted) = true
              · simp only [hw, if_true]
                simp [hw]
              · simp only [hw]
                simp [hw]
      | _ => simp

theorem get?_unfolded {a : Alias} {ms : Members} (h : a.Sound ms) (key : String) :
    (a.unfolded ms).get? key =
      if key = a.option then ((a.setting ms).map .bool).or (ms.get? key)
      else if key = a.name then none
      else ms.get? key := by
  unfold Alias.unfolded Alias.setting boolAt
  rcases Alias.sound_iff.mp h with hn | ⟨b, hn, -⟩
  · by_cases hk : key = a.name
    · simp [hk, hn]
    · simp [hk, hn]
  · simp only [hn, Option.map_some, Members.get?_put, Members.get?_without]
    by_cases ho : key = a.option <;> simp [ho]

/-! ### Several aliases -/

/-- The keys of two aliases and of their options have nothing to do with each other. -/
structure Apart (a b : Alias) : Prop where
  names : a.name ≠ b.name
  options : a.option ≠ b.option
  left : a.name ≠ b.option
  right : a.option ≠ b.name

/-- The block with each alias written as its option. -/
def unfoldedAll (as : List Alias) (ms : Members) : Members :=
  as.foldl (fun ms a => a.unfolded ms) ms

/-- What the aliases make of an option, if one of them is there. -/
def settingOf (as : List Alias) (ms : Members) (option : String) : Option Bool :=
  as.findSome? fun a => if a.option = option then a.setting ms else none

theorem settingOf_cons (a : Alias) (as : List Alias) (ms : Members) (option : String) :
    settingOf (a :: as) ms option =
      (if a.option = option then a.setting ms else none).or (settingOf as ms option) := by
  rw [settingOf, List.findSome?_cons]
  split <;> simp_all [settingOf]

section Apart

variable {a : Alias} {as : List Alias} {ms : Members}

theorem get?_unfolded_of_apart {b : Alias} (h : a.Sound ms) (hab : Apart a b) :
    (a.unfolded ms).get? b.name = ms.get? b.name ∧
      (a.unfolded ms).get? b.option = ms.get? b.option := by
  rw [get?_unfolded h, get?_unfolded h, if_neg hab.right.symm, if_neg hab.names.symm,
    if_neg hab.options.symm, if_neg hab.left.symm]
  exact ⟨rfl, rfl⟩

/-- To write an alias as its option leaves another one as it is. -/
theorem sound_unfolded_iff {b : Alias} (h : a.Sound ms) (hab : Apart a b) :
    b.Sound (a.unfolded ms) ↔ b.Sound ms := by
  obtain ⟨hn, ho⟩ := get?_unfolded_of_apart h hab
  rw [Alias.Sound, Alias.Sound, hn, ho]

theorem settingOf_unfolded (h : a.Sound ms) (ha : ∀ b ∈ as, Apart a b) (option : String) :
    settingOf as (a.unfolded ms) option = settingOf as ms option := by
  induction as with
  | nil => rfl
  | cons b as ih =>
      obtain ⟨hb, has⟩ := List.forall_mem_cons.mp ha
      have hset : b.setting (a.unfolded ms) = b.setting ms := by
        rw [Alias.setting, boolAt, (get?_unfolded_of_apart h hb).1, Alias.setting, boolAt]
      rw [settingOf_cons, settingOf_cons, ih has, hset]

theorem settingOf_eq_none {option : String} (h : ∀ a ∈ as, a.option ≠ option) :
    settingOf as ms option = none :=
  List.findSome?_eq_none_iff.mpr fun a ha => if_neg (h a ha)

/-- **Aliases are taken** one after the other exactly if each of them is sound. -/
theorem foldlM_eq_ok_iff {ms' : Members} (hp : as.Pairwise Apart) :
    as.foldlM (fun ms a => fold a ms) ms = .ok ms' ↔
      (∀ a ∈ as, a.Sound ms) ∧ unfoldedAll as ms = ms' := by
  induction as generalizing ms with
  | nil => simp [unfoldedAll, pure, Except.pure]
  | cons a as ih =>
      obtain ⟨ha, hp⟩ := List.pairwise_cons.mp hp
      rw [List.foldlM_cons, List.forall_mem_cons]
      constructor
      · intro h
        obtain ⟨ms₁, h₁, h⟩ := bind_eq_ok_iff.mp h
        obtain ⟨hs, rfl⟩ := fold_eq_ok_iff.mp h₁
        obtain ⟨has, hu⟩ := (ih hp).mp h
        exact ⟨⟨hs, fun b hb => (sound_unfolded_iff hs (ha b hb)).mp (has b hb)⟩, hu⟩
      · rintro ⟨⟨hs, has⟩, hu⟩
        exact bind_eq_ok_iff.mpr ⟨_, fold_eq_ok_iff.mpr ⟨hs, rfl⟩,
          (ih hp).mpr ⟨fun b hb => (sound_unfolded_iff hs (ha b hb)).mpr (has b hb), hu⟩⟩

/-- What a key leads to once sound aliases are written as their options. -/
theorem get?_unfoldedAll (hp : as.Pairwise Apart) (hs : ∀ a ∈ as, a.Sound ms) {key : String} :
    (unfoldedAll as ms).get? key =
      ((settingOf as ms key).map .bool).or
        (if key ∈ as.map (·.name) then none else ms.get? key) := by
  induction as generalizing ms with
  | nil => simp [unfoldedAll, settingOf]
  | cons a as ih =>
      obtain ⟨ha, hp⟩ := List.pairwise_cons.mp hp
      obtain ⟨hs, has⟩ := List.forall_mem_cons.mp hs
      have hrest := ih hp fun b hb => (sound_unfolded_iff hs (ha b hb)).mpr (has b hb)
      have hcons : unfoldedAll (a :: as) ms = unfoldedAll as (a.unfolded ms) := rfl
      rw [hcons, hrest, settingOf_unfolded hs ha, settingOf_cons, get?_unfolded hs, List.map_cons]
      by_cases ho : key = a.option
      · -- no other alias makes anything of this option, or has its name
        have hno : settingOf as ms key = none :=
          settingOf_eq_none fun b hb => ho ▸ (ha b hb).options.symm
        have hname : key ∉ as.map (·.name) := by
          rintro hm
          obtain ⟨b, hb, hk⟩ := List.mem_map.mp hm
          exact (ha b hb).right (ho ▸ hk.symm)
        rw [hno, if_neg hname, if_pos ho, if_pos ho.symm]
        cases hset : a.setting ms with
        | some b => simp
        | none =>
            have hn := (Alias.setting_eq_none_iff hs).mp hset
            by_cases hk : key = a.name
            · simp [hk, hn]
            · simp [hk, hname]
      · by_cases hk : key = a.name
        · subst hk
          simp [ho, Ne.symm ho]
        · simp [ho, Ne.symm ho, hk]

end Apart

/-! ### Whole blocks -/

/-- What a block says of an option, by an alias or under its own name. -/
def stated (ms : Members) (option : String) : Option Bool :=
  (settingOf aliases ms option).or (boolAt ms option)

/-- What a block says of all options. -/
def override (ms : Members) : Override :=
  ⟨stated ms "generic", stated ms "fullpath", stated ms "silent"⟩

/-- A value that an option may have under its own name. -/
def Allowed (v : Value) : Prop :=
  v = .null ∨ ∃ b, v = .bool b

/-- A key that a block may have: that of an option, or that of an alias. -/
def Known (key : String) : Prop :=
  key ∈ optionKeys ∨ key ∈ aliases.map (·.name)

/-- A block that can be read. -/
structure Valid (ms : Members) : Prop where
  known : ∀ m ∈ ms, Known m.1
  aliases : ∀ a ∈ aliases, a.Sound ms
  /-- Next to an alias an option need only agree with it. -/
  options : ∀ key ∈ optionKeys, (∀ a ∈ OptionsBlock.aliases, a.option = key → ms.get? a.name = none) →
    ∀ v, ms.get? key = some v → Allowed v

theorem readOption_eq_ok_iff {ms : Members} {key : String} {x : Option Bool} :
    readOption ms key = .ok x ↔ (∀ v, ms.get? key = some v → Allowed v) ∧ boolAt ms key = x := by
  unfold readOption boolAt Allowed
  cases ms.get? key with
  | none => simp
  | some v => cases v <;> simp

theorem noOthers_eq_ok_iff {known : List String} {ms : Members} :
    noOthers known ms = .ok () ↔ ∀ m ∈ ms, m.1 ∈ known := by
  unfold noOthers
  cases h : ms.find? fun m => !known.contains m.1 with
  | none => simpa using List.find?_eq_none.mp h
  | some m =>
      have hm := List.mem_of_find?_eq_some h
      have hk : m.1 ∉ known := by simpa using List.find?_some h
      simpa using ⟨m.1, ⟨m.2, hm⟩, hk⟩

theorem readOptions_eq_ok_iff {ms : Members} {o : Override} :
    readOptions ms = .ok o ↔
      (∀ key v, ms.get? key = some v → key ∈ optionKeys ∧ Allowed v) ∧
        ⟨boolAt ms "generic", boolAt ms "fullpath", boolAt ms "silent"⟩ = o := by
  constructor
  · intro h
    obtain ⟨o', _, ht, hn, rfl⟩ := Checked.both_eq_ok_iff.mp h
    obtain ⟨g, _, hg, hfs, rfl⟩ := Checked.both_eq_ok_iff.mp ht
    obtain ⟨f, s, hf, hs, rfl⟩ := Checked.both_eq_ok_iff.mp hfs
    obtain ⟨hga, rfl⟩ := readOption_eq_ok_iff.mp hg
    obtain ⟨hfa, rfl⟩ := readOption_eq_ok_iff.mp hf
    obtain ⟨hsa, rfl⟩ := readOption_eq_ok_iff.mp hs
    refine ⟨fun key v hv => ?_, rfl⟩
    have hk : key ∈ optionKeys := noOthers_eq_ok_iff.mp hn _ (Members.mem_of_get? hv)
    refine ⟨hk, ?_⟩
    rcases List.mem_cons.mp hk with rfl | hk
    · exact hga v hv
    rcases List.mem_cons.mp hk with rfl | hk
    · exact hfa v hv
    · exact hsa v (List.mem_singleton.mp hk ▸ hv)
  · rintro ⟨h, rfl⟩
    have hread (key : String) : readOption ms key = .ok (boolAt ms key) :=
      readOption_eq_ok_iff.mpr ⟨fun v hv => (h key v hv).2, rfl⟩
    have hn : noOthers optionKeys ms = .ok () :=
      noOthers_eq_ok_iff.mpr (Members.forall_mem_iff.mpr fun key v hv => (h key v hv).1)
    simp [readOptions, hread, hn, Checked.both]

theorem pairwise_aliases : aliases.Pairwise Apart := by
  refine List.pairwise_pair.mpr ⟨?_, ?_, ?_, ?_⟩ <;> decide

/-- No option has the name of an alias. -/
theorem not_mem_names_of_mem_optionKeys : ∀ key ∈ optionKeys, key ∉ aliases.map (·.name) := by
  decide

theorem option_mem_optionKeys : ∀ a ∈ aliases, a.option ∈ optionKeys := by
  decide

section Aliases

variable {ms : Members} (hs : ∀ a ∈ aliases, a.Sound ms)

include hs

/-- The aliases make nothing of an option exactly if none of its aliases is there. -/
theorem settingOf_aliases_eq_none_iff {key : String} :
    settingOf aliases ms key = none ↔
      ∀ a ∈ aliases, a.option = key → ms.get? a.name = none := by
  rw [settingOf, List.findSome?_eq_none_iff]
  refine forall₂_congr fun a ha => ?_
  rw [← Alias.setting_eq_none_iff (hs a ha)]
  by_cases ho : a.option = key <;> simp [ho]

theorem boolAt_unfoldedAll {key : String} (hk : key ∈ optionKeys) :
    boolAt (unfoldedAll aliases ms) key = stated ms key := by
  rw [boolAt, get?_unfoldedAll pairwise_aliases hs,
    if_neg (not_mem_names_of_mem_optionKeys key hk), stated]
  cases settingOf aliases ms key with
  | none => rfl
  | some b => rfl

/-- Once the aliases are written as their options, the block has allowed options and nothing else
exactly if it is valid. -/
theorem forall_allowed_iff_valid :
    (∀ key v, (unfoldedAll aliases ms).get? key = some v → key ∈ optionKeys ∧ Allowed v) ↔
      Valid ms := by
  have hget (key : String) : (unfoldedAll aliases ms).get? key =
      ((settingOf aliases ms key).map .bool).or
        (if key ∈ aliases.map (·.name) then none else ms.get? key) :=
    get?_unfoldedAll pairwise_aliases hs
  constructor
  · intro h
    refine ⟨(Members.forall_mem_iff (P := Known)).mpr fun key v hv => ?_, hs, fun key hk hnone v hv => ?_⟩
    · by_cases hname : key ∈ aliases.map (·.name)
      · exact .inr hname
      · have hget := hget key
        rw [if_neg hname, hv] at hget
        obtain ⟨w, hw⟩ : ∃ w, (unfoldedAll aliases ms).get? key = some w := by
          rw [hget]
          cases settingOf aliases ms key <;> simp
        exact .inl (h key w hw).1
    · refine (h key v ?_).2
      rw [hget, (settingOf_aliases_eq_none_iff hs).mpr hnone,
        if_neg (not_mem_names_of_mem_optionKeys key hk), hv]
      rfl
  · intro hv key v hkv
    rw [hget] at hkv
    cases hset : settingOf aliases ms key with
    | some b =>
        -- what an alias makes of an option is a boolean, whatever stood there
        obtain rfl : .bool b = v := by simpa [hset] using hkv
        refine ⟨?_, .inr ⟨b, rfl⟩⟩
        by_contra hk
        have hnone : settingOf aliases ms key = none :=
          settingOf_eq_none fun a ha ho => hk (ho ▸ option_mem_optionKeys a ha)
        rw [hnone] at hset
        cases hset
    | none =>
        rw [hset, Option.map_none, Option.none_or] at hkv
        split at hkv
        · cases hkv
        rename_i hname
        have hk := ((Members.forall_mem_iff (P := Known)).mp hv.known key v hkv).resolve_right hname
        exact ⟨hk, hv.options key hk ((settingOf_aliases_eq_none_iff hs).mp hset) v hkv⟩

end Aliases

/-- **A block is read** exactly if it is a valid object, as what it says of each option. -/
theorem read_eq_ok_iff {v : Value} {o : Override} :
    read v = .ok o ↔ ∃ ms, v = .object ms ∧ Valid ms ∧ override ms = o := by
  have hblock (ms : Members) : read (.object ms) = .ok o ↔ Valid ms ∧ override ms = o := by
    rw [read, bind_eq_ok_iff]
    constructor
    · rintro ⟨ms', hf, ho⟩
      obtain ⟨hs, rfl⟩ := (foldlM_eq_ok_iff pairwise_aliases).mp hf
      obtain ⟨ha, rfl⟩ := readOptions_eq_ok_iff.mp ho
      refine ⟨(forall_allowed_iff_valid hs).mp ha, ?_⟩
      rw [boolAt_unfoldedAll hs (by decide), boolAt_unfoldedAll hs (by decide),
        boolAt_unfoldedAll hs (by decide), override]
    · rintro ⟨hv, rfl⟩
      have hs := hv.aliases
      refine ⟨_, (foldlM_eq_ok_iff pairwise_aliases).mpr ⟨hs, rfl⟩,
        readOptions_eq_ok_iff.mpr ⟨(forall_allowed_iff_valid hs).mpr hv, ?_⟩⟩
      rw [boolAt_unfoldedAll hs (by decide), boolAt_unfoldedAll hs (by decide),
        boolAt_unfoldedAll hs (by decide), override]
  cases v with
  | object ms => simpa using hblock ms
  | _ => simp [read]

end FolderSieve.Config.OptionsBlock
