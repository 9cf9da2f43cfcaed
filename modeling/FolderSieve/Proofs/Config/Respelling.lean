import FolderSieve.Proofs.Config.OptionsBlock
import FolderSieve.Proofs.Json.Truth

/-!
# Configuration — options blocks, key by key

What is accepted under each of the five keys, and what comes of it.  An alias is its option under
another name, so a block says the same once each alias is put under the key of its option, in whatever
order its keys stand.

* `Accepted`: the blocks that are read, by their keys and values.
* `get?_alias_respelled`: what a key leads to once an alias is put under the key of its option.
* `read_congr`, `read_respelled`: blocks that lead to the same, and a block with its aliases put under
  the keys of their options.
* `read_by_keys`: which values are read, as what, and that neither the spelling nor the order of keys
  matters.
-/

namespace FolderSieve.Config.OptionsBlock

open Json (Counts Members Value)

/-! ### The keys -/

/-- A block that is accepted: no keys but five, an alias is a boolean that the value of its option
counts as, and an option without its alias is a boolean or null. -/
structure Accepted (ms : Members) : Prop where
  keys : ∀ m ∈ ms, m.1 ∈ ["generic", "fullpath", "silent", "orphan", "mark_as_read"]
  orphan : ∀ v, ms.get? "orphan" = some v →
    ∃ b, v = .bool b ∧ ∀ w, ms.get? "fullpath" = some w → Counts (!b) w
  markAsRead : ∀ v, ms.get? "mark_as_read" = some v →
    ∃ b, v = .bool b ∧ ∀ w, ms.get? "silent" = some w → Counts b w
  generic : ∀ v, ms.get? "generic" = some v → Allowed v
  fullpath : ms.get? "orphan" = none → ∀ v, ms.get? "fullpath" = some v → Allowed v
  silent : ms.get? "mark_as_read" = none → ∀ v, ms.get? "silent" = some v → Allowed v

theorem sound_iff_counts {a : Alias} {ms : Members} :
    a.Sound ms ↔ ∀ v, ms.get? a.name = some v →
      ∃ b, v = .bool b ∧ ∀ w, ms.get? a.option = some w → Counts (b != a.inverted) w := by
  simp only [Alias.Sound, Value.isTruth_iff]

/-- **The blocks that are read** are the accepted ones. -/
theorem valid_iff_accepted {ms : Members} : Valid ms ↔ Accepted ms := by
  have haliases : (∀ a ∈ aliases, a.Sound ms) ↔
      (∀ v, ms.get? "orphan" = some v →
        ∃ b, v = .bool b ∧ ∀ w, ms.get? "fullpath" = some w → Counts (!b) w) ∧
      (∀ v, ms.get? "mark_as_read" = some v →
        ∃ b, v = .bool b ∧ ∀ w, ms.get? "silent" = some w → Counts b w) := by
    simp only [aliases, List.forall_mem_cons, sound_iff_counts, Bool.bne_true, Bool.bne_false]
    simp
  have hknown (key : String) : Known key ↔
      key ∈ ["generic", "fullpath", "silent", "orphan", "mark_as_read"] := by
    simp [Known, optionKeys, aliases, or_assoc]
  have hoption (key : String) :
      (∀ a ∈ aliases, a.option = key → ms.get? a.name = none) ↔
        (key = "fullpath" → ms.get? "orphan" = none) ∧
          (key = "silent" → ms.get? "mark_as_read" = none) := by
    simp [aliases, eq_comm]
  constructor
  · rintro ⟨hk, ha, ho⟩
    obtain ⟨horphan, hmark⟩ := haliases.mp ha
    have hallowed (key : String) (hkey : key ∈ optionKeys)
        (hnone : (key = "fullpath" → ms.get? "orphan" = none) ∧
          (key = "silent" → ms.get? "mark_as_read" = none)) :=
      ho key hkey ((hoption key).mpr hnone)
    exact {
      keys := fun m hm => (hknown m.1).mp (hk m hm)
      orphan := horphan
      markAsRead := hmark
      generic := hallowed "generic" (by decide) (by simp)
      fullpath := fun h => hallowed "fullpath" (by decide) (by simp [h])
      silent := fun h => hallowed "silent" (by decide) (by simp [h]) }
  · rintro ⟨hk, horphan, hmark, hg, hf, hs⟩
    refine ⟨fun m hm => (hknown m.1).mpr (hk m hm), haliases.mpr ⟨horphan, hmark⟩, ?_⟩
    intro key hkey hnone
    obtain ⟨hno, hnm⟩ := (hoption key).mp hnone
    have hcases : key = "generic" ∨ key = "fullpath" ∨ key = "silent" := by
      simpa [optionKeys] using hkey
    rcases hcases with rfl | rfl | rfl
    · exact hg
    · exact hf (hno rfl)
    · exact hs (hnm rfl)

/-- What a block says of all options, key by key. -/
theorem override_eq (ms : Members) :
    override ms =
      ⟨boolAt ms "generic",
        ((boolAt ms "orphan").map (!·)).or (boolAt ms "fullpath"),
        (boolAt ms "mark_as_read").or (boolAt ms "silent")⟩ := by
  have h (b : Bool) : (b != false) = b := by cases b <;> rfl
  simp only [override, stated, aliases, settingOf_cons]
  simp [settingOf, Alias.setting, h]

/-! ### Aliases put under the keys of their options -/

/-- What the value of an alias is for its option. -/
def Alias.turned (a : Alias) : Value → Value
  | .bool b => .bool (b != a.inverted)
  | v => v

/-- The block with the member of the alias under the key of its option, where it stands, and without
the member of the option if the alias is there. -/
def Alias.respelled (a : Alias) (ms : Members) : Members :=
  ms.filterMap fun m =>
    if m.1 = a.name then some (a.option, a.turned m.2)
    else if m.1 = a.option ∧ ms.has a.name then none
    else some m

/-- The block with each alias put under the key of its option. -/
def respelled (ms : Members) : Members :=
  aliases.foldl (fun ms a => a.respelled ms) ms

/-- What a key leads to once the members of the option are left out. -/
theorem get?_filterMap_alias (a : Alias) (ms : Members) (key : String) :
    Members.get? (ms.filterMap fun m =>
        if m.1 = a.name then some (a.option, a.turned m.2)
        else if m.1 = a.option then none
        else some m) key =
      if key = a.option then (ms.get? a.name).map a.turned
      else if key = a.name then none
      else ms.get? key := by
  induction ms with
  | nil => simp
  | cons m ms ih =>
      rw [Members.get?_cons, Members.get?_cons]
      by_cases hn : m.1 = a.name
      · rw [List.filterMap_cons_some (by rw [if_pos hn]), Members.get?_cons, ih]
        by_cases ho : key = a.option
        · simp [hn, ho]
        · simp +contextual [hn, ho, Ne.symm ho, eq_comm]
      · by_cases ho : m.1 = a.option
        · rw [List.filterMap_cons_none (by rw [if_neg hn, if_pos ho]), ih]
          by_cases hk : key = a.option
          · simp [hn, hk]
          · simp [ho, hk, Ne.symm hk]
        · rw [List.filterMap_cons_some (by rw [if_neg hn, if_neg ho]), Members.get?_cons, ih]
          by_cases hm : m.1 = key
          · subst hm
            simp [hn, ho]
          · simp [hm, hn]

section Alias

variable {a : Alias} (ha : a.name ≠ a.option)

include ha

/-- What a key leads to once an alias is put under the key of its option. -/
theorem get?_alias_respelled (ms : Members) (key : String) :
    (a.respelled ms).get? key =
      if key = a.option then ((ms.get? a.name).map a.turned).or (ms.get? key)
      else if key = a.name then none
      else ms.get? key := by
  unfold Alias.respelled
  cases hhas : ms.has a.name with
  | false =>
      -- no member has the name of the alias, so the block stays as it is
      have hne := Members.has_eq_false_iff.mp hhas
      have hid : ms.filterMap (fun m => if m.1 = a.name then some (a.option, a.turned m.2)
          else if m.1 = a.option ∧ false = true then none else some m) = ms := by
        rw [List.filterMap_congr (g := some) fun m hm => by simp [hne m hm], List.filterMap_some]
      have hnone := Members.get?_eq_none_iff.mpr hne
      rw [hid, hnone]
      by_cases hk : key = a.name
      · simp [hk, ha, hnone]
      · simp [hk]
  | true =>
      obtain ⟨v, hv⟩ := Members.has_iff_exists_get?.mp hhas
      simp only [and_true]
      rw [get?_filterMap_alias, hv]
      rfl

/-- A sound alias put under the key of its option leads where it is taken to lead. -/
theorem get?_respelled_eq_unfolded {ms : Members} (hs : a.Sound ms) (key : String) :
    (a.respelled ms).get? key = (a.unfolded ms).get? key := by
  rw [get?_alias_respelled ha, get?_unfolded hs]
  have hset : (ms.get? a.name).map a.turned = (a.setting ms).map .bool := by
    rcases Alias.sound_iff.mp hs with hn | ⟨b, hn, -⟩ <;>
      simp [Alias.setting, boolAt, Alias.turned, hn]
  rw [hset]

end Alias

/-! ### Blocks that lead to the same -/

section Lookup

variable {ms ms' : Members} (h : ∀ key, ms.get? key = ms'.get? key)

include h

theorem valid_congr (hv : Valid ms) : Valid ms' where
  known := (Members.forall_mem_iff (P := Known)).mpr fun key v hk =>
    (Members.forall_mem_iff (P := Known)).mp hv.known key v ((h key).trans hk)
  aliases := fun a ha => by
    have hs := hv.aliases a ha
    rwa [Alias.Sound, h, h] at hs
  options := fun key hk hnone v hkv =>
    hv.options key hk (fun a ha ho => (h a.name).trans (hnone a ha ho)) v ((h key).trans hkv)

theorem boolAt_congr (key : String) : boolAt ms key = boolAt ms' key := by
  rw [boolAt, h, boolAt]

/-- **A block is read** by what its keys lead to. -/
theorem read_congr {o : Override} (hr : read (.object ms) = .ok o) :
    read (.object ms') = .ok o := by
  obtain ⟨_, ⟨⟩, hv, ho⟩ := read_eq_ok_iff.mp hr
  refine read_eq_ok_iff.mpr ⟨ms', rfl, valid_congr h hv, ?_⟩
  rw [← ho, override_eq, override_eq]
  simp only [boolAt_congr h]

end Lookup

/-- Sound aliases put under the keys of their options lead where they are taken to lead. -/
theorem get?_foldl_respelled {as : List Alias} (hp : as.Pairwise Apart)
    (ha : ∀ a ∈ as, a.name ≠ a.option) {ms ms' : Members} (h : ∀ key, ms'.get? key = ms.get? key)
    (hs : ∀ a ∈ as, a.Sound ms) (key : String) :
    (as.foldl (fun ms a => a.respelled ms) ms').get? key = (unfoldedAll as ms).get? key := by
  induction as generalizing ms ms' with
  | nil => exact h key
  | cons a as ih =>
      obtain ⟨hap, hp⟩ := List.pairwise_cons.mp hp
      obtain ⟨ha, has⟩ := List.forall_mem_cons.mp ha
      obtain ⟨hsa, hs⟩ := List.forall_mem_cons.mp hs
      refine ih hp has (fun key => ?_) fun b hb => (sound_unfolded_iff hsa (hap b hb)).mpr (hs b hb)
      rw [get?_alias_respelled ha, h, h, ← get?_alias_respelled ha,
        get?_respelled_eq_unfolded ha hsa]

/-- A block without aliases is valid if its options are allowed and it has no other keys, and says
what its options say. -/
theorem valid_of_forall_allowed {ms : Members}
    (h : ∀ key v, ms.get? key = some v → key ∈ optionKeys ∧ Allowed v) :
    Valid ms ∧ ∀ key, stated ms key = boolAt ms key := by
  have hnone : ∀ a ∈ aliases, ms.get? a.name = none := fun a ha => by
    refine Option.eq_none_iff_forall_ne_some.mpr fun v hv => ?_
    exact not_mem_names_of_mem_optionKeys _ (h _ v hv).1 (List.mem_map_of_mem ha)
  have hsound : ∀ a ∈ aliases, a.Sound ms := fun a ha => Alias.sound_iff.mpr (.inl (hnone a ha))
  refine ⟨⟨?_, hsound, fun key _ _ v hv => (h key v hv).2⟩, fun key => ?_⟩
  · exact (Members.forall_mem_iff (P := Known)).mpr fun key v hv => .inl (h key v hv).1
  · rw [stated, (settingOf_aliases_eq_none_iff hsound).mpr fun a ha _ => hnone a ha, Option.none_or]

/-- **A block with aliases** is read as the block with each of them under the key of its option. -/
theorem read_respelled {ms : Members} {o : Override} (h : read (.object ms) = .ok o) :
    read (.object (respelled ms)) = .ok o := by
  obtain ⟨_, ⟨⟩, hv, rfl⟩ := read_eq_ok_iff.mp h
  have hs := hv.aliases
  obtain ⟨hvu, hsu⟩ := valid_of_forall_allowed ((forall_allowed_iff_valid hs).mpr hv)
  have hread : read (.object (unfoldedAll aliases ms)) = .ok (override ms) := by
    refine read_eq_ok_iff.mpr ⟨_, rfl, hvu, ?_⟩
    simp only [override, hsu]
    rw [boolAt_unfoldedAll hs (by decide), boolAt_unfoldedAll hs (by decide),
      boolAt_unfoldedAll hs (by decide)]
  refine read_congr (fun key => ?_) hread
  exact (get?_foldl_respelled pairwise_aliases (by decide) (fun _ => rfl) hs key).symm

/-! ### Reading -/

/-- **An options block is read** exactly if it is an object that is accepted: `fullpath` is the
opposite of `orphan` if that is there, `silent` is `mark_as_read` if that is there, and every other
option is what its own key says.  The same is read once each alias is put under the key of its option,
and in every order of the keys. -/
theorem read_by_keys (v : Value) :
    (∀ o, read v = .ok o ↔ ∃ ms, v = .object ms ∧ Accepted ms ∧
      o = ⟨boolAt ms "generic",
        ((boolAt ms "orphan").map (!·)).or (boolAt ms "fullpath"),
        (boolAt ms "mark_as_read").or (boolAt ms "silent")⟩) ∧
    ∀ ms o, v = .object ms → read v = .ok o →
      read (.object (respelled ms)) = .ok o ∧
      ∀ ms', (ms.map (·.1)).Nodup → ms.Perm ms' →
        read (.object ms') = .ok o ∧ read (.object (respelled ms')) = .ok o := by
  refine ⟨fun o => ?_, ?_⟩
  · rw [read_eq_ok_iff]
    refine exists_congr fun ms => and_congr_right fun _ => ?_
    rw [valid_iff_accepted, override_eq, eq_comm]
  · rintro ms o rfl h
    refine ⟨read_respelled h, fun ms' hk hp => ?_⟩
    have h' : read (.object ms') = .ok o := read_congr (Members.get?_perm hk hp) h
    exact ⟨h', read_respelled h'⟩

/-- Two aliases beside their options, one of which is the number one. -/
def aliased : Members :=
  [("silent", .real (.finite 10 (-1))), ("orphan", .bool true), ("mark_as_read", .bool true),
    ("fullpath", .bool false)]

theorem read_by_keys_aliased :
    read (.object aliased) = .ok ⟨none, some false, some true⟩ ∧
      read (.object [("fullpath", .bool false), ("silent", .bool true)]) =
        .ok ⟨none, some false, some true⟩ := by
  have hread : read (.object aliased) = .ok ⟨none, some false, some true⟩ := rfl
  have hperm : aliased.Perm
      [("fullpath", .bool false), ("silent", .real (.finite 10 (-1))), ("orphan", .bool true),
        ("mark_as_read", .bool true)] :=
    List.perm_append_singleton ("fullpath", Value.bool false) (aliased.take 3)
  obtain ⟨_, h⟩ := (read_by_keys (.object aliased)).2 aliased _ rfl hread
  exact ⟨hread, (h _ (by decide) hperm).2⟩

end FolderSieve.Config.OptionsBlock
