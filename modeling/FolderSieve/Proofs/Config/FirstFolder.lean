import FolderSieve.Proofs.Config.Decoding
import FolderSieve.Proofs.Config.OptionsBlock

/-!
# Configuration — the first-folder option set

A domain has a first-folder option whether its configuration sets it or not.  To set it in the
configuration takes away its other spelling, since a block may not use both.

* `DomainOptions.read_firstFolderSet`: an options block in which the option is set.
* `Domain.decode_firstFolderSet`: a domain in whose options block it is set.
-/

namespace FolderSieve.Config

open Json (Members Value)

namespace DomainOptions

/-- The options with the first-folder option. -/
def forced (o : DomainOptions) : DomainOptions :=
  { o with firstFolder := true }

/-- The members of an options block with the first-folder option set. -/
def firstFolderSet (block : Members) : Members :=
  (block.without firstFolderKeys.2).put firstFolderKeys.1 (.bool true)

theorem get?_firstFolderSet (block : Members) (key : String) :
    (firstFolderSet block).get? key =
      if key = firstFolderKeys.1 then some (.bool true)
      else if key = firstFolderKeys.2 then none
      else block.get? key := by
  rw [firstFolderSet, Members.get?_put, Members.get?_without]

theorem firstFolderKey_firstFolderSet (block : Members) :
    firstFolderKey (firstFolderSet block) = firstFolderKeys.1 := by
  have hhas : (firstFolderSet block).has firstFolderKeys.1 = true :=
    Members.has_iff_exists_get?.mpr ⟨_, by rw [get?_firstFolderSet, if_pos rfl]⟩
  simp [firstFolderKey, hhas]

/-- The option has one of its two spellings. -/
theorem firstFolderKey_eq (block : Members) :
    firstFolderKey block = firstFolderKeys.1 ∨ firstFolderKey block = firstFolderKeys.2 := by
  unfold firstFolderKey
  split
  · exact .inl rfl
  · exact .inr rfl

/-- **A block in which the option is set** is read as the block is read, with the option. -/
theorem read_firstFolderSet {block : Members} {o : DomainOptions}
    (h : read (.object block) = .ok o) : read (.object (firstFolderSet block)) = .ok o.forced := by
  obtain ⟨_, _, ho, hn, rfl⟩ := Checked.both_eq_ok_iff.mp h
  obtain ⟨first, secrets, -, hs, rfl⟩ := Checked.both_eq_ok_iff.mp ho
  have hfirst : readFirstFolder (firstFolderSet block) = .ok true := by
    rw [readFirstFolder, firstFolderKey_firstFolderSet, get?_firstFolderSet, if_pos rfl]
  have hsecrets : readSecrets (firstFolderSet block) = .ok secrets := by
    rw [← hs, readSecrets, get?_firstFolderSet, if_neg (by decide), if_neg (by decide), readSecrets]
  have hothers : OptionsBlock.noOthers [firstFolderKey (firstFolderSet block), "secrets"]
      (firstFolderSet block) = .ok () := by
    rw [OptionsBlock.noOthers_eq_ok_iff, firstFolderKey_firstFolderSet]
    refine (Members.forall_mem_iff (P := (· ∈ [firstFolderKeys.1, "secrets"]))).mpr fun key v hv => ?_
    rw [get?_firstFolderSet] at hv
    split at hv
    · rename_i hk
      simp [hk]
    split at hv
    · cases hv
    · rename_i h₁ h₂
      have hk := OptionsBlock.noOthers_eq_ok_iff.mp hn _ (Members.mem_of_get? hv)
      rcases List.mem_cons.mp hk with hk | hk
      · rcases firstFolderKey_eq block with he | he
        · exact absurd (hk.trans he) h₁
        · exact absurd (hk.trans he) h₂
      · exact List.mem_cons_of_mem _ hk
  rw [read, hfirst, hsecrets, hothers]
  rfl

end DomainOptions

namespace Domain

/-- The domain with the first-folder option. -/
def forced (d : Domain) : Domain :=
  { d with options := d.options.forced }

/-- The value of a domain with the first-folder option set in its options block, which is made if
there is none. -/
def firstFolderSet : Value → Value
  | .object ms =>
      match (Members.get? ms optionsKey).getD (.object []) with
      | .object block =>
          .object (Members.put ms optionsKey (.object (DomainOptions.firstFolderSet block)))
      | _ => .object ms
  | v => v

theorem decodeMembers_firstFolderSet {name : String} {ms : Members} {d : Domain}
    (h : decodeMembers name ms = .ok d) :
    ∃ ms', firstFolderSet (.object ms) = .object ms' ∧ decodeMembers name ms' = .ok d.forced := by
  obtain ⟨options, ho, h⟩ := bind_eq_ok_iff.mp h
  obtain ⟨_, hs, h⟩ := bind_eq_ok_iff.mp h
  obtain ⟨tree, ht, rfl⟩ := map_eq_ok_iff.mp h
  rw [decodeOptions] at ho
  split at ho
  · rename_i block hb
    have hread := DomainOptions.read_firstFolderSet (mapError_eq_ok_iff.mp ho)
    have hset : firstFolderSet (.object ms) =
        .object (Members.put ms optionsKey (.object (DomainOptions.firstFolderSet block))) := by
      simp only [firstFolderSet, hb]
    refine ⟨_, hset, bind_eq_ok_iff.mpr ⟨options.forced, ?_, bind_eq_ok_iff.mpr ⟨_, hs, ?_⟩⟩⟩
    · rw [decodeOptions, Members.get?_put, if_pos rfl]
      exact mapError_eq_ok_iff.mpr hread
    · rw [Members.without_put, ht]
      rfl
  · cases ho

/-- **A domain in whose options the option is set** is decoded as the domain is, with the option. -/
theorem decode_firstFolderSet {name : String} {v : Value} {d : Domain}
    (h : decode name v = .ok d) : decode name (firstFolderSet v) = .ok d.forced := by
  unfold decode at h ⊢
  split at h
  · cases h
  rename_i hn
  split at h
  · cases h
  rename_i hc
  rw [if_neg hn, if_neg hc]
  split at h
  · rename_i ms
    obtain ⟨ms', hms, hd⟩ := decodeMembers_firstFolderSet (mapError_eq_ok_iff.mp h)
    rw [hms]
    exact mapError_eq_ok_iff.mpr hd
  · cases h

end Domain

end FolderSieve.Config
