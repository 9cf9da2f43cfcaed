import Mathlib.Data.List.Infix
import FolderSieve.Workspace

/-!
# Workspaces — what a write changes

A write puts one file where its path leads to.  What stands above that location is there already,
since the path has come through it or it is above the working directory; so nothing else comes to be.

* `Workspace.Anchored`, `Workspace.anchored_of_reach`: everything above a location is there, and so it
  is where a path leads to.
* `Workspace.at?_put_of_ne`: a file at such a location changes no other.
* `Workspace.reach_congr`: a path leads where it did as long as the directories are there.
* `Workspace.mem_of_reach_unnameable`: the paths that cannot name a file.
* `Workspace.Writes`, `Workspace.writes_of_write`: what a write does that is not refused.
-/

namespace FolderSieve.Workspace

variable {w : Workspace} {loc : Location} {entry : Entry}

/-! ### One more entry -/

theorem find?_entries_put (w : Workspace) (loc : Location) (entry : Entry) (l : Location) :
    (w.put loc entry).entries.find? (fun e => e.1 == l) =
      if l = loc then some (loc, entry) else w.entries.find? fun e => e.1 == l := by
  rw [put, List.find?_append, List.find?_filter]
  by_cases hl : l = loc
  · have hnone : w.entries.find? (fun e => decide (e.1 != loc ∧ e.1 == l)) = none :=
      List.find?_eq_none.mpr fun e _ => by simp [hl]
    rw [hnone, if_pos hl]
    simp [hl]
  · have hsame : (fun e : Location × Entry => decide (e.1 != loc ∧ e.1 == l)) =
        fun e => e.1 == l := by
      funext e
      by_cases he : e.1 = l <;> simp [he, hl]
    rw [hsame, if_neg hl]
    simp [Ne.symm hl]

theorem at?_put_self (w : Workspace) (loc : Location) (entry : Entry) :
    (w.put loc entry).at? loc = some entry := by
  rw [at?, find?_entries_put, if_pos rfl]

/-- Something stands at every location above. -/
def Anchored (w : Workspace) (loc : Location) : Prop :=
  ∀ l, l <+: loc → l ≠ loc → w.at? l ≠ none

/-- **A new entry** at an anchored location leaves the others as they are. -/
theorem at?_put_of_ne (h : w.Anchored loc) {l : Location} (hl : l ≠ loc) :
    (w.put loc entry).at? l = w.at? l := by
  unfold at?
  rw [find?_entries_put, if_neg hl]
  cases hf : w.entries.find? fun e => e.1 == l with
  | some e => rfl
  | none =>
      -- the directories that need no entry are the same: those above the new one were there before
      have hany : ((l.isPrefixOf w.start ∨ (w.put loc entry).entries.any fun e => l.isPrefixOf e.1) ↔
          (l.isPrefixOf w.start ∨ w.entries.any fun e => l.isPrefixOf e.1)) := by
        by_cases hp : l <+: loc
        · have hthere := h l hp hl
          rw [at?, hf] at hthere
          refine iff_of_true (.inr ?_) (by_contra fun hno => hthere (if_neg hno))
          simp [put, hp]
        · refine or_congr_right ?_
          have hne {e : Location × Entry} (he : l <+: e.1) : e.1 ≠ loc := fun h => hp (h ▸ he)
          simp only [put, List.any_append, List.any_filter, List.any_eq_true, Bool.or_eq_true,
            Bool.and_eq_true, bne_iff_ne, List.isPrefixOf_iff_prefix, List.mem_singleton]
          constructor
          · rintro (⟨e, he, -, hle⟩ | ⟨e, rfl, hle⟩)
            · exact ⟨e, he, hle⟩
            · exact absurd hle hp
          · rintro ⟨e, he, hle⟩
            exact .inl ⟨e, he, hne hle, hle⟩
      exact if_congr hany rfl rfl

/-! ### Where a path leads to -/

theorem anchored_start (w : Workspace) : w.Anchored w.start := by
  intro l hp _
  unfold at?
  split
  · nofun
  · rw [if_pos (.inl (List.isPrefixOf_iff_prefix.mpr hp))]
    nofun

theorem anchored_nil (w : Workspace) : w.Anchored [] :=
  fun _ hp hl => absurd (List.prefix_nil.mp hp) hl

theorem anchored_dropLast (h : w.Anchored loc) : w.Anchored loc.dropLast := by
  intro l hp hl
  refine h l (hp.trans (List.dropLast_prefix loc)) ?_
  rintro rfl
  exact hl (hp.eq_of_length_le (List.dropLast_prefix l).length_le)

theorem anchored_concat (h : w.Anchored loc) (hd : w.at? loc = some .directory) (name : String) :
    w.Anchored (loc ++ [name]) := by
  intro l hp hl
  have hp := (List.prefix_concat_iff.mp hp).resolve_left hl
  by_cases he : l = loc
  · simp [he, hd]
  · exact h l hp he

/-- A path only leads on from a directory. -/
theorem anchored_of_reachFrom {names : List String} {l : Location} (h : w.Anchored loc)
    (hr : w.reachFrom loc names = .ok l) : w.Anchored l := by
  induction names generalizing loc with
  | nil =>
      cases hr
      exact h
  | cons name names ih =>
      rw [reachFrom] at hr
      split at hr
      · cases hr
      · cases hr
      · rename_i hd
        split at hr
        · cases hr
        split at hr
        · exact ih (anchored_dropLast h) hr
        · exact ih (anchored_concat h hd name) hr

theorem anchored_of_reach {p : Path} (hr : w.reach p = .ok loc) : w.Anchored loc := by
  unfold reach at hr
  split at hr
  · cases hr
  split at hr
  · cases hr
  split at hr
  · exact anchored_of_reachFrom w.anchored_start hr
  · exact anchored_of_reachFrom w.anchored_nil hr

/-- A file is not in the way of a path that comes through directories alone. -/
theorem reachFrom_congr {w w' : Workspace} {loc : Location} {names : List String} {l : Location}
    (h : ∀ m, w.at? m = some .directory → w'.at? m = some .directory)
    (hr : w.reachFrom loc names = .ok l) : w'.reachFrom loc names = .ok l := by
  induction names generalizing loc with
  | nil => exact hr
  | cons name names ih =>
      rw [reachFrom] at hr ⊢
      split at hr
      · cases hr
      · cases hr
      · rename_i hd
        rw [h loc hd]
        dsimp only
        split at hr
        · cases hr
        · rename_i hn
          rw [if_neg hn]
          split at hr <;> rename_i hu
          · rw [if_pos hu]
            exact ih hr
          · rw [if_neg hu]
            exact ih hr

theorem reach_congr {w w' : Workspace} {p : Path} {loc : Location} (hs : w'.start = w.start)
    (h : ∀ m, w.at? m = some .directory → w'.at? m = some .directory)
    (hr : w.reach p = .ok loc) : w'.reach p = .ok loc := by
  unfold reach at hr ⊢
  rw [hs]
  split at hr
  · cases hr
  rename_i hnull
  rw [if_neg hnull]
  split at hr
  · cases hr
  rename_i hlong
  rw [if_neg hlong]
  exact reachFrom_congr h hr

theorem reachFrom_ne_unnameable (w : Workspace) (loc : Location) (names : List String) :
    w.reachFrom loc names ≠ .error .unnameable := by
  intro h
  induction names generalizing loc with
  | nil => cases h
  | cons name names ih =>
      rw [reachFrom] at h
      split at h
      · cases h
      · cases h
      · split at h
        · cases h
        · split at h <;> exact ih _ h

/-- Only a path with a null character cannot name a file. -/
theorem mem_of_reach_unnameable {p : Path} (h : w.reach p = .error .unnameable) :
    '\x00' ∈ p.toString.toList := by
  unfold reach at h
  split at h
  · rename_i hnull
    simpa using hnull
  · split at h
    · cases h
    · exact absurd h (reachFrom_ne_unnameable w _ _)

theorem mem_of_read_unnameable {p : Path} (h : w.read p = .error .unnameable) :
    '\x00' ∈ p.toString.toList := by
  unfold read find at h
  split at h
  · rename_i hf
    cases h
    split at hf
    · rename_i hr
      cases hf
      exact mem_of_reach_unnameable hr
    · split at hf <;> cases hf
  · cases h
  · cases h

/-- Whether a path leads to a directory can be told, unless a name is too long. -/
theorem isDirectory_cases (w : Workspace) (p : Path) :
    (w.find p = .ok .directory ∧ w.isDirectory p = .ok true) ∨
      (w.find p ≠ .ok .directory ∧
        (w.isDirectory p = .ok false ∨ w.isDirectory p = .error .nameTooLong)) := by
  unfold isDirectory holds
  generalize w.find p = found
  cases found with
  | ok entry => cases entry <;> simp
  | error why => cases why <;> simp

/-! ### Writes -/

/-- The workspace with one file written: where the path leads to stands a file with the text, and
everything else is as it was. -/
structure Writes (w : Workspace) (p : Path) (text : String) (w' : Workspace) : Prop where
  start : w'.start = w.start
  changed : ∃ loc, w.reach p = .ok loc ∧ w.at? loc ≠ some .directory ∧
    w'.at? loc = some (.file (Text.Utf8.encode text)) ∧ ∀ l, l ≠ loc → w'.at? l = w.at? l
  read : w'.read p = .ok (Text.Utf8.encode text)

/-- **A write that is not refused** changes the one file that its path leads to. -/
theorem writes_of_write {w w' : Workspace} {p : Path} {text : String}
    (h : w.write p text = .ok w') : w.Writes p text w' := by
  unfold write at h
  split at h
  · cases h
  · rename_i loc hr
    have hloc : w.at? loc ≠ some .directory ∧ w' = w.put loc (.file (Text.Utf8.encode text)) := by
      split at h <;> cases h
      · rename_i hn
        exact ⟨by simp [hn], rfl⟩
      · rename_i hn
        exact ⟨by simp [hn], rfl⟩
    obtain ⟨hd, rfl⟩ := hloc
    have hother : ∀ l, l ≠ loc → (w.put loc (.file (Text.Utf8.encode text))).at? l = w.at? l :=
      fun l hl => at?_put_of_ne (anchored_of_reach hr) hl
    refine ⟨rfl, ⟨loc, hr, hd, at?_put_self w loc _, hother⟩, ?_⟩
    have hreach : (w.put loc (.file (Text.Utf8.encode text))).reach p = .ok loc := by
      have hstart : (w.put loc (.file (Text.Utf8.encode text))).start = w.start := rfl
      refine reach_congr hstart (fun m hm => ?_) hr
      rw [hother m (by rintro rfl; exact hd hm), hm]
    rw [Workspace.read, Workspace.find, hreach]
    simp [at?_put_self]

end FolderSieve.Workspace
