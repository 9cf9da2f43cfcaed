/-!
# Sorting

`sortBy` puts a list in order by inserting its elements from the last to the first, each in front
of the first element that it may stand before, so that elements of equal rank keep their order.
It has the elements of the list (`sortBy_perm`), and they are in order (`pairwise_sortBy`).  Where no
two elements are of equal rank this settles the order (`sortBy_eq_of_perm`).
-/

namespace FolderSieve

variable {α : Type} {le : α → α → Bool}

/-- Puts an element in front of the first one that it may stand before. -/
def insertBy (le : α → α → Bool) (a : α) : List α → List α
  | [] => [a]
  | b :: l => if le a b then a :: b :: l else b :: insertBy le a l

/-- A list in order; elements of equal rank stay as they stand. -/
def sortBy (le : α → α → Bool) : List α → List α
  | [] => []
  | a :: l => insertBy le a (sortBy le l)

theorem insertBy_perm (a : α) (l : List α) : (insertBy le a l).Perm (a :: l) := by
  induction l with
  | nil => exact .refl _
  | cons b l ih =>
      simp only [insertBy]
      split
      · exact .refl _
      · exact (ih.cons b).trans (.swap a b l)

theorem sortBy_perm (l : List α) : (sortBy le l).Perm l := by
  induction l with
  | nil => exact .refl _
  | cons a l ih => exact (insertBy_perm a _).trans (ih.cons a)

theorem mem_sortBy {a : α} {l : List α} : a ∈ sortBy le l ↔ a ∈ l :=
  (sortBy_perm l).mem_iff

theorem length_sortBy (l : List α) : (sortBy le l).length = l.length :=
  (sortBy_perm l).length_eq

theorem pairwise_insertBy (trans : ∀ a b c, le a b → le b c → le a c)
    (total : ∀ a b, le a b || le b a) (a : α) {l : List α}
    (h : l.Pairwise fun a b => le a b) : (insertBy le a l).Pairwise fun a b => le a b := by
  induction l with
  | nil => simp [insertBy]
  | cons b l ih =>
      obtain ⟨hb, hl⟩ := List.pairwise_cons.1 h
      simp only [insertBy]
      split
      · rename_i hab
        refine List.pairwise_cons.2 ⟨fun c hc => ?_, h⟩
        rcases List.mem_cons.1 hc with rfl | hc
        · exact hab
        · exact trans _ _ _ hab (hb c hc)
      · rename_i hab
        refine List.pairwise_cons.2 ⟨fun c hc => ?_, ih hl⟩
        rcases List.mem_cons.1 ((insertBy_perm a l).mem_iff.1 hc) with rfl | hc
        · have := total c b
          simp_all
        · exact hb c hc

theorem pairwise_sortBy (trans : ∀ a b c, le a b → le b c → le a c)
    (total : ∀ a b, le a b || le b a) (l : List α) :
    (sortBy le l).Pairwise fun a b => le a b := by
  induction l with
  | nil => exact .nil
  | cons a l ih => exact pairwise_insertBy trans total a ih

theorem sortBy_eq_of_perm (trans : ∀ a b c, le a b → le b c → le a c)
    (total : ∀ a b, le a b || le b a) {l l' : List α}
    (antisymm : ∀ a ∈ l, ∀ b ∈ l, le a b → le b a → a = b) (h : l.Perm l') :
    sortBy le l = sortBy le l' := by
  refine List.Perm.eq_of_pairwise ?_ (pairwise_sortBy trans total l) (pairwise_sortBy trans total l')
    ((sortBy_perm l).trans (h.trans (sortBy_perm l').symm))
  intro a b ha hb
  exact antisymm a (mem_sortBy.mp ha) b (h.mem_iff.mpr (mem_sortBy.mp hb))

end FolderSieve
