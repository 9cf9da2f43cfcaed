/-!
# Text — sets of code points

A property of characters, given by the closed ranges of code points that have it, in ascending
order.
-/

namespace FolderSieve.Text

/-- Closed ranges of code points. -/
abbrev CodeSet := List (Nat × Nat)

namespace CodeSet

/-- `n` lies in one of the ranges. -/
def has (s : CodeSet) (n : Nat) : Bool :=
  s.any fun r => r.1 ≤ n && n ≤ r.2

@[simp] theorem has_nil (n : Nat) : has [] n = false := rfl

@[simp] theorem has_cons (r : Nat × Nat) (s : CodeSet) (n : Nat) :
    has (r :: s) n = ((r.1 ≤ n && n ≤ r.2) || has s n) := rfl

end CodeSet

end FolderSieve.Text
