import FolderSieve.Sorting

/-!
# Text — similar words

How alike two words are is measured by the characters they share: the longest run that both have,
and then the same to the left and to the right of it (`shared`).  Words are close if at least
three fifths of their characters are shared.
-/

namespace FolderSieve.Text

/-- How many characters two texts start with alike. -/
def sameStart : List Char → List Char → Nat
  | a :: s, b :: t => if a = b then sameStart s t + 1 else 0
  | _, _ => 0

/-- A run that two texts have in common: where it starts in each, and how long it is. -/
structure CommonRun where
  left : Nat
  right : Nat
  length : Nat

/-- The longest run that two texts have in common, the leftmost of several. -/
def longestRun (s t : List Char) : CommonRun :=
  (List.range s.length).foldl (fun best i =>
    (List.range t.length).foldl (fun best j =>
      let n := sameStart (s.drop i) (t.drop j)
      if best.length < n then ⟨i, j, n⟩ else best) best) ⟨0, 0, 0⟩

/-- How many characters two texts share, looking no deeper than `depth` runs within runs. -/
def sharedWithin : (depth : Nat) → List Char → List Char → Nat
  | 0, _, _ => 0
  | depth + 1, s, t =>
      let run := longestRun s t
      if run.length = 0 then 0
      else
        run.length + sharedWithin depth (s.take run.left) (t.take run.right) +
          sharedWithin depth (s.drop (run.left + run.length)) (t.drop (run.right + run.length))

/-- How many characters two texts share.  Every run takes a character off the first text, so that
its length bounds how deep runs lie. -/
def shared (s t : List Char) : Nat :=
  sharedWithin s.length s t

/-- Three fifths of the characters of two words are shared. -/
def isClose (s t : String) : Bool :=
  3 * (s.length + t.length) ≤ 10 * shared s.toList t.toList

/-- `s` is at least as close to `word` as `t` is; of two equally close words the greater counts as
closer. -/
def atLeastAsClose (word s t : String) : Bool :=
  let a := shared s.toList word.toList * (t.length + word.length)
  let b := shared t.toList word.toList * (s.length + word.length)
  b < a || (b == a && t ≤ s)

/-- The three candidates closest to a word, of those that are close. -/
def closeMatches (word : String) (candidates : List String) : List String :=
  (sortBy (atLeastAsClose word) (candidates.filter fun c => isClose c word)).take 3

end FolderSieve.Text
