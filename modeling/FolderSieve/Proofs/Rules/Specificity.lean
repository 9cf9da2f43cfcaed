import FolderSieve.Proofs.Rules.Registry
import FolderSieve.Proofs.Rules.Routing
import Mathlib.Data.String.Basic

/-!
# Rules — folders before those they lie in

The rules of a set stand by descending path.  A path is less than every path below it, whatever
character comes next in others, so that a folder stands before all that it lies in, and mail that
both ask for goes to the folder further down.

* `Text.lt_iff_codePoints_lt`: paths are compared code point by code point.
* `RuleSet.exists_between_of_descendant`: where the rules of a folder and of one below it stand.
* `RuleSet.ruleFor_ne_of_descendant`: which of the two is asked first.
* `RuleSet.descendants_first`: this holds after any registrations, and of what the chain does.
-/

namespace FolderSieve

open Sieve (Statement)
open Sieve.Statement

/-! ### The order of paths -/

namespace Text

/-- The code points of a text. -/
def codePoints (s : String) : List Nat :=
  s.toList.map Char.toNat

theorem lt_iff_codePoints_lt {s t : String} : s < t ↔ codePoints s < codePoints t := by
  rw [String.lt_iff_toList_lt, codePoints, codePoints]
  generalize s.toList = a
  generalize t.toList = b
  induction a generalizing b with
  | nil => cases b <;> simp
  | cons c a ih =>
      cases b with
      | nil => simp
      | cons d b =>
          have hlt : c < d ↔ c.toNat < d.toNat := Iff.rfl
          have heq : c = d ↔ c.toNat = d.toNat := by
            refine ⟨congrArg Char.toNat, fun h => Char.ext (UInt32.toNat_inj.mp h)⟩
          rw [List.map_cons, List.map_cons, List.cons_lt_cons_iff, List.cons_lt_cons_iff, ih, hlt,
            heq]

end Text

/-- A path is less than every path below it. -/
theorem Folder.lt_below (path rest : String) : path < path ++ "/" ++ rest := by
  rw [String.lt_iff_toList_lt, String.toList_append, String.toList_append, List.append_assoc]
  have h : path.toList ++ [] < path.toList ++ '/' :: rest.toList :=
    List.append_left_lt (List.nil_lt_cons '/' rest.toList)
  rwa [List.append_nil] at h

namespace RuleSet

/-- The rule of a set that mail to a localpart is for: the first one of which a localpart matches. -/
def ruleFor (matching : String → String → Bool) (localpart : String) (r : RuleSet) :
    Option (String × Rule) :=
  r.ordered.find? fun e => e.2.localparts.any fun pattern => matching pattern localpart

section Descending

variable {r : RuleSet} {e f : String × Rule}

theorem lt_of_descendant {rest : String} (hbelow : f.1 = e.1 ++ "/" ++ rest) : e.1 < f.1 :=
  hbelow ▸ Folder.lt_below e.1 rest

variable (hd : (r.entries.map (·.1)).Nodup)

include hd

/-- What stands behind a rule has a lesser path. -/
theorem lt_of_mem_after {before after : List (String × Rule)}
    (h : r.ordered = before ++ e :: after) (hf : f ∈ after) : f.1 < e.1 := by
  have hp : r.ordered.Pairwise fun a b => b.1 < a.1 := List.pairwise_map.mp (pairwise_ordered hd)
  rw [h] at hp
  exact (List.pairwise_cons.mp (List.pairwise_append.mp hp).2.1).1 f hf

/-- Of two rules, the one with the greater path stands before the other. -/
theorem mem_before_of_lt {before after : List (String × Rule)}
    (h : r.ordered = before ++ e :: after) (hf : f ∈ r.entries) (hlt : e.1 < f.1) :
    f ∈ before := by
  have hf : f ∈ before ++ e :: after := h ▸ mem_sortBy.mpr hf
  rcases List.mem_append.mp hf with hf | hf
  · exact hf
  rcases List.mem_cons.mp hf with rfl | hf
  · exact absurd hlt (String.lt_irrefl _)
  · exact absurd (lt_of_mem_after hd h hf) (String.lt_asymm hlt)

variable (he : e ∈ r.entries) (hf : f ∈ r.entries) {rest : String}
  (hbelow : f.1 = e.1 ++ "/" ++ rest)

include hf hbelow

/-- **Mail that a folder asks for** is not for one that it lies in. -/
theorem ruleFor_ne_of_descendant {matching : String → String → Bool} {localpart : String}
    (hm : f.2.localparts.any fun pattern => matching pattern localpart) :
    r.ruleFor matching localpart ≠ some e := by
  intro h
  -- no rule matches that stands before the one that is found
  obtain ⟨-, before, after, hsplit, hno⟩ := List.find?_eq_some_iff_append.mp h
  simpa [hm] using hno f (mem_before_of_lt hd hsplit hf (lt_of_descendant hbelow))

include he

/-- **The rule of a folder stands before that of a folder it lies in**, whatever stands between
them. -/
theorem exists_between_of_descendant :
    ∃ before between after, r.ordered = before ++ f :: between ++ e :: after := by
  obtain ⟨front, after, hsplit⟩ := List.append_of_mem (mem_sortBy.mpr he : e ∈ r.ordered)
  obtain ⟨before, between, rfl⟩ :=
    List.append_of_mem (mem_before_of_lt hd hsplit hf (lt_of_descendant hbelow))
  exact ⟨before, between, after, hsplit⟩

end Descending

/-- What the chain of two sets does with a message: what the block of the first rule does that asks
for it, those of the first set before those of the second. -/
theorem performRow_both (matching : String → String → Bool) (m : Sieve.Message) (r r' : RuleSet)
    (closed : Bool) :
    let run := Sieve.performRow (m.passes matching)
    let block (home : String) (e : String × Rule) :=
      rowMovedIn 1 (e.2.labelStatements e.1 ++ Rule.filingStatements home (Folder.chain e.1))
    run (rowMovedIn 0 (chainStatements closed (r.arms Folder.chain ++ r'.arms Folder.chain))) =
      match r.ruleFor matching m.localpart with
      | some e => run (block r.home e)
      | none =>
        match r'.ruleFor matching m.localpart with
        | some e => run (block r'.home e)
        | none => if closed then catchAllActions else [] := by
  intro run block
  refine (performRow_chainStatements (m.passes matching) closed _).trans ?_
  rw [List.find?_append, arms, arms, Rule.find?_arms, Rule.find?_arms, ← ruleFor, ← ruleFor]
  cases r.ruleFor matching m.localpart with
  | some e => rfl
  | none => cases r'.ruleFor matching m.localpart <;> rfl

/-- Rules that are registered from none can be read, if the name of the set is one line. -/
theorem readable_registerAll {name : String} (hn : '\n' ∉ name.toList) (home : String)
    (xs : List Registration) : ((⟨name, home, []⟩ : RuleSet).registerAll xs).Readable where
  name := by rwa [(registerAll_eq_extend _ xs).1]
  entries e he := (sound_registerAll name home xs e he).2

/-- **Folders before those they lie in**, in a set that begins without rules, after any
registrations.  Its rules stand by strictly descending path, compared by code points, each once, and
so that of a folder before that of any folder it lies in.  Its chain, on its own or where that of
another set goes on with it, is read as branches in this order.  It does with a message what the
block of the first rule does that asks for it; so of a folder and one that lies in it, if a pattern
of the latter matches, it is not the former whose block that is. -/
theorem descendants_first (matching : String → String → Bool) (m : Sieve.Message)
    (name home name' home' : String) (xs xs' : List Registration) (closed : Bool) :
    let front := (⟨name', home', []⟩ : RuleSet).registerAll xs'
    let r := (⟨name, home, []⟩ : RuleSet).registerAll xs
    let script :=
      rowMovedIn 0 (chainStatements closed (front.arms Folder.chain ++ r.arms Folder.chain))
    let run := Sieve.performRow (m.passes matching)
    let block (home : String) (e : String × Rule) :=
      rowMovedIn 1 (e.2.labelStatements e.1 ++ Rule.filingStatements home (Folder.chain e.1))
    (r.ordered.Perm r.entries ∧ (r.entries.map (·.1)).Nodup ∧
      (r.ordered.map (·.1)).Pairwise fun p q => Text.codePoints q < Text.codePoints p) ∧
    (∀ e ∈ r.entries, ∀ f ∈ r.entries, ∀ rest, f.1 = e.1 ++ "/" ++ rest →
      (∃ before between after, r.ordered = before ++ f :: between ++ e :: after) ∧
        ((f.2.localparts.any fun pattern => matching pattern m.localpart) →
          r.ruleFor matching m.localpart ≠ some e)) ∧
    ('\n' ∉ name.toList → '\n' ∉ name'.toList →
      Sieve.readScript (Sieve.script (front.chainWith r closed)) = some script) ∧
    run script =
      match front.ruleFor matching m.localpart with
      | some e => run (block home' e)
      | none =>
        match r.ruleFor matching m.localpart with
        | some e => run (block home e)
        | none =>
          if closed then [Sieve.addFlag Sieve.seenFlag, Sieve.fileInto Folder.unknown] else [] := by
  intro front r script run block
  have hd : (r.entries.map (·.1)).Nodup := nodup_registerAll name home xs
  refine ⟨⟨sortBy_perm _, hd, ?_⟩, fun e he f hf rest hbelow =>
    ⟨exists_between_of_descendant hd he hf hbelow, ruleFor_ne_of_descendant hd hf hbelow⟩,
    fun hn hn' => ?_, ?_⟩
  · exact (pairwise_ordered hd).imp Text.lt_iff_codePoints_lt.mp
  · exact (reads_chainWith (readable_registerAll hn' home' xs') (readable_registerAll hn home xs)
      closed).readScript
  · have hrun : run script = _ := performRow_both matching m front r closed
    simpa only [front, r, home_registerAll] using hrun

/-- Between the folder `A` and those below it stands one with a character that comes before the
slash, and above them one with a character that comes after it. -/
theorem descendants_first_between :
    let register (path : String) (localparts : List String) : Registration :=
      ⟨.custom, path, .many localparts, none, .root⟩
    let xs := [register "A" ["a", "x"], register "A/B" ["b", "x"], register "A B" ["s"],
      register "A/B/C" ["x"], register "A0" ["n"], register "A/B0" ["m"]]
    let r := (⟨"Custom", "", []⟩ : RuleSet).registerAll xs
    let front := (⟨"Generic", "", []⟩ : RuleSet).registerAll [register "A" ["g"]]
    let script := rowMovedIn 0
      (chainStatements false (front.arms Folder.chain ++ r.arms Folder.chain))
    let run (localpart : String) :=
      let m : Sieve.Message := ⟨localpart, fun _ => true, fun _ _ => false⟩
      Sieve.performRow (m.passes (· == ·)) script
    r.ordered.map (·.1) = ["A0", "A/B0", "A/B/C", "A/B", "A B", "A"] ∧
      (∃ before between after, r.ordered = before ++ ("A/B/C", ⟨["x"], none, .root⟩) :: between ++
        ("A", ⟨["a", "x"], none, .root⟩) :: after) ∧
      r.ruleFor (· == ·) "x" ≠ some ("A", ⟨["a", "x"], none, .root⟩) ∧
      Sieve.readScript (Sieve.script (front.chainWith r false)) = some script ∧
      run "x" = [Sieve.fileInto "A", Sieve.fileInto "A/B", Sieve.fileInto "A/B/C"] ∧
      run "g" = [Sieve.fileInto "A"] ∧ run "y" = [] := by
  intro register xs r front script run
  have h (localpart : String) := descendants_first (· == ·)
    ⟨localpart, fun _ => true, fun _ _ => false⟩ "Custom" "" "Generic" "" xs
    [register "A" ["g"]] false
  obtain ⟨-, hbelow, hread, hx⟩ := h "x"
  have ha : ("A", ⟨["a", "x"], none, .root⟩) ∈ r.entries := by decide +kernel
  have hc : ("A/B/C", ⟨["x"], none, .root⟩) ∈ r.entries := by decide +kernel
  obtain ⟨hbetween, hne⟩ := hbelow _ ha _ hc "B/C" (by decide)
  exact ⟨by decide +kernel, hbetween, hne (by decide), hread (by decide) (by decide),
    hx.trans (by decide +kernel), (h "g").2.2.2.trans (by decide +kernel),
    (h "y").2.2.2.trans (by decide +kernel)⟩

end RuleSet

end FolderSieve
