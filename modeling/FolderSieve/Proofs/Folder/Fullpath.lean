import FolderSieve.Proofs.Folder.Localpart
import FolderSieve.Proofs.Sieve.Glob
import FolderSieve.Proofs.Text.FinalSigma

/-!
# Folders — the localpart of a path, name by name

A path gives its localpart as a whole: slashes become points, and only then the path is put in lower
case.  Names go through this on their own but for the capital sigma.  A sigma has a final form at the
end of a word, and a point does not end a word, although a slash does; so the names on both sides of a
slash can tell each other's sigmas.

* `dotted_intercalate`: points and hyphens are put in name by name.
* `genericLocalpart_intercalate_iff`: when the localpart is made name by name.
* `genericLocalpart_join_iff`: when a folder has the localpart of the folder it lies in, a point and the
  localpart of its own name.
* `genericLocalpart_by_names`: both, and what becomes of the pattern of the folder it lies in.
-/

namespace FolderSieve.Folder

open Sieve (Comparator)
open Text (EndsInSigma OpensWithSigma SigmasKept lowerWithin meetsCased)

/-! ### Points and hyphens -/

/-- A path with a hyphen for white space and a point for a slash. -/
def dotted (path : String) : List Char :=
  (Text.collapseBlanks '-' path.toList).map fun c => if c = '/' then '.' else c

theorem genericLocalpart_eq (path : String) :
    genericLocalpart path = String.ofList (Text.lower (dotted path)) :=
  rfl

theorem dotted_slash (path name : String) :
    dotted (path ++ "/" ++ name) = dotted path ++ '.' :: dotted name := by
  have hslash : (path ++ "/" ++ name).toList = path.toList ++ '/' :: name.toList := by simp
  rw [dotted, hslash, Text.collapseBlanks_append (by decide), List.map_append]
  rfl

/-- **Points and hyphens** are put in name by name. -/
theorem dotted_intercalate (names : List String) :
    dotted ("/".intercalate names) = ['.'].intercalate (names.map dotted) := by
  induction names with
  | nil => rfl
  | cons name names ih =>
      cases names with
      | nil => simp
      | cons next names =>
          rw [String.intercalate_cons_cons, dotted_slash, ih]
          simp [List.intercalate_cons_cons]

theorem not_mem_dotted {name : String} (h : '\u03A3' ∉ name.toList) : '\u03A3' ∉ dotted name := by
  intro hm
  obtain ⟨c, hc, hs⟩ := List.mem_map.mp hm
  split at hs
  · cases hs
  · subst hs
    exact h ((Text.mem_of_mem_collapseBlanks hc).resolve_left (by decide)).1

/-! ### All names -/

/-- **The localpart of a path is made name by name** exactly if the sigmas of each name are kept among
the other names. -/
theorem genericLocalpart_intercalate_iff {names : List String} :
    genericLocalpart ("/".intercalate names) = ".".intercalate (names.map genericLocalpart) ↔
      ∀ above name below, names = above ++ name :: below →
        SigmasKept (above.flatMap fun n => dotted n ++ ['.']).reverse (dotted name)
          (below.flatMap fun n => '.' :: dotted n) := by
  have hparts : genericLocalpart ("/".intercalate names) =
        ".".intercalate (names.map genericLocalpart) ↔
      Text.lower (['.'].intercalate (names.map dotted)) =
        ['.'].intercalate ((names.map dotted).map Text.lower) := by
    rw [genericLocalpart_eq, dotted_intercalate, ← String.toList_inj, String.toList_ofList,
      String.toList_intercalate, List.map_map, List.map_map]
    simp [genericLocalpart_eq, Function.comp_def]
  rw [hparts, Text.lower_intercalate_iff]
  constructor
  · rintro h above name below rfl
    simpa [List.flatMap_map] using
      h (above.map dotted) (dotted name) (below.map dotted) (by simp)
  · intro h above part below he
    obtain ⟨above, rest, rfl, rfl, hrest⟩ := List.map_eq_append_iff.mp he
    obtain ⟨name, below, rfl, rfl, rfl⟩ := List.map_eq_cons_iff.mp hrest
    simpa [List.flatMap_map] using h above name below rfl

/-! ### A folder and the folder it lies in -/

theorem join_eq_intercalate {path : String} (h : path ≠ "") (name : String) :
    join path name = "/".intercalate [path, name] := by
  rw [join, if_neg h]
  simp

section Join

variable {path : String} (h : path ≠ "") (name : String)

include h

/-- **A folder has the localpart of the folder it lies in, a point and that of its own name**, unless
the sigma in which the one name ends, or with which the other opens, meets a letter of the other. -/
theorem genericLocalpart_join_iff :
    genericLocalpart (join path name) = genericLocalpart path ++ "." ++ genericLocalpart name ↔
      ¬(EndsInSigma (dotted path) ∧ meetsCased (dotted name) = true) ∧
        ¬(meetsCased (dotted path).reverse = true ∧ OpensWithSigma (dotted name)) := by
  have hnames : genericLocalpart path ++ "." ++ genericLocalpart name =
      ".".intercalate ([path, name].map genericLocalpart) := by simp
  rw [join_eq_intercalate h, hnames, genericLocalpart_intercalate_iff,
    ← Text.meetsCased_point (dotted name), ← Text.meetsCased_point (dotted path).reverse,
    ← Text.sigmasKept_before_iff, ← Text.sigmasKept_behind_iff]
  constructor
  · intro hkept
    exact ⟨by simpa using hkept [] path [name] rfl, by simpa using hkept [path] name [] rfl⟩
  · rintro ⟨hpath, hname⟩ above n below he
    match above, he with
    | [], he =>
        obtain ⟨rfl, rfl⟩ := List.cons.inj he
        simpa using hpath
    | [p], he =>
        obtain ⟨rfl, hrest⟩ := List.cons.inj he
        obtain ⟨rfl, rfl⟩ := List.cons.inj hrest
        simpa using hname
    | p :: q :: above, he => simpa using congrArg List.length he

/-- The localpart of a folder begins with that of the folder it lies in and a point, unless the sigma
in which the one name ends meets a letter of the other. -/
theorem prefix_genericLocalpart_join_iff :
    (genericLocalpart path ++ ".").toList <+: (genericLocalpart (join path name)).toList ↔
      ¬(EndsInSigma (dotted path) ∧ meetsCased (dotted name) = true) := by
  have hjoin : (genericLocalpart (join path name)).toList =
      (lowerWithin [] (dotted path) ('.' :: dotted name) ++ ['.']) ++
        Text.lowerAfter ('.' :: ((dotted path).reverse ++ [])) (dotted name) := by
    have hslash : join path name = path ++ "/" ++ name := by rw [join, if_neg h]
    rw [hslash, genericLocalpart_eq, dotted_slash, String.toList_ofList, Text.lower,
      Text.lowerAfter_point, List.append_assoc]
    rfl
  have hlength : (Text.lower (dotted path) ++ ['.']).length =
      (lowerWithin [] (dotted path) ('.' :: dotted name) ++ ['.']).length := by
    rw [List.length_append, List.length_append, Text.lower, ← Text.lowerWithin_nil,
      Text.length_lowerWithin]
  rw [hjoin, genericLocalpart_eq, String.toList_append, String.toList_ofList,
    ← Text.meetsCased_point (dotted name), ← Text.sigmasKept_before_iff,
    ← Text.lowerWithin_eq_lower_iff]
  constructor
  · intro hp
    have hparts := List.append_cancel_right (List.prefix_of_prefix_length_le hp
      (List.prefix_append _ _) hlength.le |>.eq_of_length hlength)
    exact hparts.symm
  · intro hp
    rw [hp]
    exact List.prefix_append _ _

end Join

/-- The pattern for what begins with the localpart of a path and a point takes it in, if no backslash
has a meaning there. -/
theorem matching_genericLocalpart_star (cmp : Comparator) {path text : String}
    (hb : '\\' ∉ path.toList) (hp : (genericLocalpart path ++ ".").toList <+: text.toList) :
    cmp.matching (genericLocalpart path ++ ".*") text = true := by
  have hstem : '\\' ∉ (genericLocalpart path).toList := by
    rwa [mem_genericLocalpart_iff (by decide) (by decide +kernel) (by decide) (by decide)]
  obtain ⟨rest, hrest⟩ := hp
  have htext : text = genericLocalpart path ++ "." ++ String.ofList rest := by
    rw [← String.toList_inj, String.toList_append, String.toList_ofList, hrest]
  rw [htext]
  exact Comparator.matching_star_of_not_mem hstem _

/-! ### Name by name -/

/-- **Where the localpart of a path is made name by name.**  For all names, the localpart of the path
along them is that of each name with points between them exactly if the capital sigmas of each name end
words among the others exactly where they do in the name; so it is if there is no capital sigma.  For a
folder in another one, the localpart by the whole path is that of the other folder, a point and that of
its own name exactly if no sigma in which the path ends, or with which the name opens, meets a letter of
the other; it begins with the first two exactly if the former holds; and then the pattern of the other
folder takes it in, unless the path has a backslash. -/
theorem genericLocalpart_by_names :
    (∀ names : List String,
      (genericLocalpart ("/".intercalate names) = ".".intercalate (names.map genericLocalpart) ↔
        ∀ above name below, names = above ++ name :: below →
          SigmasKept (above.flatMap fun n => dotted n ++ ['.']).reverse (dotted name)
            (below.flatMap fun n => '.' :: dotted n)) ∧
      ((∀ name ∈ names, '\u03A3' ∉ name.toList) →
        genericLocalpart ("/".intercalate names) =
          ".".intercalate (names.map genericLocalpart))) ∧
    ∀ path name : String, path ≠ "" → '/' ∉ name.toList →
      let folder := join path name
      let stem := genericLocalpart path
      let meeting := EndsInSigma (dotted path) ∧ meetsCased (dotted name) = true
      lastName folder = name ∧
        (genericLocalpart folder = stem ++ "." ++ genericLocalpart (lastName folder) ↔
          ¬meeting ∧ ¬(meetsCased (dotted path).reverse = true ∧ OpensWithSigma (dotted name))) ∧
        ((stem ++ ".").toList <+: (genericLocalpart folder).toList ↔ ¬meeting) ∧
        (¬meeting → '\\' ∉ path.toList → ∀ cmp : Comparator,
          cmp.matching (stem ++ ".*") (genericLocalpart folder) = true) := by
  refine ⟨fun names => ⟨genericLocalpart_intercalate_iff, fun h => ?_⟩, ?_⟩
  · refine genericLocalpart_intercalate_iff.mpr ?_
    rintro above name below rfl
    exact Text.sigmasKept_of_not_mem (not_mem_dotted (h name (by simp))) _ _
  · intro path name hp hn folder stem meeting
    have hstarts := prefix_genericLocalpart_join_iff hp name
    have hlast : lastName folder = name := lastName_join hn
    refine ⟨hlast, ?_, hstarts, fun hm hb cmp => ?_⟩
    · rw [hlast]
      exact genericLocalpart_join_iff hp name
    · exact matching_genericLocalpart_star cmp hb (hstarts.mpr hm)

/-- A sigma at the end of a name is not at the end of a word if a letter comes behind the point; names
without a sigma keep what they are. -/
theorem genericLocalpart_by_names_sigma :
    genericLocalpart "A\u03A3/B" = "a\u03C3.b" ∧
      ".".intercalate (["A\u03A3", "B"].map genericLocalpart) = "a\u03C2.b" ∧
      ¬((genericLocalpart "A\u03A3" ++ ".").toList <+: (genericLocalpart "A\u03A3/B").toList) ∧
      genericLocalpart "Home bills/Grocery" =
        ".".intercalate (["Home bills", "Grocery"].map genericLocalpart) ∧
      Comparator.exact.matching (genericLocalpart "Home bills" ++ ".*")
        (genericLocalpart "Home bills/Grocery") = true := by
  obtain ⟨hnames, hfolder⟩ := genericLocalpart_by_names
  have hmeeting : EndsInSigma (dotted "A\u03A3") ∧ meetsCased (dotted "B") = true :=
    ⟨⟨['A'], [], by decide +kernel, by decide +kernel, by decide⟩, by decide +kernel⟩
  have hjoin : join "A\u03A3" "B" = "A\u03A3/B" ∧
      join "Home bills" "Grocery" = "Home bills/Grocery" := by decide +kernel
  obtain ⟨-, -, hstarts, -⟩ := hfolder "A\u03A3" "B" (by decide) (by decide)
  obtain ⟨-, -, hstarts', hmatch⟩ := hfolder "Home bills" "Grocery" (by decide) (by decide)
  rw [hjoin.1] at hstarts
  rw [hjoin.2] at hstarts' hmatch
  refine ⟨by decide +kernel, by decide +kernel, fun h => hstarts.mp h hmeeting, ?_, ?_⟩
  · exact (hnames ["Home bills", "Grocery"]).2 (by decide)
  · exact hmatch (hstarts'.mp (by decide +kernel)) (by decide) .exact

/-- Not every path has a localpart that is made name by name, also of names that are not empty and have
no slash: in `AΣ/B` the sigma is no longer at the end of a word. -/
theorem not_genericLocalpart_name_by_name :
    ¬∀ names : List String, (∀ name ∈ names, name ≠ "" ∧ '/' ∉ name.toList) →
      genericLocalpart ("/".intercalate names) =
        ".".intercalate (names.map genericLocalpart) := by
  intro h
  have hnames : genericLocalpart "A\u03A3/B" = "a\u03C2.b" := by
    have hparts : ".".intercalate (["A\u03A3", "B"].map genericLocalpart) = "a\u03C2.b" := by
      decide +kernel
    simpa [← hparts] using h ["A\u03A3", "B"] (by decide)
  exact absurd hnames (by decide +kernel)

end FolderSieve.Folder
