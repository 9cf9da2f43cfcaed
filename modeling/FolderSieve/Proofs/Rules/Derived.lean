import FolderSieve.Proofs.Folder.Localpart
import FolderSieve.Proofs.Rules.Reached
import FolderSieve.Proofs.Sieve.Glob

/-!
# Rules — what derived localparts match

The localparts of a generic rule are made from the last name of its folder, or from the whole path,
with each of the secrets behind it.  They are meant as they stand: for mail to this localpart, and to
what begins with it and a point.  But they are matched as patterns, so that a wildcard or a backslash
that comes from a name or from a secret has its meaning there.

* `Folder.plain_genericLocalpart_iff`: such a character is in a derived localpart exactly if it is in
  the name.
* `DomainRules.derived_literal_iff`: the localparts of a generic rule match what they are meant to
  match, and nothing else, exactly if there is no such character.
-/

namespace FolderSieve

open Sieve (Comparator)

/-- What is made from a name has a special character exactly if the name has one. -/
theorem Folder.plain_genericLocalpart_iff {name : String} :
    (∀ c ∈ (genericLocalpart name).toList, Sieve.Pattern.Plain c) ↔
      ∀ c ∈ name.toList, Sieve.Pattern.Plain c := by
  have hrun := @mem_genericLocalpart_iff '*' (by decide) (by decide +kernel) (by decide) (by decide)
    name
  have hany := @mem_genericLocalpart_iff '?' (by decide) (by decide +kernel) (by decide) (by decide)
    name
  have hescape := @mem_genericLocalpart_iff '\\' (by decide) (by decide +kernel) (by decide)
    (by decide) name
  rw [Sieve.Pattern.forall_plain_iff, Sieve.Pattern.forall_plain_iff, hrun, hany, hescape]

namespace DomainRules

/-- The localparts of a generic rule are made from its path and the secrets, as its options ask. -/
theorem localparts_of_mem_generic {domain : String} {firstFolder : Bool} {secrets : List String}
    {trees : List Config.Node} {e : String × Rule}
    (he : e ∈ ((empty domain firstFolder secrets).walkAll trees).generic.entries) :
    e.2.localparts = genericLocalparts (if secrets.isEmpty then [""] else secrets) e.1
      e.2.options.fullpath := by
  obtain ⟨tree, -, l, -, hl⟩ :=
    exists_located_of_mem_walkAll domain firstFolder secrets trees (o := .generic) he
  simp only [Config.Node.rulesIn, Config.Node.genericRules] at hl
  split at hl
  · rw [List.mem_singleton.mp hl]
  · cases hl

/-- **What the localparts of a generic rule match**, after walks of any trees, failed or not.  There
are two for each secret, or two if there is none: the localpart that is made from the name, or from
the path, with the secret behind it, and the same with `.*` behind it.  Together they match just this
localpart and what begins with it and a point, as far as the comparator can tell, exactly if neither
the name nor the secret has a wildcard or a backslash. -/
theorem derived_literal_iff (cmp : Comparator) (domain : String) (firstFolder : Bool)
    (secrets : List String) (trees : List Config.Node) :
    let d := (empty domain firstFolder secrets).walkAll trees
    let suffixes := if secrets.isEmpty then [""] else secrets
    ∀ e ∈ d.generic.entries,
      let name := if e.2.options.fullpath then e.1 else Folder.lastName e.1
      let derived (suffix : String) := Folder.genericLocalpart name ++ suffix
      e.2.localparts =
          suffixes.flatMap (fun suffix => [derived suffix, derived suffix ++ ".*"]) ∧
        ∀ suffix ∈ suffixes,
          (∀ localpart,
              cmp.matching (derived suffix) localpart = true ∨
                  cmp.matching (derived suffix ++ ".*") localpart = true ↔
                cmp.Same localpart (derived suffix) ∨
                  cmp.StartsWith localpart (derived suffix ++ ".")) ↔
            ∀ c ∈ name.toList ++ suffix.toList, c ≠ '*' ∧ c ≠ '?' ∧ c ≠ '\\' := by
  intro d suffixes e he name derived
  refine ⟨localparts_of_mem_generic he, fun suffix _ => ?_⟩
  rw [Comparator.matching_or_star_iff_plain, String.toList_append, List.forall_mem_append,
    List.forall_mem_append, Folder.plain_genericLocalpart_iff]
  rfl

/-- A star in a name is a wildcard: the rule of the folder `A*` takes mail to `account`.  The rule of
the folder beside it means what it says. -/
theorem derived_literal_iff_star :
    let trees : List Config.Node :=
      [.folders [("A*", .simple (.one "")), ("Home bills", .simple (.one ""))]]
    let d := (empty "a.org" false []).walkAll trees
    let matching := Comparator.exact.matching
    d.generic.entries.map (fun e => (e.1, e.2.localparts)) =
        [("A*", ["a*", "a*.*"]), ("Home bills", ["home-bills", "home-bills.*"])] ∧
      matching "a*" "account" = true ∧ "account" ≠ "a*" ∧
      ¬("a*.".toList <+: "account".toList) ∧
      (¬∀ localpart, matching "a*" localpart = true ∨ matching "a*.*" localpart = true ↔
        localpart = "a*" ∨ "a*.".toList <+: localpart.toList) ∧
      ∀ localpart,
        matching "home-bills" localpart = true ∨ matching "home-bills.*" localpart = true ↔
          localpart = "home-bills" ∨ "home-bills.".toList <+: localpart.toList := by
  intro trees d matching
  have hentries : d.generic.entries =
      [("A*", ⟨["a*", "a*.*"], none, .root⟩),
        ("Home bills", ⟨["home-bills", "home-bills.*"], none, .root⟩)] := by decide +kernel
  have hnames : Folder.lastName "A*" = "A*" ∧ Folder.lastName "Home bills" = "Home bills" := by
    decide +kernel
  have hderived : Folder.genericLocalpart "A*" = "a*" ∧
      Folder.genericLocalpart "Home bills" = "home-bills" := by decide +kernel
  have h := derived_literal_iff .exact "a.org" false [] trees
  have hstar := (h _ (hentries ▸ List.mem_cons_self)).2 "" List.mem_cons_self
  have hbills := (h _ (hentries ▸ List.mem_cons_of_mem _ List.mem_cons_self)).2 ""
    List.mem_cons_self
  simp only [Options.root, Bool.false_eq_true, if_false, hnames, hderived, String.append_empty,
    Comparator.same_exact_iff, Comparator.startsWith_exact_iff] at hstar hbills
  refine ⟨by rw [hentries]; rfl, by decide +kernel, by decide, by decide, ?_, ?_⟩
  · exact fun hall => absurd (hstar.mp hall '*' (by decide)) (by decide)
  · exact hbills.mpr (by simp)

end DomainRules

end FolderSieve
