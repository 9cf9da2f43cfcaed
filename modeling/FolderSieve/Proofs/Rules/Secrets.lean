import FolderSieve.Proofs.Rules.Derived
import FolderSieve.Proofs.Rules.Routing

/-!
# Rules — secrets

Every localpart of a generic rule has a secret in it, behind text that comes from folder names and
may hold wildcards and backslashes.  Neither of these can spend a character of the secret on
anything else, so what matches such a localpart contains the secret.

* `DomainRules.contains_of_mem_generic`: mail to a generic rule is addressed with a secret.
* `DomainRules.secrets_gate_generic`: mail without a secret goes to a custom rule or to the catch-all.
-/

namespace FolderSieve

open Sieve (Comparator)
open Sieve.Statement

/-- Only mail to a localpart with a secret matches one made from a name and the secrets. -/
theorem contains_of_genericLocalparts {cmp : Comparator} {secrets : List String}
    (hs : ∀ s ∈ secrets, ∀ c ∈ s.toList, Sieve.Pattern.Plain c) {path : String} {fullpath : Bool}
    {pattern localpart : String} (hp : pattern ∈ genericLocalparts secrets path fullpath)
    (hm : cmp.matching pattern localpart = true) :
    ∃ s ∈ secrets, cmp.Contains localpart s := by
  obtain ⟨s, hsecret, hp⟩ := List.mem_flatMap.mp hp
  refine ⟨s, hsecret, ?_⟩
  rcases List.mem_cons.mp hp with rfl | hp
  · rw [← String.append_empty (s := _ ++ s)] at hm
    exact Comparator.contains_of_matching (hs s hsecret) hm
  · obtain rfl := List.mem_singleton.mp hp
    exact Comparator.contains_of_matching (hs s hsecret) hm

namespace DomainRules

section Walked

variable {domain : String} {firstFolder : Bool} {secrets : List String}
  {trees : List Config.Node}

/-- **Mail to a generic rule** is addressed with a secret. -/
theorem contains_of_mem_generic {cmp : Comparator} (hn : secrets ≠ [])
    (hs : ∀ s ∈ secrets, ∀ c ∈ s.toList, Sieve.Pattern.Plain c) {e : String × Rule}
    (he : e ∈ ((empty domain firstFolder secrets).walkAll trees).generic.entries)
    {pattern localpart : String} (hp : pattern ∈ e.2.localparts)
    (hm : cmp.matching pattern localpart = true) :
    ∃ s ∈ secrets, cmp.Contains localpart s := by
  have hl := localparts_of_mem_generic he
  rw [if_neg (by simpa using hn)] at hl
  exact contains_of_genericLocalparts hs (hl ▸ hp) hm

end Walked

/-- **Secrets gate every generic rule**, after walks of any trees, failed or not, and whatever the
folders are called, if no secret has a wildcard or a backslash.  All mail to a localpart of a generic
rule is addressed with a secret; mail without one is for a custom rule or for the catch-all. -/
theorem secrets_gate_generic (cmp : Comparator) (domain : String) (firstFolder : Bool)
    {secrets : List String} (hn : secrets ≠ [])
    (hs : ∀ s ∈ secrets, '*' ∉ s.toList ∧ '?' ∉ s.toList ∧ '\\' ∉ s.toList)
    (trees : List Config.Node) :
    let d := (empty domain firstFolder secrets).walkAll trees
    let home := if firstFolder then "@" ++ domain ++ "/" else ""
    let script := rowMovedIn 0 (d.statements Folder.chain)
    Sieve.readScript (Sieve.script d.commands) = some script ∧
      (∀ e ∈ d.generic.entries, ∀ pattern ∈ e.2.localparts, ∀ localpart,
        cmp.matching pattern localpart = true → ∃ s ∈ secrets, cmp.Contains localpart s) ∧
      ∀ m : Sieve.Message, (∀ s ∈ secrets, ¬cmp.Contains m.localpart s) →
        let run := Sieve.performRow (m.passes cmp.matching)
        (∃ e ∈ d.custom.entries, d.ruleFor cmp.matching m.localpart = some e ∧
          run script = run (rowMovedIn 1 (e.2.labelStatements e.1 ++
            Rule.filingStatements home (Folder.chain e.1)))) ∨
        d.ruleFor cmp.matching m.localpart = none ∧
          run script = [Sieve.addFlag Sieve.seenFlag, Sieve.fileInto Folder.unknown] := by
  intro d home script
  have hplain : ∀ s ∈ secrets, ∀ c ∈ s.toList, Sieve.Pattern.Plain c := by
    rintro s hsecret c hc
    obtain ⟨hrun, hany, hescape⟩ := hs s hsecret
    exact ⟨fun h => hrun (h ▸ hc), fun h => hany (h ▸ hc), fun h => hescape (h ▸ hc)⟩
  have hgeneric : ∀ e ∈ d.generic.entries, ∀ pattern ∈ e.2.localparts, ∀ localpart,
      cmp.matching pattern localpart = true → ∃ s ∈ secrets, cmp.Contains localpart s :=
    fun e he pattern hp localpart hm => contains_of_mem_generic hn hplain he hp hm
  refine ⟨(reads_commands (readable_walkAll domain firstFolder secrets trees)).readScript,
    hgeneric, fun m hm => ?_⟩
  intro run
  have hrun : run script = _ := performRow_statements cmp.matching m
    (home_walkAll domain firstFolder secrets trees .custom)
    (home_walkAll domain firstFolder secrets trees .generic)
  cases hr : d.ruleFor cmp.matching m.localpart with
  | none => exact .inr ⟨rfl, by rw [hrun, hr]⟩
  | some e =>
      have hblock : run script = run (rowMovedIn 1 (e.2.labelStatements e.1 ++
          Rule.filingStatements home (Folder.chain e.1))) := by
        rw [hrun, hr]
        rfl
      refine .inl ⟨e, ?_, rfl, hblock⟩
      rcases List.mem_append.mp (List.mem_of_find?_eq_some hr) with he | he
      · exact mem_sortBy.mp he
      · -- a generic rule asks for a secret, which the localpart lacks
        have hmatch := List.find?_some hr
        obtain ⟨pattern, hp, hmatch⟩ := List.any_eq_true.mp hmatch
        obtain ⟨s, hsecret, hc⟩ := hgeneric e (mem_sortBy.mp he) pattern hp m.localpart hmatch
        exact absurd hc (hm s hsecret)

/-- A name with a wildcard, and a backslash that stands before the secret in the localparts made
from it. -/
theorem secrets_gate_generic_backslash :
    let trees : List Config.Node := [.folders [("A*\\", .simple (.one "pay"))]]
    let d := (empty "a.org" false ["+s"]).walkAll trees
    let cmp := Comparator.ignoringCase
    let run (localpart : String) :=
      Sieve.performRow ((⟨localpart, fun _ => true, fun _ _ => false⟩ : Sieve.Message).passes
        cmp.matching) (rowMovedIn 0 (d.statements Folder.chain))
    d.generic.entries.map (·.2.localparts) = [["a*\\+s", "a*\\+s.*"]] ∧
      cmp.matching "a*\\+s" "account+S" = true ∧ cmp.Contains "account+S" "+s" ∧
      (∃ e ∈ d.custom.entries, d.ruleFor cmp.matching "pay" = some e) ∧
      run "account" = [Sieve.addFlag Sieve.seenFlag, Sieve.fileInto Folder.unknown] := by
  intro trees d cmp run
  obtain ⟨-, hgeneric, hwithout⟩ :=
    @secrets_gate_generic cmp "a.org" false ["+s"] (by decide) (by decide) trees
  have hlocalparts : d.generic.entries.map (·.2.localparts) = [["a*\\+s", "a*\\+s.*"]] := by
    decide +kernel
  have hmatch : cmp.matching "a*\\+s" "account+S" = true := by decide +kernel
  obtain ⟨e, he, hl⟩ : ∃ e ∈ d.generic.entries, e.2.localparts = ["a*\\+s", "a*\\+s.*"] :=
    List.mem_map.mp (hlocalparts ▸ List.mem_singleton_self _)
  obtain ⟨s, hs, hcontains⟩ := hgeneric e he _ (by simp [hl]) _ hmatch
  obtain rfl := List.mem_singleton.mp hs
  obtain ⟨e, he, hr, -⟩ := (hwithout ⟨"pay", fun _ => true, fun _ _ => false⟩
    (by decide +kernel)).resolve_right (by decide +kernel)
  obtain ⟨-, hrun⟩ := (hwithout ⟨"account", fun _ => true, fun _ _ => false⟩
    (by decide +kernel)).resolve_left (by decide +kernel)
  exact ⟨hlocalparts, hmatch, hcontains, ⟨e, he, hr⟩, hrun⟩

end DomainRules

end FolderSieve
