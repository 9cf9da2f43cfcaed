import FolderSieve.Rules.Walk

/-!
# Rules — the script of a configuration

A script is one chain with a branch for each domain, in order.  If the walk of a domain fails
there is no script; the domains before it have been reported by then.
-/

namespace FolderSieve

/-- A result together with what was reported on the way. -/
structure Reported (α : Type) where
  events : List Event
  result : Except Config.Error α

namespace Config.Domain

/-- The rules of a domain.  `force` puts its folders below one named after it even if its options
do not. -/
def rules (d : Domain) (force : Bool) : Reported DomainRules :=
  match d.options.suffixes with
  | .error e => ⟨[], .error e⟩
  | .ok secrets =>
      let w := (DomainRules.empty d.name (d.options.firstFolder || force) secrets).walk d.tree
      match w.failure with
      | some e => ⟨w.warnings, .error e⟩
      | none => ⟨w.warnings, .ok w.rules⟩

end Config.Domain

namespace Script

/-- The branch of a domain. -/
def domainBranch (first : Bool) (r : DomainRules) : Sieve.Command :=
  .branch (if first then .first else .next) (some ("@" ++ r.domain)) (.domainIs r.domain)
    r.commands

/-- How a domain that was compiled is reported. -/
def compiledEvent (r : DomainRules) : Event :=
  .compiled r.domain r.custom.size r.generic.size

/-- The branches of domains, of which the first may open the chain. -/
def branches (force first : Bool) : List Config.Domain → Reported (List Sieve.Command)
  | [] => ⟨[], .ok []⟩
  | d :: ds =>
      let head := d.rules force
      match head.result with
      | .error e => ⟨head.events, .error e⟩
      | .ok r =>
          let tail := branches force false ds
          ⟨head.events ++ compiledEvent r :: tail.events,
            tail.result.map fun cs => domainBranch first r :: cs⟩

/-- The script of a configuration, with a text of the author's before it. -/
def compile (preamble : String) (force : Bool) (domains : List Config.Domain) :
    Reported String :=
  let r := branches force true domains
  ⟨r.events, r.result.map fun cs => preamble ++ Sieve.script cs⟩

end Script

end FolderSieve
