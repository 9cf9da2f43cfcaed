import FolderSieve.Proofs.Rules.Reordering

/-!
# Rules — folder maps in parts

The top folder map of a domain may be walked in parts, one after the other.  Nothing that a walk does
at the top looks at the map as a whole: whether `self` is alone there plays no part, since it is a
mistake at the top whatever stands beside it, and the top has no rule of its own.

* `Config.Node.steps_top`: the steps of a map at the top are those of its children.
* `DomainRules.walk_append`: the walk of two maps put together is the walk of the first, and then the
  walk of the second unless the first has failed.
* `DomainRules.walk_in_parts`: when the two walks fail, and where they lead.
-/

namespace FolderSieve

namespace Config.Node

/-- At the top it makes no difference to a name whether it is alone. -/
theorem nameMistake?_top (name : String) (alone : Bool) :
    nameMistake? "" name alone = nameMistake? "" name false := by
  unfold nameMistake?
  rfl

section Steps

variable {secrets : List String} {inherited : Options}

theorem childrenSteps_top (alone : Bool) (children : List (String × Node)) :
    childrenSteps secrets "" inherited alone children =
      childrenSteps secrets "" inherited false children := by
  rw [childrenSteps_eq_flatMap, childrenSteps_eq_flatMap]
  simp only [nameMistake?_top _ alone]

theorem childrenSteps_append (path : String) (alone : Bool)
    (children more : List (String × Node)) :
    childrenSteps secrets path inherited alone (children ++ more) =
      childrenSteps secrets path inherited alone children ++
        childrenSteps secrets path inherited alone more := by
  simp only [childrenSteps_eq_flatMap, List.flatMap_append]

/-- **The steps of a folder map at the top** are those of its children, if it has any. -/
theorem steps_top {children : List (String × Node)} (h : children ≠ []) :
    (folders children).steps secrets "" inherited =
      childrenSteps secrets "" (Folder.pin "" inherited) false children := by
  have hgeneric (options : Options) : genericSteps secrets "" none options = [] :=
    if_neg fun hp => hp.1 rfl
  rw [steps, if_neg (by simpa using h), childrenSteps_top]
  simp only [hgeneric, List.append_nil]

end Steps

end Config.Node

namespace DomainRules

/-- **The walk of two folder maps put together** is the walk of the one, and then of the other. -/
theorem walk_append (d : DomainRules) {here there : List (String × Config.Node)}
    (h : here ≠ []) (h' : there ≠ []) :
    d.walk (.folders (here ++ there)) =
      (d.walk (.folders here)).andThen fun d => d.walk (.folders there) := by
  have hsteps : (Config.Node.folders (here ++ there)).steps d.secrets "" .root =
      (Config.Node.folders here).steps d.secrets "" .root ++
        (Config.Node.folders there).steps d.secrets "" .root := by
    rw [Config.Node.steps_top h, Config.Node.steps_top h',
      Config.Node.steps_top (List.append_ne_nil_of_left_ne_nil h there),
      Config.Node.childrenSteps_append]
  unfold walk
  simp only [hsteps, follow_append, Walked.andThen]
  cases hf : (d.follow ((Config.Node.folders here).steps d.secrets "" .root)).failure with
  | some e => simp [hf]
  -- the first walk leaves the name and the secrets of the domain to the second
  | none => simp [follow_rules hf]

/-- **A folder map in parts**, whatever rules there were.  The walks of the parts, one after the
other, do not fail exactly if the walk of the whole does not.  The rules are then the same, and with
them what is written of them, and the whole warns of what the parts warn of.  So it is if the second
part fails, for the same mistake; if the first one fails then the walk of the whole ends there. -/
theorem walk_in_parts (d : DomainRules) {here there : List (String × Config.Node)}
    (h : here ≠ []) (h' : there ≠ []) :
    let first := d.walk (.folders here)
    let second := first.rules.walk (.folders there)
    let whole := d.walk (.folders (here ++ there))
    (first.failure = none ∧ second.failure = none ↔ whole.failure = none) ∧
      (first.failure = none → whole.rules = second.rules ∧
        whole.warnings = first.warnings ++ second.warnings ∧ whole.failure = second.failure) ∧
      (first.failure ≠ none → whole = first) := by
  intro first second whole
  have hwhole : whole = first.andThen fun d => d.walk (.folders there) := walk_append d h h'
  cases hf : first.failure with
  | some e =>
      have hw : whole = first := by rw [hwhole, Walked.andThen, hf]
      simp [hw, hf]
  | none =>
      have hw : whole = { second with warnings := first.warnings ++ second.warnings } := by
        rw [hwhole, Walked.andThen, hf]
      simp [hw]

/-- Two parts behind a rule from before, with a warning in each of them. -/
theorem walk_in_parts_unknown :
    let d := ((empty "a.org" true []).walk (.folders [("A", .simple (.one "x"))])).rules
    let here := [("Unknown", Config.Node.full (.one "y") none (some { generic := some true }))]
    let there := [("B", Config.Node.simple (.one "b")),
      ("Unknown/Spam", .full (.one "z") none (some { silent := some false }))]
    let first := d.walk (.folders here)
    let second := first.rules.walk (.folders there)
    let whole := d.walk (.folders (here ++ there))
    here ≠ [] ∧ there ≠ [] ∧ first.failure = none ∧ second.failure = none ∧ whole.failure = none ∧
      whole.rules = second.rules ∧
      whole.rules.custom.entries.map (·.1) = ["A", "Unknown", "B", "Unknown/Spam"] ∧
      whole.warnings = [.optionsIgnored "Unknown" { generic := some true },
        .optionsIgnored "Unknown/Spam" { silent := some false }] := by
  intro d here there first second whole
  have h : here ≠ [] := by simp [here]
  have h' : there ≠ [] := by simp [there]
  have hfirst : first.failure = none := by decide +kernel
  have hsecond : second.failure = none := by decide +kernel
  obtain ⟨hiff, hsame, -⟩ := walk_in_parts d h h'
  obtain ⟨hrules, hwarnings, -⟩ := hsame hfirst
  exact ⟨h, h', hfirst, hsecond, hiff.mp ⟨hfirst, hsecond⟩, hrules, by decide +kernel,
    hwarnings.trans (by decide +kernel)⟩

end DomainRules

end FolderSieve
