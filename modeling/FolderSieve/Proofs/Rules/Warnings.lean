import FolderSieve.Proofs.Rules.Unknown
import FolderSieve.Proofs.Rules.Visits

/-!
# Rules — warnings

A walk warns of a full filter that it comes to in the catch-all folder, if the filter writes an
option against what is settled there, and of nothing else.

* `Config.Node.warning?_eq_some_iff`: the node that a walk warns of, and the words.
* `Config.Node.warnings_eq_filterMap`: a walk warns of the nodes it comes to, in order.
* `DomainRules.warnings_exact`: all that a walk warns of, whatever rules there were.
-/

namespace FolderSieve

namespace DomainRules

theorem Walked.warnings_andThen (w : Walked) (next : DomainRules → Walked) :
    (w.andThen next).warnings =
      w.warnings ++ if w.failure.isSome then [] else (next w.rules).warnings := by
  unfold andThen
  cases h : w.failure <;> simp

/-- Steps that do not warn leave no warning. -/
theorem warnings_follow_of_quiet {steps : List WalkStep}
    (h : ∀ s ∈ steps, ∀ path written, s ≠ .warn path written) (d : DomainRules) :
    (d.follow steps).warnings = [] := by
  induction steps generalizing d with
  | nil => rfl
  | cons s steps ih =>
      obtain ⟨hs, hrest⟩ := List.forall_mem_cons.mp h
      cases s with
      | fail e => rfl
      | warn path written => exact absurd rfl (hs path written)
      | register x =>
          rw [follow]
          split
          · rfl
          · exact ih hrest _

end DomainRules

namespace Config.Node

/-- What is warned of at the node at `path`, if anything. -/
def warning? (path : String) : Node → Option Event
  | .full _ _ (some written) =>
      if Folder.isUnknown path && contradictsUnknown written then
        some (.optionsIgnored path written)
      else none
  | _ => none

/-- **A warning** is of a full filter that writes an option of the catch-all folder otherwise. -/
theorem warning?_eq_some_iff {path : String} {node : Node} {event : Event} :
    node.warning? path = some event ↔ ∃ localparts labels written,
      node = .full localparts labels (some written) ∧
        (path = "Unknown" ∨ ∃ rest, path = "Unknown/" ++ rest) ∧
        (written.generic = some true ∨ written.silent = some false) ∧
          event = .optionsIgnored path written := by
  rw [← Folder.isUnknown_iff_exists]
  constructor
  · intro h
    unfold warning? at h
    split at h
    · split at h
      · rename_i localparts labels written hw
        cases h
        obtain ⟨hu, hc⟩ := Bool.and_eq_true_iff.mp hw
        exact ⟨localparts, labels, written, rfl, hu, by simpa [contradictsUnknown] using hc, rfl⟩
      · cases h
    · cases h
  · rintro ⟨localparts, labels, written, rfl, hu, hc, rfl⟩
    exact if_pos (by simpa [contradictsUnknown, hu] using hc)

section Warnings

variable {secrets : List String}

theorem warnings_filter {node : Node} {x : OneOrMany} (hx : node.localparts? = some x)
    (d : DomainRules) (path : String) (inherited : Options) :
    (d.follow (node.steps secrets path inherited)).warnings = (node.warning? path).toList := by
  obtain ⟨own, hs, hown⟩ := @exists_steps_filter secrets node x hx path inherited
  have hquiet : ∀ d : DomainRules, (d.follow own).warnings = [] :=
    DomainRules.warnings_follow_of_quiet fun s h => (hown s h).2
  rw [hs]
  unfold warningSteps warning? warnSteps
  split
  · split <;> simp_all [DomainRules.follow]
  · simp [hquiet]

mutual

/-- **A walk warns of the nodes that it comes to**, in order. -/
theorem warnings_eq_filterMap : ∀ (node : Node) (d : DomainRules) (path : String)
    (inherited : Options), (d.follow (node.steps secrets path inherited)).warnings =
      (node.visited secrets d path inherited).filterMap fun q => q.2.warning? q.1
  | .simple _, d, path, inherited => warnings_filter rfl d path inherited
  | .full x labels written, d, path, inherited => by
      rw [warnings_filter rfl d path inherited, visited, List.filterMap_cons, List.filterMap_nil]
      cases warning? path (.full x labels written) <;> rfl
  | .folders children, d, path, inherited => by
      rw [visited, List.filterMap_cons]
      by_cases hc : children = []
      · subst hc
        rfl
      · obtain ⟨options, hw⟩ := @follow_steps_folders secrets d path inherited children hc
        -- a folder map gives no cause for a warning, and neither does its generic rule
        have hown : ∀ d : DomainRules,
            (d.follow (genericSteps secrets path none options)).warnings = [] := by
          refine DomainRules.warnings_follow_of_quiet fun s hs => ?_
          obtain ⟨x, rfl, -⟩ := exists_of_mem_genericSteps hs
          nofun
        rw [hw, DomainRules.Walked.warnings_andThen, hown, ite_self, List.append_nil]
        exact warnings_eq_filterMap_children children d path _ _

theorem warnings_eq_filterMap_children : ∀ (children : List (String × Node)) (d : DomainRules)
    (path : String) (inherited : Options) (alone : Bool),
    (d.follow (childrenSteps secrets path inherited alone children)).warnings =
      (visitedChildren secrets d path inherited alone children).filterMap fun q => q.2.warning? q.1
  | [], _, _, _, _ => rfl
  | (name, node) :: rest, d, path, inherited, alone => by
      cases hm : nameMistake? path name alone with
      | some e =>
          rw [childrenSteps, hm, visitedChildren, hm]
          rfl
      | none =>
          rw [follow_childrenSteps_cons d path inherited hm, visitedChildren, hm,
            DomainRules.Walked.warnings_andThen, warnings_eq_filterMap node]
          have hrest := fun d => warnings_eq_filterMap_children rest d path inherited alone
          split <;> simp_all

end

end Warnings

end Config.Node

/-- The words in which a walk warns. -/
theorem Event.message_optionsIgnored (path : String) (written : Override) :
    (optionsIgnored path written).message = "Folder " ++ path ++
      " is under Unknown: ignoring generic=" ++ optionText written.generic ++ " silent=" ++
        optionText written.silent := by
  have hmessage : (optionsIgnored path written).message = "Folder " ++ path ++
      " is under Unknown: ignoring generic=" ++ optionText written.generic ++ " " ++
        ("silent=" ++ optionText written.silent) := rfl
  have hsilent (s : String) : " " ++ ("silent=" ++ s) = " silent=" ++ s := by
    rw [← String.append_assoc]
    rfl
  rw [hmessage]
  simp only [String.append_assoc, hsilent]

namespace DomainRules

/-- A walk warns of the nodes that it comes to, in order. -/
theorem warnings_walk (d : DomainRules) (tree : Config.Node) :
    (d.walk tree).warnings = (d.visited tree).filterMap fun q => q.2.warning? q.1 := by
  cases tree with
  | simple => rfl
  | full => rfl
  | folders children => exact Config.Node.warnings_eq_filterMap (.folders children) d "" .root

/-- What a walk adds in the catch-all folder is custom and has the options that are settled there. -/
theorem pinned_walk (d : DomainRules) (tree : Config.Node) :
    ∃ es, (d.walk tree).rules = d.extend es ∧ ∀ o, ∀ e ∈ es o,
      Folder.isUnknown e.1 = true → o = .custom ∧ e.2.options = ⟨false, false, true⟩ := by
  obtain ⟨es, hr, -, -, hes⟩ := walk_eq_extend d tree
  refine ⟨es, hr, fun o e he hu => ?_⟩
  obtain ⟨l, -, hl⟩ := List.mem_flatMap.mp ((hes o).subset he)
  obtain ⟨ho, hg⟩ := Config.Node.options_of_mem_rulesIn hl
  rw [Config.Node.fst_of_mem_rulesIn hl] at hu
  refine ⟨?_, by rw [ho, Folder.settled, if_pos hu]⟩
  cases o with
  | custom => rfl
  | generic =>
      rw [(hg rfl).1] at hu
      cases hu

/-- **Warnings are exact**, whatever rules there were and whether the walk fails or not.  A walk warns
of the nodes that it comes to, in order: once of each full filter of the catch-all folder, known by
its path, that writes `generic` as true or `silent` as false, with the path and what is written.  It
comes to the first nodes of the tree, to all of them if it does not fail, and to the one at whose
path it fails.  What it adds in the catch-all folder has the options that are settled there. -/
theorem warnings_exact (d : DomainRules) (tree : Config.Node) :
    (d.walk tree).warnings = (d.visited tree).filterMap (fun q => q.2.warning? q.1) ∧
    (∀ path node event, Config.Node.warning? path node = some event ↔
      ∃ localparts labels written, node = .full localparts labels (some written) ∧
        (path = "Unknown" ∨ ∃ rest, path = "Unknown/" ++ rest) ∧
        (written.generic = some true ∨ written.silent = some false) ∧
          event = .optionsIgnored path written) ∧
    (∀ path written, (Event.optionsIgnored path written).level = .warning ∧
      (Event.optionsIgnored path written).message = "Folder " ++ path ++
        " is under Unknown: ignoring generic=" ++ Event.optionText written.generic ++ " silent=" ++
          Event.optionText written.silent) ∧
    (∃ rest, tree.topDown "" = d.visited tree ++ rest ∧
      ((d.walk tree).failure = none → rest = [])) ∧
    (∀ children e, tree = .folders children → (d.walk tree).failure = some e →
      e.place.folder ∈ (d.visited tree).map (·.1)) ∧
    ∃ es, (d.walk tree).rules = d.extend es ∧ ∀ o, ∀ e ∈ es o,
      (e.1 = "Unknown" ∨ ∃ rest, e.1 = "Unknown/" ++ rest) →
        o = .custom ∧ e.2.options = ⟨false, false, true⟩ := by
  refine ⟨warnings_walk d tree, fun _ _ _ => Config.Node.warning?_eq_some_iff,
    fun path written => ⟨rfl, Event.message_optionsIgnored path written⟩,
    topDown_eq_visited_append d tree, ?_, ?_⟩
  · rintro children e rfl he
    exact (d.within_walk children).failure e he
  · obtain ⟨es, hr, hes⟩ := pinned_walk d tree
    exact ⟨es, hr, fun o e he hu => hes o e he (Folder.isUnknown_iff_exists.mpr hu)⟩

/-- Behind a rule from before, the walk ends at a filter that is warned of all the same; one behind
it is not come to, and one that writes what is settled is not warned of. -/
theorem warnings_exact_failing :
    let d := ((empty "a.org" false []).walk (.folders [("Unknown/C", .simple (.one "x"))])).rules
    let tree : Config.Node := .folders
      [("Unknown", .folders
        [("A", .full (.one "a") none (some { generic := some true, silent := some false })),
          ("B", .full (.one "b") none (some { generic := some false, silent := some true })),
          ("C", .full (.one "c") none (some { silent := some false })),
          ("D", .full (.one "d") none (some { generic := some true }))])]
    let w := d.walk tree
    (d.visited tree).map (·.1) = ["", "Unknown", "Unknown/A", "Unknown/B", "Unknown/C"] ∧
      w.failure = some ⟨.ruleTwice "Custom", { domain := "a.org", folder := "Unknown/C" }⟩ ∧
      w.warnings = [.optionsIgnored "Unknown/A" { generic := some true, silent := some false },
        .optionsIgnored "Unknown/C" { silent := some false }] ∧
      w.rules.custom.entries.map (·.1) = ["Unknown/C", "Unknown/A", "Unknown/B"] := by
  intro d tree w
  obtain ⟨hw, -⟩ := warnings_exact d tree
  exact ⟨by decide +kernel, by decide +kernel, hw.trans (by decide +kernel), by decide +kernel⟩

end DomainRules

end FolderSieve
