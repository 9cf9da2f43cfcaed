import Mathlib.Data.List.Infix
import FolderSieve.Proofs.Config.Positions
import FolderSieve.Proofs.Rules.Fault

/-!
# Rules — the nodes a walk comes to

A walk comes to a folder map before what it holds, and to what stands under a name if nothing is
wrong with the name and nothing before it has failed.  So it comes to the first of the nodes of the
tree in document order, and each has there the path that it was decoded at.

* `DomainRules.visited`: the nodes that a walk comes to, with their paths.
* `Config.Node.visited_prefix_topDown`, `Config.Node.visited_eq_topDown`: they are the first nodes of
  the tree, and all of them if the walk does not fail.
* `Config.Node.within_visited`: whatever a walk leaves behind, its rules and its mistake, has the path
  of a node that it came to.
* `Config.Node.decode_walk_paths`: a value is decoded and walked at the same paths.
-/

namespace FolderSieve

open Json (Members Value)

/-! ### What stays at given paths -/

namespace DomainRules

/-- Rules are added at the given paths only, and the mistake, if there is one, stands at one of them. -/
structure Within (d : DomainRules) (paths : List String) (w : Walked) : Prop where
  rules : ∃ es, w.rules = d.extend es ∧ ∀ o, ∀ e ∈ es o, e.1 ∈ paths
  failure : ∀ e, w.failure = some e → e.place.folder ∈ paths

namespace Within

variable {d : DomainRules} {paths more : List String} {w : Walked}

/-- Nothing is done. -/
theorem nothing : Within d paths ⟨d, [], none⟩ :=
  ⟨⟨fun _ => [], by simp, by simp⟩, fun _ h => by cases h⟩

/-- Nothing is done for a mistake. -/
theorem of_mistake {e : Config.Error} {path : String} (he : e.place.folder = path) :
    Within d [path] ⟨d, [], some e⟩ := by
  refine ⟨⟨fun _ => [], by simp, by simp⟩, ?_⟩
  rintro _ ⟨⟩
  exact List.mem_singleton.mpr he

theorem mono (h : Within d paths w) (hp : paths ⊆ more) : Within d more w where
  rules := by
    obtain ⟨es, hr, hes⟩ := h.rules
    exact ⟨es, hr, fun o e he => hp (hes o e he)⟩
  failure e he := hp (h.failure e he)

theorem andThen {next : DomainRules → Walked} (h : Within d paths w)
    (hn : w.failure = none → Within w.rules paths (next w.rules)) :
    Within d paths (w.andThen next) := by
  unfold Walked.andThen
  cases hw : w.failure with
  | some e => exact h
  | none =>
      obtain ⟨es, hr, hes⟩ := h.rules
      obtain ⟨fs, hr', hfs⟩ := (hn hw).rules
      refine ⟨⟨fun o => es o ++ fs o, ?_, fun o => ?_⟩, (hn hw).failure⟩
      · rw [← extend_extend, ← hr, ← hr']
      · exact List.forall_mem_append.mpr ⟨hes o, hfs o⟩

end Within

end DomainRules

theorem Registration.fst_of_mem_addedTo {o : Origin} {x : Registration} {e : String × Rule}
    (h : e ∈ x.addedTo o) : e.1 = x.path := by
  unfold addedTo added at h
  split at h
  · split at h
    · cases h
    · rw [List.mem_singleton.mp h]
  · cases h

theorem DomainRules.Walked.failure_andThen_eq_none_iff {w : Walked} {next : DomainRules → Walked} :
    (w.andThen next).failure = none ↔ w.failure = none ∧ (next w.rules).failure = none := by
  unfold andThen
  cases h : w.failure <;> simp [h]

/-- The path that a step is about. -/
def WalkStep.path : WalkStep → String
  | .register x => x.path
  | .warn path _ => path
  | .fail e => e.place.folder

namespace DomainRules

/-- Steps stay where they are about. -/
theorem within_follow (d : DomainRules) (path : String) {steps : List WalkStep}
    (h : ∀ s ∈ steps, s.path = path) : Within d [path] (d.follow steps) := by
  induction steps generalizing d with
  | nil => exact .nothing
  | cons s steps ih =>
      obtain ⟨hs, hrest⟩ := List.forall_mem_cons.mp h
      cases s with
      | fail e => exact .of_mistake hs
      | warn p written => exact ⟨(ih d hrest).rules, (ih d hrest).failure⟩
      | register x =>
          rw [follow]
          split
          · rename_i e hx
            exact .of_mistake ((register_eq_error hx).1.trans hs)
          · rename_i d' hx
            obtain ⟨-, -, rfl⟩ := register_eq_ok_iff.mp hx
            obtain ⟨es, hr, hes⟩ := (ih (d.extend x.addedTo) hrest).rules
            refine ⟨⟨fun o => x.addedTo o ++ es o, by rw [hr, extend_extend], fun o => ?_⟩,
              (ih _ hrest).failure⟩
            refine List.forall_mem_append.mpr ⟨fun e he => ?_, hes o⟩
            rw [← hs]
            exact List.mem_singleton.mpr (Registration.fst_of_mem_addedTo he)

end DomainRules

namespace Config.Node

open DomainRules

/-! ### The nodes that a walk comes to -/

section Visited

variable (secrets : List String)

mutual

/-- The nodes that the walk of a node at `path` comes to, with their paths, if the rules there are
are `d`. -/
def visited (d : DomainRules) (path : String) (inherited : Options) : Node → List (String × Node)
  | .simple localparts => [(path, .simple localparts)]
  | .full localparts labels written => [(path, .full localparts labels written)]
  | .folders children =>
      (path, .folders children) ::
        visitedChildren d path (Folder.pin path inherited) (children.length == 1) children

/-- The nodes that the walks of the children of a folder map come to. -/
def visitedChildren (d : DomainRules) (path : String) (inherited : Options) (alone : Bool) :
    List (String × Node) → List (String × Node)
  | [] => []
  | (name, node) :: rest =>
      if (nameMistake? path name alone).isSome then []
      else
        let w := d.follow (node.steps secrets (Folder.child path name) inherited)
        visited d (Folder.child path name) inherited node ++
          if w.failure.isSome then [] else visitedChildren w.rules path inherited alone rest

end

variable {secrets}

/-! ### The first nodes of the tree -/

theorem exists_of_mem_genericSteps {path : String} {labels : Option Labels} {options : Options}
    {s : WalkStep} (h : s ∈ genericSteps secrets path labels options) :
    ∃ x, s = .register x ∧ x.path = path := by
  unfold genericSteps at h
  split at h
  · exact ⟨_, List.mem_singleton.mp h, rfl⟩
  · cases h

/-- The walk of a folder map is that of what it holds, and then its own generic rule. -/
theorem follow_steps_folders (d : DomainRules) (path : String) (inherited : Options)
    {children : List (String × Node)} (hc : children ≠ []) :
    ∃ options, d.follow ((Node.folders children).steps secrets path inherited) =
      (d.follow (childrenSteps secrets path (Folder.pin path inherited) (children.length == 1)
        children)).andThen fun d => d.follow (genericSteps secrets path none options) :=
  ⟨_, by rw [steps, if_neg (by simpa using hc), follow_append]⟩

/-- The walk of children is that of the first, if nothing is wrong with its name, and then that of
the others. -/
theorem follow_childrenSteps_cons (d : DomainRules) (path : String) (inherited : Options)
    {alone : Bool} {name : String} (hm : nameMistake? path name alone = none) (node : Node)
    (rest : List (String × Node)) :
    d.follow (childrenSteps secrets path inherited alone ((name, node) :: rest)) =
      (d.follow (node.steps secrets (Folder.child path name) inherited)).andThen fun d =>
        d.follow (childrenSteps secrets path inherited alone rest) := by
  rw [childrenSteps, hm, follow_append]

mutual

/-- **A walk comes to the first nodes** of the tree in document order, and to all of them if it does
not fail. -/
theorem topDown_eq_visited_append : ∀ (node : Node) (d : DomainRules) (path : String)
    (inherited : Options), ∃ rest, node.topDown path = node.visited secrets d path inherited ++ rest ∧
      ((d.follow (node.steps secrets path inherited)).failure = none → rest = [])
  | .simple _, _, _, _ => ⟨[], rfl, fun _ => rfl⟩
  | .full .., _, _, _ => ⟨[], rfl, fun _ => rfl⟩
  | .folders children, d, path, inherited => by
      obtain ⟨rest, ht, hrest⟩ := topDownChildren_eq_visitedChildren_append children d path
        (Folder.pin path inherited) (children.length == 1)
      refine ⟨rest, by rw [topDown, visited, ht, List.cons_append], fun h => hrest ?_⟩
      -- the rule of the folder map itself comes behind its children, so they have not failed
      by_cases hc : children = []
      · rw [hc]
        rfl
      · obtain ⟨options, hw⟩ := follow_steps_folders d path inherited hc
        rw [hw] at h
        exact (Walked.failure_andThen_eq_none_iff.mp h).1

theorem topDownChildren_eq_visitedChildren_append : ∀ (children : List (String × Node))
    (d : DomainRules) (path : String) (inherited : Options) (alone : Bool),
    ∃ rest, topDownChildren path children =
        visitedChildren secrets d path inherited alone children ++ rest ∧
      ((d.follow (childrenSteps secrets path inherited alone children)).failure = none → rest = [])
  | [], _, _, _, _ => ⟨[], rfl, fun _ => rfl⟩
  | (name, node) :: more, d, path, inherited, alone => by
      obtain ⟨left, hl, hleft⟩ := topDown_eq_visited_append node d (Folder.child path name) inherited
      cases hm : nameMistake? path name alone with
      | some e => exact ⟨_, by rw [visitedChildren, hm]; rfl, by rw [childrenSteps, hm]; nofun⟩
      | none =>
          rw [follow_childrenSteps_cons d path inherited hm, topDownChildren, visitedChildren, hm]
          cases hw : (d.follow (node.steps secrets (Folder.child path name) inherited)).failure with
          | some e =>
              refine ⟨left ++ topDownChildren path more, by simp [hl, hw], fun h => ?_⟩
              rw [(Walked.failure_andThen_eq_none_iff.mp h).1] at hw
              cases hw
          | none =>
              obtain ⟨rest, hr, hrest⟩ := topDownChildren_eq_visitedChildren_append more
                (d.follow (node.steps secrets (Folder.child path name) inherited)).rules path
                inherited alone
              refine ⟨rest, by simp [hl, hleft hw, hr, hw], fun h => hrest ?_⟩
              exact (Walked.failure_andThen_eq_none_iff.mp h).2

end

/-! ### What a walk leaves behind -/

theorem exists_of_mem_fullpathSteps {path : String} {written : Override} {options : Options}
    {s : WalkStep} (h : s ∈ fullpathSteps path written options) :
    ∃ e, s = .fail e ∧ e.place.folder = path := by
  unfold fullpathSteps at h
  repeat' split at h
  · cases h
  · exact ⟨_, List.mem_singleton.mp h, rfl⟩
  · exact ⟨_, List.mem_singleton.mp h, rfl⟩
  · cases h

/-- The warning that the node at `path` gives cause for. -/
def warningSteps (path : String) : Node → List WalkStep
  | .full _ _ (some written) => warnSteps path written
  | _ => []

/-- The steps of a filter are about its path, and behind its warning none warns. -/
theorem exists_steps_filter {node : Node} {x : OneOrMany} (hx : node.localparts? = some x)
    (path : String) (inherited : Options) :
    ∃ own, node.steps secrets path inherited = node.warningSteps path ++ own ∧
      ∀ s ∈ own, s.path = path ∧ ∀ p o, s ≠ .warn p o := by
  have hown {labels : Option Labels} {options : Options} :
      ∀ s ∈ .register ⟨.custom, path, x, labels, options⟩ ::
        genericSteps secrets path labels options, s.path = path ∧ ∀ p o, s ≠ .warn p o := by
    refine List.forall_mem_cons.mpr ⟨⟨rfl, nofun⟩, fun s hs => ?_⟩
    obtain ⟨y, rfl, hy⟩ := exists_of_mem_genericSteps hs
    exact ⟨hy, nofun⟩
  cases node with
  | folders => cases hx
  | simple => cases hx; exact ⟨_, rfl, hown⟩
  | full localparts labels written =>
      cases hx
      cases written with
      | none => exact ⟨_, rfl, hown⟩
      | some written =>
          refine ⟨_, by rw [steps, List.append_assoc]; rfl, ?_⟩
          refine List.forall_mem_append.mpr ⟨fun s hs => ?_, hown⟩
          obtain ⟨e, rfl, he⟩ := exists_of_mem_fullpathSteps hs
          exact ⟨he, nofun⟩

theorem path_of_mem_warningSteps {path : String} {node : Node} {s : WalkStep}
    (h : s ∈ node.warningSteps path) : s.path = path := by
  unfold warningSteps warnSteps at h
  split at h
  · split at h
    · rw [List.mem_singleton.mp h]
      rfl
    · cases h
  · cases h

theorem within_filter {node : Node} {x : OneOrMany} (hx : node.localparts? = some x)
    (d : DomainRules) (path : String) (inherited : Options) :
    Within d [path] (d.follow (node.steps secrets path inherited)) := by
  obtain ⟨own, hs, hown⟩ := @exists_steps_filter secrets node x hx path inherited
  rw [hs]
  exact within_follow d path (List.forall_mem_append.mpr
    ⟨fun _ => path_of_mem_warningSteps, fun s h => (hown s h).1⟩)

mutual

/-- **What a walk leaves behind** has paths of nodes that it came to. -/
theorem within_visited : ∀ (node : Node) (d : DomainRules) (path : String) (inherited : Options),
    Within d ((node.visited secrets d path inherited).map (·.1))
      (d.follow (node.steps secrets path inherited))
  | .simple _, d, path, inherited => within_filter rfl d path inherited
  | .full .., d, path, inherited => within_filter rfl d path inherited
  | .folders children, d, path, inherited => by
      rw [visited, List.map_cons]
      by_cases hc : children = []
      · subst hc
        refine (within_follow d path fun s hs => ?_).mono (by simp)
        rw [List.mem_singleton.mp hs]
        rfl
      · obtain ⟨options, hw⟩ := follow_steps_folders d path inherited hc
        rw [hw]
        -- first the children, then the generic rule of the folder map, which has its own path
        refine (within_visitedChildren children d path _ _).andThen fun _ => ?_
        refine (within_follow _ path fun s hs => ?_).mono (by simp)
        obtain ⟨x, rfl, hx⟩ := exists_of_mem_genericSteps hs
        exact hx

theorem within_visitedChildren : ∀ (children : List (String × Node)) (d : DomainRules)
    (path : String) (inherited : Options) (alone : Bool),
    Within d (path :: (visitedChildren secrets d path inherited alone children).map (·.1))
      (d.follow (childrenSteps secrets path inherited alone children))
  | [], d, path, _, _ => .nothing
  | (name, node) :: rest, d, path, inherited, alone => by
      cases hm : nameMistake? path name alone with
      | some e =>
          rw [childrenSteps, hm, visitedChildren, hm]
          exact .of_mistake (nameMistake?_eq_some hm).1
      | none =>
          rw [follow_childrenSteps_cons d path inherited hm, visitedChildren, hm]
          refine ((within_visited node d _ inherited).mono ?_).andThen fun hw => ?_
          · simp
          · refine (within_visitedChildren rest _ path inherited alone).mono ?_
            simp [hw]

end

end Visited

end Config.Node

namespace DomainRules

/-- The nodes that a walk comes to, with their paths.  A tree that is no folder map is not walked. -/
def visited (d : DomainRules) : Config.Node → List (String × Config.Node)
  | .folders children => (Config.Node.folders children).visited d.secrets d "" .root
  | .simple _ | .full .. => []

/-- A walk comes to the first nodes of the tree in document order, and to all of them if it does not
fail. -/
theorem topDown_eq_visited_append (d : DomainRules) (tree : Config.Node) :
    ∃ rest, tree.topDown "" = d.visited tree ++ rest ∧
      ((d.walk tree).failure = none → rest = []) := by
  cases tree with
  | simple => exact ⟨_, rfl, nofun⟩
  | full => exact ⟨_, rfl, nofun⟩
  | folders children =>
      obtain ⟨rest, ht, hrest⟩ :=
        @Config.Node.topDown_eq_visited_append d.secrets (.folders children) d "" .root
      exact ⟨rest, ht, fun h => hrest (walk_failure_eq_none_iff.mp h).2⟩

/-- What the walk of a folder map leaves behind has paths of nodes that it came to. -/
theorem within_walk (d : DomainRules) (children : List (String × Config.Node)) :
    Within d ((d.visited (.folders children)).map (·.1)) (d.walk (.folders children)) := by
  have h := @Config.Node.within_visited d.secrets (.folders children) d "" .root
  refine ⟨h.rules, fun e he => ?_⟩
  obtain ⟨e, he', rfl⟩ := Option.map_eq_some_iff.mp he
  exact h.failure e he'

end DomainRules

namespace Config.Node

theorem memberPositions_eq_flatMap (path : String) (ms : Members) :
    memberPositions path ms = ms.flatMap fun m => positions (Folder.child path m.1) m.2 := by
  induction ms with
  | nil => rfl
  | cons m ms ih => rw [memberPositions, ih, List.flatMap_cons]

theorem exists_folders_of_decode {v : Value} (hv : IsFolders v) {path : String} {node : Node}
    (h : decode path v = .ok node) : ∃ children, node = .folders children := by
  obtain ⟨ms, rfl, hl⟩ := hv
  obtain ⟨-, children, -, rfl⟩ := decode_object_eq_ok (by simp [hl]) h
  exact ⟨children, rfl⟩

/-- **A value is decoded and walked at the same paths.**  If it is refused then it is so for the first
of its positions, in document order, that is refused by itself: a folder map for its first name with
a control character, at the path of that name and before anything below it, and another position at
its own path.  What stands under `self` has the path of the folder map.  The nodes that a walk of the
tree comes to, each at its path, are decoded from the first positions of the value, from all if the
walk does not fail, and what the walk leaves behind has paths of these. -/
theorem decode_walk_paths :
    (∀ path v e, decode path v = .error e ↔ ∃ before p after,
      positions path v = before ++ p :: after ∧
        (∀ q ∈ before, ∃ node, decode q.1 (alone q.2) = .ok node) ∧
          decode p.1 (alone p.2) = .error e) ∧
    (∀ path ms e, Members.has ms "localparts" = false →
      (decode path (alone (.object ms)) = .error e ↔ ∃ before m after, ms = before ++ m :: after ∧
        (∀ b ∈ before, Text.hasControl b.1 = false) ∧ Text.hasControl m.1 = true ∧
          e = ⟨.folderControl, { folder := Folder.child path m.1 }⟩)) ∧
    (∀ path v e, ¬IsFolders v → decode path (alone v) = .error e →
      decode path v = .error e ∧ e.place = { folder := path, field := e.place.field }) ∧
    (∀ path v, ¬IsFolders v → positions path v = [(path, v)]) ∧
    (∀ path ms, Members.has ms "localparts" = false →
      positions path (.object ms) = (path, .object ms) :: ms.flatMap fun m =>
        positions (if m.1 = "self" then path else if path = "" then m.1 else path ++ "/" ++ m.1)
          m.2) ∧
    ∀ v tree, decode "" v = .ok tree → ∀ d : DomainRules, ∃ reached rest,
      positions "" v = reached ++ rest ∧ List.Forall₂ DecodedFrom (d.visited tree) reached ∧
        ((d.walk tree).failure = none → rest = []) ∧
        (IsFolders v → d.Within ((d.visited tree).map (·.1)) (d.walk tree)) := by
  refine ⟨fun _ _ _ => decode_eq_error_iff, fun _ _ _ hl => ?_, fun path v e hv h => ?_,
    fun path v => positions_of_not_isFolders path, fun path ms hl => ?_, fun v tree hd d => ?_⟩
  · rw [decode_alone_eq_error_iff hl, checkNames_eq_error_iff]
  · rw [alone_of_not_isFolders hv] at h
    exact ⟨h, folder_of_decode_error hv h⟩
  · rw [positions_folders path hl, memberPositions_eq_flatMap]
    rfl
  · obtain ⟨more, ht, hmore⟩ := d.topDown_eq_visited_append tree
    have hall := forall₂_topDown v "" hd
    rw [ht] at hall
    have htake := List.forall₂_take (d.visited tree).length hall
    have hdrop := List.forall₂_drop (d.visited tree).length hall
    rw [List.take_left] at htake
    rw [List.drop_left] at hdrop
    refine ⟨_, _, (List.take_append_drop _ _).symm, htake, fun h => ?_, fun hv => ?_⟩
    · rw [hmore h] at hdrop
      exact List.forall₂_nil_left_iff.mp hdrop
    · obtain ⟨children, rfl⟩ := exists_folders_of_decode hv hd
      exact d.within_walk children

/-- A name with a control character counts before what stands under a name before it, and what
stands under `self` has the path of its folder in both. -/
theorem decode_walk_paths_self :
    let inner : Members := [("C", .null), ("E\n", .bool true)]
    let bad : Value := .object
      [("A", .object [("self", .bool true), ("B", .object inner)]), ("X", .null)]
    let good : Value := .object
      [("A", .object [("self", .string "a"), ("B", .string "b")]), ("", .bool true),
        ("C", .bool true)]
    let tree : Node := .folders
      [("A", .folders [("self", .simple (.one "a")), ("B", .simple (.one "b"))]),
        ("", .simple (.one "")), ("C", .simple (.one ""))]
    let d := DomainRules.empty "a.org" false []
    decode "" bad = .error ⟨.folderControl, { folder := "A/B/E\n" }⟩ ∧
      decode "" good = .ok tree ∧
      (d.walk tree).failure = some ⟨.folderUnnamed, { domain := "a.org" }⟩ ∧
      (d.visited tree).map (·.1) = ["", "A", "A", "A/B"] ∧
      ∃ reached rest, positions "" good = reached ++ rest ∧
        List.Forall₂ DecodedFrom (d.visited tree) reached ∧ IsFolders good ∧
          d.Within ["", "A", "A", "A/B"] (d.walk tree) := by
  intro inner bad good tree d
  obtain ⟨hfirst, hfolders, -, -, -, hwalk⟩ := decode_walk_paths
  have hinner : decode "A/B" (alone (.object inner)) =
      .error ⟨.folderControl, { folder := "A/B/E\n" }⟩ :=
    (hfolders "A/B" inner _ rfl).mpr ⟨[("C", .null)], _, [], rfl, by decide, by decide, rfl⟩
  have hbefore : ∀ q ∈ [("", bad), ("A", .object [("self", .bool true), ("B", .object inner)]),
      ("A", .bool true)], ∃ node, decode q.1 (alone q.2) = .ok node := by
    simp only [List.forall_mem_cons]
    exact ⟨exists_of_isOk (by decide +kernel), exists_of_isOk (by decide +kernel),
      exists_of_isOk (by decide +kernel), nofun⟩
  have hpaths : (d.visited tree).map (·.1) = ["", "A", "A", "A/B"] := by decide +kernel
  have hgood : decode "" good = .ok tree := rfl
  have hfolders : IsFolders good := ⟨_, rfl, rfl⟩
  obtain ⟨reached, rest, hp, hr, -, hw⟩ := hwalk good tree hgood d
  refine ⟨(hfirst "" bad _).mpr ⟨_, _, _, rfl, hbefore, hinner⟩, hgood, by decide +kernel, hpaths,
    reached, rest, hp, hr, hfolders, hpaths ▸ hw hfolders⟩

end Config.Node

end FolderSieve
