import FolderSieve.Proofs.Rules.Registration

/-!
# Rules — the rules of a tree, node by node

`Node.located` lists the nodes of a tree with their paths: `self` lies at the path of the folder
map that holds it, any other name below that.  What a node has in the two rule sets is said from
its path and from what is written in it alone (`Node.customRules`, `Node.genericRules`), without
the options that a walk hands down.

* `Node.forall_mem_located`: what folder maps hand on is true of all located nodes.
* `Folder.pin_child`: the options that reach a node depend on its path only.  They are those of the
  root, but for the catch-all folder and what lies below it, whose options are fixed.
* `Node.addedBy_steps`: if no step of a walk is a mistake then the steps add the rules of the located
  nodes, in this order.
* `DomainRules.entries_walk`: the rule sets after a walk that does not fail are those rules, no path
  twice.
-/

namespace FolderSieve

namespace Folder

theorem isUnknown_iff {path : String} :
    isUnknown path = true ↔ path = "Unknown" ∨ "Unknown/".toList <+: path.toList := by
  unfold isUnknown unknown
  simp

/-- What lies below the catch-all folder is as good as the folder. -/
theorem isUnknown_child {path : String} (h : isUnknown path = true) (name : String) :
    isUnknown (child path name) = true := by
  have hp : path ≠ "" := by
    rintro rfl
    cases h
  unfold child join
  split
  · exact h
  refine isUnknown_iff.mpr (.inr ?_)
  rw [String.append_assoc]
  rcases isUnknown_iff.mp h with rfl | h
  · exact ⟨name.toList, by simp⟩
  · exact h.trans ⟨("/" ++ name).toList, by simp⟩

theorem hasControl_child {path name : String} (hp : Text.hasControl path = false)
    (hn : Text.hasControl name = false) : Text.hasControl (child path name) = false := by
  have hs : Text.isControl '/' = false := by decide
  unfold child join
  split
  · exact hp
  split
  · exact hn
  · simp_all [Text.hasControl]

/-- The options of a node at `path` that writes `written`: those of the root but for what is
written, and fixed ones in the catch-all folder. -/
def settled (path : String) (written : Override) : Options :=
  if isUnknown path then ⟨false, false, true⟩ else written.resolve .root

theorem pin_empty_root : pin "" .root = settled "" {} := by
  decide

/-- **Handed-down options** are those of the path. -/
theorem pin_child (path name : String) :
    pin (child path name) (settled path {}) = settled (child path name) {} := by
  unfold pin settled
  by_cases h : isUnknown path = true
  · simp [h, isUnknown_child h, Override.resolve, Override.unknownMask]
  · simp [h, Override.resolve, Override.unknownMask, Options.root]

/-- Options written over those of the path; in the catch-all folder nothing but `fullpath` comes
through. -/
theorem pin_resolve {path : String} {written : Override}
    (h : isUnknown path = true → written.fullpath = none) :
    pin path (written.resolve (settled path {})) = settled path written := by
  unfold pin settled
  by_cases hu : isUnknown path = true
  · simp [hu, h hu, Override.resolve, Override.unknownMask]
  · simp [hu, Override.resolve, Options.root]

end Folder

namespace Config.Node

/-! ### The rules of one node -/

mutual

/-- The nodes of a tree at `path` with their paths, a folder map behind what it holds. -/
def located (path : String) : Node → List (String × Node)
  | .simple localparts => [(path, .simple localparts)]
  | .full localparts labels written => [(path, .full localparts labels written)]
  | .folders children => locatedChildren path children ++ [(path, .folders children)]

/-- The nodes of what a folder map at `path` holds. -/
def locatedChildren (path : String) : List (String × Node) → List (String × Node)
  | [] => []
  | (name, node) :: rest => located (Folder.child path name) node ++ locatedChildren path rest

end

theorem self_mem_located (path : String) (node : Node) : (path, node) ∈ node.located path := by
  cases node <;> simp [located]

/-- What is true of a folder map is true of all that it holds. -/
def HandedOn (P : String → Node → Prop) : Prop :=
  ∀ path children, P path (.folders children) → ∀ c ∈ children, P (Folder.child path c.1) c.2

mutual

/-- **What folder maps hand on** is true of all located nodes, if it is of the tree. -/
theorem forall_mem_located {P : String → Node → Prop} (hP : HandedOn P) :
    ∀ (node : Node) {path : String}, P path node → ∀ l ∈ node.located path, P l.1 l.2
  | .simple _, path, hp => by simpa [located] using hp
  | .full .., path, hp => by simpa [located] using hp
  | .folders children, path, hp => by
      rw [located]
      exact List.forall_mem_append.mpr
        ⟨forall_mem_locatedChildren hP children (hP path children hp), by simpa using hp⟩

theorem forall_mem_locatedChildren {P : String → Node → Prop} (hP : HandedOn P) :
    ∀ (children : List (String × Node)) {path : String},
    (∀ c ∈ children, P (Folder.child path c.1) c.2) →
    ∀ l ∈ locatedChildren path children, P l.1 l.2
  | [], _, _ => by simp [locatedChildren]
  | (_, node) :: rest, path, h => by
      obtain ⟨hnode, hrest⟩ := List.forall_mem_cons.mp h
      rw [locatedChildren]
      exact List.forall_mem_append.mpr
        ⟨forall_mem_located hP node hnode, forall_mem_locatedChildren hP rest hrest⟩

end

/-- No path in a tree has a control character if no name has. -/
theorem hasControl_of_mem_located (node : Node) {path : String} (hn : node.SoundNames)
    (hp : Text.hasControl path = false) :
    ∀ l ∈ node.located path, Text.hasControl l.1 = false := by
  have hP : HandedOn fun path node => Text.hasControl path = false ∧ node.SoundNames := by
    rintro path children ⟨hp, hn⟩ c hc
    cases hn with
    | folders hn h => exact ⟨Folder.hasControl_child hp (hn c hc), h c hc⟩
  exact fun l hl => (forall_mem_located hP node ⟨hp, hn⟩ l hl).1

/-- The labels that are written in a node. -/
def labels? : Node → Option Labels
  | .full _ labels _ => labels
  | .simple _ | .folders _ => none

/-- The options that are written in a node. -/
def written : Node → Override
  | .full _ _ written => written.getD {}
  | .simple _ | .folders _ => {}

/-- The localparts of a filter; a folder map has none. -/
def localparts? : Node → Option OneOrMany
  | .simple localparts | .full localparts _ _ => some localparts
  | .folders _ => none

/-- A folder map that leaves its generic rule to the node `self`. -/
def saysSelf : Node → Bool
  | .folders children => children.any fun c => c.1 == Folder.selfName
  | .simple _ | .full .. => false

theorem saysSelf_of_filter {node : Node} {x : OneOrMany} (h : node.localparts? = some x) :
    node.saysSelf = false := by
  cases node with
  | folders => cases h
  | _ => rfl

/-- What the node at `path` has among the custom rules: a filter whose localparts are not one empty
text has a rule, and nothing else has. -/
def customRules (path : String) (node : Node) : List (String × Rule) :=
  match node.localparts? with
  | none => []
  | some localparts =>
      if localparts = .one "" then []
      else
        [(path, ⟨localparts.toList, node.labels?.map RuleSet.ruleLabels,
          Folder.settled path node.written⟩)]

/-- What the node at `path` has among the generic rules: a rule for its name, if it is neither at the
top nor in the catch-all folder, its options are generic, and it does not leave the rule to
`self`. -/
def genericRules (secrets : List String) (path : String) (node : Node) : List (String × Rule) :=
  let options := Folder.settled path node.written
  if path ≠ "" ∧ Folder.isUnknown path = false ∧ options.generic ∧ node.saysSelf = false then
    [(path, ⟨genericLocalparts secrets path options.fullpath,
      node.labels?.map RuleSet.ruleLabels, options⟩)]
  else []

/-- What a located node has in one of the two sets. -/
def rulesIn (secrets : List String) (o : Origin) (l : String × Node) : List (String × Rule) :=
  match o with
  | .custom => l.2.customRules l.1
  | .generic => l.2.genericRules secrets l.1

/-- The rules of a node stand at its path. -/
theorem fst_of_mem_rulesIn {secrets : List String} {o : Origin} {l : String × Node}
    {e : String × Rule} (h : e ∈ rulesIn secrets o l) : e.1 = l.1 := by
  cases o with
  | custom =>
      simp only [rulesIn, customRules] at h
      split at h
      · cases h
      split at h
      · cases h
      · rw [List.mem_singleton.mp h]
  | generic =>
      simp only [rulesIn, genericRules] at h
      split at h
      · rw [List.mem_singleton.mp h]
      · cases h

/-! ### The steps of a tree -/

section Steps

variable {secrets : List String}

theorem addedTo_custom (o : Origin) (path : String) (localparts : OneOrMany)
    (labels : Option Labels) (options : Options) :
    (WalkStep.register ⟨.custom, path, localparts, labels, options⟩).addedTo o =
      if o = .custom then
        (if localparts = .one "" then []
        else [(path, ⟨localparts.toList, labels.map RuleSet.ruleLabels, options⟩)])
      else [] := by
  cases o <;> simp [WalkStep.addedTo, Registration.addedTo, Registration.added]

theorem addedBy_genericSteps (o : Origin) (path : String) (node : Node) :
    addedBy (genericSteps secrets path node.labels?
      { Folder.settled path node.written with
        generic := (Folder.settled path node.written).generic && !node.saysSelf }) o =
      if o = .generic then node.genericRules secrets path else [] := by
  have hu : (Folder.settled path node.written).generic = true → Folder.isUnknown path = false := by
    unfold Folder.settled
    split <;> simp_all
  unfold genericSteps genericRules
  generalize Folder.settled path node.written = options at hu ⊢
  obtain ⟨generic, fullpath, silent⟩ := options
  by_cases hp : path = ""
  · simp [hp]
  cases generic with
  | false => simp
  | true =>
      cases o <;> cases node.saysSelf <;>
        simp [hp, hu, addedBy, WalkStep.addedTo, Registration.addedTo, Registration.added,
          OneOrMany.toList]

@[simp] theorem addedBy_warnSteps (path : String) (written : Override) (o : Origin) :
    addedBy (warnSteps path written) o = [] := by
  unfold warnSteps
  split <;> rfl

@[simp] theorem addedBy_fullpathSteps (path : String) (written : Override) (options : Options)
    (o : Origin) : addedBy (fullpathSteps path written options) o = [] := by
  unfold fullpathSteps
  dsimp only
  repeat' split
  all_goals rfl

/-- In the catch-all folder no filter may write `fullpath`, since none of them is generic. -/
theorem fullpath_eq_none {path : String} {written : Override} {options : Options}
    (h : Faultless (fullpathSteps path written (Folder.pin path options)))
    (hu : Folder.isUnknown path = true) : written.fullpath = none := by
  cases hf : written.fullpath with
  | none => rfl
  | some b =>
      have hg : (Folder.pin path options).generic = false := by
        simp [Folder.pin, hu, Override.resolve, Override.unknownMask]
      simp [Faultless, fullpathSteps, hf, hg] at h

mutual

/-- **The steps of a tree** whose inherited options are those of its path add the rules of its
located nodes, if none of them is a mistake. -/
theorem addedBy_steps (o : Origin) : ∀ (node : Node) (path : String) (inherited : Options),
    Folder.pin path inherited = Folder.settled path {} →
    Faultless (node.steps secrets path inherited) →
    addedBy (node.steps secrets path inherited) o =
      (node.located path).flatMap (rulesIn secrets o)
  | .simple localparts, path, inherited, hi, _ => by
      have hg := @addedBy_genericSteps secrets o path (.simple localparts)
      simp only [saysSelf, Bool.not_false, Bool.and_true, labels?, written] at hg
      rw [steps, hi, addedBy_cons, addedTo_custom, hg]
      cases o <;> simp [located, rulesIn, customRules, localparts?, labels?, written]
  | .full localparts labels none, path, inherited, hi, _ => by
      have hg := @addedBy_genericSteps secrets o path (.full localparts labels none)
      simp only [saysSelf, Bool.not_false, Bool.and_true, labels?, written, Option.getD_none] at hg
      rw [steps, hi, addedBy_cons, addedTo_custom, hg]
      cases o <;> simp [located, rulesIn, customRules, localparts?, labels?, written]
  | .full localparts labels (some w), path, inherited, hi, hs => by
      have hg := @addedBy_genericSteps secrets o path (.full localparts labels (some w))
      simp only [saysSelf, Bool.not_false, Bool.and_true, labels?, written, Option.getD_some] at hg
      rw [steps, hi] at hs ⊢
      -- in the catch-all folder `fullpath` would come through, but writing it there is a mistake
      have hf := fullpath_eq_none (faultless_append.mp (faultless_append.mp hs).1).2
      rw [Folder.pin_resolve hf, addedBy_append, addedBy_append, addedBy_cons, addedTo_custom, hg]
      cases o <;> simp [located, rulesIn, customRules, localparts?, labels?, written]
  | .folders children, path, inherited, hi, hs => by
      have hg := @addedBy_genericSteps secrets o path (.folders children)
      simp only [saysSelf, labels?, written] at hg
      rw [steps, hi] at hs ⊢
      by_cases hc : children.isEmpty = true
      · rw [if_pos hc] at hs
        exact absurd (List.mem_singleton_self _) (hs _)
      rw [if_neg hc] at hs ⊢
      obtain ⟨hs, -⟩ := faultless_append.mp hs
      rw [addedBy_append, addedBy_childrenSteps o path _ children hs, hg, located]
      cases o <;> simp [rulesIn, customRules, localparts?]

theorem addedBy_childrenSteps (o : Origin) (path : String) (alone : Bool) :
    ∀ children : List (String × Node),
    Faultless (childrenSteps secrets path (Folder.settled path {}) alone children) →
    addedBy (childrenSteps secrets path (Folder.settled path {}) alone children) o =
      (locatedChildren path children).flatMap (rulesIn secrets o)
  | [], _ => rfl
  | (name, node) :: rest, hs => by
      rw [childrenSteps] at hs ⊢
      obtain ⟨hn, hr⟩ := faultless_append.mp hs
      cases hm : nameMistake? path name alone with
      | some e =>
          rw [hm] at hn
          exact absurd (List.mem_singleton_self _) (hn e)
      | none =>
          rw [hm] at hn
          -- what is handed on is again what the path of the child settles
          rw [addedBy_append, addedBy_steps o node _ _ (Folder.pin_child path name) hn,
            addedBy_childrenSteps o path alone rest hr, locatedChildren, List.flatMap_append]

end

end Steps

end Config.Node

/-! ### Whole walks -/

namespace DomainRules

/-- Both sets hold the rules of the located nodes. -/
theorem entries_set_walk {domain : String} {firstFolder : Bool} {secrets : List String}
    {tree : Config.Node} (h : ((empty domain firstFolder secrets).walk tree).failure = none)
    (o : Origin) :
    (((empty domain firstFolder secrets).walk tree).rules.set o).entries =
      (tree.located "").flatMap
        (Config.Node.rulesIn (if secrets.isEmpty then [""] else secrets) o) := by
  obtain ⟨-, hf⟩ := walk_failure_eq_none_iff.mp h
  obtain ⟨hs, -⟩ := follow_failure_eq_none_iff.mp hf
  have hadded := Config.Node.addedBy_steps o tree "" .root Folder.pin_empty_root
    (faultless_of_sound hs)
  rw [walk_rules h, set_extend, RuleSet.extend, hadded]
  cases o <;> rfl

/-- No path has two rules in one set. -/
theorem nodup_set_walk {domain : String} {firstFolder : Bool} {secrets : List String}
    {tree : Config.Node} (h : ((empty domain firstFolder secrets).walk tree).failure = none)
    (o : Origin) :
    ((((empty domain firstFolder secrets).walk tree).rules.set o).entries.map (·.1)).Nodup := by
  obtain ⟨-, hf⟩ := walk_failure_eq_none_iff.mp h
  obtain ⟨-, hfresh⟩ := follow_failure_eq_none_iff.mp hf
  rw [walk_rules h, set_extend]
  cases o
  · exact (hfresh .custom).1
  · exact (hfresh .generic).1

/-- The paths of rules are free of control characters if the names of the tree are. -/
theorem hasControl_of_mem_walk {domain : String} {firstFolder : Bool} {secrets : List String}
    {tree : Config.Node} (hn : tree.SoundNames)
    (h : ((empty domain firstFolder secrets).walk tree).failure = none) (o : Origin) :
    ∀ e ∈ (((empty domain firstFolder secrets).walk tree).rules.set o).entries,
      Text.hasControl e.1 = false := by
  intro e he
  rw [entries_set_walk h] at he
  obtain ⟨l, hl, he⟩ := List.mem_flatMap.mp he
  rw [Config.Node.fst_of_mem_rulesIn he]
  exact Config.Node.hasControl_of_mem_located tree hn (by decide) l hl

/-- **What a walk registers.**  After a walk that does not fail, from a domain without rules, the
custom rules are those of the located nodes, the generic rules are, and no path has two rules in one
of the sets. -/
theorem entries_walk (domain : String) (firstFolder : Bool) (secrets : List String)
    (tree : Config.Node)
    (h : ((empty domain firstFolder secrets).walk tree).failure = none) :
    let rules := ((empty domain firstFolder secrets).walk tree).rules
    let nodes := tree.located ""
    let suffixes := if secrets.isEmpty then [""] else secrets
    rules.custom.entries = nodes.flatMap (fun l => l.2.customRules l.1) ∧
      rules.generic.entries = nodes.flatMap (fun l => l.2.genericRules suffixes l.1) ∧
      (rules.custom.entries.map (·.1)).Nodup ∧ (rules.generic.entries.map (·.1)).Nodup :=
  ⟨entries_set_walk h .custom, entries_set_walk h .generic, nodup_set_walk h .custom,
    nodup_set_walk h .generic⟩

/-- A folder that leaves its generic rule to `self`, and the catch-all folder, which has none. -/
theorem entries_walk_self_unknown :
    let tree := Config.Node.folders
      [("Bills", .folders
        [("Power", .simple (.one "p")),
          ("self", .full (.one "") (some [("Due", .one "now")]) (some { silent := some true }))]),
        ("Unknown", .simple (.many ["x", "y"]))]
    let w := (empty "a.org" false []).walk tree
    w.failure = none ∧
      w.rules.custom.entries =
        [("Bills/Power", ⟨["p"], none, ⟨true, false, false⟩⟩),
          ("Unknown", ⟨["x", "y"], none, ⟨false, false, true⟩⟩)] ∧
      w.rules.generic.entries =
        [("Bills/Power", ⟨["power", "power.*"], none, ⟨true, false, false⟩⟩),
          ("Bills", ⟨["bills", "bills.*"], some [("Due", ["now"])], ⟨true, false, true⟩⟩)] := by
  intro tree w
  have h : w.failure = none := by decide +kernel
  obtain ⟨hc, hg, -, -⟩ := entries_walk "a.org" false [] tree h
  exact ⟨h, hc.trans (by decide +kernel), hg.trans (by decide +kernel)⟩

end DomainRules

end FolderSieve
