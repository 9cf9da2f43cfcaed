import FolderSieve.Proofs.Rules.Located

/-!
# Rules — what keeps a walk from failing, node by node

Whether a step of a walk is sound depends on the node that it is taken for, on the path of the node
and on nothing else (`SoundAt`).

* `Config.Node.sound_steps_iff`: the steps of a tree are sound exactly if its located nodes are.
* `DomainRules.walk_empty_failure_eq_none_iff`: a walk from a domain without rules does not fail
  exactly if it is one of a folder map, all located nodes are sound, and no path is asked for twice
  in one of the sets.
* `DomainRules.walk_ne_rulePathEmpty`: no walk fails since a rule has no path; what would lead there
  is a mistake of its own.
-/

namespace FolderSieve

namespace Folder

/-- Whether a node is generic is settled by its path and by what it writes. -/
theorem generic_pin_resolve (path : String) (written : Override) :
    (pin path (written.resolve (settled path {}))).generic = (settled path written).generic := by
  unfold pin settled
  by_cases h : isUnknown path = true
  · simp [h, Override.resolve, Override.unknownMask]
  · simp [h, Override.resolve, Options.root]

theorem generic_settled_of_isUnknown {path : String} (h : isUnknown path = true)
    (written : Override) : (settled path written).generic = false := by
  simp [settled, h]

theorem child_ne_empty {path name : String} (h : path ≠ "" ∨ name ≠ "" ∧ name ≠ selfName) :
    child path name ≠ "" := by
  unfold child join
  split
  · rename_i hs
    exact h.resolve_right fun h => h.2 hs
  split
  · rename_i hp
    exact (h.resolve_left fun h => h hp).1
  · intro he
    have := congrArg String.toList he
    simp at this

end Folder

/-- What is wrong with a name, if anything, in terms of the name and of where it stands. -/
theorem nameMistake?_eq_none_iff {path name : String} {alone : Bool} :
    nameMistake? path name alone = none ↔
      name ≠ "" ∧ (name = Folder.selfName → path ≠ "" ∧ alone = false) := by
  unfold nameMistake?
  split
  · simp_all
  split
  · split
    · simp_all
    · split <;> simp_all
  · simp_all

namespace Config.Node

/-- The node at `path` asks for a rule in the given set. -/
def asksFor (o : Origin) (path : String) (node : Node) : Prop :=
  match o with
  | .custom => ∃ localparts, node.localparts? = some localparts ∧ localparts ≠ .one ""
  | .generic => path ≠ "" ∧ Folder.isUnknown path = false ∧
      (Folder.settled path node.written).generic = true ∧ node.saysSelf = false

instance (o : Origin) (path : String) (node : Node) : Decidable (node.asksFor o path) :=
  match o with
  | .custom =>
      match h : node.localparts? with
      | none => .isFalse (by simp [asksFor, h])
      | some localparts => decidable_of_iff (localparts ≠ .one "") (by simp [asksFor, h])
  | .generic => inferInstanceAs (Decidable (_ ∧ _ ∧ _ ∧ _))

/-- What the node at `path` asks for among the generic rules, if it does. -/
def genericRegistrations (secrets : List String) (path : String) (node : Node) :
    List Registration :=
  let options := Folder.settled path node.written
  if node.asksFor .generic path then
    [⟨.generic, path, .many (genericLocalparts secrets path options.fullpath), node.labels?,
      options⟩]
  else []

/-- Nothing is wrong with the node at `path`, whatever rules there are. -/
structure SoundAt (secrets : List String) (path : String) (node : Node) : Prop where
  localparts : ∀ x, node.localparts? = some x → path ≠ "" ∧ (x = .one "" ∨ x.Sound)
  labels : RuleSet.LabelsSound node.labels?
  fullpath : node.written.fullpath ≠ none →
    (Folder.settled path node.written).generic = true ∧ '/' ∈ path.toList
  folders : ∀ children, node = .folders children → children ≠ [] ∧
    ∀ c ∈ children, nameMistake? path c.1 (children.length == 1) = none
  generic : node.asksFor .generic path → (OneOrMany.many
    (genericLocalparts secrets path (Folder.settled path node.written).fullpath)).Sound

section Steps

variable {secrets : List String}

theorem genericSteps_eq_map (path : String) (node : Node) :
    genericSteps secrets path node.labels?
      { Folder.settled path node.written with
        generic := (Folder.settled path node.written).generic && !node.saysSelf } =
      (node.genericRegistrations secrets path).map .register := by
  unfold genericSteps genericRegistrations
  by_cases ha : node.asksFor .generic path
  · obtain ⟨hp, -, hg, hs⟩ := id ha
    have hoptions : { Folder.settled path node.written with
        generic := (Folder.settled path node.written).generic && !node.saysSelf } =
          Folder.settled path node.written := by
      rw [hs, Bool.not_false, Bool.and_true]
    rw [hoptions, if_pos ha, if_pos ⟨hp, hg⟩]
    rfl
  · rw [if_neg ha, if_neg]
    · rfl
    rintro ⟨hp, hg⟩
    obtain ⟨hg, hs⟩ := Bool.and_eq_true_iff.mp hg
    refine ha ⟨hp, ?_, hg, by simpa using hs⟩
    by_contra hu
    rw [Folder.generic_settled_of_isUnknown (by simpa using hu)] at hg
    cases hg

theorem sound_genericSteps_iff {path : String} {node : Node} :
    (∀ s ∈ genericSteps secrets path node.labels?
      { Folder.settled path node.written with
        generic := (Folder.settled path node.written).generic && !node.saysSelf }, s.Sound) ↔
      (node.asksFor .generic path → RuleSet.LabelsSound node.labels? ∧ (OneOrMany.many
        (genericLocalparts secrets path (Folder.settled path node.written).fullpath)).Sound) := by
  rw [genericSteps_eq_map, genericRegistrations]
  split
  · rename_i ha
    simp [ha, ha.1, WalkStep.Sound, Registration.Sound]
  · rename_i ha
    simp [ha]

theorem sound_fullpathSteps_iff {path : String} {written : Override} {options : Options} :
    (∀ s ∈ fullpathSteps path written options, s.Sound) ↔
      (written.fullpath ≠ none → options.generic = true ∧ '/' ∈ path.toList) := by
  unfold fullpathSteps
  cases hf : written.fullpath <;> cases hg : options.generic <;>
    by_cases hs : '/' ∈ path.toList <;> simp [hs, WalkStep.Sound]

theorem sound_warnSteps (path : String) (written : Override) :
    ∀ s ∈ warnSteps path written, s.Sound := by
  unfold warnSteps
  split <;> simp [WalkStep.Sound]

/-- A filter at `path` is sound exactly if its two rules and `fullpath` are. -/
theorem soundAt_filter_iff {path : String} {node : Node} {x : OneOrMany}
    (hx : node.localparts? = some x) :
    node.SoundAt secrets path ↔
      (node.written.fullpath ≠ none →
        (Folder.settled path node.written).generic = true ∧ '/' ∈ path.toList) ∧
      ∀ s ∈ WalkStep.register
          ⟨.custom, path, x, node.labels?, Folder.settled path node.written⟩ ::
        genericSteps secrets path node.labels? (Folder.settled path node.written), s.Sound := by
  have hself := saysSelf_of_filter hx
  have hg := @sound_genericSteps_iff secrets path node
  simp only [hself, Bool.not_false, Bool.and_true] at hg
  rw [List.forall_mem_cons, hg]
  constructor
  · intro h
    obtain ⟨hp, hs⟩ := h.localparts x hx
    exact ⟨h.fullpath, ⟨hp, h.labels, hs⟩, fun ha => ⟨h.labels, h.generic ha⟩⟩
  · rintro ⟨hf, ⟨hp, hl, hs⟩, hg⟩
    constructor
    case localparts =>
      intro y hy
      obtain rfl : x = y := Option.some.inj (hx.symm.trans hy)
      exact ⟨hp, hs⟩
    case labels => exact hl
    case fullpath => exact hf
    case folders =>
      rintro children rfl
      cases hx
    case generic => exact fun ha => (hg ha).2

/-- A folder map at `path` is sound exactly if it holds something, its names are in order, and its
generic rule is. -/
theorem soundAt_folders_iff {path : String} {children : List (String × Node)} :
    (Node.folders children).SoundAt secrets path ↔
      children ≠ [] ∧
      (∀ c ∈ children, nameMistake? path c.1 (children.length == 1) = none) ∧
      ∀ s ∈ genericSteps secrets path none
        { Folder.settled path {} with
          generic := (Folder.settled path {}).generic &&
            !children.any fun c => c.1 == Folder.selfName }, s.Sound := by
  have hg := @sound_genericSteps_iff secrets path (.folders children)
  simp only [saysSelf, labels?, written] at hg
  rw [hg]
  constructor
  · intro h
    obtain ⟨hc, hn⟩ := h.folders children rfl
    exact ⟨hc, hn, fun ha => ⟨h.labels, h.generic ha⟩⟩
  · rintro ⟨hc, hn, hg⟩
    -- a folder map has neither localparts nor labels, and writes no options
    constructor
    case localparts => rintro x ⟨⟩
    case labels => rintro given ⟨⟩
    case fullpath =>
      intro hf
      exact absurd rfl hf
    case folders =>
      rintro _ ⟨⟩
      exact ⟨hc, hn⟩
    case generic => exact fun ha => (hg ha).2

mutual

/-- **The steps of a tree** whose inherited options are those of its path are sound exactly if its
located nodes are. -/
theorem sound_steps_iff : ∀ (node : Node) (path : String) (inherited : Options),
    Folder.pin path inherited = Folder.settled path {} →
    ((∀ s ∈ node.steps secrets path inherited, s.Sound) ↔
      ∀ l ∈ node.located path, l.2.SoundAt secrets l.1)
  | .simple x, path, inherited, hi => by
      rw [steps, hi, located, List.forall_mem_singleton, soundAt_filter_iff rfl]
      simp [labels?, written]
  | .full x labels none, path, inherited, hi => by
      rw [steps, hi, located, List.forall_mem_singleton, soundAt_filter_iff rfl]
      simp [labels?, written]
  | .full x labels (some w), path, inherited, hi => by
      rw [steps, hi, located, List.forall_mem_singleton, soundAt_filter_iff rfl,
        List.forall_mem_append, List.forall_mem_append, sound_fullpathSteps_iff,
        Folder.generic_pin_resolve, and_iff_right (sound_warnSteps path w)]
      simp only [labels?, written, Option.getD_some]
      -- in the catch-all folder `fullpath` would come through, but writing it there is a mistake
      refine and_congr_right fun hf => ?_
      rw [Folder.pin_resolve]
      intro hu
      by_contra hw
      rw [Folder.generic_settled_of_isUnknown hu] at hf
      cases (hf hw).1
  | .folders children, path, inherited, hi => by
      rw [steps, hi, located, List.forall_mem_append, List.forall_mem_singleton,
        soundAt_folders_iff]
      by_cases hc : children = []
      · simp [hc, WalkStep.Sound]
      · rw [if_neg (by simpa using hc), List.forall_mem_append,
          sound_childrenSteps_iff path _ children]
        simp only [ne_eq, hc, not_false_eq_true, true_and]
        tauto

theorem sound_childrenSteps_iff (path : String) (alone : Bool) :
    ∀ children : List (String × Node),
    (∀ s ∈ childrenSteps secrets path (Folder.settled path {}) alone children, s.Sound) ↔
      (∀ c ∈ children, nameMistake? path c.1 alone = none) ∧
        ∀ l ∈ locatedChildren path children, l.2.SoundAt secrets l.1
  | [] => by simp [childrenSteps, locatedChildren]
  | (name, node) :: rest => by
      rw [childrenSteps, locatedChildren, List.forall_mem_append, List.forall_mem_append,
        List.forall_mem_cons, sound_childrenSteps_iff path alone rest]
      cases hm : nameMistake? path name alone with
      | some e => simp [WalkStep.Sound]
      | none =>
          rw [sound_steps_iff node _ _ (Folder.pin_child path name)]
          tauto

end

end Steps

/-! ### The paths that are asked for -/

/-- A node has one rule in a set that it asks for, at its path, and none in one that it does not. -/
theorem map_fst_rulesIn (secrets : List String) (o : Origin) (l : String × Node) :
    (rulesIn secrets o l).map (·.1) = if l.2.asksFor o l.1 then [l.1] else [] := by
  cases o with
  | custom =>
      simp only [rulesIn, customRules]
      cases h : l.2.localparts? with
      | none =>
          rw [if_neg (by simp [asksFor, h])]
          rfl
      | some x =>
          by_cases hx : x = .one ""
          · rw [if_neg (by simp [asksFor, h, hx])]
            simp [hx]
          · rw [if_pos ⟨x, h, hx⟩]
            simp [hx]
  | generic =>
      by_cases h : l.2.asksFor .generic l.1
      · have hr : l.2.genericRules secrets l.1 = _ := if_pos h
        rw [rulesIn, hr, if_pos h]
        rfl
      · have hr : l.2.genericRules secrets l.1 = _ := if_neg h
        rw [rulesIn, hr, if_neg h]
        rfl

theorem map_fst_flatMap_rulesIn (secrets : List String) (o : Origin) (ls : List (String × Node)) :
    (ls.flatMap (rulesIn secrets o)).map (·.1) =
      (ls.filter fun l => l.2.asksFor o l.1).map (·.1) := by
  induction ls with
  | nil => rfl
  | cons l ls ih =>
      rw [List.flatMap_cons, List.map_append, ih, map_fst_rulesIn, List.filter_cons]
      split <;> simp_all

end Config.Node

namespace DomainRules

/-- A domain without rules can take rules whose paths are distinct. -/
theorem fresh_empty_iff {domain : String} {firstFolder : Bool} {secrets : List String}
    {o : Origin} {es : List (String × Rule)} :
    ((empty domain firstFolder secrets).set o).Fresh es ↔ (es.map (·.1)).Nodup := by
  cases o <;> simp [RuleSet.Fresh, RuleSet.has, set, empty]

/-- **A walk from a domain without rules** does not fail exactly if it is one of a folder map, all
located nodes are sound, and no path is asked for twice in one of the sets. -/
theorem walk_empty_failure_eq_none_iff {domain : String} {firstFolder : Bool}
    {secrets : List String} {tree : Config.Node} :
    ((empty domain firstFolder secrets).walk tree).failure = none ↔
      (∃ children, tree = .folders children) ∧
      (∀ l ∈ tree.located "", l.2.SoundAt (if secrets.isEmpty then [""] else secrets) l.1) ∧
      ∀ o, (((tree.located "").filter fun l => l.2.asksFor o l.1).map (·.1)).Nodup := by
  rw [walk_failure_eq_none_iff, follow_failure_eq_none_iff,
    Config.Node.sound_steps_iff tree "" .root Folder.pin_empty_root]
  refine and_congr_right fun _ => and_congr_right fun hs => forall_congr' fun o => ?_
  have hadded := Config.Node.addedBy_steps o tree "" .root Folder.pin_empty_root
    (faultless_of_sound
      ((Config.Node.sound_steps_iff tree "" .root Folder.pin_empty_root).mpr hs))
  rw [hadded, fresh_empty_iff, Config.Node.map_fst_flatMap_rulesIn]

end DomainRules

/-! ### What a registration is refused for -/

/-- What a rule set finds wrong with the path of a rule: there is none, or it has a rule already. -/
def Config.Mistake.ofPath : Mistake → Bool
  | .rulePathEmpty _ | .ruleTwice _ => true
  | _ => false

namespace Config.OneOrMany

theorem ofPath_of_mistake {x : OneOrMany} {name : String} {m : Mistake}
    (h : x.mistake? name = some m) : m.ofPath = false := by
  unfold mistake? at h
  repeat' split at h
  all_goals cases h
  all_goals rfl

theorem normalize_eq_error {x : OneOrMany} {name folder : String} {e : Error}
    (h : x.normalize name folder = .error e) :
    e.place.folder = folder ∧ e.mistake.ofPath = false := by
  unfold normalize at h
  split at h
  · rename_i m hm
    cases h
    exact ⟨rfl, ofPath_of_mistake hm⟩
  · cases h

end Config.OneOrMany

namespace RuleSet

theorem readLabel_eq_error {path name : String} {keywords : Config.OneOrMany}
    {e : Config.Error} (h : readLabel path name keywords = .error e) :
    e.place.folder = path ∧ e.mistake.ofPath = false := by
  simp only [readLabel, bind, Except.bind, throw, throwThe, MonadExceptOf.throw, pure, Except.pure]
    at h
  split at h
  · cases h
    exact ⟨rfl, rfl⟩
  split at h
  · rename_i hn
    cases h
    exact Config.OneOrMany.normalize_eq_error hn
  split at h
  · rename_i hk
    cases h
    exact Config.OneOrMany.normalize_eq_error hk
  split at h
  · cases h
    exact ⟨rfl, rfl⟩
  · cases h

/-- **A registration that is refused** is so for something at its path, and for the path itself only
if that is empty, or has a rule and is to have another. -/
theorem register_eq_error {r : RuleSet} {path : String} {localparts : Config.OneOrMany}
    {labels : Option GivenLabels} {options : Options} {e : Config.Error}
    (h : r.register path localparts labels options = .error e) :
    e.place.folder = path ∧ (e.mistake.ofPath = false ∨
      path = "" ∧ e.mistake = .rulePathEmpty r.name ∨
      localparts ≠ .one "" ∧ r.has path = true ∧ e.mistake = .ruleTwice r.name) := by
  simp only [register, bind, Except.bind, throw, throwThe, MonadExceptOf.throw, pure,
    Except.pure] at h
  split at h
  · rename_i hp
    cases h
    exact ⟨hp.symm, .inr (.inl ⟨hp, rfl⟩)⟩
  split at h
  · rename_i hl
    cases h
    cases labels with
    | none => cases hl
    | some given =>
        rw [readLabels] at hl
        obtain ⟨l, -, hl⟩ := Config.exists_eq_error_of_mapM (Config.map_eq_error_iff.mp hl)
        exact (readLabel_eq_error hl).imp_right .inl
  split at h
  · cases h
  rename_i hne
  split at h
  · rename_i hr
    cases h
    exact ⟨rfl, .inr (.inr ⟨hne, hr, rfl⟩)⟩
  split at h
  · rename_i hn
    cases h
    exact (Config.OneOrMany.normalize_eq_error hn).imp_right .inl
  · cases h

end RuleSet

theorem DomainRules.register_eq_error {d : DomainRules} {x : Registration} {e : Config.Error}
    (h : d.register x = .error e) :
    e.place.folder = x.path ∧ (e.mistake.ofPath = false ∨
      x.path = "" ∧ e.mistake = .rulePathEmpty (d.set x.origin).name ∨
      x.localparts ≠ .one "" ∧ (d.set x.origin).has x.path = true ∧
        e.mistake = .ruleTwice (d.set x.origin).name) := by
  unfold register at h
  split at h
  · rename_i ho
    rw [ho]
    exact RuleSet.register_eq_error (Config.map_eq_error_iff.mp h)
  · rename_i ho
    rw [ho]
    exact RuleSet.register_eq_error (Config.map_eq_error_iff.mp h)

/-! ### No rule without a path -/

/-- The step does not fail for want of a path. -/
def WalkStep.Placed : WalkStep → Prop
  | .register x => x.path ≠ ""
  | .warn .. => True
  | .fail e => ∀ set, e.mistake ≠ .rulePathEmpty set

namespace Config.Node

section Steps

variable {secrets : List String}

theorem placed_genericSteps (path : String) (labels : Option Labels) (options : Options) :
    ∀ s ∈ genericSteps secrets path labels options, s.Placed := by
  unfold genericSteps
  split
  · rename_i h
    simpa [WalkStep.Placed] using h.1
  · simp

theorem placed_warnSteps (path : String) (written : Override) :
    ∀ s ∈ warnSteps path written, s.Placed := by
  unfold warnSteps
  split <;> simp [WalkStep.Placed]

theorem placed_fullpathSteps (path : String) (written : Override) (options : Options) :
    ∀ s ∈ fullpathSteps path written options, s.Placed := by
  unfold fullpathSteps
  dsimp only
  repeat' split
  all_goals simp [WalkStep.Placed]

theorem placed_nameMistake {path name : String} {alone : Bool} {e : Error}
    (h : nameMistake? path name alone = some e) : (WalkStep.fail e).Placed := by
  unfold nameMistake? at h
  repeat' split at h
  all_goals cases h
  all_goals simp [WalkStep.Placed]

/-- A name that is in order leads to a path. -/
theorem child_ne_empty_of_nameMistake {path name : String} {alone : Bool}
    (h : nameMistake? path name alone = none) : Folder.child path name ≠ "" := by
  obtain ⟨hn, hs⟩ := nameMistake?_eq_none_iff.mp h
  refine Folder.child_ne_empty ?_
  by_cases hself : name = Folder.selfName
  · exact .inl (hs hself).1
  · exact .inr ⟨hn, hself⟩

mutual

/-- **The steps of a tree** that is a folder map or has a path ask for no rule without one: where a
path would be missing the walk has ended. -/
theorem placed_steps : ∀ (node : Node) (path : String) (inherited : Options),
    path ≠ "" ∨ node.localparts? = none → ∀ s ∈ node.steps secrets path inherited, s.Placed
  | .simple x, path, inherited, hp => by
      rw [steps]
      exact List.forall_mem_cons.mpr
        ⟨hp.resolve_right (by simp [localparts?]), placed_genericSteps path none _⟩
  | .full x labels none, path, inherited, hp => by
      rw [steps]
      exact List.forall_mem_cons.mpr
        ⟨hp.resolve_right (by simp [localparts?]), placed_genericSteps path labels _⟩
  | .full x labels (some w), path, inherited, hp => by
      rw [steps]
      refine List.forall_mem_append.mpr ⟨List.forall_mem_append.mpr
        ⟨placed_warnSteps path w, placed_fullpathSteps path w _⟩, ?_⟩
      exact List.forall_mem_cons.mpr
        ⟨hp.resolve_right (by simp [localparts?]), placed_genericSteps path labels _⟩
  | .folders children, path, inherited, _ => by
      rw [steps]
      split
      · simp [WalkStep.Placed]
      · exact List.forall_mem_append.mpr
          ⟨placed_childrenSteps path _ _ children, placed_genericSteps path none _⟩

theorem placed_childrenSteps (path : String) (inherited : Options) (alone : Bool) :
    ∀ children : List (String × Node),
    ∀ s ∈ childrenSteps secrets path inherited alone children, s.Placed
  | [] => by simp [childrenSteps]
  | (name, node) :: rest => by
      rw [childrenSteps]
      refine List.forall_mem_append.mpr ⟨?_, placed_childrenSteps path inherited alone rest⟩
      cases hm : nameMistake? path name alone with
      | some e => exact List.forall_mem_singleton.mpr (placed_nameMistake hm)
      | none => exact placed_steps node _ inherited (.inl (child_ne_empty_of_nameMistake hm))

end

end Steps

end Config.Node

namespace DomainRules

theorem follow_ne_rulePathEmpty {d : DomainRules} {steps : List WalkStep}
    (hs : ∀ s ∈ steps, s.Placed) {e : Config.Error} (h : (d.follow steps).failure = some e)
    (set : String) : e.mistake ≠ .rulePathEmpty set := by
  induction steps generalizing d with
  | nil => cases h
  | cons s steps ih =>
      obtain ⟨hp, hrest⟩ := List.forall_mem_cons.mp hs
      cases s with
      | fail e' =>
          cases h
          exact hp set
      | warn path written => exact ih hrest h
      | register x =>
          rw [follow] at h
          split at h
          · rename_i hx
            cases h
            intro he
            obtain hf | ⟨hn, -⟩ | ⟨-, -, hf⟩ := (register_eq_error hx).2
            · simp [he, Config.Mistake.ofPath] at hf
            · exact hp hn
            · simp [he] at hf
          · exact ih hrest h

/-- **No walk fails for want of a path.** -/
theorem walk_ne_rulePathEmpty {d : DomainRules} {tree : Config.Node} {e : Config.Error}
    (h : (d.walk tree).failure = some e) (set : String) : e.mistake ≠ .rulePathEmpty set := by
  cases tree with
  | folders children =>
      obtain ⟨e, he, rfl⟩ := Option.map_eq_some_iff.mp h
      exact follow_ne_rulePathEmpty (Config.Node.placed_steps _ "" .root (.inr rfl)) he set
  | _ =>
      cases h
      simp

end DomainRules

end FolderSieve
