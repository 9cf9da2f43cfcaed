import FolderSieve.Proofs.Rules.Soundness

/-!
# Rules — the stations of a walk

A walk comes to the nodes of a tree in order, a folder map behind what it holds, and looks at each
name of a folder map before it goes on with what stands under it.  At each of these stations
something may be wrong whatever rules there are; if not, what the node asks for is registered, for a
filter the custom rule and then the generic one.  All this is said of the tree alone, without the
options that a walk hands down.

* `Config.Node.stations`, `Station.mistake?`, `Station.registrations`: what a walk comes to, and
  what it does there.
* `Config.Node.sameEnd_steps`: the steps of a tree end where those of its stations do.
* `Config.Node.addedTo_stations`: what is asked for comes to the rules of the located nodes.
-/

namespace FolderSieve

/-! ### Stations -/

/-- What a walk comes to. -/
inductive Station where
  /-- The folder map at `path` has a child called `name`, which is its only one or not. -/
  | child (path name : String) (alone : Bool)
  /-- A filter, or a folder map behind all that it holds. -/
  | visit (path : String) (node : Config.Node)

namespace Config.Node

mutual

/-- The stations of a walk through the tree at `path`, in order. -/
def stations (path : String) : Node → List Station
  | .simple localparts => [.visit path (.simple localparts)]
  | .full localparts labels written => [.visit path (.full localparts labels written)]
  | .folders children =>
      childrenStations path (children.length == 1) children ++ [.visit path (.folders children)]

/-- The stations among the children of a folder map. -/
def childrenStations (path : String) (alone : Bool) : List (String × Node) → List Station
  | [] => []
  | (name, node) :: rest =>
      .child path name alone ::
        (stations (Folder.child path name) node ++ childrenStations path alone rest)

end

/-- What is wrong with `fullpath` where it is written, if anything. -/
def fullpathMistake? (path : String) (written : Override) : Option Error :=
  let place : Place := { folder := path, field := "options.fullpath" }
  if written.fullpath = none then none
  else if (Folder.settled path written).generic = false then some ⟨.fullpathWithoutGeneric, place⟩
  else if '/' ∉ path.toList then some ⟨.fullpathAtTop, place⟩
  else none

/-- What is wrong with the node at `path` whatever rules there are and whatever it asks for, if
anything. -/
def mistake? (path : String) : Node → Option Error
  | .folders children => if children = [] then some ⟨.noFolders, { folder := path }⟩ else none
  | .simple _ => if path = "" then some ⟨.rootNotFolders, {}⟩ else none
  | .full _ _ written =>
      if path = "" then some ⟨.rootNotFolders, {}⟩
      else fullpathMistake? path (written.getD {})

/-- What the node at `path` asks for: a filter for its custom rule, whether it comes to a rule or
not, and every node for its generic rule, if it has one. -/
def registrations (secrets : List String) (path : String) (node : Node) : List Registration :=
  match node.localparts? with
  | some localparts =>
      ⟨.custom, path, localparts, node.labels?, Folder.settled path node.written⟩ ::
        node.genericRegistrations secrets path
  | none => node.genericRegistrations secrets path

end Config.Node

namespace Station

/-- The path of the node, or of the folder map that the name stands in. -/
def path : Station → String
  | .child path .. | .visit path _ => path

/-- What is wrong at the station whatever is asked for there, if anything. -/
def mistake? : Station → Option Config.Error
  | .child path name alone => nameMistake? path name alone
  | .visit path node => node.mistake? path

/-- What is asked for at the station, in order. -/
def registrations (secrets : List String) : Station → List Registration
  | .child .. => []
  | .visit path node => node.registrations secrets path

/-- The steps that are taken at the station. -/
def steps (secrets : List String) (s : Station) : List WalkStep :=
  match s.mistake? with
  | some e => [.fail e]
  | none => (s.registrations secrets).map .register

end Station

/-! ### Steps that end alike -/

namespace DomainRules

/-- The rules after steps, and the mistake that ended them. -/
def ending (d : DomainRules) (steps : List WalkStep) : DomainRules × Option Config.Error :=
  ((d.follow steps).rules, (d.follow steps).failure)

theorem ending_append (d : DomainRules) (a b : List WalkStep) :
    d.ending (a ++ b) =
      match (d.ending a).2 with
      | some _ => d.ending a
      | none => (d.ending a).1.ending b := by
  cases h : (d.follow a).failure <;> simp [ending, follow_append, Walked.andThen, h]

end DomainRules

/-- Steps that lead to the same rules and the same mistake, whatever rules there were. -/
def SameEnd (a b : List WalkStep) : Prop :=
  ∀ d : DomainRules, d.ending a = d.ending b

namespace SameEnd

variable {a a' b b' : List WalkStep}

theorem refl (a : List WalkStep) : SameEnd a a :=
  fun _ => rfl

theorem append (h : SameEnd a a') (h' : SameEnd b b') : SameEnd (a ++ b) (a' ++ b') := by
  intro d
  rw [DomainRules.ending_append, DomainRules.ending_append, h d]
  cases (d.ending a').2 with
  | some e => rfl
  | none => exact h' _

/-- What stands behind a mistake plays no part. -/
theorem fail (e : Config.Error) (a b : List WalkStep) : SameEnd (.fail e :: a) (.fail e :: b) :=
  fun _ => rfl

theorem warnSteps (path : String) (written : Override) : SameEnd (warnSteps path written) [] := by
  intro d
  unfold FolderSieve.warnSteps
  split <;> rfl

end SameEnd

namespace Config.Node

section Steps

variable {secrets : List String}

theorem fullpathSteps_eq_map (path : String) (written : Override) :
    fullpathSteps path written (Folder.pin path (written.resolve (Folder.settled path {}))) =
      (fullpathMistake? path written).toList.map .fail := by
  unfold fullpathSteps fullpathMistake?
  rw [Folder.generic_pin_resolve]
  cases written.fullpath <;> cases (Folder.settled path written).generic <;>
    by_cases hs : '/' ∈ path.toList <;> simp [hs]

/-- Where nothing is wrong with `fullpath`, it is not written in the catch-all folder, since nothing
is generic there. -/
theorem fullpath_eq_none_of_mistake {path : String} {written : Override}
    (h : fullpathMistake? path written = none) (hu : Folder.isUnknown path = true) :
    written.fullpath = none := by
  by_contra hf
  have hg := Folder.generic_settled_of_isUnknown hu written
  rw [fullpathMistake?, if_neg hf, if_pos hg] at h
  cases h

/-- The steps of a filter in which nothing is wrong. -/
theorem steps_visit_filter {path : String} {node : Node} {x : OneOrMany}
    (hx : node.localparts? = some x) (hm : node.mistake? path = none) :
    (Station.visit path node).steps secrets =
      .register ⟨.custom, path, x, node.labels?, Folder.settled path node.written⟩ ::
        genericSteps secrets path node.labels? (Folder.settled path node.written) := by
  have hself := saysSelf_of_filter hx
  have hg := @genericSteps_eq_map secrets path node
  rw [hself, Bool.not_false, Bool.and_true] at hg
  rw [Station.steps, Station.mistake?, hm, hg, Station.registrations, registrations, hx]
  rfl

/-- The steps of a folder map that holds something, behind those of what it holds. -/
theorem steps_visit_folders {path : String} {children : List (String × Node)}
    (hc : children ≠ []) :
    (Station.visit path (.folders children)).steps secrets =
      genericSteps secrets path none
        { Folder.settled path {} with
          generic := (Folder.settled path {}).generic &&
            !children.any fun c => c.1 == Folder.selfName } := by
  have hm : mistake? path (.folders children) = none := if_neg hc
  rw [Station.steps, Station.mistake?, hm]
  exact (genericSteps_eq_map path (.folders children)).symm

mutual

/-- **The steps of a tree** that is a folder map or has a path, and whose inherited options are
those of its path, end where the steps of its stations do. -/
theorem sameEnd_steps : ∀ (node : Node) (path : String) (inherited : Options),
    Folder.pin path inherited = Folder.settled path {} →
    path ≠ "" ∨ node.localparts? = none →
    SameEnd (node.steps secrets path inherited)
      ((node.stations path).flatMap (Station.steps secrets))
  | .simple x, path, inherited, hi, hp => by
      have hm : mistake? path (.simple x) = none :=
        if_neg (hp.resolve_right (by simp [localparts?]))
      rw [stations, List.flatMap_singleton, steps_visit_filter rfl hm, steps, hi]
      exact .refl _
  | .full x labels none, path, inherited, hi, hp => by
      have hm : mistake? path (.full x labels none) = none :=
        if_neg (hp.resolve_right (by simp [localparts?]))
      rw [stations, List.flatMap_singleton, steps_visit_filter rfl hm, steps, hi]
      exact .refl _
  | .full x labels (some w), path, inherited, hi, hp => by
      have hm : mistake? path (.full x labels (some w)) = fullpathMistake? path w :=
        if_neg (hp.resolve_right (by simp [localparts?]))
      rw [stations, List.flatMap_singleton, steps, hi, fullpathSteps_eq_map]
      cases hf : fullpathMistake? path w with
      | some e =>
          rw [Station.steps, Station.mistake?, hm, hf, List.append_assoc]
          exact (SameEnd.warnSteps path w).append (.fail e _ _)
      | none =>
          rw [steps_visit_filter rfl (hm.trans hf),
            Folder.pin_resolve (fullpath_eq_none_of_mistake hf), List.append_assoc]
          exact (SameEnd.warnSteps path w).append (.refl _)
  | .folders children, path, inherited, hi, _ => by
      rw [stations, steps, hi]
      by_cases hc : children = []
      · subst hc
        exact .fail _ _ _
      rw [if_neg (by simpa using hc), List.flatMap_append, List.flatMap_singleton,
        steps_visit_folders hc]
      exact (sameEnd_childrenSteps path _ children).append (.refl _)

theorem sameEnd_childrenSteps (path : String) (alone : Bool) :
    ∀ children : List (String × Node),
    SameEnd (childrenSteps secrets path (Folder.settled path {}) alone children)
      ((childrenStations path alone children).flatMap (Station.steps secrets))
  | [] => .refl _
  | (name, node) :: rest => by
      rw [childrenSteps, childrenStations, List.flatMap_cons, List.flatMap_append, Station.steps,
        Station.mistake?]
      cases hm : nameMistake? path name alone with
      | some e => exact .fail e _ _
      | none =>
          have hnode := sameEnd_steps node _ _ (Folder.pin_child path name)
            (.inl (child_ne_empty_of_nameMistake hm))
          exact hnode.append (sameEnd_childrenSteps path alone rest)

end

/-! ### What is added -/

/-- What a node asks for comes to the rules that it has. -/
theorem addedTo_registrations (o : Origin) (path : String) (node : Node) :
    (node.registrations secrets path).flatMap (Registration.addedTo o) =
      rulesIn secrets o (path, node) := by
  have hg : (node.genericRegistrations secrets path).flatMap (Registration.addedTo o) =
      if o = .generic then node.genericRules secrets path else [] := by
    by_cases ha : node.asksFor .generic path
    · have hr : node.genericRules secrets path = _ := if_pos ha
      rw [genericRegistrations, if_pos ha, hr]
      cases o <;> simp [Registration.addedTo, Registration.added, OneOrMany.toList]
    · have hr : node.genericRules secrets path = _ := if_neg ha
      rw [genericRegistrations, if_neg ha, hr]
      simp
  unfold registrations
  cases hx : node.localparts? with
  | none => cases o <;> simp [hg, rulesIn, customRules, hx]
  | some x =>
      cases o <;> simp [hg, rulesIn, customRules, hx, Registration.addedTo, Registration.added]

mutual

/-- What is asked for at the stations of a tree comes to the rules of its located nodes. -/
theorem addedTo_stations (o : Origin) : ∀ (node : Node) (path : String),
    ((node.stations path).flatMap (Station.registrations secrets)).flatMap
        (Registration.addedTo o) = (node.located path).flatMap (rulesIn secrets o)
  | .simple x, path => by
      simpa [stations, located, Station.registrations] using
        addedTo_registrations o path (.simple x)
  | .full x labels written, path => by
      simpa [stations, located, Station.registrations] using
        addedTo_registrations o path (.full x labels written)
  | .folders children, path => by
      have hmap := @addedTo_registrations secrets o path (.folders children)
      rw [stations, located, List.flatMap_append, List.flatMap_append, List.flatMap_append,
        addedTo_childrenStations o path _ children, List.flatMap_singleton,
        List.flatMap_singleton]
      exact congrArg (_ ++ ·) hmap

theorem addedTo_childrenStations (o : Origin) (path : String) (alone : Bool) :
    ∀ children : List (String × Node),
    ((childrenStations path alone children).flatMap (Station.registrations secrets)).flatMap
        (Registration.addedTo o) = (locatedChildren path children).flatMap (rulesIn secrets o)
  | [] => rfl
  | (name, node) :: rest => by
      rw [childrenStations, locatedChildren, List.flatMap_cons, List.flatMap_append,
        List.flatMap_append, List.flatMap_append, List.flatMap_append,
        addedTo_stations o node (Folder.child path name),
        addedTo_childrenStations o path alone rest]
      rfl

end

end Steps

end Config.Node

end FolderSieve
