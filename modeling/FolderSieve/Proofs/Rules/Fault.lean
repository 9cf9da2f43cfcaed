import FolderSieve.Proofs.Rules.Stations

/-!
# Rules — walks that fail

A walk that fails has taken every registration before its first fault and none behind it, whatever
rules there were.  The fault may be a mistake of the tree, or a registration that is refused; of a
filter, the custom rule may have been taken when the generic one is refused.

* `DomainRules.StopsAt`: what it is to end at the first fault.
* `DomainRules.ending_steps_cases`: steps of stations do not fail, or do so at the first fault.
* `DomainRules.walk_stops_at_fault`: the walk of a tree that fails.
-/

namespace FolderSieve

namespace Config.Node

/-! ### What a node asks for -/

section Registrations

variable {secrets : List String} {path : String} {node : Node}

theorem mem_registrations {x : Registration} (h : x ∈ node.registrations secrets path) :
    x.path = path ∧ x.labels = node.labels? := by
  have hg : ∀ x ∈ node.genericRegistrations secrets path,
      x.path = path ∧ x.labels = node.labels? := by
    intro x hx
    unfold genericRegistrations at hx
    split at hx
    · rw [List.mem_singleton.mp hx]
      exact ⟨rfl, rfl⟩
    · cases hx
  unfold registrations at h
  split at h
  · rcases List.mem_cons.mp h with rfl | h
    · exact ⟨rfl, rfl⟩
    · exact hg x h
  · exact hg x h

/-- Only the generic rule of a filter is asked for behind another. -/
theorem eq_nil_or_custom_of_registrations {taken rest : List Registration} {x : Registration}
    (h : node.registrations secrets path = taken ++ x :: rest) :
    taken = [] ∨ taken.flatMap (Registration.addedTo .custom) = node.customRules path ∧
      taken.map (·.origin) = [.custom] ∧ x.origin = .generic := by
  have hg : ∀ {before : List Registration},
      node.genericRegistrations secrets path = before ++ x :: rest →
        before = [] ∧ x.origin = .generic := by
    intro before hb
    unfold genericRegistrations at hb
    split at hb
    · cases before with
      | nil =>
          cases hb
          exact ⟨rfl, rfl⟩
      | cons y before => simp at hb
    · simp at hb
  cases taken with
  | nil => exact .inl rfl
  | cons c taken =>
      unfold registrations at h
      split at h
      · rename_i localparts hl
        obtain ⟨rfl, hrest⟩ := List.cons.inj h
        obtain ⟨rfl, hx⟩ := hg hrest
        refine .inr ⟨?_, rfl, hx⟩
        simp [customRules, hl, Registration.addedTo, Registration.added]
      · cases (hg h).1

end Registrations

theorem fullpathMistake?_eq_some {path : String} {written : Override} {e : Error}
    (h : fullpathMistake? path written = some e) :
    e.place.folder = path ∧ e.mistake.ofPath = false := by
  unfold fullpathMistake? at h
  repeat' split at h
  all_goals cases h
  all_goals exact ⟨rfl, rfl⟩

theorem mistake?_eq_some {path : String} {node : Node} {e : Error}
    (h : node.mistake? path = some e) : e.place.folder = path ∧ e.mistake.ofPath = false := by
  unfold mistake? at h
  split at h
  · split at h <;> cases h
    exact ⟨rfl, rfl⟩
  · split at h <;> cases h
    exact ⟨Eq.symm ‹_›, rfl⟩
  · split at h
    · cases h
      exact ⟨Eq.symm ‹_›, rfl⟩
    · exact fullpathMistake?_eq_some h

end Config.Node

theorem nameMistake?_eq_some {path name : String} {alone : Bool} {e : Config.Error}
    (h : nameMistake? path name alone = some e) :
    e.place.folder = path ∧ e.mistake.ofPath = false := by
  unfold nameMistake? at h
  repeat' split at h
  all_goals cases h
  · exact ⟨rfl, rfl⟩
  · exact ⟨Eq.symm ‹_›, rfl⟩
  · exact ⟨rfl, rfl⟩

namespace Station

/-- What is wrong at a station is wrong at its path, and no rule set finds it. -/
theorem mistake?_eq_some {s : Station} {e : Config.Error} (h : s.mistake? = some e) :
    e.place.folder = s.path ∧ e.mistake.ofPath = false := by
  cases s with
  | child => exact nameMistake?_eq_some h
  | visit => exact Config.Node.mistake?_eq_some h

theorem path_of_mem_registrations {secrets : List String} {s : Station} {x : Registration}
    (h : x ∈ s.registrations secrets) : x.path = s.path := by
  cases s with
  | child => cases h
  | visit => exact (Config.Node.mem_registrations h).1

end Station

namespace DomainRules

/-! ### The first fault -/

/-- Registrations that are all taken are sound, and add what they ask for, which is new. -/
theorem foldlM_register_eq_ok {d d' : DomainRules} {xs : List Registration}
    (h : xs.foldlM register d = .ok d') :
    (∀ x ∈ xs, x.Sound) ∧ (∀ o, (d.set o).Fresh (xs.flatMap (Registration.addedTo o))) ∧
      d' = d.extend fun o => xs.flatMap (Registration.addedTo o) := by
  induction xs generalizing d with
  | nil =>
      cases h
      simp
  | cons x xs ih =>
      rw [List.foldlM_cons] at h
      obtain ⟨d₁, hx, h⟩ := Config.bind_eq_ok_iff.mp h
      obtain ⟨hs, hfresh, rfl⟩ := register_eq_ok_iff.mp hx
      obtain ⟨hxs, hrest, rfl⟩ := ih h
      refine ⟨List.forall_mem_cons.mpr ⟨hs, hxs⟩, fun o => ?_, by simp⟩
      have := hrest o
      rw [set_extend] at this
      exact RuleSet.fresh_append.mpr ⟨hfresh o, this⟩

/-- Registrations one after the other are all taken, or end at the first that is refused. -/
theorem ending_register_cases (d : DomainRules) (xs : List Registration) :
    (∃ d', d.ending (xs.map .register) = (d', none) ∧ xs.foldlM register d = .ok d') ∨
      ∃ taken x rest d' e, d.ending (xs.map .register) = (d', some e) ∧ xs = taken ++ x :: rest ∧
        taken.foldlM register d = .ok d' ∧ d'.register x = .error e := by
  induction xs generalizing d with
  | nil => exact .inl ⟨d, rfl, rfl⟩
  | cons x xs ih =>
      cases hx : d.register x with
      | error e => exact .inr ⟨[], x, xs, d, e, by simp [ending, follow, hx], rfl, rfl, hx⟩
      | ok d₁ =>
          have hcons : d.ending ((x :: xs).map .register) = d₁.ending (xs.map .register) := by
            simp [ending, follow, hx]
          have hfold (ys : List Registration) :
              (x :: ys).foldlM register d = ys.foldlM register d₁ := by
            rw [List.foldlM_cons, hx]
            rfl
          rw [hcons, hfold]
          obtain h | ⟨taken, y, rest, d', e, hd, rfl, ht, hy⟩ := ih d₁
          · exact .inl h
          · exact .inr ⟨x :: taken, y, rest, d', e, hd, rfl, (hfold taken).trans ht, hy⟩

/-- A walk through stations, from the rules `d`, ends at the station `s` with the rules `d'`:
nothing is wrong at the stations `before`, and what they ask for is taken; at `s` something is wrong,
or of what is asked for there `taken` is taken and the next is refused. -/
structure StopsAt (secrets : List String) (d : DomainRules) (stations before : List Station)
    (s : Station) (taken : List Registration) (d' : DomainRules) (e : Config.Error) : Prop where
  split : ∃ after, stations = before ++ s :: after
  faultless : ∀ t ∈ before, t.mistake? = none
  registered :
    (before.flatMap (Station.registrations secrets) ++ taken).foldlM register d = .ok d'
  fault : s.mistake? = some e ∧ taken = [] ∨ s.mistake? = none ∧ ∃ x rest,
    s.registrations secrets = taken ++ x :: rest ∧ d'.register x = .error e

/-- **The steps of stations** do not fail, and all that is asked for is taken, or they do, at the
first fault. -/
theorem ending_steps_cases (secrets : List String) (d : DomainRules) (stations : List Station) :
    (∃ d', d.ending (stations.flatMap (Station.steps secrets)) = (d', none) ∧
      (stations.flatMap (Station.registrations secrets)).foldlM register d = .ok d') ∨
    ∃ before s taken d' e, d.ending (stations.flatMap (Station.steps secrets)) = (d', some e) ∧
      StopsAt secrets d stations before s taken d' e := by
  induction stations generalizing d with
  | nil => exact .inl ⟨d, rfl, rfl⟩
  | cons s stations ih =>
      rw [List.flatMap_cons, ending_append, Station.steps]
      cases hm : s.mistake? with
      | some e =>
          exact .inr ⟨[], s, [], d, e, rfl, ⟨stations, rfl⟩, by simp, rfl, .inl ⟨hm, rfl⟩⟩
      | none =>
          obtain ⟨d₁, hd, hr⟩ | ⟨taken, x, rest, d₁, e, hd, hs, ht, hx⟩ :=
            ending_register_cases d (s.registrations secrets)
          · have hfold (xs : List Registration) :
                (s.registrations secrets ++ xs).foldlM register d = xs.foldlM register d₁ := by
              rw [List.foldlM_append, hr]
              rfl
            simp only [hd, List.flatMap_cons, hfold]
            obtain h | ⟨before, t, taken, d', e, hend, hsplit, hbefore, hregistered, hfault⟩ :=
              ih d₁
            · exact .inl h
            · obtain ⟨after, rfl⟩ := hsplit
              refine .inr ⟨s :: before, t, taken, d', e, hend, ⟨after, rfl⟩,
                List.forall_mem_cons.mpr ⟨hm, hbefore⟩, ?_, hfault⟩
              rw [List.flatMap_cons, List.append_assoc, hfold]
              exact hregistered
          · simp only [hd]
            exact .inr ⟨[], s, taken, d₁, e, rfl, ⟨stations, rfl⟩, by simp, ht,
              .inr ⟨hm, x, rest, hs, hx⟩⟩

/-- Whether they fail or not, steps of stations take the first of what is asked for there. -/
theorem exists_registered (secrets : List String) (d : DomainRules) (stations : List Station) :
    ∃ xs, xs <+: stations.flatMap (Station.registrations secrets) ∧
      xs.foldlM register d = .ok (d.ending (stations.flatMap (Station.steps secrets))).1 := by
  obtain ⟨d', hend, hr⟩ | ⟨before, s, taken, d', e, hend, hstops⟩ :=
    ending_steps_cases secrets d stations
  · rw [hend]
    exact ⟨_, List.prefix_rfl, hr⟩
  · rw [hend]
    refine ⟨_, ?_, hstops.registered⟩
    obtain ⟨after, rfl⟩ := hstops.split
    have htaken : taken <+: s.registrations secrets := by
      obtain ⟨-, rfl⟩ | ⟨-, x, rest, hs, -⟩ := hstops.fault
      · exact List.nil_prefix
      · exact ⟨x :: rest, hs.symm⟩
    rw [List.flatMap_append, List.flatMap_cons]
    exact (List.prefix_append_right_inj _).mpr (htaken.trans (List.prefix_append _ _))

namespace StopsAt

variable {secrets : List String} {d d' : DomainRules} {stations before : List Station} {s : Station}
  {taken : List Registration} {e : Config.Error}
  (h : StopsAt secrets d stations before s taken d' e)

include h

/-- The error names the folder of the station. -/
theorem folder_eq : e.place.folder = s.path := by
  obtain ⟨hm, -⟩ | ⟨-, x, rest, hs, hx⟩ := h.fault
  · exact (Station.mistake?_eq_some hm).1
  · have hmem : x ∈ s.registrations secrets := by
      rw [hs]
      simp
    exact (register_eq_error hx).1.trans (Station.path_of_mem_registrations hmem)

/-- The rules are those there were, and behind them what the registrations before the fault ask
for. -/
theorem rules_eq :
    d' = d.extend fun o =>
      (before.flatMap (Station.registrations secrets) ++ taken).flatMap
        (Registration.addedTo o) :=
  (foldlM_register_eq_ok h.registered).2.2

variable {path : String} {node : Config.Node} (hs : s = .visit path node)

include hs

/-- Nothing is taken at a node in which something is wrong, be it with its labels. -/
theorem taken_eq_nil (hm : node.mistake? path ≠ none ∨ ¬RuleSet.LabelsSound node.labels?) :
    taken = [] := by
  subst hs
  obtain ⟨-, ht⟩ | ⟨hnone, x, rest, hx, -⟩ := h.fault
  · exact ht
  · have hlabels := hm.resolve_left fun hne => hne hnone
    cases taken with
    | nil => rfl
    | cons c taken =>
        have hsound : c.Sound := (foldlM_register_eq_ok h.registered).1 c (by simp)
        have hc : c ∈ node.registrations secrets path := by
          have hreg : node.registrations secrets path = c :: taken ++ x :: rest := hx
          simp [hreg]
        exact absurd ((Config.Node.mem_registrations hc).2 ▸ hsound.2.1) hlabels

/-- Where something is taken and the next refused, it is the custom rule of a filter. -/
theorem custom_of_taken (hne : taken ≠ []) :
    taken.map (·.origin) = [.custom] ∧ node.customRules path <:+ d'.custom.entries ∧
      ∃ x, x.origin = .generic ∧ d'.register x = .error e := by
  subst hs
  obtain ⟨-, ht⟩ | ⟨-, x, rest, hx, he⟩ := h.fault
  · exact absurd ht hne
  obtain ⟨hadded, ho, hg⟩ := (Config.Node.eq_nil_or_custom_of_registrations hx).resolve_left hne
  refine ⟨ho, ?_, x, hg, he⟩
  rw [h.rules_eq, ← hadded]
  simp only [extend, RuleSet.extend, List.flatMap_append]
  exact (List.suffix_append _ _).trans (List.suffix_append _ _)

end StopsAt

/-- **A walk that fails**, whatever rules there were, ends at the first fault on its way.  Nothing
is wrong at the stations before it, and all that they ask for is registered; of what is asked for at
the station of the fault, all before what is refused.  The rules are those there were, with what
these registrations add behind them, and the error names the folder of the station.  A node that is
wrong in itself or in its labels has nothing registered, and a filter of which the generic rule is
refused keeps its custom rule. -/
theorem walk_stops_at_fault {d : DomainRules} {tree : Config.Node} {e : Config.Error}
    (h : (d.walk tree).failure = some e) :
    let after := (d.walk tree).rules
    ∃ before s taken fault,
      StopsAt d.secrets d (tree.stations "") before s taken after fault ∧
      (e = fault.inDomain d.domain ∧ e.place.folder = s.path) ∧
      (after = d.extend fun o =>
        (before.flatMap (Station.registrations d.secrets) ++ taken).flatMap
          (Registration.addedTo o)) ∧
      ∀ path node, s = .visit path node →
        (node.mistake? path ≠ none ∨ ¬RuleSet.LabelsSound node.labels? → taken = []) ∧
        (taken ≠ [] → taken.map (·.origin) = [.custom] ∧
          node.customRules path <:+ after.custom.entries ∧
          ∃ x, x.origin = .generic ∧ after.register x = .error fault) := by
  intro after
  obtain ⟨before, s, taken, fault, hstops, rfl⟩ : ∃ before s taken fault,
      StopsAt d.secrets d (tree.stations "") before s taken after fault ∧
        e = fault.inDomain d.domain := by
    cases tree with
    | folders children =>
        obtain ⟨fault, hf, rfl⟩ := Option.map_eq_some_iff.mp h
        have hend : d.ending ((Config.Node.folders children).steps d.secrets "" .root) =
            (after, some fault) := congrArg (Prod.mk after) hf
        rw [Config.Node.sameEnd_steps _ "" .root Folder.pin_empty_root (.inr rfl)] at hend
        obtain ⟨d', hd, -⟩ | ⟨before, s, taken, d', e, hd, hs⟩ :=
          ending_steps_cases d.secrets d ((Config.Node.folders children).stations "")
        · cases hd.symm.trans hend
        · cases hd.symm.trans hend
          exact ⟨before, s, taken, fault, hs, rfl⟩
    | simple | full =>
        cases h
        exact ⟨[], _, [], ⟨.rootNotFolders, {}⟩, ⟨⟨[], rfl⟩, by simp, rfl, .inl ⟨rfl, rfl⟩⟩, rfl⟩
  exact ⟨before, s, taken, fault, hstops, ⟨rfl, hstops.folder_eq⟩, hstops.rules_eq,
    fun path node hs => ⟨hstops.taken_eq_nil hs, hstops.custom_of_taken hs⟩⟩

/-- A generic rule for `A` is there from an earlier walk, so that of this tree's `A` is refused.
What `B` asks for and the custom rule of `A` stay; the walk does not come to `C`. -/
theorem walk_stops_at_fault_generic :
    let d := ((empty "a.org" false []).walk (.folders [("A", .simple (.one ""))])).rules
    let tree := Config.Node.folders
      [("B", .simple (.one "b")), ("A", .simple (.one "x")), ("C", .simple (.one "c"))]
    let w := d.walk tree
    w.failure = some ⟨.ruleTwice "Generic", { folder := "A", domain := "a.org" }⟩ ∧
      w.rules.custom.entries.map (·.1) = ["B", "A"] ∧
      w.rules.generic.entries.map (·.1) = ["A", "B"] ∧
      ∃ before s taken fault, StopsAt d.secrets d (tree.stations "") before s taken w.rules fault ∧
        s.path = "A" ∧ fault.mistake = .ruleTwice "Generic" := by
  intro d tree w
  have hw : w.failure = some ⟨.ruleTwice "Generic", { folder := "A", domain := "a.org" }⟩ := by
    decide +kernel
  obtain ⟨before, s, taken, fault, hstops, ⟨he, hfolder⟩, -⟩ := walk_stops_at_fault hw
  exact ⟨hw, by decide +kernel, by decide +kernel, before, s, taken, fault, hstops, hfolder.symm,
    (congrArg Config.Error.mistake he).symm⟩

end DomainRules

end FolderSieve
