import FolderSieve.Proofs.Config.Writing
import FolderSieve.Proofs.Folder.Prefixes
import FolderSieve.Proofs.Json.Distinct
import FolderSieve.Proofs.Rules.Fault

/-!
# Rules — one node for a path

In a tree of which no name is empty or holds a slash, and `self` names filters only, no two filters
have one path, and no two nodes that are to have a generic rule.  A folder map shares its path with
the filter `self` in it, and leaves the rule to that.

* `Folder.Under`: the paths that what a folder map holds under a name may have.
* `Config.Node.nodup_located`: no path twice among nodes that are no folder maps with a `self`.
* `DomainRules.walk_ne_ruleTwice`: a walk fails over a second rule for a path only if the located
  nodes have two, or there was one.
* `DomainRules.path_identifies_node`: both, for a tree that is decoded and a domain without rules.
-/

namespace FolderSieve

namespace Folder

/-- A node at `p` may be in what the folder map at `path` holds under `name`, if `self` names a
filter. -/
def Under (path name p : String) : Prop :=
  if name = selfName then p = path else join path name ∈ prefixes p

/-- **A path tells the name** under which a folder map holds the node. -/
theorem eq_of_under {path a b p : String} (ha : a ≠ "" ∧ '/' ∉ a.toList)
    (hb : b ≠ "" ∧ '/' ∉ b.toList) (hpa : Under path a p) (hpb : Under path b p) : a = b := by
  unfold Under at hpa hpb
  split at hpa <;> split at hpb
  · simp [*]
  · exact absurd (hpa ▸ hpb) (join_not_mem_prefixes hb.1)
  · exact absurd (hpb ▸ hpa) (join_not_mem_prefixes ha.1)
  · exact eq_of_join_mem_prefixes ha.2 hb.2 hpa hpb

/-- Nothing but `self` is at the path of the folder map. -/
theorem not_under_self {path name : String} (hn : name ≠ "") (hs : name ≠ selfName) :
    ¬Under path name path := by
  rw [Under, if_neg hs]
  exact join_not_mem_prefixes hn

end Folder

namespace Config.Node

/-! ### Names -/

/-- No folder map has a name twice. -/
inductive DistinctNames : Node → Prop
  | simple (localparts : OneOrMany) : DistinctNames (.simple localparts)
  | full (localparts : OneOrMany) (labels : Option Labels) (written : Option Override) :
      DistinctNames (.full localparts labels written)
  | folders {children : List (String × Node)} (hd : (children.map (·.1)).Nodup)
      (h : ∀ c ∈ children, c.2.DistinctNames) : DistinctNames (.folders children)

/-- Every name is one piece of a path, and `self` names a filter. -/
inductive PlainNames : Node → Prop
  | simple (localparts : OneOrMany) : PlainNames (.simple localparts)
  | full (localparts : OneOrMany) (labels : Option Labels) (written : Option Override) :
      PlainNames (.full localparts labels written)
  | folders {children : List (String × Node)} (hn : ∀ c ∈ children, c.1 ≠ "" ∧ '/' ∉ c.1.toList)
      (hs : ∀ c ∈ children, c.1 = Folder.selfName → c.2.localparts? ≠ none)
      (h : ∀ c ∈ children, c.2.PlainNames) : PlainNames (.folders children)

section Cons

variable {name : String} {node : Node} {rest : List (String × Node)}

theorem DistinctNames.of_cons (h : (Node.folders ((name, node) :: rest)).DistinctNames) :
    name ∉ rest.map (·.1) ∧ node.DistinctNames ∧ (Node.folders rest).DistinctNames := by
  obtain _ | _ | ⟨hd, h⟩ := h
  obtain ⟨hnew, hd⟩ := List.nodup_cons.mp hd
  obtain ⟨hnode, h⟩ := List.forall_mem_cons.mp h
  exact ⟨hnew, hnode, .folders hd h⟩

theorem PlainNames.of_cons (h : (Node.folders ((name, node) :: rest)).PlainNames) :
    (name ≠ "" ∧ '/' ∉ name.toList) ∧ (name = Folder.selfName → node.localparts? ≠ none) ∧
      node.PlainNames ∧ (Node.folders rest).PlainNames := by
  obtain _ | _ | ⟨hn, hs, h⟩ := h
  obtain ⟨hname, hn⟩ := List.forall_mem_cons.mp hn
  obtain ⟨hself, hs⟩ := List.forall_mem_cons.mp hs
  obtain ⟨hnode, h⟩ := List.forall_mem_cons.mp h
  exact ⟨hname, hself, hnode, .folders hn hs h⟩

end Cons

/-- What is decoded has no name twice, since no object has a key twice. -/
theorem distinctNames_of_mirrors {v : Json.Value} (hv : v.DistinctKeys) {node : Node}
    (hm : Mirrors v node) : node.DistinctNames := by
  induction hv generalizing node with
  | object hk _ ih =>
      cases hm with
      | texts => exact .simple _
      | filter => exact .full _ _ _
      | folders _ hc =>
          refine .folders (map_fst_of_mirrorsEach hc ▸ hk) fun c hmem => ?_
          obtain ⟨v, hv, hmirrors⟩ := exists_mem_of_mirrorsEach hc c hmem
          exact ih _ hv hmirrors
  | _ =>
      cases hm
      all_goals exact .simple _

/-! ### Paths -/

/-- A filter is its only located node. -/
theorem located_of_filter {node : Node} (h : node.localparts? ≠ none) (path : String) :
    node.located path = [(path, node)] := by
  cases node with
  | folders => exact absurd rfl h
  | _ => rfl

/-- What a folder map holds under a name is located there. -/
theorem under_of_mem_located {path name : String} {node : Node} (hn : name ≠ "")
    (hs : name = Folder.selfName → node.localparts? ≠ none) {l : String × Node}
    (hl : l ∈ node.located (Folder.child path name)) : Folder.Under path name l.1 := by
  unfold Folder.Under
  split
  · rename_i hself
    rw [located_of_filter (hs hself), List.mem_singleton] at hl
    rw [hl, Folder.child, if_pos hself]
  · rename_i hself
    have hchild : Folder.child path name = Folder.join path name := if_neg hself
    have hne : Folder.child path name ≠ "" := Folder.child_ne_empty (.inr ⟨hn, hself⟩)
    rw [hchild] at hl hne
    have hP : HandedOn fun p _ => Folder.join path name ∈ Folder.prefixes p :=
      fun p _ h c _ => Folder.mem_prefixes_child hne h
    exact forall_mem_located hP node (Folder.self_mem_prefixes _) l hl

/-- What folders hold is located under one of their names. -/
theorem exists_under_of_mem_located {path : String} {children : List (String × Node)}
    (hp : (Node.folders children).PlainNames) {l : String × Node}
    (hl : l ∈ locatedChildren path children) :
    ∃ c ∈ children, (c.1 ≠ "" ∧ '/' ∉ c.1.toList) ∧ Folder.Under path c.1 l.1 := by
  induction children with
  | nil => cases hl
  | cons c children ih =>
      obtain ⟨hname, hself, -, hp⟩ := hp.of_cons
      rw [locatedChildren] at hl
      rcases List.mem_append.mp hl with hl | hl
      · exact ⟨c, List.mem_cons_self, hname, under_of_mem_located hname.1 hself hl⟩
      · obtain ⟨c', hc, hu⟩ := ih hp hl
        exact ⟨c', List.mem_cons_of_mem _ hc, hu⟩

mutual

/-- **No path twice** among located nodes that are no folder maps with a `self`. -/
theorem nodup_located {Q : String × Node → Bool} (hQ : ∀ l, Q l = true → l.2.saysSelf = false) :
    ∀ (node : Node) (path : String), node.DistinctNames → node.PlainNames →
    (((node.located path).filter Q).map (·.1)).Nodup
  | .simple _, _, _, _ => (List.filter_sublist.map _).nodup (by simp [located])
  | .full .., _, _, _ => (List.filter_sublist.map _).nodup (by simp [located])
  | .folders children, path, hd, hp => by
      rw [located, List.filter_append, List.map_append, List.nodup_append]
      refine ⟨nodup_locatedChildren hQ children path hd hp,
        (List.filter_sublist.map _).nodup (by simp), ?_⟩
      rintro _ ha _ hb rfl
      obtain ⟨l, hl, hpath⟩ := List.mem_map.mp ha
      obtain ⟨l', hl', hpath'⟩ := List.mem_map.mp hb
      obtain ⟨hmem, hq⟩ := List.mem_filter.mp hl'
      obtain rfl := List.mem_singleton.mp hmem
      -- the map has no `self`, and what is under other names lies below its path
      obtain ⟨c, hc, hname, hu⟩ := exists_under_of_mem_located hp (List.mem_filter.mp hl).1
      have hself : c.1 ≠ Folder.selfName := by
        simpa using List.any_eq_false.mp (hQ _ hq) c hc
      rw [hpath, ← hpath'] at hu
      exact Folder.not_under_self hname.1 hself hu

theorem nodup_locatedChildren {Q : String × Node → Bool}
    (hQ : ∀ l, Q l = true → l.2.saysSelf = false) :
    ∀ (children : List (String × Node)) (path : String),
    (Node.folders children).DistinctNames → (Node.folders children).PlainNames →
    (((locatedChildren path children).filter Q).map (·.1)).Nodup
  | [], _, _, _ => by simp [locatedChildren]
  | (name, node) :: rest, path, hd, hp => by
      obtain ⟨hnew, hdnode, hd⟩ := hd.of_cons
      obtain ⟨hname, hself, hpnode, hp⟩ := hp.of_cons
      rw [locatedChildren, List.filter_append, List.map_append, List.nodup_append]
      refine ⟨nodup_located hQ node _ hdnode hpnode,
        nodup_locatedChildren hQ rest path hd hp, ?_⟩
      rintro _ ha _ hb rfl
      obtain ⟨l, hl, hpath⟩ := List.mem_map.mp ha
      obtain ⟨l', hl', hpath'⟩ := List.mem_map.mp hb
      -- one path would have come from two names
      have hu := under_of_mem_located hname.1 hself (List.mem_filter.mp hl).1
      obtain ⟨c, hc, hname', hu'⟩ := exists_under_of_mem_located hp (List.mem_filter.mp hl').1
      rw [hpath, ← hpath'] at hu
      obtain rfl := Folder.eq_of_under hname hname' hu hu'
      exact hnew (List.mem_map.mpr ⟨c, hc, rfl⟩)

end

/-- What asks for a rule is no folder map with a `self`. -/
theorem saysSelf_of_asksFor {o : Origin} {path : String} {node : Node}
    (h : node.asksFor o path) : node.saysSelf = false := by
  cases o with
  | custom =>
      obtain ⟨x, hx, -⟩ := h
      exact saysSelf_of_filter hx
  | generic => exact h.2.2.2

end Config.Node

namespace DomainRules

namespace StopsAt

variable {secrets : List String} {d d' : DomainRules} {stations before : List Station} {s : Station}
  {taken : List Registration} {e : Config.Error}
  (h : StopsAt secrets d stations before s taken d' e)
  (hf : ∀ o, (d.set o).Fresh ((stations.flatMap (Station.registrations secrets)).flatMap
    (Registration.addedTo o)))

include h hf

/-- What is refused is asked for behind all that is taken, so that it is as new as the whole. -/
theorem fresh_refused {x : Registration} {rest : List Registration}
    (hs : s.registrations secrets = taken ++ x :: rest) (o : Origin) :
    (d'.set o).Fresh (x.addedTo o) := by
  obtain ⟨after, rfl⟩ := h.split
  have hsplit : ((before ++ s :: after).flatMap (Station.registrations secrets)).flatMap
      (Registration.addedTo o) =
        (before.flatMap (Station.registrations secrets) ++ taken).flatMap
          (Registration.addedTo o) ++ (x.addedTo o ++
            (rest ++ after.flatMap (Station.registrations secrets)).flatMap
              (Registration.addedTo o)) := by
    simp [hs]
  have hfresh := hf o
  rw [hsplit, RuleSet.fresh_append, RuleSet.fresh_append] at hfresh
  rw [h.rules_eq, set_extend]
  exact hfresh.2.1

/-- **A second rule for a path** is met only where two are asked for, or there was one. -/
theorem ne_ruleTwice (set : String) : e.mistake ≠ .ruleTwice set := by
  intro he
  have hof : e.mistake.ofPath = true := by rw [he]; rfl
  obtain ⟨hm, -⟩ | ⟨-, x, rest, hs, hx⟩ := h.fault
  · exact absurd hof (by simp [(Station.mistake?_eq_some hm).2])
  obtain hnot | ⟨-, hm⟩ | ⟨hne, hhas, -⟩ := (register_eq_error hx).2
  · exact absurd hof (by simp [hnot])
  · cases he.symm.trans hm
  · have hadded : (x.path, ⟨x.localparts.toList, x.labels.map RuleSet.ruleLabels, x.options⟩) ∈
        x.addedTo x.origin := by
      simp [Registration.addedTo, Registration.added, hne]
    have hnew := (h.fresh_refused hf hs x.origin).2 _ hadded
    cases hhas.symm.trans hnew

end StopsAt

/-- **A walk fails over a second rule** for a path only if the located nodes have two, or there was
one. -/
theorem walk_ne_ruleTwice {d : DomainRules} {tree : Config.Node}
    (hf : ∀ o, (d.set o).Fresh ((tree.located "").flatMap (Config.Node.rulesIn d.secrets o)))
    {e : Config.Error} (h : (d.walk tree).failure = some e) (set : String) :
    e.mistake ≠ .ruleTwice set := by
  cases tree with
  | folders children =>
      obtain ⟨e, he, rfl⟩ := Option.map_eq_some_iff.mp h
      have hend : (d.ending ((Config.Node.folders children).steps d.secrets "" .root)).2 =
          some e := he
      rw [Config.Node.sameEnd_steps _ "" .root Folder.pin_empty_root (.inr rfl)] at hend
      obtain ⟨d', hd, -⟩ | ⟨before, s, taken, d', e', hd, hstops⟩ :=
        ending_steps_cases d.secrets d ((Config.Node.folders children).stations "")
      · rw [hd] at hend
        cases hend
      · rw [hd] at hend
        cases hend
        refine hstops.ne_ruleTwice (fun o => ?_) set
        rw [Config.Node.addedTo_stations]
        exact hf o
  | _ =>
      cases h
      simp

/-- **A path identifies one node** of a tree that is decoded, if every name in it is one piece of a
path and `self`, at the top or further down, names filters only.  No two filters have one path, and
no two nodes that are to have a generic rule: a filter `self` has the path of its folder map, but the
map leaves the rule to it.  So, whatever else may be wrong with the tree, a walk from a domain
without rules does not come to a second rule for a path. -/
theorem path_identifies_node {v : Json.Value} (hv : v.DistinctKeys) {folder : String}
    {tree : Config.Node} (hd : Config.Node.decode folder v = .ok tree) (hn : tree.PlainNames)
    (domain : String) (firstFolder : Bool) (secrets : List String) :
    (∀ e, ((empty domain firstFolder secrets).walk tree).failure = some e →
      ∀ set, e.mistake ≠ .ruleTwice set) ∧
    (((tree.located "").filter fun l => l.2.localparts?.isSome).map (·.1)).Nodup ∧
    (((tree.located "").filter fun l => l.2.asksFor .generic l.1).map (·.1)).Nodup := by
  have hdistinct := Config.Node.distinctNames_of_mirrors hv
    ((Config.Node.decode_eq_ok_iff v folder).mp hd).2
  have hasks (o : Origin) :
      (((tree.located "").filter fun l => l.2.asksFor o l.1).map (·.1)).Nodup :=
    Config.Node.nodup_located
      (fun l hl => Config.Node.saysSelf_of_asksFor (of_decide_eq_true hl)) tree "" hdistinct hn
  refine ⟨fun e he => walk_ne_ruleTwice (fun o => ?_) he, ?_, hasks .generic⟩
  · rw [fresh_empty_iff, Config.Node.map_fst_flatMap_rulesIn]
    exact hasks o
  · refine Config.Node.nodup_located (fun l hl => ?_) tree "" hdistinct hn
    obtain ⟨x, hx⟩ := Option.isSome_iff_exists.mp hl
    exact Config.Node.saysSelf_of_filter hx

/-- `A` and `A/B` are each the path of a folder map and of its `self`, and the generic rule there is
that of `self`.  The walk fails over a list without texts. -/
theorem path_identifies_node_self :
    let v := Json.Value.object
      [("A", .object [("self", .string "a"),
          ("B", .object [("self", .bool true), ("C", .string "c")])]),
        ("D", .array [])]
    let inner := Config.Node.folders [("self", .simple (.one "")), ("C", .simple (.one "c"))]
    let outer := Config.Node.folders [("self", .simple (.one "a")), ("B", inner)]
    let tree := Config.Node.folders [("A", outer), ("D", .simple (.many []))]
    let filters := ((tree.located "").filter fun l => l.2.localparts?.isSome).map (·.1)
    let generic := ((tree.located "").filter fun l => l.2.asksFor .generic l.1).map (·.1)
    v.DistinctKeys ∧ Config.Node.decode "" v = .ok tree ∧ tree.PlainNames ∧
      (tree.located "").map (·.1) = ["A", "A/B", "A/B/C", "A/B", "A", "D", ""] ∧
      (filters = ["A", "A/B", "A/B/C", "D"] ∧ filters.Nodup) ∧
      (generic = ["A", "A/B", "A/B/C", "D"] ∧ generic.Nodup) ∧
      ∃ e, ((empty "a.org" false []).walk tree).failure = some e ∧
        e.mistake = .listEmpty "localparts" ∧ e.mistake ≠ .ruleTwice "Generic" := by
  intro v inner outer tree filters generic
  have hv : v.DistinctKeys := by
    simp [v, Json.Value.DistinctKeys.bool, Json.Value.DistinctKeys.array]
  have hd : Config.Node.decode "" v = .ok tree := rfl
  have hinner : inner.PlainNames :=
    .folders (by simp) (by simp [Config.Node.localparts?]) (by simp [Config.Node.PlainNames.simple])
  have houter : outer.PlainNames :=
    .folders (by simp) (by simp [Config.Node.localparts?, Folder.selfName])
      (by simp [Config.Node.PlainNames.simple, hinner])
  have hn : tree.PlainNames :=
    .folders (by simp) (by simp [Folder.selfName])
      (by simp [Config.Node.PlainNames.simple, houter])
  obtain ⟨hwalk, hfilters, hgeneric⟩ := path_identifies_node hv hd hn "a.org" false []
  have hfailure : ((empty "a.org" false []).walk tree).failure = some
      ⟨.listEmpty "localparts", { folder := "D", field := "localparts", domain := "a.org" }⟩ := by
    decide +kernel
  exact ⟨hv, hd, hn, by decide +kernel, ⟨by decide +kernel, hfilters⟩,
    ⟨by decide +kernel, hgeneric⟩, _, hfailure, rfl, hwalk _ hfailure "Generic"⟩

end DomainRules

end FolderSieve
