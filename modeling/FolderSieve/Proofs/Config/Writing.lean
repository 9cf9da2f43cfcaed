import FolderSieve.Proofs.Config.Grammar

/-!
# Configuration — writing a node

A node as a value: texts as they are, a folder map as the object of its folders, a full filter as an
object with its options under their own names.  What a filter leaves open is written as null or left
out.  The value is read back as the node, unless the node is one that no value shows.

* `OptionsBlock.valid_written`, `OptionsBlock.override_written`: options as they are written.
* `Node.decode_json_iff`: what is written is read back exactly if the node is well formed.
* `Node.decode_grammar`: which values are decoded, and as what.
-/

namespace FolderSieve.Config

open Json (Members Value)

/-! ### Options -/

namespace OptionsBlock

/-- The options by their names. -/
def settings (o : Override) : List (String × Option Bool) :=
  [("generic", o.generic), ("fullpath", o.fullpath), ("silent", o.silent)]

theorem map_fst_settings (o : Override) : (settings o).map (·.1) = optionKeys :=
  rfl

/-- Options as the members of a block. -/
def written (nulls : Bool) (o : Override) : Members :=
  (settings o).flatMap fun p => Members.entry nulls p.1 (p.2.map .bool)

/-- No alias has the name of an option. -/
theorem name_not_mem_optionKeys : ∀ a ∈ aliases, a.name ∉ optionKeys := by
  decide

section Written

variable (nulls : Bool) (o : Override)

theorem of_mem_written {m : String × Value} (h : m ∈ written nulls o) :
    m.1 ∈ optionKeys ∧ Allowed m.2 := by
  obtain ⟨p, hp, hm⟩ := List.mem_flatMap.mp h
  obtain ⟨hkey, hv⟩ := Members.of_mem_entry hm
  refine ⟨?_, hv.imp_right fun hv => ?_⟩
  · rw [hkey, ← map_fst_settings o]
    exact List.mem_map_of_mem hp
  · obtain ⟨b, -, hb⟩ := Option.map_eq_some_iff.mp hv
    exact ⟨b, hb.symm⟩

theorem get?_alias_written : ∀ a ∈ aliases, (written nulls o).get? a.name = none := by
  refine fun a ha => Members.get?_eq_none_iff.mpr fun _ hm hname => ?_
  exact name_not_mem_optionKeys a ha (hname ▸ (of_mem_written nulls o hm).1)

theorem valid_written : Valid (written nulls o) where
  known _ hm := .inl (of_mem_written nulls o hm).1
  aliases a ha := Alias.sound_iff.mpr (.inl (get?_alias_written nulls o a ha))
  options _ _ _ _ hv := (of_mem_written nulls o (Members.mem_of_get? hv)).2

theorem boolAt_written :
    boolAt (written nulls o) "generic" = o.generic ∧
      boolAt (written nulls o) "fullpath" = o.fullpath ∧
      boolAt (written nulls o) "silent" = o.silent := by
  obtain ⟨g, f, s⟩ := o
  simp only [boolAt, written, settings, List.flatMap_cons, List.flatMap_nil, Members.get?_append,
    Members.get?_entry]
  refine ⟨?_, ?_, ?_⟩
  · cases g <;> cases nulls <;> simp
  · cases f <;> cases nulls <;> simp
  · cases s <;> cases nulls <;> simp

theorem stated_written (key : String) :
    stated (written nulls o) key = boolAt (written nulls o) key := by
  have hnone : settingOf aliases (written nulls o) key = none :=
    (settingOf_aliases_eq_none_iff (valid_written nulls o).aliases).mpr
      fun a ha _ => get?_alias_written nulls o a ha
  rw [stated, hnone, Option.none_or]

theorem override_written : override (written nulls o) = o := by
  obtain ⟨hg, hf, hs⟩ := boolAt_written nulls o
  rw [override, stated_written, stated_written, stated_written, hg, hf, hs]

end Written

end OptionsBlock

/-! ### Nodes -/

namespace Node

/-- A full filter as the members of an object. -/
def filterMembers (nulls : Bool) (localparts : OneOrMany) (labels : Option Labels)
    (written : Option Override) : Members :=
  ("localparts", localparts.json) ::
    (Members.entry nulls "labels" (labels.map fun ls => .object (labelMembers ls)) ++
      Members.entry nulls "options" (written.map fun o => .object (OptionsBlock.written nulls o)))

mutual

/-- A node as a value; `nulls` asks for what is left open to be written as null. -/
def json (nulls : Bool) : Node → Value
  | .simple localparts => localparts.json
  | .full localparts labels written => .object (filterMembers nulls localparts labels written)
  | .folders children => .object (childrenJson nulls children)

/-- The children of a folder map as the members of an object. -/
def childrenJson (nulls : Bool) : List (String × Node) → List (String × Value)
  | [] => []
  | (name, node) :: children => (name, node.json nulls) :: childrenJson nulls children

end

/-- A node that some value shows: no text has a control character, and no folder map has a folder
that would make it a filter. -/
inductive WellFormed : Node → Prop
  | simple {localparts : OneOrMany} (h : localparts.Printable) : WellFormed (.simple localparts)
  | full {localparts : OneOrMany} {labels : Option Labels} (written : Option Override)
      (h : localparts.Printable) (hl : PrintableLabels labels) :
      WellFormed (.full localparts labels written)
  | folders {children : List (String × Node)} (hl : ∀ c ∈ children, c.1 ≠ "localparts")
      (hn : ∀ c ∈ children, Text.hasControl c.1 = false) (h : ∀ c ∈ children, c.2.WellFormed) :
      WellFormed (.folders children)

/-- What may be missing is written so that it stands for itself. -/
theorem optionally_entry {α : Type} {R : Value → α → Prop} (nulls : Bool) {f : α → Value}
    (hf : ∀ a, R (f a) a) (x : Option α) :
    Optionally R ((x.map f).or (if nulls then some .null else none)) x := by
  cases x with
  | some a => exact .given (hf a)
  | none =>
      cases nulls with
      | true => exact .null
      | false => exact .missing

/-- Where something that may be missing is written, there is null or what is given. -/
theorem eq_null_or_of_written {α : Type} {nulls : Bool} {f : α → Value} {x : Option α} {v : Value}
    (h : (x.map f).or (if nulls then some .null else none) = some v) :
    v = .null ∨ ∃ a, x = some a ∧ v = f a := by
  cases x with
  | some a =>
      cases h
      exact .inr ⟨a, rfl, rfl⟩
  | none =>
      cases nulls with
      | true =>
          cases h
          exact .inl rfl
      | false => cases h

section Filter

variable (nulls : Bool) (localparts : OneOrMany) (labels : Option Labels)
  (written : Option Override)

theorem get?_labels_filterMembers :
    (filterMembers nulls localparts labels written).get? "labels" =
      (labels.map fun ls => .object (labelMembers ls)).or (if nulls then some .null else none) := by
  simp [filterMembers, Members.get?_cons, Members.get?_append, Members.get?_entry]

theorem get?_options_filterMembers :
    (filterMembers nulls localparts labels written).get? "options" =
      (written.map fun o => .object (OptionsBlock.written nulls o)).or
        (if nulls then some .null else none) := by
  simp [filterMembers, Members.get?_cons, Members.get?_append, Members.get?_entry]

theorem mirrorsFilter_filterMembers :
    MirrorsFilter (filterMembers nulls localparts labels written) localparts labels written where
  localparts := rfl
  labels := by
    rw [get?_labels_filterMembers]
    exact optionally_entry nulls (f := fun ls => .object (labelMembers ls)) (fun _ => rfl) labels
  options := by
    rw [get?_options_filterMembers]
    exact optionally_entry nulls
      (fun o => ⟨_, rfl, OptionsBlock.override_written nulls o⟩) written

variable {localparts labels}

theorem isFilter_filterMembers (h : localparts.Printable) (hl : PrintableLabels labels) :
    IsFilter (filterMembers nulls localparts labels written) where
  known m hm := by
    rw [filterMembers, List.mem_cons, List.mem_append] at hm
    rcases hm with rfl | hm | hm
    · simp [filterKeys]
    · simp [filterKeys, (Members.of_mem_entry hm).1]
    · simp [filterKeys, (Members.of_mem_entry hm).1]
  localparts := ⟨_, rfl, _, h, rfl⟩
  labels v hv := by
    rw [get?_labels_filterMembers] at hv
    rcases eq_null_or_of_written hv with rfl | ⟨ls, rfl, rfl⟩
    · exact .inl rfl
    · exact .inr ⟨ls, hl, rfl⟩
  options v hv := by
    rw [get?_options_filterMembers] at hv
    rcases eq_null_or_of_written hv with rfl | ⟨o, rfl, rfl⟩
    · exact .inl rfl
    · exact .inr ⟨_, rfl, OptionsBlock.valid_written nulls o⟩

end Filter

theorem childrenJson_eq_map (nulls : Bool) (children : List (String × Node)) :
    childrenJson nulls children = children.map fun c => (c.1, c.2.json nulls) := by
  induction children with
  | nil => rfl
  | cons c children ih => rw [childrenJson, ih, List.map_cons]

theorem mirrorsEach_childrenJson {nulls : Bool} {children : List (String × Node)}
    (h : ∀ c ∈ children, Mirrors (c.2.json nulls) c.2) :
    MirrorsEach (childrenJson nulls children) children := by
  induction children with
  | nil => exact .nil
  | cons c children ih =>
      obtain ⟨hc, h⟩ := List.forall_mem_cons.mp h
      exact .cons c.1 hc (ih h)

/-- What is written of a well-formed node is a node, and shows it. -/
theorem isNode_json {nulls : Bool} {node : Node} (h : node.WellFormed) :
    IsNode (node.json nulls) ∧ Mirrors (node.json nulls) node := by
  induction h with
  | simple h => exact ⟨.texts ⟨_, h, rfl⟩, .texts rfl⟩
  | full written h hl =>
      exact ⟨.filter (isFilter_filterMembers nulls written h hl),
        .filter (mirrorsFilter_filterMembers nulls _ _ written)⟩
  | @folders children hl hn _ ih =>
      have hfrom : ∀ m ∈ childrenJson nulls children, ∃ c ∈ children, (c.1, c.2.json nulls) = m :=
        fun m hm => List.mem_map.mp (childrenJson_eq_map nulls children ▸ hm)
      have hlocal : ∀ m ∈ childrenJson nulls children, m.1 ≠ "localparts" := by
        intro m hm
        obtain ⟨c, hc, rfl⟩ := hfrom m hm
        exact hl c hc
      refine ⟨.folders hlocal (fun m hm => ?_) (fun m hm => ?_),
        .folders hlocal (mirrorsEach_childrenJson fun c hc => (ih c hc).2)⟩
      · obtain ⟨c, hc, rfl⟩ := hfrom m hm
        exact hn c hc
      · obtain ⟨c, hc, rfl⟩ := hfrom m hm
        exact (ih c hc).1

theorem exists_mem_of_mirrorsEach {ms : List (String × Value)} {children : List (String × Node)}
    (h : MirrorsEach ms children) :
    ∀ c ∈ children, ∃ v, (c.1, v) ∈ ms ∧ Mirrors v c.2 := by
  induction children generalizing ms with
  | nil => simp
  | cons c children ih =>
      cases h with
      | cons name hm hr =>
          rintro c' hc
          rcases List.mem_cons.mp hc with rfl | hc
          · exact ⟨_, List.mem_cons_self, hm⟩
          · obtain ⟨v, hv, hm⟩ := ih hr c' hc
            exact ⟨v, List.mem_cons_of_mem _ hv, hm⟩

/-- Children have the names of the members that show them. -/
theorem map_fst_of_mirrorsEach {ms : List (String × Value)} {children : List (String × Node)}
    (h : MirrorsEach ms children) : children.map (·.1) = ms.map (·.1) := by
  induction children generalizing ms with
  | nil =>
      cases h
      rfl
  | cons c children ih =>
      cases h with
      | cons name _ hr => exact congrArg (name :: ·) (ih hr)

theorem printableLabels_of_optionally {v : Option Value} {labels : Option Labels}
    (hv : ∀ w, v = some w → w = .null ∨ IsLabels w)
    (h : Optionally (fun w ls => w = .object (labelMembers ls)) v labels) :
    PrintableLabels labels := by
  cases h with
  | missing => rintro _ ⟨⟩
  | null => rintro _ ⟨⟩
  | given h =>
      subst h
      obtain ⟨ls, hp, he⟩ := (hv _ rfl).resolve_left (by simp)
      obtain rfl := labelMembers_injective (Value.object.inj he)
      exact hp

/-- A node shown by a value that is a node is well formed. -/
theorem wellFormed_of_mirrors {v : Value} {node : Node} (hv : IsNode v) (hm : Mirrors v node) :
    node.WellFormed := by
  -- how the value is a node leaves one way in which it can show one
  induction hv generalizing node with
  | yes =>
      obtain rfl := mirrors_true_iff.mp hm
      exact .simple (by simp [OneOrMany.Printable, OneOrMany.toList, Text.hasControl])
  | texts h =>
      obtain ⟨x, hx, rfl⟩ := h
      obtain rfl := mirrors_texts_iff.mp hm
      exact .simple hx
  | filter h =>
      obtain ⟨localparts, labels, written, hf, rfl⟩ :=
        (mirrors_object_iff_of_has h.has_localparts).mp hm
      obtain ⟨_, hv, x, hx, rfl⟩ := h.localparts
      obtain rfl := OneOrMany.json_injective (Option.some.inj (hv.symm.trans hf.localparts))
      exact .full written hx (printableLabels_of_optionally h.labels hf.labels)
  | folders hl hn h ih =>
      obtain ⟨children, hc, rfl⟩ :=
        (mirrors_object_iff_of_not_has (Members.has_eq_false_iff.mpr hl)).mp hm
      have hfrom := exists_mem_of_mirrorsEach hc
      refine .folders (fun c hc => ?_) (fun c hc => ?_) (fun c hc => ?_)
      · obtain ⟨v, hv, -⟩ := hfrom c hc
        exact hl _ hv
      · obtain ⟨v, hv, -⟩ := hfrom c hc
        exact hn _ hv
      · obtain ⟨v, hv, hmv⟩ := hfrom c hc
        exact ih _ hv hmv

theorem exists_mirrorsEach {ms : List (String × Value)} (h : ∀ m ∈ ms, ∃ node, Mirrors m.2 node) :
    ∃ children, MirrorsEach ms children := by
  induction ms with
  | nil => exact ⟨[], .nil⟩
  | cons m ms ih =>
      obtain ⟨⟨node, hm⟩, h⟩ := List.forall_mem_cons.mp h
      obtain ⟨children, hr⟩ := ih h
      exact ⟨_, .cons m.1 hm hr⟩

theorem exists_optionally {α : Type} {P : Value → Prop} {R : Value → α → Prop} {v : Option Value}
    (hv : ∀ w, v = some w → w = .null ∨ P w) (hR : ∀ w, P w → ∃ a, R w a) :
    ∃ x, Optionally R v x := by
  cases v with
  | none => exact ⟨none, .missing⟩
  | some w =>
      rcases hv w rfl with rfl | hw
      · exact ⟨none, .null⟩
      · obtain ⟨a, ha⟩ := hR w hw
        exact ⟨some a, .given ha⟩

/-- Every value that is a node shows one. -/
theorem exists_mirrors {v : Value} (h : IsNode v) : ∃ node, Mirrors v node := by
  induction h with
  | yes => exact ⟨_, .yes⟩
  | texts h =>
      obtain ⟨x, -, hv⟩ := h
      exact ⟨_, .texts hv⟩
  | filter h =>
      obtain ⟨_, hv, x, -, rfl⟩ := h.localparts
      obtain ⟨labels, hl⟩ := exists_optionally h.labels
        (R := fun w ls => w = .object (labelMembers ls)) (by rintro _ ⟨ls, -, rfl⟩; exact ⟨ls, rfl⟩)
      obtain ⟨written, ho⟩ := exists_optionally h.options
        (R := fun w o => ∃ block, w = .object block ∧ OptionsBlock.override block = o)
        (by rintro _ ⟨block, rfl, -⟩; exact ⟨_, block, rfl, rfl⟩)
      exact ⟨_, .filter ⟨hv, hl, ho⟩⟩
  | folders hl _ _ ih =>
      obtain ⟨children, hc⟩ := exists_mirrorsEach ih
      exact ⟨_, .folders hl hc⟩

/-- **What is written** is read back exactly if the node is well formed. -/
theorem decode_json_iff {nulls : Bool} {path : String} {node : Node} :
    decode path (node.json nulls) = .ok node ↔ node.WellFormed := by
  rw [decode_eq_ok_iff]
  constructor
  · rintro ⟨hv, hm⟩
    exact wellFormed_of_mirrors hv hm
  · exact isNode_json

/-- **The grammar of nodes**: exactly the values that are nodes are decoded, each as the node that it
shows, and every other value is refused; a node that is written is read back exactly if it is well
formed. -/
theorem decode_grammar (path : String) :
    (∀ v, (∃ node, decode path v = .ok node) ↔ IsNode v) ∧
      (∀ v, (∃ e, decode path v = .error e) ↔ ¬IsNode v) ∧
      (∀ v node, decode path v = .ok node ↔ IsNode v ∧ Mirrors v node) ∧
      ∀ nulls node, decode path (node.json nulls) = .ok node ↔ node.WellFormed := by
  have hok (v : Value) : (∃ node, decode path v = .ok node) ↔ IsNode v := by
    simp only [decode_eq_ok_iff]
    constructor
    · rintro ⟨_, hv, -⟩
      exact hv
    · intro hv
      obtain ⟨node, hm⟩ := exists_mirrors hv
      exact ⟨node, hv, hm⟩
  refine ⟨hok, fun v => ?_, fun v node => decode_eq_ok_iff v path, fun _ _ => decode_json_iff⟩
  rw [← hok]
  cases decode path v <;> simp

/-- An alias is kept as its option, and null as nothing. -/
example : decode "" (.object [("a", .object [("localparts", .array [.string "x"]),
      ("labels", .null), ("options", .object [("orphan", .bool true)])]), ("b", .bool true)]) =
    .ok (.folders [("a", .full (.many ["x"]) none (some { fullpath := some false })),
      ("b", .simple (.one ""))]) :=
  rfl

end Node

end FolderSieve.Config
