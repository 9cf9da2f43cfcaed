import FolderSieve.Proofs.Folder.Localpart
import FolderSieve.Proofs.Rules.Soundness

/-!
# Rules — malformed trees

What can be wrong with a folder tree is a closed list (`Config.Node.Malformed`): a mistake of one of
its nodes, or two nodes that ask for the same path.

* `Config.Node.soundAt_of_not_malformed`, `Config.Node.not_malformed_of_soundAt`: for a tree whose
  texts and names have no control character, and secrets that are in order, nothing on the list is
  there exactly if all located nodes are sound and no path is asked for twice.
* `DomainRules.walk_fails_iff_malformed`: the walk of a decoded tree fails exactly if something on
  the list is there.
-/

namespace FolderSieve

namespace Config

/-! ### Texts without control characters -/

namespace OneOrMany

theorem sound_iff_of_printable {x : OneOrMany} (hx : x.Printable) :
    x.Sound ↔ x.toList ≠ [] ∧ "" ∉ x.toList := by
  unfold Sound
  refine and_congr_right fun _ => ⟨fun h he => (h "" he).1 rfl, ?_⟩
  intro h t ht
  refine ⟨?_, hx t ht⟩
  rintro rfl
  exact h ht

/-- Localparts that ask for no rule, or for one that is sound. -/
theorem eq_one_or_sound_iff {x : OneOrMany} (hx : x.Printable) :
    (x = .one "" ∨ x.Sound) ↔ ∀ texts, x = .many texts → texts ≠ [] ∧ "" ∉ texts := by
  rw [sound_iff_of_printable hx]
  cases x with
  | one t => simpa [toList, eq_comm] using em (t = "")
  | many ts => simp [toList]

end OneOrMany

/-- A label name or a keyword that is blank, or no keyword at all. -/
def BlankLabel (l : String × OneOrMany) : Prop :=
  Text.allBlank l.1.toList = true ∨ l.2.toList = [] ∨
    ∃ k ∈ l.2.toList, Text.allBlank k.toList = true

theorem labelSound_iff {l : String × OneOrMany} (hn : Text.hasControl l.1 = false)
    (hk : l.2.Printable) : RuleSet.LabelSound l ↔ ¬BlankLabel l := by
  unfold RuleSet.LabelSound BlankLabel
  rw [OneOrMany.sound_iff_of_printable hk]
  have hempty : (∀ k ∈ l.2.toList, Text.allBlank k.toList = false) → "" ∉ l.2.toList := by
    intro h he
    cases h "" he
  simp only [hn, not_or, Bool.not_eq_true, not_exists, not_and]
  tauto

/-! ### The localparts of generic rules -/

theorem stem_eq_empty_iff {path : String} {fullpath : Bool} (hp : path ≠ "") :
    Folder.genericLocalpart (if fullpath then path else Folder.lastName path) = "" ↔
      fullpath = false ∧ path.toList.getLast? = some '/' := by
  rw [Folder.genericLocalpart_eq_empty_iff]
  cases fullpath <;> simp [hp, Folder.lastName_eq_empty_iff]

/-- A text is empty among those of a generic rule exactly if neither the name nor a secret gives
anything. -/
theorem empty_mem_genericLocalparts_iff {suffixes : List String} {path : String} {fullpath : Bool}
    (hp : path ≠ "") :
    "" ∈ genericLocalparts suffixes path fullpath ↔
      "" ∈ suffixes ∧ fullpath = false ∧ path.toList.getLast? = some '/' := by
  rw [← stem_eq_empty_iff hp]
  unfold genericLocalparts
  generalize Folder.genericLocalpart (if fullpath then path else Folder.lastName path) = stem
  simp only [List.mem_flatMap, List.mem_cons, List.not_mem_nil, or_false]
  constructor
  · rintro ⟨s, hs, h | h⟩
    · obtain ⟨rfl, rfl⟩ := String.append_eq_empty_iff.mp h.symm
      exact ⟨hs, rfl⟩
    · exact absurd (String.append_eq_empty_iff.mp h.symm).2 (by decide)
  · rintro ⟨hs, rfl⟩
    exact ⟨"", hs, .inl rfl⟩

theorem printable_genericLocalparts {suffixes : List String} {path : String} {fullpath : Bool}
    (hs : ∀ s ∈ suffixes, Text.hasControl s = false) (hc : Text.hasControl path = false) :
    (OneOrMany.many (genericLocalparts suffixes path fullpath)).Printable := by
  have hstem : Text.hasControl
      (Folder.genericLocalpart (if fullpath then path else Folder.lastName path)) = false := by
    refine Folder.hasControl_genericLocalpart ?_
    cases fullpath
    · exact Folder.hasControl_lastName hc
    · exact hc
  have hpoint : Text.hasControl ".*" = false := by decide
  intro t ht
  obtain ⟨s, hm, ht⟩ := List.mem_flatMap.mp ht
  have hsc := hs s hm
  rcases List.mem_cons.mp ht with rfl | ht
  · simp_all [Text.hasControl]
  · obtain rfl := List.mem_singleton.mp ht
    simp_all [Text.hasControl]

/-- The localparts of a generic rule are in order, unless there is nothing to make them from. -/
theorem sound_genericLocalparts_iff {secrets : List String} {path : String} {fullpath : Bool}
    (hs : ∀ s ∈ secrets, s ≠ "" ∧ Text.hasControl s = false) (hp : path ≠ "")
    (hc : Text.hasControl path = false) :
    (OneOrMany.many (genericLocalparts (if secrets.isEmpty then [""] else secrets) path
      fullpath)).Sound ↔
      ¬(secrets = [] ∧ fullpath = false ∧ path.toList.getLast? = some '/') := by
  obtain ⟨suffixes, hsuf⟩ : ∃ suffixes, (if secrets.isEmpty then [""] else secrets) = suffixes :=
    ⟨_, rfl⟩
  have hne : suffixes ≠ [] := by
    cases secrets <;> simp [← hsuf]
  have hempty : "" ∈ suffixes ↔ secrets = [] := by
    cases secrets with
    | nil => simp [← hsuf]
    | cons s secrets =>
        simp only [← hsuf, List.isEmpty_cons, Bool.false_eq_true, if_false, reduceCtorEq, iff_false]
        exact fun h => (hs "" h).1 rfl
  have hprint : ∀ s ∈ suffixes, Text.hasControl s = false := by
    cases secrets with
    | nil => simp [← hsuf, Text.hasControl]
    | cons s secrets => exact fun t ht => (hs t (by simpa [← hsuf] using ht)).2
  rw [hsuf, OneOrMany.sound_iff_of_printable (printable_genericLocalparts hprint hc),
    OneOrMany.toList, empty_mem_genericLocalparts_iff hp, hempty]
  refine and_iff_right ?_
  obtain ⟨s, rest, rfl⟩ := List.exists_cons_of_ne_nil hne
  simp [genericLocalparts]

/-! ### Paths and texts of located nodes -/

namespace Node

theorem SoundTexts.printable {node : Node} (h : node.SoundTexts) {x : OneOrMany}
    (hx : node.localparts? = some x) : x.Printable := by
  cases h with
  | simple h | full _ h _ =>
      cases hx
      exact h
  | folders => cases hx

theorem SoundTexts.printableLabels {node : Node} (h : node.SoundTexts) :
    PrintableLabels node.labels? := by
  cases h with
  | full _ _ hl => exact hl
  | simple | folders => rintro ls ⟨⟩

theorem soundTexts_of_mem_located (node : Node) {path : String} (h : node.SoundTexts) :
    ∀ l ∈ node.located path, l.2.SoundTexts := by
  have hP : HandedOn fun _ node => node.SoundTexts := by
    intro path children h c hc
    cases h with
    | folders h => exact h c hc
  exact forall_mem_located hP node h

/-- What lies below the root has a path, if no child of the root is without a name or `self`. -/
theorem ne_empty_or_eq_root_of_mem_located {children : List (String × Node)} {l : String × Node}
    (hc : ∀ c ∈ children, c.1 ≠ "" ∧ c.1 ≠ Folder.selfName)
    (hl : l ∈ (Node.folders children).located "") : l.1 ≠ "" ∨ l.2 = .folders children := by
  have hP : HandedOn fun path _ => path ≠ "" :=
    fun path _ hp c _ => Folder.child_ne_empty (.inl hp)
  rw [located] at hl
  rcases List.mem_append.mp hl with hl | hl
  · exact .inl (forall_mem_locatedChildren hP children
      (fun c hm => Folder.child_ne_empty (.inr (hc c hm))) l hl)
  · exact .inr (by rw [List.mem_singleton.mp hl])

/-! ### The list of what can be wrong -/

/-- What can be wrong with a folder tree, in a domain with the given secrets. -/
inductive Malformed (secrets : List String) (tree : Node) : Prop
  /-- The root is no folder map. -/
  | rootNotFolders (h : ∀ children, tree ≠ .folders children)
  /-- A folder map is empty. -/
  | noFolders {path : String} (h : (path, .folders []) ∈ tree.located "")
  /-- A folder map has a child without a name. -/
  | unnamed {path : String} {children : List (String × Node)} {child : Node}
      (h : (path, .folders children) ∈ tree.located "") (hc : ("", child) ∈ children)
  /-- The root has a child `self`. -/
  | selfAtRoot {children : List (String × Node)} {child : Node} (h : tree = .folders children)
      (hc : (Folder.selfName, child) ∈ children)
  /-- A folder map has no child but `self`. -/
  | selfAlone {path : String} {child : Node}
      (h : (path, .folders [(Folder.selfName, child)]) ∈ tree.located "")
  /-- The localparts of a filter are an empty list, or one with an empty text. -/
  | localparts {path : String} {node : Node} {texts : List String}
      (h : (path, node) ∈ tree.located "") (hl : node.localparts? = some (.many texts))
      (ht : texts = [] ∨ "" ∈ texts)
  /-- A label has a blank name, a blank keyword or no keyword. -/
  | labels {path : String} {node : Node} {labels : Labels} {label : String × OneOrMany}
      (h : (path, node) ∈ tree.located "") (hl : node.labels? = some labels) (hm : label ∈ labels)
      (hb : BlankLabel label)
  /-- A filter writes `fullpath` where it has no effect: it is not generic, or at the top. -/
  | fullpath {path : String} {node : Node} (h : (path, node) ∈ tree.located "")
      (hw : node.written.fullpath ≠ none)
      (hn : (Folder.settled path node.written).generic = false ∨ '/' ∉ path.toList)
  /-- Two nodes ask for the same path in one of the sets. -/
  | twice {path : String} {node node' : Node} (o : Origin)
      (h : [(path, node), (path, node')].Sublist (tree.located "")) (hn : node.asksFor o path)
      (hn' : node'.asksFor o path)
  /-- Without secrets, a generic rule is made from a last name that is empty. -/
  | lastName {path : String} {node : Node} (hs : secrets = [])
      (h : (path, node) ∈ tree.located "") (hn : node.asksFor .generic path)
      (hf : (Folder.settled path node.written).fullpath = false)
      (he : path.toList.getLast? = some '/')

theorem nodup_asksFor_iff {o : Origin} {tree : Node} :
    (((tree.located "").filter fun l => l.2.asksFor o l.1).map (·.1)).Nodup ↔
      ∀ path node node', [(path, node), (path, node')].Sublist (tree.located "") →
        node.asksFor o path → ¬node'.asksFor o path := by
  rw [List.Nodup, List.pairwise_map, List.pairwise_filter, List.pairwise_iff_forall_sublist]
  simp only [decide_eq_true_eq]
  constructor
  · intro h path node node' hs hn hn'
    exact h hs hn hn' rfl
  · rintro h ⟨path, node⟩ ⟨path', node'⟩ hs hn hn' rfl
    exact h path node node' hs hn hn'

section Decoded

variable {secrets : List String} {tree : Node}

/-- A tree with nothing wrong is a folder map, and no child of it is without a name or `self`. -/
theorem exists_children_of_not_malformed (h : ¬tree.Malformed secrets) :
    ∃ children, tree = .folders children ∧
      ∀ c ∈ children, c.1 ≠ "" ∧ c.1 ≠ Folder.selfName := by
  cases tree with
  | folders children =>
      refine ⟨children, rfl, ?_⟩
      rintro ⟨name, child⟩ hc
      refine ⟨?_, ?_⟩
      · rintro rfl
        exact h (.unnamed (self_mem_located "" _) hc)
      · rintro rfl
        exact h (.selfAtRoot rfl hc)
  | _ => exact absurd (.rootNotFolders (by simp)) h

/-- Every located node of a tree with nothing wrong is sound. -/
theorem soundAt_of_not_malformed (hn : tree.SoundNames) (ht : tree.SoundTexts)
    (hs : ∀ s ∈ secrets, s ≠ "" ∧ Text.hasControl s = false) (h : ¬tree.Malformed secrets) :
    ∀ l ∈ tree.located "", l.2.SoundAt (if secrets.isEmpty then [""] else secrets) l.1 := by
  obtain ⟨root, hroot, hnames⟩ := exists_children_of_not_malformed h
  rintro ⟨path, node⟩ hl
  have hc := hasControl_of_mem_located tree hn (by decide) _ hl
  have htexts := soundTexts_of_mem_located tree ht _ hl
  have hplace := ne_empty_or_eq_root_of_mem_located hnames (hroot ▸ hl)
  constructor
  case localparts =>
    intro x hx
    refine ⟨hplace.resolve_right ?_, (OneOrMany.eq_one_or_sound_iff (htexts.printable hx)).mpr ?_⟩
    · rintro rfl
      cases hx
    · rintro texts rfl
      exact not_or.mp fun hm => h (.localparts hl hx hm)
  case labels =>
    intro labels hlabels label hm
    obtain ⟨hname, hk⟩ := htexts.printableLabels labels hlabels label hm
    exact (labelSound_iff hname hk).mpr fun hb => h (.labels hl hlabels hm hb)
  case fullpath =>
    intro hw
    by_contra hf
    refine h (.fullpath hl hw ?_)
    by_cases hg : (Folder.settled path node.written).generic = true
    · exact .inr fun hm => hf ⟨hg, hm⟩
    · exact .inl (by simpa using hg)
  case folders =>
    rintro children rfl
    refine ⟨?_, ?_⟩
    · rintro rfl
      exact h (.noFolders hl)
    rintro ⟨name, child⟩ hm
    refine nameMistake?_eq_none_iff.mpr ⟨?_, ?_⟩
    · rintro rfl
      exact h (.unnamed hl hm)
    rintro rfl
    refine ⟨?_, ?_⟩
    -- a folder map without a path is the root, and the root has no `self`
    · rintro rfl
      cases hplace.resolve_left (by simp)
      exact (hnames _ hm).2 rfl
    · by_contra hlen
      obtain ⟨c, rfl⟩ := List.length_eq_one_iff.mp (by simpa using hlen)
      obtain rfl := List.mem_singleton.mp hm
      exact h (.selfAlone hl)
  case generic =>
    intro hg
    exact (sound_genericLocalparts_iff hs hg.1 hc).mpr fun ⟨hsecrets, hf, he⟩ =>
      h (.lastName hsecrets hl hg hf he)

/-- In a folder map whose located nodes are sound, and ask for no path twice, nothing is wrong. -/
theorem not_malformed_of_soundAt (hn : tree.SoundNames) (ht : tree.SoundTexts)
    (hs : ∀ s ∈ secrets, s ≠ "" ∧ Text.hasControl s = false)
    (hroot : ∃ children, tree = .folders children)
    (hsound : ∀ l ∈ tree.located "",
      l.2.SoundAt (if secrets.isEmpty then [""] else secrets) l.1)
    (hnodup : ∀ o, (((tree.located "").filter fun l => l.2.asksFor o l.1).map (·.1)).Nodup) :
    ¬tree.Malformed secrets := by
  intro h
  cases h with
  | rootNotFolders h =>
      obtain ⟨children, hroot⟩ := hroot
      exact h children hroot
  | noFolders h => exact ((hsound _ h).folders [] rfl).1 rfl
  | unnamed h hc =>
      exact (nameMistake?_eq_none_iff.mp (((hsound _ h).folders _ rfl).2 _ hc)).1 rfl
  | selfAtRoot h hc =>
      subst h
      have := ((hsound _ (self_mem_located "" _)).folders _ rfl).2 _ hc
      exact ((nameMistake?_eq_none_iff.mp this).2 rfl).1 rfl
  | selfAlone h =>
      have := ((hsound _ h).folders _ rfl).2 _ List.mem_cons_self
      cases ((nameMistake?_eq_none_iff.mp this).2 rfl).2
  | localparts h hl hm =>
      have hx := ((hsound _ h).localparts _ hl).2
      have hp := (soundTexts_of_mem_located tree ht _ h).printable hl
      obtain ⟨hne, hempty⟩ := (OneOrMany.eq_one_or_sound_iff hp).mp hx _ rfl
      exact hm.elim hne hempty
  | labels h hl hm hb =>
      obtain ⟨hname, hk⟩ := (soundTexts_of_mem_located tree ht _ h).printableLabels _ hl _ hm
      exact (labelSound_iff hname hk).mp ((hsound _ h).labels _ hl _ hm) hb
  | fullpath h hw hf =>
      obtain ⟨hg, hs⟩ := (hsound _ h).fullpath hw
      rcases hf with hf | hf
      · rw [hf] at hg
        cases hg
      · exact hf hs
  | twice o h hn hn' => exact nodup_asksFor_iff.mp (hnodup o) _ _ _ h hn hn'
  | lastName hsecrets h hg hf he =>
      have hc := hasControl_of_mem_located tree hn (by decide) _ h
      exact (sound_genericLocalparts_iff hs hg.1 hc).mp ((hsound _ h).generic hg)
        ⟨hsecrets, hf, he⟩

end Decoded

end Node

end Config

namespace DomainRules

/-- **A walk fails exactly on malformed trees**, if the tree is decoded and no secret is empty or
has a control character; an empty list stands for no secrets.  It never fails since a rule is
registered without a path. -/
theorem walk_fails_iff_malformed (domain : String) (firstFolder : Bool) (secrets : List String)
    (hs : ∀ s ∈ secrets, s ≠ "" ∧ Text.hasControl s = false) (path : String) (v : Json.Value)
    (tree : Config.Node) (hd : Config.Node.decode path v = .ok tree) :
    let failure := ((empty domain firstFolder secrets).walk tree).failure
    (failure ≠ none ↔ tree.Malformed secrets) ∧
      ∀ e, failure = some e → ∀ set, e.mistake ≠ .rulePathEmpty set := by
  intro failure
  have hn := Config.Node.soundNames_of_decode v path hd
  have ht := Config.Node.soundTexts_of_decode v path hd
  refine ⟨not_iff_comm.mp ?_, fun e he set => walk_ne_rulePathEmpty he set⟩
  rw [walk_empty_failure_eq_none_iff]
  constructor
  · intro h
    obtain ⟨children, hroot, -⟩ := Config.Node.exists_children_of_not_malformed h
    exact ⟨⟨children, hroot⟩, Config.Node.soundAt_of_not_malformed hn ht hs h,
      fun o => Config.Node.nodup_asksFor_iff.mpr fun _ _ _ hsub ha ha' => h (.twice o hsub ha ha')⟩
  · rintro ⟨hroot, hsound, hnodup⟩
    exact Config.Node.not_malformed_of_soundAt hn ht hs hroot hsound hnodup

/-- A name that ends in a slash: nothing is left of it to make a localpart from, unless there is a
secret. -/
theorem walk_fails_iff_malformed_slash :
    let v := Json.Value.object [("A/", .string "x")]
    let tree := Config.Node.folders [("A/", .simple (.one "x"))]
    Config.Node.decode "" v = .ok tree ∧
      tree.Malformed [] ∧
      ((empty "a.org" false []).walk tree).failure = some ⟨.itemEmpty "localparts",
        { domain := "a.org", folder := "A/", field := "localparts" }⟩ ∧
      ¬tree.Malformed ["k"] ∧ ((empty "a.org" false ["k"]).walk tree).failure = none := by
  intro v tree
  have hd : Config.Node.decode "" v = .ok tree := by rfl
  have hfail : ((empty "a.org" false []).walk tree).failure = some ⟨.itemEmpty "localparts",
      { domain := "a.org", folder := "A/", field := "localparts" }⟩ := by decide +kernel
  have hnone : ((empty "a.org" false ["k"]).walk tree).failure = none := by decide +kernel
  have hbad := (walk_fails_iff_malformed "a.org" false [] (by simp) "" v tree hd).1.mp
    (by simp [hfail])
  have hgood := (walk_fails_iff_malformed "a.org" false ["k"] (by decide) "" v tree hd).1
  exact ⟨hd, hbad, hfail, fun hm => hgood.mpr hm hnone, hnone⟩

end DomainRules

end FolderSieve
