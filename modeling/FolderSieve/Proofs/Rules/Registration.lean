import FolderSieve.Proofs.Config.Decoding
import FolderSieve.Rules.Walk

/-!
# Rules — registrations, and walks as rows of them

A registration is sound if its path, its labels and its localparts are in order, whatever rules
there are.  It adds one rule to its set, or none if its localparts are one empty text.

* `RuleSet.register_eq_ok_iff`, `DomainRules.register_eq_ok_iff`: a registration is taken exactly
  if it is sound and its path has no rule yet; then the set has what it had and what is added.
* `DomainRules.follow_failure_eq_none_iff`, `DomainRules.follow_rules`: steps do not fail exactly if
  each is sound and what they add has paths of its own; then the sets have what they had and what
  all steps add (`addedBy`).  How far the sets have grown when a step is taken plays no part.
* `DomainRules.follow_append`: steps behind others are taken if these do not fail.
* `DomainRules.walk_failure_eq_none_iff`, `DomainRules.walk_rules`: the same for the walk of a tree.
-/

namespace FolderSieve

namespace Config.OneOrMany

/-- At least one text, none of them empty or with a control character. -/
def Sound (x : OneOrMany) : Prop :=
  x.toList ≠ [] ∧ ∀ t ∈ x.toList, t ≠ "" ∧ Text.hasControl t = false

theorem mistake?_eq_none_iff {x : OneOrMany} {name : String} :
    x.mistake? name = none ↔ x.Sound := by
  unfold mistake? Sound
  constructor
  · intro h
    split at h
    · cases h
    split at h
    · cases h
    split at h
    · cases h
    split at h
    · cases h
    rename_i h₁ h₂ h₃ h₄
    refine ⟨by simpa using h₂, fun t ht => ⟨?_, ?_⟩⟩
    · rintro rfl
      exact h₃ (by simpa using ht)
    · exact Bool.eq_false_iff.mpr fun hc => h₄ (List.any_eq_true.mpr ⟨t, ht, hc⟩)
  · rintro ⟨h₁, h₂⟩
    have h₃ : "" ∉ x.toList := fun h => (h₂ _ h).1 rfl
    have h₄ : x ≠ .one "" := by
      rintro rfl
      simp [toList] at h₃
    have h₅ : x.toList.any Text.hasControl = false :=
      List.any_eq_false.mpr fun t ht => by simp [(h₂ t ht).2]
    simp [h₁, h₃, h₄, h₅]

theorem normalize_eq_ok_iff {x : OneOrMany} {name folder : String} {ts : List String} :
    x.normalize name folder = .ok ts ↔ x.Sound ∧ ts = x.toList := by
  rw [← @mistake?_eq_none_iff x name, normalize]
  split
  · rename_i h
    simp [h]
  · rename_i h
    simp [h, eq_comm]

end Config.OneOrMany

namespace RuleSet

/-- A label with a name and keywords that are not blank. -/
def LabelSound (l : String × Config.OneOrMany) : Prop :=
  Text.allBlank l.1.toList = false ∧ Text.hasControl l.1 = false ∧ l.2.Sound ∧
    ∀ k ∈ l.2.toList, Text.allBlank k.toList = false

theorem readLabel_eq_ok_iff {path name : String} {keywords : Config.OneOrMany}
    {l : String × List String} :
    readLabel path name keywords = .ok l ↔
      LabelSound (name, keywords) ∧ l = (name, keywords.toList) := by
  simp only [readLabel, bind, Except.bind, throw, throwThe, MonadExceptOf.throw, pure, Except.pure]
  constructor
  · intro h
    split at h
    · cases h
    split at h
    · cases h
    split at h
    · cases h
    split at h
    · cases h
    rename_i hn _ _ hname _ _ hk ha
    cases h
    obtain ⟨hs, -⟩ := Config.OneOrMany.normalize_eq_ok_iff.mp hname
    obtain ⟨hks, rfl⟩ := Config.OneOrMany.normalize_eq_ok_iff.mp hk
    have hc := (hs.2 name (by simp [Config.OneOrMany.toList])).2
    exact ⟨⟨by simpa using hn, hc, hks, by simpa using ha⟩, rfl⟩
  · rintro ⟨⟨hn, hc, hk, ha⟩, rfl⟩
    have hname : (Config.OneOrMany.one name).Sound := by
      refine ⟨by simp [Config.OneOrMany.toList], fun t ht => ?_⟩
      obtain rfl : t = name := by simpa [Config.OneOrMany.toList] using ht
      refine ⟨?_, hc⟩
      rintro rfl
      cases hn
    simp [hn, Config.OneOrMany.normalize_eq_ok_iff.mpr ⟨hname, rfl⟩,
      Config.OneOrMany.normalize_eq_ok_iff.mpr ⟨hk, rfl⟩]
    simpa using ha

/-- Labels by ascending name, their keywords as lists. -/
def ruleLabels (labels : GivenLabels) : RuleLabels :=
  (sortLabels labels).map fun l => (l.1, l.2.toList)

theorem mem_sortLabels {labels : GivenLabels} {l : String × Config.OneOrMany} :
    l ∈ sortLabels labels ↔ l ∈ labels :=
  mem_sortBy

theorem mapM_readLabel_eq_ok_iff {path : String} {labels : GivenLabels} {ls : RuleLabels} :
    labels.mapM (fun l => readLabel path l.1 l.2) = .ok ls ↔
      (∀ l ∈ labels, LabelSound l) ∧ ls = labels.map fun l => (l.1, l.2.toList) := by
  rw [Config.mapM_eq_ok_iff]
  constructor
  · intro h
    induction h with
    | nil => simp
    | cons hl _ ih =>
        obtain ⟨h, rfl⟩ := readLabel_eq_ok_iff.mp hl
        obtain ⟨hs, rfl⟩ := ih
        exact ⟨List.forall_mem_cons.mpr ⟨h, hs⟩, rfl⟩
  · rintro ⟨h, rfl⟩
    induction labels with
    | nil => exact .nil
    | cons l labels ih =>
        obtain ⟨hl, hs⟩ := List.forall_mem_cons.mp h
        exact .cons (readLabel_eq_ok_iff.mpr ⟨hl, rfl⟩) (ih hs)

/-- Every label there is, if there are any, is sound. -/
def LabelsSound (labels : Option GivenLabels) : Prop :=
  ∀ given, labels = some given → ∀ l ∈ given, LabelSound l

theorem readLabels_eq_ok_iff {path : String} {labels : Option GivenLabels}
    {ls : Option RuleLabels} :
    readLabels path labels = .ok ls ↔ LabelsSound labels ∧ ls = labels.map ruleLabels := by
  cases labels with
  | none => simp [readLabels, LabelsSound, eq_comm]
  | some given =>
      rw [readLabels]
      cases hm : (sortLabels given).mapM fun l => readLabel path l.1 l.2 with
      | error e =>
          simp only [Except.map, reduceCtorEq, false_iff, not_and]
          intro h _
          have hs : ∀ l ∈ sortLabels given, LabelSound l := fun l hl =>
            h given rfl l (mem_sortLabels.mp hl)
          rw [mapM_readLabel_eq_ok_iff.mpr ⟨hs, rfl⟩] at hm
          cases hm
      | ok read =>
          obtain ⟨h, rfl⟩ := mapM_readLabel_eq_ok_iff.mp hm
          have hs : LabelsSound (some given) := by
            rintro _ ⟨⟩ l hl
            exact h l (mem_sortLabels.mpr hl)
          simp [Except.map, ruleLabels, hs, eq_comm]

end RuleSet

/-! ### One registration -/

/-- A rule that has something to ask for, with labels that have something to look for; none of its
texts is empty or holds a control character. -/
structure Rule.Sound (r : Rule) : Prop where
  localparts : r.localparts ≠ [] ∧ ∀ t ∈ r.localparts, t ≠ "" ∧ Text.hasControl t = false
  labels : ∀ l ∈ r.labels.getD [], Text.allBlank l.1.toList = false ∧
    Text.hasControl l.1 = false ∧ l.2 ≠ [] ∧
      ∀ k ∈ l.2, Text.allBlank k.toList = false ∧ Text.hasControl k = false

namespace Registration

/-- Nothing is wrong with the registration, whatever rules there are. -/
def Sound (x : Registration) : Prop :=
  x.path ≠ "" ∧ RuleSet.LabelsSound x.labels ∧ (x.localparts = .one "" ∨ x.localparts.Sound)

/-- The rule that is asked for, at its path; none if the localparts are one empty text. -/
def added (x : Registration) : List (String × Rule) :=
  if x.localparts = .one "" then []
  else [(x.path, ⟨x.localparts.toList, x.labels.map RuleSet.ruleLabels, x.options⟩)]

theorem sound_of_mem_added {x : Registration} (h : x.Sound) {e : String × Rule}
    (he : e ∈ x.added) : e.1 ≠ "" ∧ e.2.Sound := by
  obtain ⟨hp, hl, hs⟩ := h
  unfold added at he
  split at he
  · cases he
  rename_i hne
  cases List.mem_singleton.mp he
  refine ⟨hp, hs.resolve_left hne, ?_⟩
  intro l hm
  cases hg : x.labels with
  | none => simp [hg] at hm
  | some given =>
      have hm : l ∈ RuleSet.ruleLabels given := by simpa [hg] using hm
      obtain ⟨g, hgm, rfl⟩ := List.mem_map.mp hm
      obtain ⟨hb, hc, hk, ha⟩ := hl given hg g (RuleSet.mem_sortLabels.mp hgm)
      exact ⟨hb, hc, hk.1, fun k hm => ⟨ha k hm, (hk.2 k hm).2⟩⟩

/-- What the registration adds to one of the two sets. -/
def addedTo (o : Origin) (x : Registration) : List (String × Rule) :=
  if x.origin = o then x.added else []

theorem sound_of_mem_addedTo {o : Origin} {x : Registration} (h : x.Sound) {e : String × Rule}
    (he : e ∈ x.addedTo o) : e.1 ≠ "" ∧ e.2.Sound := by
  unfold addedTo at he
  split at he
  · exact sound_of_mem_added h he
  · cases he

end Registration

namespace RuleSet

/-- Rules that a set can take one after the other: their paths are distinct, and none of them has
a rule. -/
def Fresh (r : RuleSet) (es : List (String × Rule)) : Prop :=
  (es.map (·.1)).Nodup ∧ ∀ e ∈ es, r.has e.1 = false

/-- The set with further rules behind its own. -/
def extend (r : RuleSet) (es : List (String × Rule)) : RuleSet :=
  { r with entries := r.entries ++ es }

@[simp] theorem extend_nil (r : RuleSet) : r.extend [] = r := by
  simp [extend]

@[simp] theorem extend_extend (r : RuleSet) (es fs : List (String × Rule)) :
    (r.extend es).extend fs = r.extend (es ++ fs) := by
  simp [extend]

theorem has_extend (r : RuleSet) (es : List (String × Rule)) (path : String) :
    (r.extend es).has path = (r.has path || es.any fun e => e.1 == path) := by
  simp [has, extend]

@[simp] theorem fresh_nil (r : RuleSet) : r.Fresh [] := by
  simp [Fresh]

theorem fresh_append {r : RuleSet} {es fs : List (String × Rule)} :
    r.Fresh (es ++ fs) ↔ r.Fresh es ∧ (r.extend es).Fresh fs := by
  simp only [Fresh, List.map_append, List.nodup_append, has_extend, Bool.or_eq_false_iff,
    List.any_eq_false, beq_iff_eq, List.mem_append, List.mem_map]
  constructor
  · rintro ⟨⟨hes, hfs, hd⟩, hr⟩
    exact ⟨⟨hes, fun e he => hr e (.inl he)⟩, hfs, fun f hf => ⟨hr f (.inr hf),
      fun e he => hd _ ⟨e, he, rfl⟩ _ ⟨f, hf, rfl⟩⟩⟩
  · rintro ⟨⟨hes, hre⟩, hfs, hrf⟩
    refine ⟨⟨hes, hfs, ?_⟩, ?_⟩
    · rintro _ ⟨e, he, rfl⟩ _ ⟨f, hf, rfl⟩
      exact (hrf f hf).2 e he
    · rintro e (he | he)
      · exact hre e he
      · exact (hrf e he).1

/-- **A registration** is taken exactly if it is sound and its path has no rule yet. -/
theorem register_eq_ok_iff {r r' : RuleSet} {x : Registration} :
    r.register x.path x.localparts x.labels x.options = .ok r' ↔
      x.Sound ∧ r.Fresh x.added ∧ r' = r.extend x.added := by
  unfold Registration.Sound Registration.added
  simp only [register, bind, Except.bind, throw, throwThe, MonadExceptOf.throw, pure, Except.pure]
  constructor
  · intro h
    split at h
    · cases h
    rename_i hp
    split at h
    · cases h
    rename_i hl
    obtain ⟨hs, rfl⟩ := readLabels_eq_ok_iff.mp hl
    split at h
    · rename_i he
      cases h
      simp [hp, hs, he]
    rename_i he
    split at h
    · cases h
    rename_i hr
    split at h
    · cases h
    rename_i hn
    cases h
    obtain ⟨hx, rfl⟩ := Config.OneOrMany.normalize_eq_ok_iff.mp hn
    simp [hp, hs, he, hx, Fresh, extend]
    simpa using hr
  · rintro ⟨⟨hp, hl, hs⟩, hf, rfl⟩
    simp only [hp, if_false, readLabels_eq_ok_iff.mpr ⟨hl, rfl⟩]
    by_cases he : x.localparts = .one ""
    · simp [he]
    · have hr : r.has x.path = false := by simpa [he, Fresh] using hf
      have hs := hs.resolve_left he
      simp [he, hr, Config.OneOrMany.normalize_eq_ok_iff.mpr ⟨hs, rfl⟩, extend]

end RuleSet

namespace DomainRules

/-- One of the two sets of a domain. -/
def set (d : DomainRules) : Origin → RuleSet
  | .custom => d.custom
  | .generic => d.generic

/-- The rules of a domain with further ones behind them. -/
def extend (d : DomainRules) (es : Origin → List (String × Rule)) : DomainRules :=
  { d with custom := d.custom.extend (es .custom), generic := d.generic.extend (es .generic) }

@[simp] theorem set_extend (d : DomainRules) (es : Origin → List (String × Rule)) (o : Origin) :
    (d.extend es).set o = (d.set o).extend (es o) := by
  cases o <;> rfl

@[simp] theorem extend_nil (d : DomainRules) : d.extend (fun _ => []) = d := by
  simp [extend]

@[simp] theorem extend_extend (d : DomainRules) (es fs : Origin → List (String × Rule)) :
    (d.extend es).extend fs = d.extend fun o => es o ++ fs o := by
  simp [extend]

@[simp] theorem domain_extend (d : DomainRules) (es : Origin → List (String × Rule)) :
    (d.extend es).domain = d.domain :=
  rfl

@[simp] theorem secrets_extend (d : DomainRules) (es : Origin → List (String × Rule)) :
    (d.extend es).secrets = d.secrets :=
  rfl

theorem register_eq_ok_iff {d d' : DomainRules} {x : Registration} :
    d.register x = .ok d' ↔
      x.Sound ∧ (∀ o, (d.set o).Fresh (x.addedTo o)) ∧ d' = d.extend x.addedTo := by
  have hset : d.register x = .ok d' ↔ ∃ r,
      (d.set x.origin).register x.path x.localparts x.labels x.options = .ok r ∧
        d' = match x.origin with
          | .custom => { d with custom := r }
          | .generic => { d with generic := r } := by
    unfold register
    cases ho : x.origin <;> simp only [set] <;>
      cases h : RuleSet.register _ x.path x.localparts x.labels x.options <;>
        simp [Except.map, eq_comm]
  have hfresh : (∀ o, (d.set o).Fresh (x.addedTo o)) ↔ (d.set x.origin).Fresh x.added := by
    constructor
    · intro h
      simpa [Registration.addedTo] using h x.origin
    · intro h o
      by_cases ho : x.origin = o
      · simpa [Registration.addedTo, ho] using ho ▸ h
      · simp [Registration.addedTo, ho]
  rw [hset, hfresh]
  constructor
  · rintro ⟨r, hr, rfl⟩
    obtain ⟨hs, hf, rfl⟩ := RuleSet.register_eq_ok_iff.mp hr
    refine ⟨hs, hf, ?_⟩
    cases ho : x.origin <;> simp [extend, Registration.addedTo, ho, set]
  · rintro ⟨hs, hf, rfl⟩
    refine ⟨_, RuleSet.register_eq_ok_iff.mpr ⟨hs, hf, rfl⟩, ?_⟩
    cases ho : x.origin <;> simp [extend, Registration.addedTo, ho, set]

end DomainRules

/-! ### Steps one after the other -/

namespace WalkStep

/-- The step does not fail, whatever rules there are. -/
def Sound : WalkStep → Prop
  | .register x => x.Sound
  | .warn .. => True
  | .fail _ => False

/-- What the step adds to one of the two sets. -/
def addedTo (o : Origin) : WalkStep → List (String × Rule)
  | .register x => x.addedTo o
  | .warn .. | .fail _ => []

end WalkStep

/-- None of the steps is a mistake. -/
def Faultless (steps : List WalkStep) : Prop :=
  ∀ e, WalkStep.fail e ∉ steps

theorem faultless_of_sound {steps : List WalkStep} (h : ∀ s ∈ steps, s.Sound) : Faultless steps :=
  fun e he => h (.fail e) he

theorem faultless_append {steps more : List WalkStep} :
    Faultless (steps ++ more) ↔ Faultless steps ∧ Faultless more := by
  simp [Faultless, forall_and]

/-- What steps add to one of the two sets. -/
def addedBy (steps : List WalkStep) (o : Origin) : List (String × Rule) :=
  steps.flatMap (WalkStep.addedTo o)

@[simp] theorem addedBy_nil : addedBy [] = fun _ => [] :=
  rfl

theorem addedBy_cons (s : WalkStep) (steps : List WalkStep) (o : Origin) :
    addedBy (s :: steps) o = s.addedTo o ++ addedBy steps o := by
  simp [addedBy]

@[simp] theorem addedBy_append (steps more : List WalkStep) (o : Origin) :
    addedBy (steps ++ more) o = addedBy steps o ++ addedBy more o := by
  simp [addedBy]

/-- What sound steps add is sound. -/
theorem sound_of_mem_addedBy {steps : List WalkStep} (h : ∀ s ∈ steps, s.Sound) {o : Origin}
    {e : String × Rule} (he : e ∈ addedBy steps o) : e.1 ≠ "" ∧ e.2.Sound := by
  obtain ⟨s, hm, he⟩ := List.mem_flatMap.mp he
  cases s with
  | register x => exact Registration.sound_of_mem_addedTo (h _ hm) he
  | warn => cases he
  | fail => cases he

namespace DomainRules

/-- **Steps do not fail** exactly if each of them is sound and the rules that they add are fresh in
their set. -/
theorem follow_failure_eq_none_iff {d : DomainRules} {steps : List WalkStep} :
    (d.follow steps).failure = none ↔
      (∀ s ∈ steps, s.Sound) ∧ ∀ o, (d.set o).Fresh (addedBy steps o) := by
  induction steps generalizing d with
  | nil => simp [follow]
  | cons s steps ih =>
      cases s with
      | fail e => simp [follow, WalkStep.Sound]
      | warn path written => simp [follow, ih, WalkStep.Sound, addedBy_cons, WalkStep.addedTo]
      | register x =>
          rw [follow]
          split
          -- what is fresh as a whole is fresh at this step, so that a refusal is for the rest of it
          · rename_i e he
            simp only [reduceCtorEq, List.mem_cons, forall_eq_or_imp, WalkStep.Sound,
              addedBy_cons, WalkStep.addedTo, RuleSet.fresh_append, false_iff, not_and]
            rintro ⟨hx, -⟩ hf
            rw [register_eq_ok_iff.mpr ⟨hx, fun o => (hf o).1, rfl⟩] at he
            cases he
          · rename_i d' hd
            obtain ⟨hx, hf, rfl⟩ := register_eq_ok_iff.mp hd
            simp only [ih, List.mem_cons, forall_eq_or_imp, WalkStep.Sound, hx, true_and,
              addedBy_cons, WalkStep.addedTo, RuleSet.fresh_append, set_extend, hf]

/-- **Steps that do not fail** leave the rules there were with those that they add behind them. -/
theorem follow_rules {d : DomainRules} {steps : List WalkStep}
    (h : (d.follow steps).failure = none) :
    (d.follow steps).rules = d.extend (addedBy steps) := by
  induction steps generalizing d with
  | nil => simp [follow]
  | cons s steps ih =>
      have hs : addedBy (s :: steps) = fun o => s.addedTo o ++ addedBy steps o :=
        funext (addedBy_cons s steps)
      cases s with
      | fail e => cases h
      | warn path written => simpa [follow, hs, WalkStep.addedTo] using ih h
      | register x =>
          rw [follow] at h ⊢
          split at h
          · cases h
          · rename_i d' hd
            obtain ⟨-, -, rfl⟩ := register_eq_ok_iff.mp hd
            simp only [ih h, extend_extend, hs]
            rfl

/-- Goes on from where steps have led, unless a mistake ended them. -/
def Walked.andThen (w : Walked) (next : DomainRules → Walked) : Walked :=
  match w.failure with
  | some _ => w
  | none => { next w.rules with warnings := w.warnings ++ (next w.rules).warnings }

theorem follow_append (d : DomainRules) (a b : List WalkStep) :
    d.follow (a ++ b) = (d.follow a).andThen fun d => d.follow b := by
  induction a generalizing d with
  | nil => rfl
  | cons s a ih =>
      cases s with
      | fail e => rfl
      | warn path written =>
          rw [List.cons_append, follow, follow, ih]
          cases h : (d.follow a).failure <;> simp [Walked.andThen, h]
      | register x =>
          cases hx : d.register x with
          | error e => simp [follow, hx, Walked.andThen]
          | ok d' => simpa [follow, hx] using ih d'

/-- **A walk does not fail** exactly if the tree is a folder map and its steps do not. -/
theorem walk_failure_eq_none_iff {d : DomainRules} {tree : Config.Node} :
    (d.walk tree).failure = none ↔
      (∃ children, tree = .folders children) ∧
        (d.follow (tree.steps d.secrets "" .root)).failure = none := by
  cases tree <;> simp [walk]

theorem walk_rules {d : DomainRules} {tree : Config.Node} (h : (d.walk tree).failure = none) :
    (d.walk tree).rules = d.extend (addedBy (tree.steps d.secrets "" .root)) := by
  obtain ⟨⟨children, rfl⟩, h⟩ := walk_failure_eq_none_iff.mp h
  exact follow_rules h

/-- Every rule after a walk that does not fail is sound, if there was none before. -/
theorem sound_of_mem_walk {domain : String} {firstFolder : Bool} {secrets : List String}
    {tree : Config.Node} (h : ((empty domain firstFolder secrets).walk tree).failure = none)
    (o : Origin) : ∀ e ∈ ((((empty domain firstFolder secrets).walk tree).rules).set o).entries,
      e.1 ≠ "" ∧ e.2.Sound := by
  intro e he
  have hs := (follow_failure_eq_none_iff.mp (walk_failure_eq_none_iff.mp h).2).1
  rw [walk_rules h, set_extend] at he
  have he : e ∈ addedBy (tree.steps (empty domain firstFolder secrets).secrets "" .root) o := by
    cases o <;> simpa [RuleSet.extend, set, empty] using he
  exact sound_of_mem_addedBy hs he

end DomainRules

end FolderSieve
