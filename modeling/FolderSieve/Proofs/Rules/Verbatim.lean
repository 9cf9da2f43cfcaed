import FolderSieve.Proofs.Rules.Outline

/-!
# Rules — which strings come through

A block is moved right line by line, also where a line break stands in a quoted string.  Control
characters are refused, but three characters that end a line are none: U+0085, U+2028 and U+2029.  A
string that holds one of them gains spaces in a script wherever it stands in a block.  A path that
begins with a slash loses it, since the folders on the way to it are put together from its names.

* `Statement.movedIn_labelStatements_iff`, `Rule.movedIn_arm_iff`: what is read of a rule is what the
  rule holds exactly if it is verbatim.
* `Script.readScript_eq_outline_iff`: a script is read as its domains have it, with the folders on the
  way to a path the path cut at its slashes, exactly if all rules are verbatim.
-/

namespace FolderSieve

open Sieve (Arm Statement Test moved)
open Sieve.Statement

/-! ### Strings and tests -/

theorem moved_succ_eq_self_iff {d : Nat} {v : String} : moved (d + 1) v = v ↔ Still v := by
  simp [Sieve.moved_eq_self_iff]

theorem moved_of_still {d : Nat} {v : String} (h : Still v) : moved d v = v :=
  Sieve.moved_eq_self_iff.mpr (.inr h)

/-- A string without a line break stays in front of what is moved behind it. -/
theorem moved_append_of_still {u : String} (h : Still u) (d : Nat) (v : String) :
    moved d (u ++ v) = u ++ moved d v := by
  rw [moved, String.toList_append, Text.iterate_moved_append h, String.ofList_append,
    String.ofList_toList, moved]

theorem map_moved_eq_self_iff {d : Nat} {vs : List String} :
    vs.map (moved (d + 1)) = vs ↔ ∀ v ∈ vs, Still v := by
  simp only [← moved_succ_eq_self_iff (d := d)]
  constructor
  · intro h v hv
    exact List.map_inj_left.mp (h.trans (List.map_id vs).symm) v hv
  · intro h
    exact (List.map_congr_left h).trans (List.map_id vs)

theorem still_of_prefix {v w : String} (h : v.toList <+: w.toList) (hw : Still w) : Still v :=
  List.any_eq_false.mpr fun c hc => List.any_eq_false.mp hw c (h.subset hc)

/-- None of the characters that end a line, besides control characters, is in the string. -/
def Unbroken (v : String) : Prop :=
  '\u0085' ∉ v.toList ∧ '\u2028' ∉ v.toList ∧ '\u2029' ∉ v.toList

instance (v : String) : Decidable (Unbroken v) :=
  inferInstanceAs (Decidable (_ ∧ _ ∧ _))

theorem still_iff_unbroken {v : String} (h : Text.hasControl v = false) : Still v ↔ Unbroken v := by
  have hc : ∀ c ∈ v.toList, Text.isControl c = false := by simpa [Text.hasControl] using h
  rw [Still, List.any_eq_false]
  constructor
  · intro hv
    exact ⟨fun hm => hv _ hm (by decide), fun hm => hv _ hm (by decide),
      fun hm => hv _ hm (by decide)⟩
  · rintro ⟨h₁, h₂, h₃⟩ c hm hb
    rcases (Text.isBreak_iff_of_not_isControl (hc c hm)).mp hb with rfl | rfl | rfl
    · exact h₁ hm
    · exact h₂ hm
    · exact h₃ hm

theorem slashes_moved (d : Nat) (v : String) : Folder.slashes (moved d v) = Folder.slashes v := by
  simp [Folder.slashes, moved, Text.count_iterate_moved]

namespace Sieve.Test

theorem mapText_phrase_eq_iff {d : Nat} {t : Test} :
    (t.phrase id).mapText (moved (d + 1)) = t.phrase id ↔ ∀ v ∈ t.strings, Still v := by
  rw [mapText_phrase, Function.comp_id]
  cases t with
  | headerContains keywords =>
      simpa [phrase, strings] using @map_moved_eq_self_iff d keywords
  | localpartMatches patterns =>
      simpa [phrase, strings] using @map_moved_eq_self_iff d patterns
  | domainIs domain => simp [phrase, strings, moved_succ_eq_self_iff]

end Sieve.Test

namespace Rule

/-! ### The branch of a rule -/

theorem rowMovedIn_markStatements (d : Nat) (path : String) :
    rowMovedIn d (markStatements path) = markStatements path := by
  have hs : moved d Sieve.seenFlag = Sieve.seenFlag := moved_of_still (by decide)
  have hu : moved d Folder.unread = Folder.unread := moved_of_still (by decide)
  unfold markStatements
  split <;> simp [rowMovedIn, hs, hu]

theorem movedIn_keywordArm_iff {d : Nat} {keywords : List String} {body : List Statement}
    {otherwise : Option (List Statement)} :
    (Statement.chain [keywordArm keywords body] otherwise).movedIn (d + 1) =
        .chain [keywordArm keywords body] otherwise ↔
      (∀ k ∈ keywords, Still k) ∧ rowMovedIn (d + 2) body = body ∧
        otherwiseMovedIn (d + 1) otherwise = otherwise := by
  simp [movedIn, armsMovedIn, keywordArm, Test.mapText_phrase_eq_iff, Test.strings, and_assoc]

/-- A label whose name and keywords are still. -/
abbrev LabelStill (l : String × List String) : Prop :=
  Still l.1 ∧ ∀ k ∈ l.2, Still k

theorem movedIn_labelArm_iff {d : Nat} {l : String × List String}
    {otherwise : Option (List Statement)} :
    (Statement.chain [labelArm l] otherwise).movedIn (d + 1) = .chain [labelArm l] otherwise ↔
      LabelStill l ∧ otherwiseMovedIn (d + 1) otherwise = otherwise := by
  have hf : rowMovedIn (d + 2) [.action (Sieve.fileInto l.1)] = [.action (Sieve.fileInto l.1)] ↔
      Still l.1 := by
    simp [rowMovedIn, moved_succ_eq_self_iff]
  rw [labelArm, movedIn_keywordArm_iff, hf]
  constructor
  · rintro ⟨hk, hl, ho⟩
    exact ⟨⟨hl, hk⟩, ho⟩
  · rintro ⟨⟨hl, hk⟩, ho⟩
    exact ⟨hk, hl, ho⟩

theorem rowMovedIn_labels_iff {d : Nat} {labels : RuleLabels} :
    rowMovedIn (d + 1) (labels.map fun label => .chain [labelArm label] none) =
        labels.map (fun label => .chain [labelArm label] none) ↔
      ∀ l ∈ labels, LabelStill l := by
  rw [rowMovedIn_eq_map, List.map_map, List.map_inj_left]
  simp only [Function.comp_apply, movedIn_labelArm_iff, otherwiseMovedIn, and_true]

/-- The labels of a rule are read as they are if all of them are still. -/
theorem rowMovedIn_labelStatements_iff {d : Nat} {path : String} {r : Rule} :
    rowMovedIn (d + 1) (r.labelStatements path) = r.labelStatements path ↔
      ∀ l ∈ r.labels.getD [], LabelStill l := by
  have hm : otherwiseMovedIn (d + 1) (some (markStatements path)) = some (markStatements path) :=
    congrArg some (rowMovedIn_markStatements (d + 2) path)
  unfold labelStatements
  generalize r.labels.getD [] = labels
  by_cases hs : r.options.silent = true
  · simp only [hs, if_true]
    match labels with
    | [] => simpa using rowMovedIn_markStatements (d + 1) path
    | [label] => simp [rowMovedIn, movedIn_labelArm_iff, hm]
    | l :: l' :: labels =>
        -- the keywords of the outer test are keywords of labels, and ask for nothing more
        have hk : (∀ l'' ∈ l :: l' :: labels, LabelStill l'') →
            ∀ k ∈ allKeywords (l :: l' :: labels), Still k := by
          intro h k hk
          obtain ⟨l'', hl, hk⟩ := mem_allKeywords.mp hk
          exact (h l'' hl).2 k hk
        simp only [rowMovedIn, List.cons.injEq, and_true, movedIn_keywordArm_iff, hm,
          rowMovedIn_labels_iff]
        exact ⟨fun h => h.2, fun h => ⟨hk h, h⟩⟩
  · simp only [hs]
    exact rowMovedIn_labels_iff

theorem rowMovedIn_filingStatements (d : Nat) (home : String) (folders : List String) :
    rowMovedIn d (filingStatements home folders) =
      folders.map fun folder => .action (Sieve.fileInto (moved d (home ++ folder))) := by
  rw [rowMovedIn_eq_map, filingStatements, List.map_map]
  rfl

/-- The folders on the way to a path are read as the path cut at its slashes if nothing in them moves
and the path does not begin with a slash. -/
theorem rowMovedIn_filingStatements_iff {d : Nat} {home path : String} :
    rowMovedIn (d + 1) (filingStatements home (Folder.chain path)) =
        filingStatements home (Folder.prefixes path) ↔
      Still (home ++ path) ∧ path.toList.head? ≠ some '/' := by
  rw [rowMovedIn_filingStatements]
  constructor
  · intro h
    have hp : path.toList.head? ≠ some '/' := by
      intro hp
      -- the path itself would have to be one of the folders, all of which have fewer slashes
      have hm : Statement.action (Sieve.fileInto (home ++ path)) ∈
          filingStatements home (Folder.prefixes path) :=
        List.mem_map.mpr ⟨path, Folder.self_mem_prefixes path, rfl⟩
      obtain ⟨q, hq, he⟩ := List.mem_map.mp (h ▸ hm)
      have he : moved (d + 1) (home ++ q) = home ++ path := by simpa using he
      have hs := congrArg Folder.slashes he
      have hlt := Folder.slashes_lt_of_mem_chain hp hq
      rw [slashes_moved] at hs
      simp only [Folder.slashes, String.toList_append, List.count_append] at hs hlt
      omega
    refine ⟨?_, hp⟩
    rw [Folder.chain_eq_prefixes hp, filingStatements, List.map_inj_left] at h
    have := h path (Folder.self_mem_prefixes path)
    exact moved_succ_eq_self_iff.mp (by simpa using this)
  · rintro ⟨hs, hp⟩
    rw [Folder.chain_eq_prefixes hp, filingStatements, List.map_inj_left]
    intro q hq
    obtain ⟨r, hr, rfl⟩ := List.mem_map.mp hq
    have hr := Text.prefix_of_mem_cuts hr
    have : Still (home ++ String.ofList r) := by
      refine still_of_prefix ?_ hs
      simpa using hr
    rw [moved_of_still this]

/-- What the rule at a path holds and what comes of it as they are: no string holds one of the three
characters that end a line without being control characters, and the path begins with a name. -/
structure Verbatim (home : String) (e : String × Rule) : Prop where
  localparts : ∀ p ∈ e.2.localparts, Unbroken p
  labels : ∀ l ∈ e.2.labels.getD [], Unbroken l.1 ∧ ∀ k ∈ l.2, Unbroken k
  folder : Unbroken (home ++ e.1)
  path : e.1.toList.head? ≠ some '/'

/-- **The branch of a rule** is read as the rule has it exactly if the rule is verbatim. -/
theorem movedIn_arm_iff {d : Nat} {home : String} {e : String × Rule}
    (hh : Text.hasControl home = false) (hp : Text.hasControl e.1 = false) (hs : e.2.Sound) :
    (((arm Folder.chain home e).1.mapText (moved (d + 1)),
        rowMovedIn (d + 2) (arm Folder.chain home e).2) : Arm) = arm Folder.prefixes home e ↔
      Verbatim home e := by
  have hlength : (rowMovedIn (d + 2) (e.2.labelStatements e.1)).length =
      (e.2.labelStatements e.1).length := by
    rw [rowMovedIn_eq_map, List.length_map]
  have hfolder : Still (home ++ e.1) ↔ Unbroken (home ++ e.1) := by
    refine still_iff_unbroken ?_
    simp_all [Text.hasControl]
  have hpattern : ∀ p ∈ e.2.localparts, (Still p ↔ Unbroken p) := fun p hp =>
    still_iff_unbroken (hs.localparts.2 p hp).2
  have hlabel : ∀ l ∈ e.2.labels.getD [],
      (LabelStill l ↔ Unbroken l.1 ∧ ∀ k ∈ l.2, Unbroken k) := by
    intro l hl
    obtain ⟨-, hn, -, hk⟩ := hs.labels l hl
    have hk : ∀ k ∈ l.2, (Still k ↔ Unbroken k) := fun k hm => still_iff_unbroken (hk k hm).2
    rw [LabelStill, still_iff_unbroken hn]
    exact and_congr_right fun _ => forall₂_congr hk
  unfold arm
  rw [Prod.mk.injEq, Test.mapText_phrase_eq_iff, rowMovedIn_append]
  constructor
  · rintro ⟨ht, hb⟩
    obtain ⟨hl, hf⟩ := List.append_inj hb hlength
    obtain ⟨hf, hp⟩ := rowMovedIn_filingStatements_iff.mp hf
    have hl := rowMovedIn_labelStatements_iff.mp hl
    exact ⟨fun p hm => (hpattern p hm).mp (ht p hm), fun l hm => (hlabel l hm).mp (hl l hm),
      hfolder.mp hf, hp⟩
  · rintro ⟨ht, hl, hf, hp⟩
    refine ⟨fun p hm => (hpattern p hm).mpr (ht p hm), congrArg₂ (· ++ ·) ?_ ?_⟩
    · exact rowMovedIn_labelStatements_iff.mpr fun l hm => (hlabel l hm).mpr (hl l hm)
    · exact rowMovedIn_filingStatements_iff.mpr ⟨hfolder.mpr hf, hp⟩

end Rule

/-! ### Whole scripts -/

theorem RuleSet.rowMovedIn_catchAll (d : Nat) :
    rowMovedIn d catchAllStatements = catchAllStatements := by
  have hs : moved d Sieve.seenFlag = Sieve.seenFlag := moved_of_still (by decide)
  have hu : moved d Folder.unknown = Folder.unknown := moved_of_still (by decide)
  simp [catchAllStatements, rowMovedIn, hs, hu]

theorem RuleSet.movedIn_arms_iff {r : RuleSet} (h : r.Sound) {d : Nat} :
    armsMovedIn (d + 1) (r.arms Folder.chain) = r.arms Folder.prefixes ↔
      ∀ e ∈ r.entries, Rule.Verbatim r.home e := by
  rw [armsMovedIn_eq_map, RuleSet.arms, RuleSet.arms, List.map_map, List.map_inj_left]
  constructor
  · intro ha e he
    exact (Rule.movedIn_arm_iff h.home (h.entries e he).1 (h.entries e he).2).mp
      (ha e (mem_sortBy.mpr he))
  · intro hv e he
    have he := mem_sortBy.mp he
    exact (Rule.movedIn_arm_iff h.home (h.entries e he).1 (h.entries e he).2).mpr (hv e he)

namespace DomainRules

theorem movedIn_arms_iff {r : DomainRules} (h : r.Sound) {d : Nat} :
    armsMovedIn (d + 1) (r.arms Folder.chain) = r.arms Folder.prefixes ↔
      ∀ o, ∀ e ∈ (r.set o).entries, Rule.Verbatim (r.set o).home e := by
  have hlength : (armsMovedIn (d + 1) (r.custom.arms Folder.chain)).length =
      (r.custom.arms Folder.prefixes).length := by
    simp [armsMovedIn_eq_map]
  rw [arms, arms, armsMovedIn_append]
  constructor
  · intro ha o
    obtain ⟨hc, hg⟩ := List.append_inj ha hlength
    cases o with
    | custom => exact (RuleSet.movedIn_arms_iff h.custom).mp hc
    | generic => exact (RuleSet.movedIn_arms_iff h.generic).mp hg
  · intro hv
    rw [(RuleSet.movedIn_arms_iff h.custom).mpr (hv .custom),
      (RuleSet.movedIn_arms_iff h.generic).mpr (hv .generic)]

/-- The block of a domain is read as its rules have it exactly if they are verbatim. -/
theorem movedIn_statements_iff {r : DomainRules} (h : r.Sound) {d : Nat} :
    rowMovedIn (d + 1) (r.statements Folder.chain) = r.statements Folder.prefixes ↔
      ∀ o, ∀ e ∈ (r.set o).entries, Rule.Verbatim (r.set o).home e := by
  rw [← movedIn_arms_iff h (d := d)]
  have hlength : (r.arms Folder.chain).length = (r.arms Folder.prefixes).length := by
    simp [arms]
  unfold statements
  cases hc : r.arms Folder.chain with
  | nil =>
      obtain hp : r.arms Folder.prefixes = [] := by simpa [hc] using hlength.symm
      simp [hp, RuleSet.rowMovedIn_catchAll, armsMovedIn]
  | cons a as =>
      cases hp : r.arms Folder.prefixes with
      | nil => simp [hc, hp] at hlength
      | cons b bs =>
          have ho : otherwiseMovedIn (d + 1) (some RuleSet.catchAllStatements) =
              some RuleSet.catchAllStatements := congrArg some (RuleSet.rowMovedIn_catchAll (d + 2))
          simp [rowMovedIn, movedIn, ho]

end DomainRules

namespace Script

theorem movedIn_outline_iff {rules : List DomainRules} (h : ∀ r ∈ rules, r.Sound) :
    rowMovedIn 0 (outline Folder.chain rules) = outline Folder.prefixes rules ↔
      ∀ r ∈ rules, ∀ o, ∀ e ∈ (r.set o).entries, Rule.Verbatim (r.set o).home e := by
  -- the domain stands outside of all blocks, so that its name cannot move
  have harm : ∀ r ∈ rules, (((r.arm Folder.chain).1.mapText (moved 0),
      rowMovedIn 1 (r.arm Folder.chain).2) = r.arm Folder.prefixes ↔
        ∀ o, ∀ e ∈ (r.set o).entries, Rule.Verbatim (r.set o).home e) := by
    intro r hr
    have ht := Test.mapText_phrase 0 id (.domainIs r.domain)
    rw [Sieve.moved_zero, Function.comp_id] at ht
    rw [← DomainRules.movedIn_statements_iff (h r hr) (d := 0)]
    simp [DomainRules.arm, ht]
  have hchain : armsMovedIn 0 (rules.map (DomainRules.arm Folder.chain)) =
      rules.map (DomainRules.arm Folder.prefixes) ↔
        ∀ r ∈ rules, ∀ o, ∀ e ∈ (r.set o).entries, Rule.Verbatim (r.set o).home e := by
    rw [armsMovedIn_eq_map, List.map_map, List.map_inj_left]
    exact forall₂_congr harm
  rw [← hchain]
  cases rules with
  | nil => simp [outline, rowMovedIn, armsMovedIn]
  | cons r rules => simp [outline, rowMovedIn, movedIn, otherwiseMovedIn]

/-- **Which scripts are read as they are meant.**  For every configuration that is decoded and
compiled, the statements read are those of the rules, with the folders on the way to a path the path
cut at its slashes, exactly if every rule of every domain is verbatim. -/
theorem readScript_eq_outline_iff {v : Json.Value} {force : Bool} {domains : List Config.Domain}
    {text : String} (hd : Config.Domain.decodeAll v = .ok domains)
    (hc : (compile "" force domains).result = .ok text) :
    ∃ rules, RulesOf force domains rules ∧
      (Sieve.readScript text = some (outline Folder.prefixes rules) ↔
        ∀ r ∈ rules, ∀ o, ∀ e ∈ (r.set o).entries, Rule.Verbatim (r.set o).home e) := by
  obtain ⟨rules, hall, hs, hread⟩ := readScript_of_compile hd hc
  refine ⟨rules, hall, ?_⟩
  rw [hread, Option.some_inj]
  exact movedIn_outline_iff hs

/-- A localpart with U+0085 in it is not read as it is meant. -/
theorem readScript_ne_outline_break :
    let v := Json.Value.object [("a.org", .object [("Unknown", .string "x\u0085y")])]
    let d := Config.Domain.mk "a.org" {} (.folders [("Unknown", .simple (.one "x\u0085y"))])
    ∃ text rules, Config.Domain.decodeAll v = .ok [d] ∧
      (compile "" false [d]).result = .ok text ∧ RulesOf false [d] rules ∧
        Sieve.readScript text ≠ some (outline Folder.prefixes rules) := by
  intro v d
  have hd : Config.Domain.decodeAll v = .ok [d] := rfl
  have hok : (compile "" false [d]).result.isOk = true := by decide +kernel
  have hentries : (d.rules false).result.map (·.custom.entries) =
      .ok [("Unknown", ⟨["x\u0085y"], none, ⟨false, false, true⟩⟩)] := by decide +kernel
  cases hc : (compile "" false [d]).result with
  | error e =>
      rw [hc] at hok
      cases hok
  | ok text =>
      obtain ⟨rules, hall, hread⟩ := readScript_eq_outline_iff hd hc
      refine ⟨text, rules, hd, rfl, hall, fun h => ?_⟩
      obtain ⟨r, _, hr, -, rfl⟩ := List.forall₂_cons_left_iff.mp hall
      obtain ⟨r', hr', he⟩ := Config.map_eq_ok_iff.mp hentries
      obtain rfl : r = r' := Except.ok.inj (hr.symm.trans hr')
      have hv := hread.mp h r (by simp) .custom _ (he ▸ List.mem_singleton_self _)
      exact (hv.localparts "x\u0085y" (by simp)).1 (by decide)

end Script

end FolderSieve
