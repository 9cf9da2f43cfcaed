import FolderSieve.Proofs.Rules.Outline

/-!
# Rules — compiling domain by domain

A configuration is compiled in two passes: all its domains are decoded, and then each is walked and
written.  Either pass ends at its first failure.  What a domain adds to the script and to the log
follows from its name, its value and `force` (`Script.alone`), except for the keyword of its branch.

* `DomainRules.branchesBelow_commands`: how many rules of either kind stand in a domain's branch.
* `Script.branches_append`: domains that can be walked, and then others.
* `Script.ofConfig_of_alone`, `Script.ofConfig_of_decode_error`, `Script.ofConfig_of_walk_error`: the
  three ways in which a compilation ends.
* `Script.ofConfig_domain_by_domain`: all of this together.
-/

namespace FolderSieve

open Sieve (Command Statement)

namespace Event

/-- The event reports that a domain was compiled. -/
def isCompiled : Event → Bool
  | .compiled .. => true
  | .loaded .. | .preambleMissing _ | .optionsIgnored .. | .wrote .. | .writeFailed _ => false

end Event

/-! ### The branches of a domain, counted -/

namespace Sieve

/-- How many branches on localparts stand below a heading.  A branch without a heading of its own
stands below the last one above it. -/
def branchesBelow (heading : String) : Option String → List Command → Nat
  | _, [] => 0
  | above, .branch _ own (.localpartMatches _) _ :: cs =>
      (if own.or above = some heading then 1 else 0) + branchesBelow heading (own.or above) cs
  | above, _ :: cs => branchesBelow heading above cs

end Sieve

namespace RuleSet

variable (r : RuleSet) (heading : String)

theorem branchesBelow_rest (above : Option String) (es : List (String × Rule))
    (cs : List Command) :
    Sieve.branchesBelow heading above (es.map (r.branch .next false) ++ cs) =
      (if above = some heading then es.length else 0) + Sieve.branchesBelow heading above cs := by
  induction es with
  | nil => simp
  | cons e es ih =>
      rw [List.map_cons, List.cons_append, branch, Sieve.branchesBelow]
      simp only [Bool.false_eq_true, if_false, Option.none_or, List.length_cons, ih]
      split <;> omega

/-- The branches of a set stand below its name. -/
theorem branchesBelow_branches (o : Sieve.Opening) (above : Option String) (cs : List Command) :
    Sieve.branchesBelow heading above (r.branches o ++ cs) =
      (if r.name ++ " filters" = heading then r.size else 0) +
        Sieve.branchesBelow heading (if r.size = 0 then above else some (r.name ++ " filters")) cs := by
  rw [← r.length_ordered, branches]
  cases r.ordered with
  | nil => simp
  | cons e es =>
      rw [List.cons_append, branch, Sieve.branchesBelow]
      simp only [if_true, Option.some_or, branchesBelow_rest, Option.some.injEq, List.length_cons,
        Nat.add_eq_zero_iff, Nat.one_ne_zero, and_false, if_false]
      split <;> omega

end RuleSet

namespace DomainRules

/-- The rule sets of a domain have the names that they stand below in a script. -/
structure Named (d : DomainRules) : Prop where
  custom : d.custom.name = "Custom"
  generic : d.generic.name = "Generic"

/-- **The branches of a domain** are those of its custom rules and those of its generic rules, each
below their heading. -/
theorem branchesBelow_commands {d : DomainRules} (h : d.Named) :
    Sieve.branchesBelow "Custom filters" none d.commands = d.custom.size ∧
      Sieve.branchesBelow "Generic filters" none d.commands = d.generic.size := by
  have hclosing (heading : String) (above : Option String) :
      Sieve.branchesBelow heading above
        (if d.arms Folder.chain = [] then RuleSet.catchAll else [.otherwise RuleSet.catchAll]) = 0 := by
    split <;> rfl
  have hcustom : d.custom.name ++ " filters" = "Custom filters" := by
    rw [h.custom]
    decide
  have hgeneric : d.generic.name ++ " filters" = "Generic filters" := by
    rw [h.generic]
    decide
  rw [commands_eq, List.append_assoc]
  simp only [RuleSet.branchesBelow_branches, hclosing, hcustom, hgeneric]
  simp

/-- Of a walk nothing is reported as compiled. -/
theorem isCompiled_of_mem_follow (d : DomainRules) (steps : List WalkStep) :
    ∀ e ∈ (d.follow steps).warnings, e.isCompiled = false := by
  induction steps generalizing d with
  | nil => simp [follow]
  | cons s steps ih =>
      cases s with
      | fail e => simp [follow]
      | warn path written =>
          rw [follow]
          exact List.forall_mem_cons.mpr ⟨rfl, ih d⟩
      | register r =>
          rw [follow]
          split
          · simp
          · exact ih _

theorem isCompiled_of_mem_walk (d : DomainRules) (tree : Config.Node) :
    ∀ e ∈ (d.walk tree).warnings, e.isCompiled = false := by
  unfold walk
  cases tree with
  | folders children => exact isCompiled_of_mem_follow d _
  | _ => simp

end DomainRules

theorem Config.Domain.isCompiled_of_mem_rules (d : Config.Domain) (force : Bool) :
    ∀ e ∈ (d.rules force).events, e.isCompiled = false := by
  unfold rules
  split
  · simp
  · dsimp only
    split
    · exact DomainRules.isCompiled_of_mem_walk _ _
    · exact DomainRules.isCompiled_of_mem_walk _ _

/-- The rules of a domain are called after it, and have the names of rule sets. -/
theorem Config.Domain.named_of_rules {d : Config.Domain} {force : Bool} {r : DomainRules}
    (h : (d.rules force).result = .ok r) : r.domain = d.name ∧ r.Named := by
  obtain ⟨_, hf, rfl⟩ := Config.Domain.rules_eq_ok h
  rw [DomainRules.walk_rules hf]
  exact ⟨rfl, rfl, rfl⟩

namespace Script

/-! ### Domains on their own -/

/-- The script of a configuration: all domains are decoded before the first is compiled. -/
def ofConfig (preamble : String) (force : Bool) (v : Json.Value) : Reported String :=
  match Config.Domain.decodeAll v with
  | .error e => ⟨[], .error e⟩
  | .ok domains => compile preamble force domains

/-- The rules of a member of a configuration that is decoded and walked on its own. -/
def alone (force : Bool) (m : String × Json.Value) : Reported DomainRules :=
  match Config.Domain.decode m.1 m.2 with
  | .error e => ⟨[], .error e⟩
  | .ok d => d.rules force

/-- The rules of members that are each walked on its own. -/
abbrev RulesAlone (force : Bool) (ms : Json.Members) (rules : List DomainRules) : Prop :=
  List.Forall₂ (fun m r => (alone force m).result = .ok r) ms rules

/-- What is reported of a domain: what there is to warn of, and that it was compiled if it was. -/
def log (a : Reported DomainRules) : List Event :=
  a.events ++
    match a.result with
    | .ok r => [compiledEvent r]
    | .error _ => []

/-- What is reported of members that are each compiled on its own. -/
def logs (force : Bool) (ms : Json.Members) : List Event :=
  ms.flatMap fun m => log (alone force m)

/-- What a domain adds to the script. -/
def segment (first : Bool) (r : DomainRules) : String :=
  Sieve.script [domainBranch first r]

/-- What domains add to the script, the first of which may open the chain. -/
def segments (first : Bool) : List DomainRules → List String
  | [] => []
  | r :: rules => segment first r :: segments false rules

theorem alone_of_decode {force : Bool} {m : String × Json.Value} {d : Config.Domain}
    (h : Config.Domain.decode m.1 m.2 = .ok d) : alone force m = d.rules force := by
  rw [alone, h]

theorem alone_eq_ok_iff {force : Bool} {m : String × Json.Value} {r : DomainRules} :
    (alone force m).result = .ok r ↔
      ∃ d, Config.Domain.decode m.1 m.2 = .ok d ∧ (d.rules force).result = .ok r := by
  unfold alone
  cases Config.Domain.decode m.1 m.2 <;> simp

/-- Members that are decoded have the rules of their domains, and the same is reported of them. -/
theorem rulesAlone_iff {force : Bool} {ms : Json.Members} {domains : List Config.Domain}
    (h : List.Forall₂ (fun m d => Config.Domain.decode m.1 m.2 = .ok d) ms domains)
    {rules : List DomainRules} :
    RulesAlone force ms rules ↔ RulesOf force domains rules := by
  induction h generalizing rules with
  | nil => simp
  | cons hd _ ih =>
      cases rules with
      | nil => simp
      | cons r rules => simp [alone_of_decode hd, ih]

theorem logs_of_decode {force : Bool} {ms : Json.Members} {domains : List Config.Domain}
    (h : List.Forall₂ (fun m d => Config.Domain.decode m.1 m.2 = .ok d) ms domains) :
    logs force ms = domains.flatMap fun d => log (d.rules force) := by
  induction h with
  | nil => rfl
  | cons hd _ ih =>
      rw [logs] at ih ⊢
      rw [List.flatMap_cons, List.flatMap_cons, ih, alone_of_decode hd]

/-! ### Domains one after the other -/

/-- The branches of domains, the first of which may open the chain. -/
def branchesOf (first : Bool) : List DomainRules → List Command
  | [] => []
  | r :: rules => domainBranch first r :: branchesOf false rules

theorem script_branchesOf (first : Bool) (rules : List DomainRules) :
    Sieve.script (branchesOf first rules) = String.join (segments first rules) := by
  induction rules generalizing first with
  | nil => rfl
  | cons r rules ih =>
      rw [segments, String.join_cons, ← ih, branchesOf, segment, Sieve.script, Sieve.script,
        Sieve.script, ← String.ofList_append, ← Sieve.commandsText_append]
      rfl

/-- **Domains that can be walked** give their branches and their reports, whatever comes after
them. -/
theorem branches_append {force first : Bool} {before after : List Config.Domain}
    {rules : List DomainRules} (h : RulesOf force before rules) :
    let tail := branches force (first && before.isEmpty) after
    branches force first (before ++ after) =
      ⟨(before.flatMap fun d => log (d.rules force)) ++ tail.events,
        tail.result.map fun cs => branchesOf first rules ++ cs⟩ := by
  -- only the first domain can open the chain, so `first` is false from the second on
  induction h generalizing first with
  | nil =>
      rw [List.isEmpty_nil, Bool.and_true]
      cases hr : branches force first after with
      | mk events result => cases result <;> simp [branchesOf, Except.map, hr]
  | @cons d r before rules hr _ ih =>
      rw [List.cons_append, branches, hr]
      dsimp only
      rw [ih]
      cases hb : branches force (false && before.isEmpty) after with
      | mk events result => cases result <;> simp_all [branchesOf, Except.map, log]

section Ends

/-- Something for each element can be put in a row. -/
theorem exists_forall₂ {α β : Type} {R : α → β → Prop} {l : List α} (h : ∀ a ∈ l, ∃ b, R a b) :
    ∃ bs, List.Forall₂ R l bs := by
  induction l with
  | nil => exact ⟨[], .nil⟩
  | cons a l ih =>
      obtain ⟨⟨b, hb⟩, h⟩ := List.forall_mem_cons.mp h
      obtain ⟨bs, hbs⟩ := ih h
      exact ⟨b :: bs, .cons hb hbs⟩

variable {preamble : String} {force : Bool} {ms before after : Json.Members}
  {m : String × Json.Value} {rules : List DomainRules} {e : Config.Error}

theorem ofConfig_of_decoded {domains : List Config.Domain}
    (h : List.Forall₂ (fun m d => Config.Domain.decode m.1 m.2 = .ok d) ms domains) :
    ofConfig preamble force (.object ms) = compile preamble force domains := by
  have hd : Config.Domain.decodeAll (.object ms) = .ok domains := Config.mapM_eq_ok_iff.mpr h
  rw [ofConfig, hd]

theorem exists_alone_of_rulesAlone (h : RulesAlone force ms rules) :
    ∀ m ∈ ms, ∃ r, (alone force m).result = .ok r := by
  intro m hm
  induction h with
  | nil => cases hm
  | cons hr _ ih =>
      rcases List.mem_cons.mp hm with rfl | hm
      · exact ⟨_, hr⟩
      · exact ih hm

theorem decoded_of_rulesAlone (h : RulesAlone force ms rules) :
    ∀ m ∈ ms, ∃ d, Config.Domain.decode m.1 m.2 = .ok d := by
  intro m hm
  obtain ⟨_, hr⟩ := exists_alone_of_rulesAlone h m hm
  obtain ⟨d, hd, -⟩ := alone_eq_ok_iff.mp hr
  exact ⟨d, hd⟩

/-- A script is made of members that can each be compiled on its own. -/
theorem exists_rulesAlone {text : String}
    (h : (ofConfig preamble force (.object ms)).result = .ok text) :
    ∃ rules, RulesAlone force ms rules := by
  unfold ofConfig at h
  split at h
  · cases h
  rename_i domains hd
  obtain ⟨_, hb, -⟩ := Config.map_eq_ok_iff.mp h
  obtain ⟨rules, hall, -⟩ := branches_eq_ok hb
  exact ⟨rules, (rulesAlone_iff (Config.mapM_eq_ok_iff.mp hd)).mpr hall⟩

/-- If every member can be compiled on its own, their segments make up the script. -/
theorem ofConfig_of_alone (h : RulesAlone force ms rules) :
    ofConfig preamble force (.object ms) =
      ⟨logs force ms, .ok (preamble ++ String.join (segments true rules))⟩ := by
  obtain ⟨domains, hd⟩ := exists_forall₂ (decoded_of_rulesAlone h)
  have hall := @branches_append force true domains [] rules ((rulesAlone_iff hd).mp h)
  rw [List.append_nil] at hall
  rw [ofConfig_of_decoded hd, compile, hall, logs_of_decode hd, ← script_branchesOf]
  simp [branches, Except.map]

/-- If a member cannot be decoded and those before it can, nothing is compiled. -/
theorem ofConfig_of_decode_error
    (hb : ∀ m ∈ before, ∃ d, Config.Domain.decode m.1 m.2 = .ok d)
    (he : Config.Domain.decode m.1 m.2 = .error e) :
    ofConfig preamble force (.object (before ++ m :: after)) = ⟨[], .error e⟩ := by
  have hd : Config.Domain.decodeAll (.object (before ++ m :: after)) = .error e :=
    Config.mapM_eq_error_iff.mpr ⟨before, m, after, rfl, hb, he⟩
  rw [ofConfig, hd]

/-- If all members can be decoded but one cannot be walked, those before it have been compiled. -/
theorem ofConfig_of_walk_error {d : Config.Domain} (hb : RulesAlone force before rules)
    (hm : Config.Domain.decode m.1 m.2 = .ok d) (he : (d.rules force).result = .error e)
    (ha : ∀ m ∈ after, ∃ d, Config.Domain.decode m.1 m.2 = .ok d) :
    ofConfig preamble force (.object (before ++ m :: after)) =
      ⟨logs force (before ++ [m]), .error e⟩ := by
  obtain ⟨ds, hds⟩ := exists_forall₂ (decoded_of_rulesAlone hb)
  -- what comes after the failing domain has been decoded too, and is not looked at
  obtain ⟨rest, hrest⟩ := exists_forall₂ ha
  have hall := @branches_append force true ds (d :: rest) rules ((rulesAlone_iff hds).mp hb)
  have hlogs : logs force (before ++ [m]) = (ds ++ [d]).flatMap fun d => log (d.rules force) :=
    logs_of_decode (List.rel_append hds (.cons hm .nil))
  rw [ofConfig_of_decoded (List.rel_append hds (.cons hm hrest)), compile, hall, hlogs]
  simp [branches, he, log, Except.map]

/-- Of what is reported of members, the compilations are those of the members that have rules. -/
theorem filter_isCompiled_log {a : Reported DomainRules}
    (h : ∀ e ∈ a.events, e.isCompiled = false) :
    (log a).filter Event.isCompiled =
      match a.result with
      | .ok r => [compiledEvent r]
      | .error _ => [] := by
  have hnone : a.events.filter Event.isCompiled = [] := by
    simpa [List.filter_eq_nil_iff] using h
  rw [log, List.filter_append, hnone, List.nil_append]
  split <;> rfl

theorem isCompiled_of_mem_alone (force : Bool) (m : String × Json.Value) :
    ∀ e ∈ (alone force m).events, e.isCompiled = false := by
  unfold alone
  split
  · simp
  · exact Config.Domain.isCompiled_of_mem_rules _ force

theorem filter_isCompiled_logs (h : RulesAlone force ms rules) :
    (logs force ms).filter Event.isCompiled = rules.map compiledEvent := by
  induction h with
  | nil => rfl
  | @cons m r ms rules hr _ ih =>
      have hm := filter_isCompiled_log (isCompiled_of_mem_alone force m)
      rw [hr] at hm
      rw [logs] at ih ⊢
      rw [List.flatMap_cons, List.filter_append, ih, hm, List.map_cons]
      rfl

theorem filter_isCompiled_logs_error (h : RulesAlone force before rules)
    (he : (alone force m).result = .error e) :
    (logs force (before ++ [m])).filter Event.isCompiled = rules.map compiledEvent := by
  have hm := filter_isCompiled_log (isCompiled_of_mem_alone force m)
  rw [he] at hm
  have hsplit : logs force (before ++ [m]) = logs force before ++ log (alone force m) := by
    simp [logs]
  rw [hsplit, List.filter_append, filter_isCompiled_logs h, hm, List.append_nil]

end Ends

/-! ### What a domain adds -/

/-- How many branches there are in statements that are one chain. -/
def armCount : List Statement → Nat
  | [.chain arms _] => arms.length
  | _ => 0

/-- What stands in the segment of a member: one branch, after a comment and a keyword that alone
depends on what comes before it.  In the branch each rule has a branch of its own, below the heading
of its set, and these are all the branches that are read in it. -/
structure IsSegment (m : String × Json.Value) (r : DomainRules) : Prop where
  text : ∃ rest, ∀ first, segment first r =
    "\n# @" ++ m.1 ++ "\n" ++ (if first then "if" else "elsif") ++ rest
  custom : Sieve.branchesBelow "Custom filters" none r.commands = r.custom.size
  generic : Sieve.branchesBelow "Generic filters" none r.commands = r.generic.size
  read : ∃ test body, Sieve.readScript (segment true r) = some [.chain [(test, body)] none] ∧
    armCount body = r.custom.size + r.generic.size

theorem segment_eq (r : DomainRules) :
    ∃ rest, ∀ first, segment first r =
      "\n# @" ++ r.domain ++ "\n" ++ (if first then "if" else "elsif") ++ rest := by
  refine ⟨String.ofList (' ' :: (Sieve.Test.domainIs r.domain).text ++
    Sieve.block (Sieve.commandsText r.commands)), fun first => ?_⟩
  have hbranch (o : Sieve.Opening) : Sieve.commandsText [.branch o (some ("@" ++ r.domain))
      (.domainIs r.domain) r.commands] = o.lead (some ("@" ++ r.domain)) ++ o.keyword ++
        ' ' :: (Sieve.Test.domainIs r.domain).text ++ Sieve.block (Sieve.commandsText r.commands) := by
    rw [Sieve.commandsText, Sieve.commandsText, List.append_nil]
    unfold Sieve.Command.text
    rfl
  rw [segment, domainBranch, Sieve.script, hbranch]
  refine String.toList_inj.mp ?_
  cases first <;> simp [Sieve.Opening.lead, Sieve.Opening.keyword]

theorem armCount_statements (d : Nat) (r : DomainRules) :
    armCount (Statement.rowMovedIn d (r.statements Folder.chain)) =
      r.custom.size + r.generic.size := by
  have hlength : (r.arms Folder.chain).length = r.custom.size + r.generic.size := by
    simp [DomainRules.arms]
  rw [← hlength, DomainRules.statements]
  cases r.arms Folder.chain with
  | nil => rfl
  | cons a as => simp [Statement.rowMovedIn, Statement.movedIn, armCount, Statement.armsMovedIn_eq_map]

theorem isSegment_of_alone {force : Bool} {m : String × Json.Value} {r : DomainRules}
    (h : (alone force m).result = .ok r) : IsSegment m r := by
  obtain ⟨d, hd, hr⟩ := alone_eq_ok_iff.mp h
  obtain ⟨hname, hsound⟩ := Config.Domain.decode_eq_ok hd
  obtain ⟨hdomain, hnamed⟩ := Config.Domain.named_of_rules hr
  obtain ⟨hcustom, hgeneric⟩ := DomainRules.branchesBelow_commands hnamed
  refine ⟨?_, hcustom, hgeneric, ?_⟩
  · rw [← hname, ← hdomain]
    exact segment_eq r
  · have hall : RulesOf force [d] [r] := .cons hr .nil
    have hs : r.Sound := sound_of_rulesOf (by simpa using hsound) hall r (by simp)
    have hread : Sieve.ArmsRead .first [domainBranch true r] [r.arm Folder.chain] := by
      refine .cons ?_ trivial (DomainRules.reads_commands hs.readable) (.nil .next)
      rintro _ ⟨⟩
      simp [Text.not_mem_of_hasControl (c := '\n') (by decide) hs.domain]
    exact ⟨_, _, (Sieve.Reads.chain hread (by simp)).readScript, armCount_statements 1 r⟩

/-- **Domains are compiled one by one, and all or none.**  There is a script exactly if every member
can be compiled on its own.  It is the preamble with the segments of the members behind it, in order,
and each member is reported as compiled, with as many rules as there are branches in its segment.  If
a member cannot be decoded, the first such one gives the error, and nothing is reported; if one cannot
be walked, the first such one does, and those before it are reported as compiled. -/
theorem ofConfig_domain_by_domain (preamble : String) (force : Bool) (ms : Json.Members) :
    let run := ofConfig preamble force (.object ms)
    ((∃ text, run.result = .ok text) ↔ ∀ m ∈ ms, ∃ r, (alone force m).result = .ok r) ∧
      (∀ text, run.result = .ok text → ∃ rules, RulesAlone force ms rules ∧
        text = preamble ++ String.join (segments true rules) ∧
        run.events = logs force ms ∧
        run.events.filter Event.isCompiled = rules.map fun r =>
          .compiled r.domain r.custom.size r.generic.size) ∧
      (∀ m r, (alone force m).result = .ok r → r.domain = m.1 ∧ IsSegment m r) ∧
      (∀ before m after e, ms = before ++ m :: after →
        (∀ m ∈ before, ∃ d, Config.Domain.decode m.1 m.2 = .ok d) →
        Config.Domain.decode m.1 m.2 = .error e → run = ⟨[], .error e⟩) ∧
      ∀ before m after rules e, ms = before ++ m :: after →
        (∀ m ∈ ms, ∃ d, Config.Domain.decode m.1 m.2 = .ok d) →
        RulesAlone force before rules → (alone force m).result = .error e →
        run.result = .error e ∧ run.events = logs force (before ++ [m]) ∧
          run.events.filter Event.isCompiled = rules.map fun r =>
            .compiled r.domain r.custom.size r.generic.size := by
  intro run
  refine ⟨⟨?_, ?_⟩, ?_, ?_, ?_, ?_⟩
  · rintro ⟨text, h⟩
    obtain ⟨rules, hall⟩ := exists_rulesAlone h
    exact exists_alone_of_rulesAlone hall
  · intro h
    obtain ⟨rules, hall⟩ := exists_forall₂ h
    exact ⟨_, congrArg Reported.result (ofConfig_of_alone hall)⟩
  · intro text h
    obtain ⟨rules, hall⟩ := exists_rulesAlone h
    have hrun : run = _ := ofConfig_of_alone hall
    rw [hrun] at h ⊢
    cases h
    exact ⟨rules, hall, rfl, rfl, filter_isCompiled_logs hall⟩
  · intro m r h
    obtain ⟨d, hd, hr⟩ := alone_eq_ok_iff.mp h
    have hname := (Config.Domain.named_of_rules hr).1.trans (Config.Domain.decode_eq_ok hd).1
    exact ⟨hname, isSegment_of_alone h⟩
  · rintro before m after e rfl hb he
    exact ofConfig_of_decode_error hb he
  · rintro before m after rules e rfl hd hall he
    obtain ⟨d, hm⟩ := hd m (by simp)
    have ha : ∀ m' ∈ after, ∃ d, Config.Domain.decode m'.1 m'.2 = .ok d :=
      fun m' hm' => hd m' (by simp [hm'])
    have hrun : run = _ :=
      ofConfig_of_walk_error hall hm (alone_of_decode hm ▸ he) ha
    rw [hrun]
    exact ⟨rfl, rfl, filter_isCompiled_logs_error hall he⟩

/-- The three endings.  The second of three domains cannot be walked, and the third cannot be decoded,
which is told first.  Two others are compiled, one of them with a warning. -/
theorem ofConfig_domain_by_domain_endings :
    let a : String × Json.Value := ("a.org", .object [("A", .string "x")])
    let b : String × Json.Value := ("b.org", .object [("B", .object [])])
    let c : String × Json.Value := ("c.org", .null)
    let d : String × Json.Value := ("d.org", .object [("Unknown", .object
      [("localparts", .string "y"), ("options", .object [("silent", .bool false)])])])
    let ra : DomainRules := ⟨"a.org", [""], ⟨"Custom", "", [("A", ⟨["x"], none, .root⟩)]⟩,
      ⟨"Generic", "", [("A", ⟨["a", "a.*"], none, .root⟩)]⟩⟩
    let rd : DomainRules := ⟨"d.org", [""],
      ⟨"Custom", "", [("Unknown", ⟨["y"], none, ⟨false, false, true⟩⟩)]⟩, ⟨"Generic", "", []⟩⟩
    ofConfig "" false (.object [a, b, c]) =
        ⟨[], .error ⟨.domainNotObject, { domain := "c.org" }⟩⟩ ∧
      (ofConfig "" false (.object [a, b])).result =
        .error ⟨.noFolders, { domain := "b.org", folder := "B" }⟩ ∧
      (ofConfig "" false (.object [a, b])).events.filter Event.isCompiled =
        [.compiled "a.org" 1 1] ∧
      ofConfig "# p" false (.object [a, d]) =
        ⟨[.compiled "a.org" 1 1, .optionsIgnored "Unknown" { silent := some false },
            .compiled "d.org" 1 0],
          .ok ("# p" ++ (segment true ra ++ segment false rd))⟩ ∧
      IsSegment a ra ∧ IsSegment d rd := by
  intro a b c d ra rd
  obtain ⟨-, -, -, hdecode, -⟩ := ofConfig_domain_by_domain "" false [a, b, c]
  obtain ⟨-, -, -, -, hwalk⟩ := ofConfig_domain_by_domain "" false [a, b]
  obtain ⟨hiff, hsuccess, hsegment, -⟩ := ofConfig_domain_by_domain "# p" false [a, d]
  have ha : Config.Domain.decode "a.org" (.object [("A", .string "x")]) =
      .ok ⟨"a.org", {}, .folders [("A", .simple (.one "x"))]⟩ := by rfl
  have hb : Config.Domain.decode "b.org" (.object [("B", .object [])]) =
      .ok ⟨"b.org", {}, .folders [("B", .folders [])]⟩ := by rfl
  have hc : Config.Domain.decode "c.org" .null =
      .error ⟨.domainNotObject, { domain := "c.org" }⟩ := by rfl
  have hab : ∀ m ∈ [a, b], ∃ d, Config.Domain.decode m.1 m.2 = .ok d :=
    List.forall_mem_cons.mpr ⟨⟨_, ha⟩, List.forall_mem_cons.mpr ⟨⟨_, hb⟩, by simp⟩⟩
  have hd : Config.Domain.decode "d.org" (.object [("Unknown", .object
      [("localparts", .string "y"), ("options", .object [("silent", .bool false)])])]) =
      .ok ⟨"d.org", {}, .folders
        [("Unknown", .full (.one "y") none (some { silent := some false }))]⟩ := by rfl
  have hra : (alone false a).result = .ok ra := by rw [alone_of_decode (m := a) ha]; rfl
  have hfail : (alone false b).result =
      .error ⟨.noFolders, { domain := "b.org", folder := "B" }⟩ := by
    rw [alone_of_decode (m := b) hb]
    rfl
  have hrd : (alone false d).result = .ok rd := by rw [alone_of_decode (m := d) hd]; rfl
  have had : List.Forall₂ (fun m d => Config.Domain.decode m.1 m.2 = .ok d) [a, d] _ :=
    .cons ha (.cons hd .nil)
  have hlogs : logs false [a, d] = [.compiled "a.org" 1 1,
      .optionsIgnored "Unknown" { silent := some false }, .compiled "d.org" 1 0] := by
    rw [logs_of_decode had]
    rfl
  obtain ⟨herror, -, hcompiled⟩ := hwalk [a] b [] _ _ rfl hab (.cons hra .nil) hfail
  obtain ⟨text, htext⟩ := hiff.mpr (List.forall_mem_cons.mpr ⟨⟨_, hra⟩, by simp [hrd]⟩)
  obtain ⟨rules, hrules, rfl, hevents, -⟩ := hsuccess text htext
  obtain rfl : rules = [ra, rd] :=
    ((rulesAlone_iff had).mp hrules).unique ((rulesAlone_iff had).mp (.cons hra (.cons hrd .nil)))
  have hjoin : String.join (segments true [ra, rd]) = segment true ra ++ segment false rd := by
    simp [segments, String.join_cons]
  have hrun : ofConfig "# p" false (.object [a, d]) = ⟨logs false [a, d], _⟩ :=
    congrArg₂ Reported.mk hevents htext
  rw [hlogs, hjoin] at hrun
  exact ⟨hdecode [a, b] c [] _ rfl hab hc, herror, hcompiled, hrun, (hsegment a ra hra).2,
    (hsegment d rd hrd).2⟩

end Script

end FolderSieve
