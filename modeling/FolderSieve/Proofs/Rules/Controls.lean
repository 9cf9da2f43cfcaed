import FolderSieve.Proofs.Config.Printable
import FolderSieve.Proofs.Rules.Compilation
import FolderSieve.Proofs.Sieve.Layout

/-!
# Rules — no control character gets into a script

A configuration with a control character is refused, and what is compiled of any other writes its
strings into quoted strings and into comments above branches.  The only control characters of a script
are the line feeds between its commands.

* `Rule.commented_commands`, `RuleSet.commented_branches`, `DomainRules.commented_commands`: the block
  of a rule has no comments in it; the block of a domain has one for each rule set that has a rule.
* `Script.controls_kept_out`: configurations and scripts.
-/

namespace FolderSieve

open Sieve (Command Commented Part)

namespace Rule

/-! ### The block of a rule -/

theorem commented_markAsRead (path : String) : Commented (markAsRead path) [] := by
  have hseen : Commented [.addFlag Sieve.seenFlag] [] := .addFlag (by decide)
  have hunread : Commented [.fileInto Folder.unread] [] := .fileInto (by decide)
  unfold markAsRead
  split
  · exact hseen
  · exact hseen.append hunread

theorem commented_labelCommands {r : Rule} (h : r.Sound) (path : String) :
    Commented (r.labelCommands path) [] := by
  have hl : ∀ l ∈ r.labels.getD [], Text.hasControl l.1 = false ∧
      ∀ k ∈ l.2, Text.hasControl k = false := by
    intro l hl
    obtain ⟨-, hn, -, hk⟩ := h.labels l hl
    exact ⟨hn, fun k hm => (hk k hm).2⟩
  unfold labelCommands labelsOrElse
  generalize r.labels.getD [] = labels at hl
  have heach : Commented (labels.map labelBranch) [] :=
    .map fun l hm => .plainBranch .first (hl l hm).2 (.fileInto (hl l hm).1)
  have hmark : Commented [.otherwise (markAsRead path)] [] := .otherwise (commented_markAsRead path)
  by_cases hs : r.options.silent = true
  · simp only [hs, if_true]
    match labels, hl with
    | [], _ => exact commented_markAsRead path
    | [label], _ => exact heach.append hmark
    | l :: l' :: labels, hl =>
        have hk : ∀ k ∈ allKeywords (l :: l' :: labels), Text.hasControl k = false := by
          intro k hk
          obtain ⟨l'', hm, hk⟩ := mem_allKeywords.mp hk
          exact (hl l'' hm).2 k hk
        have houter : Commented [.branch .first none
            (.headerContains (allKeywords (l :: l' :: labels)))
            ((l :: l' :: labels).map labelBranch)] [] := .plainBranch .first hk heach
        exact houter.append hmark
  · simpa [hs] using heach

/-- **The block of a rule** has no comments in it. -/
theorem commented_commands {r : Rule} (h : r.Sound) {home path : String}
    (hh : Text.hasControl home = false) (hp : Text.hasControl path = false) :
    Commented (r.commands home path) [] := by
  refine (commented_labelCommands h path).append (.map fun folder hf => .fileInto ?_)
  have hsub := Folder.subset_of_mem_chain hf
  have hfolder : Text.hasControl folder = false :=
    List.any_eq_false.mpr fun c hc => List.any_eq_false.mp hp c (hsub hc)
  rw [Sieve.hasControl_append, hh, hfolder]
  rfl

end Rule

namespace RuleSet

/-! ### The branches of a set -/

/-- What stands behind the hash sign above the first branch of the set, if it has one. -/
def headings (r : RuleSet) : List String :=
  if r.size = 0 then [] else [" " ++ (r.name ++ " filters")]

/-- The branches of a set have the name of the set above them, and no other comment. -/
theorem commented_branches {r : RuleSet} (h : r.Sound) (o : Sieve.Opening) :
    Commented (r.branches o) r.headings := by
  have htest : ∀ e ∈ r.ordered, ∀ v ∈ e.2.localparts, Text.hasControl v = false :=
    fun e he v hv => ((h.entries e (mem_sortBy.mp he)).2.localparts.2 v hv).2
  have hbody : ∀ e ∈ r.ordered, Commented (e.2.commands r.home e.1) [] := by
    intro e he
    obtain ⟨hp, hs⟩ := h.entries e (mem_sortBy.mp he)
    exact Rule.commented_commands hs h.home hp
  rw [headings, ← r.length_ordered, branches]
  cases ho : r.ordered with
  | nil => exact .nil
  | cons e es =>
      rw [ho] at htest hbody
      obtain ⟨ht, hts⟩ := List.forall_mem_cons.mp htest
      obtain ⟨hb, hbs⟩ := List.forall_mem_cons.mp hbody
      have hheading : ∀ t, some (r.name ++ " filters") = some t → Text.hasControl t = false := by
        rintro _ ⟨⟩
        rw [Sieve.hasControl_append, h.name]
        rfl
      have hfirst : Commented [r.branch o true e] [" " ++ (r.name ++ " filters")] :=
        .branch o hheading ht hb (by simp)
      have hrest : Commented (es.map (r.branch .next false)) [] :=
        .map fun e he => .plainBranch .next (hts e he) (hbs e he)
      exact hfirst.append hrest

theorem commented_catchAll : Commented catchAll [] := by
  have hseen : Commented [.addFlag Sieve.seenFlag] [] := .addFlag (by decide)
  exact hseen.append (.fileInto (by decide))

end RuleSet

namespace DomainRules

/-- The comments in the branch of a domain, and the one above it. -/
def headings (r : DomainRules) : List String :=
  (" " ++ ("@" ++ r.domain)) :: (r.custom.headings ++ r.generic.headings)

theorem commented_commands {r : DomainRules} (h : r.Sound) :
    Commented r.commands (r.custom.headings ++ r.generic.headings) := by
  have hcatchAll : Commented
      (if r.arms Folder.chain = [] then RuleSet.catchAll else [.otherwise RuleSet.catchAll]) [] := by
    split
    · exact RuleSet.commented_catchAll
    · exact .otherwise RuleSet.commented_catchAll
  have hchain := (RuleSet.commented_branches h.custom .first).append
    (RuleSet.commented_branches h.generic
      (if r.custom.arms Folder.chain = [] then .first else .next))
  rw [commands_eq]
  simpa using hchain.append hcatchAll

/-- There is no line break in the names of the sets, whatever the name of the domain is. -/
theorem still_headings {r : DomainRules} (h : r.Named) :
    ∀ t ∈ r.custom.headings ++ r.generic.headings, Still t := by
  have hset : ∀ {s : RuleSet}, Still (" " ++ (s.name ++ " filters")) →
      ∀ t ∈ s.headings, Still t := by
    intro s hs t ht
    unfold RuleSet.headings at ht
    split at ht
    · cases ht
    · exact List.mem_singleton.mp ht ▸ hs
  intro t ht
  rcases List.mem_append.mp ht with ht | ht
  · exact hset (by rw [h.custom]; decide) t ht
  · exact hset (by rw [h.generic]; decide) t ht

/-- **The branch of a domain** has the domain above it and the names of its rule sets in it. -/
theorem commented_domainBranch {r : DomainRules} (h : r.Sound) (hn : r.Named) (first : Bool) :
    Commented [Script.domainBranch first r] r.headings := by
  refine .branch _ ?_ ?_ (commented_commands h) (still_headings hn)
  · rintro _ ⟨⟩
    rw [Sieve.hasControl_append, h.domain]
    rfl
  · intro v hv
    obtain rfl := List.mem_singleton.mp hv
    exact h.domain

end DomainRules

namespace Script

/-! ### Whole scripts -/

theorem commented_branchesOf {rules : List DomainRules} (h : ∀ r ∈ rules, r.Sound ∧ r.Named)
    (first : Bool) : Commented (branchesOf first rules) (rules.flatMap DomainRules.headings) := by
  induction rules generalizing first with
  | nil => exact .nil
  | cons r rules ih =>
      obtain ⟨⟨hs, hn⟩, h⟩ := List.forall_mem_cons.mp h
      exact (DomainRules.commented_domainBranch hs hn first).append (ih h false)

/-- A script is made of the branches of its domains. -/
theorem eq_script_of_compile {force : Bool} {domains : List Config.Domain} {text : String}
    (hc : (compile "" force domains).result = .ok text) :
    ∃ rules, RulesOf force domains rules ∧ text = Sieve.script (branchesOf true rules) := by
  obtain ⟨cs, hcs, rfl⟩ := Config.map_eq_ok_iff.mp hc
  obtain ⟨rules, hall, -⟩ := branches_eq_ok hcs
  have happend := @branches_append force true domains [] rules hall
  rw [List.append_nil] at happend
  rw [happend] at hcs
  dsimp only at hcs
  obtain ⟨_, ⟨⟩, rfl⟩ := Config.map_eq_ok_iff.mp hcs
  exact ⟨rules, hall, by rw [String.empty_append, List.append_nil]⟩

theorem sound_of_compile {v : Json.Value} {force : Bool} {domains : List Config.Domain}
    {rules : List DomainRules} (hd : Config.Domain.decodeAll v = .ok domains)
    (h : RulesOf force domains rules) : ∀ r ∈ rules, r.Sound ∧ r.Named := by
  obtain ⟨-, -, -, hn⟩ := Config.Domain.decodeAll_eq_ok hd
  have hsound := sound_of_rulesOf hn h
  have hnamed : ∀ r ∈ rules, r.Named := by
    clear hsound hn hd
    induction h with
    | nil => simp
    | cons hr _ ih => exact List.forall_mem_cons.mpr ⟨(Config.Domain.named_of_rules hr).2, ih⟩
  exact fun r hr => ⟨hsound r hr, hnamed r hr⟩

/-- **Control characters are kept out.**  A configuration with one in a string or a key is refused.
The script of any other has no control character but line feeds, and can be cut into quoted strings,
comments and what is outside of both, with no control character in a string or a comment and every
line feed behind the end of a command, behind a brace or behind a comment.  Its comments are the
domains, each in one piece, and the names of their rule sets. -/
theorem controls_kept_out (v : Json.Value) :
    (v.DistinctKeys → ∀ t, v.Holds t → Text.hasControl t = true →
      ∃ e, Config.Domain.decodeAll v = .error e) ∧
    ∀ force domains text, Config.Domain.decodeAll v = .ok domains →
      (compile "" force domains).result = .ok text →
        (∀ c ∈ text.toList, Text.isControl c = true → c = '\n') ∧
        ∃ rules parts, RulesOf force domains rules ∧
          rules.map (·.domain) = domains.map (·.name) ∧
          Part.read text.toList = some parts ∧ parts.flatMap Part.text = text.toList ∧
          Part.Orderly true parts ∧
          parts.filterMap Part.comment? = rules.flatMap DomainRules.headings := by
  refine ⟨fun hv t ht hc => Config.Domain.decodeAll_eq_error_of_control hv ht hc, ?_⟩
  intro force domains text hd hc
  obtain ⟨rules, hall, rfl⟩ := eq_script_of_compile hc
  have hlaid := (commented_branchesOf (sound_of_compile hd hall) true).laid_script
  obtain ⟨parts, hread, htext, horderly, hcomments⟩ := hlaid.exists_parts
  refine ⟨fun c hm hp => ?_, rules, parts, hall, map_domain_of_rulesOf hall, hread, htext,
    horderly, hcomments⟩
  rw [← htext] at hm
  exact Part.eq_lineFeed_of_orderly horderly hm hp

/-- A line feed in a keyword is refused; without it the script has the comments of one domain. -/
theorem controls_kept_out_keyword :
    let keyword (k : String) := Json.Value.object [("a.org", .object [("A", .object
      [("localparts", .string "x"), ("labels", .object [("L", .string k)])])])]
    let domains := [Config.Domain.mk "a.org" {} (.folders [("A",
      .full (.one "x") (some [("L", .one "keep")]) none)])]
    (∃ e, Config.Domain.decodeAll (keyword "ke\nep") = .error e) ∧
      Config.Domain.decodeAll (keyword "keep") = .ok domains ∧
        ∃ text parts, (compile "" false domains).result = .ok text ∧
          Part.read text.toList = some parts ∧ Part.Orderly true parts ∧
            parts.filterMap Part.comment? = [" @a.org", " Custom filters", " Generic filters"] := by
  intro keyword domains
  have hd : Config.Domain.decodeAll (keyword "keep") = .ok domains := rfl
  have hok : (compile "" false domains).result.isOk = true := by decide +kernel
  have hheadings : domains.map (fun d => (d.rules false).result.map DomainRules.headings) =
      [.ok [" @a.org", " Custom filters", " Generic filters"]] := by decide +kernel
  have hdistinct : (keyword "ke\nep").DistinctKeys := by simp [keyword]
  have hkeyword : Json.Value.Holds "ke\nep" (.object [("L", .string "ke\nep")]) :=
    .member (List.mem_singleton_self _) .string
  have hholds : (keyword "ke\nep").Holds "ke\nep" :=
    .member (List.mem_singleton_self _) (.member (List.mem_singleton_self _)
      (.member (List.mem_cons_of_mem _ (List.mem_singleton_self _)) hkeyword))
  refine ⟨(controls_kept_out (keyword "ke\nep")).1 hdistinct "ke\nep" hholds (by decide), hd, ?_⟩
  cases hc : (compile "" false domains).result with
  | error e =>
      rw [hc] at hok
      cases hok
  | ok text =>
      obtain ⟨-, rules, parts, hall, -, hread, -, ho, hcomments⟩ :=
        (controls_kept_out (keyword "keep")).2 false domains text hd hc
      obtain ⟨r, _, hr, hnil, rfl⟩ := List.forall₂_cons_left_iff.mp hall
      cases hnil
      simp only [domains, List.map_cons, List.map_nil, hr] at hheadings
      refine ⟨text, parts, rfl, hread, ho, hcomments.trans ?_⟩
      simpa [Except.map] using hheadings

end Script

end FolderSieve
