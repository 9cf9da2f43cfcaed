import FolderSieve.Proofs.Folder.Prefixes
import FolderSieve.Proofs.Rules.Located
import FolderSieve.Proofs.Sieve.Row
import FolderSieve.Rules.Script

/-!
# Rules — the outline of a script

The statements a script is read as, from the rules of its domains: a chain with a branch for each
domain; in it a chain with a branch for each rule, the custom ones first, and the catch-all behind it;
in the branch of a rule what its labels and its silence ask for, and then the folders to file into
from the top one down.  Which folders these are for a path is left open here (`way`): a script takes
them from `Folder.chain`.

* `DomainRules.reads_commands`: the commands of a domain are read as its outline.
* `Script.readScript_compile`: the script of a configuration that is decoded and compiled is read as
  the outline of its domains, whatever strings there are in it.  What is read of a string that stands
  in blocks is the string moved as often.
-/

namespace FolderSieve

open Sieve (Arm ArmsRead Command Reads Statement Test)

theorem Text.not_mem_of_hasControl {c : Char} (hc : Text.isControl c = true) {s : String}
    (h : Text.hasControl s = false) : c ∉ s.toList := by
  intro hm
  exact List.any_eq_false.mp h c hm hc

namespace Rule

/-! ### The branch of a rule -/

/-- What is done to mark a message as read. -/
def markStatements (path : String) : List Statement :=
  .action (Sieve.addFlag Sieve.seenFlag) ::
    if Folder.isUnknown path then [] else [.action (Sieve.fileInto Folder.unread)]

/-- A branch for messages that hold one of the keywords. -/
def keywordArm (keywords : List String) (body : List Statement) : Arm :=
  ((Test.headerContains keywords).phrase id, body)

/-- The branch of a label. -/
def labelArm (label : String × List String) : Arm :=
  keywordArm label.2 [.action (Sieve.fileInto label.1)]

/-- What the labels and the silence of a rule for the folder at `path` come to. -/
def labelStatements (path : String) (r : Rule) : List Statement :=
  let labels := r.labels.getD []
  let each := labels.map fun label => Statement.chain [labelArm label] none
  if r.options.silent then
    match labels with
    | [] => markStatements path
    | [label] => [.chain [labelArm label] (some (markStatements path))]
    | _ => [.chain [keywordArm (allKeywords labels) each] (some (markStatements path))]
  else each

/-- Filing into folders, all of them below `home`. -/
def filingStatements (home : String) (folders : List String) : List Statement :=
  folders.map fun folder => .action (Sieve.fileInto (home ++ folder))

/-- The branch of a rule, which files into the folders on the way to its path. -/
def arm (way : String → List String) (home : String) (e : String × Rule) : Arm :=
  ((Test.localpartMatches e.2.localparts).phrase id,
    e.2.labelStatements e.1 ++ filingStatements home (way e.1))

theorem reads_markAsRead (path : String) : Reads (markAsRead path) (markStatements path) := by
  unfold markAsRead markStatements
  split
  · exact .addFlag Sieve.seenFlag
  · exact (Reads.addFlag Sieve.seenFlag).append (.fileInto Folder.unread)

theorem armsRead_keywords {keywords : List String} (hk : keywords ≠ []) {body : List Command}
    {ss : List Statement} (hb : Reads body ss) :
    ArmsRead .first [.branch .first none (.headerContains keywords) body]
      [keywordArm keywords ss] :=
  .cons (by simp) hk hb (.nil .next)

theorem armsRead_label {label : String × List String} (hk : label.2 ≠ []) :
    ArmsRead .first [labelBranch label] [labelArm label] :=
  armsRead_keywords hk (.fileInto label.1)

theorem reads_labels {labels : RuleLabels} (hk : ∀ l ∈ labels, l.2 ≠ []) :
    Reads (labels.map labelBranch) (labels.map fun label => .chain [labelArm label] none) :=
  .map fun l hl => .chain (armsRead_label (hk l hl)) (by simp)

theorem mem_allKeywords {labels : RuleLabels} {k : String} :
    k ∈ allKeywords labels ↔ ∃ l ∈ labels, k ∈ l.2 := by
  rw [allKeywords, mem_sortBy, List.mem_eraseDups, List.mem_flatMap]

theorem allKeywords_ne_nil {labels : RuleLabels} (hn : labels ≠ [])
    (hk : ∀ l ∈ labels, l.2 ≠ []) : allKeywords labels ≠ [] := by
  obtain ⟨l, labels, rfl⟩ := List.exists_cons_of_ne_nil hn
  obtain ⟨k, ks, hl⟩ := List.exists_cons_of_ne_nil (hk l (by simp))
  have hm : k ∈ allKeywords (l :: labels) := mem_allKeywords.mpr ⟨l, by simp, by simp [hl]⟩
  exact List.ne_nil_of_mem hm

theorem reads_labelCommands {r : Rule} (h : r.Sound) (path : String) :
    Reads (r.labelCommands path) (r.labelStatements path) := by
  have hk : ∀ l ∈ r.labels.getD [], l.2 ≠ [] := fun l hl => (h.labels l hl).2.2.1
  unfold labelCommands labelStatements
  generalize r.labels.getD [] = labels at hk
  by_cases hs : r.options.silent = true
  · simp only [hs, if_true]
    match labels, hk with
    | [], _ => exact reads_markAsRead path
    | [label], hk =>
        exact .closedChain (armsRead_label (hk label (by simp))) (by simp) (reads_markAsRead path)
    | l :: l' :: labels, hk =>
        exact .closedChain (armsRead_keywords (allKeywords_ne_nil (by simp) hk) (reads_labels hk))
          (by simp) (reads_markAsRead path)
  · simp only [hs]
    exact reads_labels hk

theorem reads_commands {r : Rule} (h : r.Sound) (home path : String) :
    Reads (r.commands home path)
      (r.labelStatements path ++ filingStatements home (Folder.chain path)) :=
  (reads_labelCommands h path).append (.map fun folder _ => .fileInto (home ++ folder))

end Rule

namespace RuleSet

/-! ### The branches of a set -/

/-- The branches of the set, by descending path. -/
def arms (way : String → List String) (r : RuleSet) : List Arm :=
  r.ordered.map (Rule.arm way r.home)

/-- The rules of the set are sound, and no text around them has a control character. -/
structure Sound (r : RuleSet) : Prop where
  name : Text.hasControl r.name = false
  home : Text.hasControl r.home = false
  entries : ∀ e ∈ r.entries, Text.hasControl e.1 = false ∧ e.2.Sound

/-- The branches of the set can be read: its name is one line, and its rules are sound.  Of their
paths nothing is asked. -/
structure Readable (r : RuleSet) : Prop where
  name : '\n' ∉ r.name.toList
  entries : ∀ e ∈ r.entries, e.2.Sound

theorem Sound.readable {r : RuleSet} (h : r.Sound) : r.Readable where
  name := Text.not_mem_of_hasControl (by decide) h.name
  entries e he := (h.entries e he).2

theorem armsRead_branch {r : RuleSet} (h : r.Readable) (o : Sieve.Opening) (first : Bool)
    {e : String × Rule} (he : e ∈ r.ordered) {cs : List Command} {arms : List Arm}
    (hr : ArmsRead .next cs arms) :
    ArmsRead o (r.branch o first e :: cs) (Rule.arm Folder.chain r.home e :: arms) := by
  have hs := h.entries e (mem_sortBy.mp he)
  refine .cons ?_ hs.localparts.1 (Rule.reads_commands hs r.home e.1) hr
  intro heading hh
  cases first with
  | false => cases hh
  | true =>
      cases hh
      simp [h.name]

/-- The branches after the first. -/
theorem armsRead_rest {r : RuleSet} (h : r.Readable) {es : List (String × Rule)}
    (hm : ∀ e ∈ es, e ∈ r.ordered) :
    ArmsRead .next (es.map (r.branch .next false)) (es.map (Rule.arm Folder.chain r.home)) := by
  induction es with
  | nil => exact .nil .next
  | cons e es ih =>
      obtain ⟨he, hes⟩ := List.forall_mem_cons.mp hm
      exact armsRead_branch h .next false he (ih hes)

theorem armsRead_branches {r : RuleSet} (h : r.Readable) (o : Sieve.Opening) :
    ArmsRead o (r.branches o) (r.arms Folder.chain) := by
  unfold branches arms
  cases ho : r.ordered with
  | nil => exact .nil o
  | cons e es =>
      have hm : ∀ e' ∈ e :: es, e' ∈ r.ordered := by simp [ho]
      obtain ⟨he, hes⟩ := List.forall_mem_cons.mp hm
      exact armsRead_branch h o true he (armsRead_rest h hes)

theorem isEmpty_branches (r : RuleSet) (o : Sieve.Opening) :
    (r.branches o).isEmpty = (r.arms Folder.chain).isEmpty := by
  unfold branches arms
  cases r.ordered <;> rfl

theorem length_ordered (r : RuleSet) : r.ordered.length = r.size := by
  rw [ordered, length_sortBy, size]

@[simp] theorem length_arms (way : String → List String) (r : RuleSet) :
    (r.arms way).length = r.size := by
  rw [arms, List.length_map, length_ordered]

/-- What is done with a message that no rule asks for. -/
def catchAllStatements : List Statement :=
  [.action (Sieve.addFlag Sieve.seenFlag), .action (Sieve.fileInto Folder.unknown)]

theorem reads_catchAll : Reads catchAll catchAllStatements :=
  (Reads.addFlag Sieve.seenFlag).append (.fileInto Folder.unknown)

/-! ### The chain of two sets -/

/-- The chain of a set, in which another set goes on; the catch-all may close it. -/
def chainWith (r r' : RuleSet) (closed : Bool) : List Command :=
  r.chain false false ++ r'.chain closed (!(r.chain false false).isEmpty)

/-- Branches as statements: one chain, if there are any, which the catch-all may close.  Without a
branch the catch-all stands alone. -/
def chainStatements (closed : Bool) : List Arm → List Statement
  | [] => if closed then catchAllStatements else []
  | arm :: arms => [.chain (arm :: arms) (if closed then some catchAllStatements else none)]

/-- The branches of both sets are one chain, which the second set opens if the first has no
branch. -/
theorem armsRead_both {r r' : RuleSet} (h : r.Readable) (h' : r'.Readable) :
    ArmsRead .first
      (r.branches .first ++ r'.branches (if r.arms Folder.chain = [] then .first else .next))
      (r.arms Folder.chain ++ r'.arms Folder.chain) := by
  have hr := armsRead_branches h .first
  by_cases hn : r.arms Folder.chain = []
  · have hb : r.branches .first = [] := by
      simpa [hn] using isEmpty_branches r .first
    simpa [hn, hb] using armsRead_branches h' .first
  · rw [if_neg hn]
    exact hr.append hn (armsRead_branches h' .next)

theorem chainWith_eq (r r' : RuleSet) (closed : Bool) :
    r.chainWith r' closed =
      (r.branches .first ++ r'.branches (if r.arms Folder.chain = [] then .first else .next)) ++
        if closed then
          if r.arms Folder.chain ++ r'.arms Folder.chain = [] then catchAll
          else [.otherwise catchAll]
        else [] := by
  have hr := isEmpty_branches r .first
  have hr' := isEmpty_branches r'
  unfold chainWith chain closing
  cases closed <;> by_cases hn : r.arms Folder.chain = [] <;>
    by_cases hm : r'.arms Folder.chain = [] <;> simp_all [List.isEmpty_iff]

/-- **The chain of two sets** is read as one chain of the branches of both. -/
theorem reads_chainWith {r r' : RuleSet} (h : r.Readable) (h' : r'.Readable) (closed : Bool) :
    Reads (r.chainWith r' closed)
      (chainStatements closed (r.arms Folder.chain ++ r'.arms Folder.chain)) := by
  have ha := armsRead_both h h'
  rw [chainWith_eq]
  cases hn : r.arms Folder.chain ++ r'.arms Folder.chain with
  | nil =>
      rw [hn] at ha
      have hnone : Reads _ [] := ⟨ha.commands, trivial, ha.clauses⟩
      cases closed with
      | false => simpa [chainStatements] using hnone
      | true => exact hnone.append reads_catchAll
  | cons arm arms =>
      rw [hn] at ha
      cases closed with
      | false => simpa [chainStatements] using Reads.chain ha (by simp)
      | true => exact .closedChain ha (by simp) reads_catchAll

end RuleSet

namespace DomainRules

/-! ### The branch of a domain -/

/-- The branches of the rules: the custom ones, then the generic ones. -/
def arms (way : String → List String) (d : DomainRules) : List Arm :=
  d.custom.arms way ++ d.generic.arms way

/-- A chain that the catch-all closes, or the catch-all alone if there is no rule. -/
def statements (way : String → List String) (d : DomainRules) : List Statement :=
  match d.arms way with
  | [] => RuleSet.catchAllStatements
  | arms => [.chain arms (some RuleSet.catchAllStatements)]

/-- The branch of the domain. -/
def arm (way : String → List String) (d : DomainRules) : Arm :=
  ((Test.domainIs d.domain).phrase id, d.statements way)

/-- Both rule sets can be read. -/
structure Readable (d : DomainRules) : Prop where
  custom : d.custom.Readable
  generic : d.generic.Readable

/-- Both rule sets are sound, and the name of the domain has no control character. -/
structure Sound (d : DomainRules) : Prop where
  domain : Text.hasControl d.domain = false
  custom : d.custom.Sound
  generic : d.generic.Sound

theorem Sound.readable {d : DomainRules} (h : d.Sound) : d.Readable :=
  ⟨h.custom.readable, h.generic.readable⟩

theorem statements_eq (way : String → List String) (d : DomainRules) :
    d.statements way = RuleSet.chainStatements true (d.arms way) := by
  unfold statements
  cases d.arms way <;> rfl

theorem commands_eq (d : DomainRules) :
    d.commands = (d.custom.branches .first ++
      d.generic.branches (if d.custom.arms Folder.chain = [] then .first else .next)) ++
        if d.arms Folder.chain = [] then RuleSet.catchAll else [.otherwise RuleSet.catchAll] :=
  RuleSet.chainWith_eq d.custom d.generic true

/-- **The commands of a domain** are read as its outline. -/
theorem reads_commands {d : DomainRules} (h : d.Readable) :
    Reads d.commands (d.statements Folder.chain) := by
  rw [statements_eq]
  exact RuleSet.reads_chainWith h.custom h.generic true

/-- Rules of a walk from a domain without rules are sound, if the walk does not fail. -/
theorem sound_walk {domain : String} {firstFolder : Bool} {secrets : List String}
    {tree : Config.Node} (hd : Text.hasControl domain = false) (ht : tree.SoundNames)
    (h : ((empty domain firstFolder secrets).walk tree).failure = none) :
    ((empty domain firstFolder secrets).walk tree).rules.Sound := by
  have hpath := hasControl_of_mem_walk ht h
  have hrule := sound_of_mem_walk h
  have hhome : Text.hasControl (empty domain firstFolder secrets).custom.home = false := by
    have hs : Text.isControl '@' = false ∧ Text.isControl '/' = false := by decide
    simp only [empty]
    split
    · simp_all [Text.hasControl]
    · decide
  rw [walk_rules h] at hpath hrule ⊢
  exact ⟨hd,
    ⟨(by decide : Text.hasControl "Custom" = false), hhome,
      fun e he => ⟨hpath .custom e he, (hrule .custom e he).2⟩⟩,
    ⟨(by decide : Text.hasControl "Generic" = false), hhome,
      fun e he => ⟨hpath .generic e he, (hrule .generic e he).2⟩⟩⟩

end DomainRules

/-- The rules of a domain are those of a walk from none that does not fail. -/
theorem Config.Domain.rules_eq_ok {d : Config.Domain} {force : Bool} {r : DomainRules}
    (h : (d.rules force).result = .ok r) :
    ∃ secrets,
      let w := (DomainRules.empty d.name (d.options.firstFolder || force) secrets).walk d.tree
      w.failure = none ∧ r = w.rules := by
  unfold rules at h
  split at h
  · cases h
  · dsimp only at h
    split at h
    · cases h
    · rename_i hf
      cases h
      exact ⟨_, hf, rfl⟩

namespace Script

/-! ### Whole scripts -/

/-- The statements of a script: nothing without a domain, else one chain. -/
def outline (way : String → List String) : List DomainRules → List Statement
  | [] => []
  | rules => [.chain (rules.map (DomainRules.arm way)) none]

/-- The rules of domains that stand behind one another in a configuration. -/
abbrev RulesOf (force : Bool) (domains : List Config.Domain) (rules : List DomainRules) : Prop :=
  List.Forall₂ (fun d r => (d.rules force).result = .ok r) domains rules

/-- Each domain has one set of rules at most. -/
theorem RulesOf.unique {force : Bool} {domains : List Config.Domain}
    {rules rules' : List DomainRules} (h : RulesOf force domains rules)
    (h' : RulesOf force domains rules') : rules = rules' :=
  Except.ok.inj ((Config.mapM_eq_ok_iff.mpr h).symm.trans (Config.mapM_eq_ok_iff.mpr h'))

theorem sound_of_rulesOf {force : Bool} {domains : List Config.Domain} {rules : List DomainRules}
    (hn : ∀ d ∈ domains, d.SoundNames) (h : RulesOf force domains rules) :
    ∀ r ∈ rules, r.Sound := by
  induction h with
  | nil => simp
  | cons hr _ ih =>
      obtain ⟨hd, hn⟩ := List.forall_mem_cons.mp hn
      obtain ⟨_, hf, rfl⟩ := Config.Domain.rules_eq_ok hr
      exact List.forall_mem_cons.mpr ⟨DomainRules.sound_walk hd.name hd.tree hf, ih hn⟩

theorem branches_eq_ok {force first : Bool} {domains : List Config.Domain} {cs : List Command}
    (h : (branches force first domains).result = .ok cs) :
    ∃ rules, RulesOf force domains rules ∧
      ((∀ r ∈ rules, r.Sound) →
        ArmsRead (if first then .first else .next) cs (rules.map (DomainRules.arm Folder.chain))) := by
  induction domains generalizing first cs with
  | nil =>
      cases h
      exact ⟨[], .nil, fun _ => .nil _⟩
  | cons d domains ih =>
      rw [branches] at h
      split at h
      · cases h
      rename_i r hr
      obtain ⟨cs, hcs, rfl⟩ := Config.map_eq_ok_iff.mp h
      obtain ⟨rules, hall, hread⟩ := ih hcs
      refine ⟨r :: rules, .cons hr hall, fun hs => ?_⟩
      obtain ⟨hr, hs⟩ := List.forall_mem_cons.mp hs
      refine .cons ?_ trivial (DomainRules.reads_commands hr.readable) (hread hs)
      rintro _ ⟨⟩
      simp [Text.not_mem_of_hasControl (c := '\n') (by decide) hr.domain]

/-- The branches of domains are read as the outline of these, their strings moved. -/
theorem readScript_of_branches {force : Bool} {domains : List Config.Domain} {cs : List Command}
    (hn : ∀ d ∈ domains, d.SoundNames) (h : (branches force true domains).result = .ok cs) :
    ∃ rules, RulesOf force domains rules ∧ (∀ r ∈ rules, r.Sound) ∧
      Sieve.readScript (Sieve.script cs) =
        some (Statement.rowMovedIn 0 (outline Folder.chain rules)) := by
  obtain ⟨rules, hall, hread⟩ := branches_eq_ok h
  have hs := sound_of_rulesOf hn hall
  have hread := hread hs
  refine ⟨rules, hall, hs, Reads.readScript ?_⟩
  cases rules with
  | nil => exact ⟨hread.commands, trivial, hread.clauses⟩
  | cons r rules => exact .chain hread (by simp)

/-- A script is read as the outline of its domains, their strings moved. -/
theorem readScript_of_compile {v : Json.Value} {force : Bool} {domains : List Config.Domain}
    {text : String} (hd : Config.Domain.decodeAll v = .ok domains)
    (hc : (compile "" force domains).result = .ok text) :
    ∃ rules, RulesOf force domains rules ∧ (∀ r ∈ rules, r.Sound) ∧
      Sieve.readScript text = some (Statement.rowMovedIn 0 (outline Folder.chain rules)) := by
  obtain ⟨-, -, -, hn⟩ := Config.Domain.decodeAll_eq_ok hd
  obtain ⟨cs, hcs, rfl⟩ := Config.map_eq_ok_iff.mp hc
  rw [String.empty_append]
  exact readScript_of_branches hn hcs

theorem map_domain_of_rulesOf {force : Bool} {domains : List Config.Domain}
    {rules : List DomainRules} (h : RulesOf force domains rules) :
    rules.map (·.domain) = domains.map (·.name) := by
  induction h with
  | nil => rfl
  | cons hr _ ih =>
      obtain ⟨_, hf, rfl⟩ := Config.Domain.rules_eq_ok hr
      rw [List.map_cons, List.map_cons, ih, DomainRules.walk_rules hf]
      rfl

/-- **Every script is a sentence of the grammar**, with the outline of its domains.  Each member of a
configuration that is decoded and compiled has the rules of a domain, and the script is read as one
branch for each of them, in order, with the strings that stand in blocks moved; it is empty without
a domain.  The chain within a domain has a branch for each custom and each generic rule, and each of
these files the message once for each name along the path of its rule. -/
theorem readScript_compile {v : Json.Value} {force : Bool} {domains : List Config.Domain}
    {text : String} (hd : Config.Domain.decodeAll v = .ok domains)
    (hc : (compile "" force domains).result = .ok text) :
    ∃ ms rules, v = .object ms ∧ RulesOf force domains rules ∧
      rules.map (·.domain) = ms.map (·.1) ∧
      Sieve.readScript text = some (Statement.rowMovedIn 0 (outline Folder.chain rules)) ∧
      (ms = [] → text = "") ∧
      (∀ r ∈ rules, (r.arms Folder.chain).length = r.custom.size + r.generic.size) ∧
      ∀ path, (Folder.chain path).length = (Folder.names path).length := by
  obtain ⟨ms, rfl, hnames, -⟩ := Config.Domain.decodeAll_eq_ok hd
  obtain ⟨rules, hall, -, hread⟩ := readScript_of_compile hd hc
  refine ⟨ms, rules, rfl, hall, (map_domain_of_rulesOf hall).trans hnames, hread, ?_,
    fun r _ => by simp [DomainRules.arms], Folder.length_chain⟩
  rintro rfl
  obtain rfl : domains = [] := by simpa using hnames
  cases hc
  rfl

/-- The script of one domain whose folder is the catch-all.  And what is read of the script of two: a
string with a quotation mark in it and a label, a path of two names, the catch-all. -/
theorem readScript_compile_domains :
    let into (folder : String) : Statement := .action (Sieve.fileInto folder)
    let catchAll : List Statement := [.action (Sieve.addFlag "\\Seen"), into "Unknown"]
    let one := Json.Value.object [("a.org", .object [("Unknown", .string "x")])]
    let domain := Config.Domain.mk "a.org" {} (.folders [("Unknown", .simple (.one "x"))])
    let text := "\n# @a.org\nif envelope :domain :is \"to\" \"a.org\" \x7b\n" ++
      "    # Custom filters\n    if envelope :localpart :matches \"to\" [\"x\"] \x7b\n" ++
      "        addflag \"\\\\Seen\";\n        fileinto \"Unknown\";\n    \x7d else \x7b\n" ++
      "        addflag \"\\\\Seen\";\n        fileinto \"Unknown\";\n    \x7d\n\x7d"
    let ofOne : List Statement := [.chain [((Test.domainIs "a.org").phrase id,
      [.chain [((Test.localpartMatches ["x"]).phrase id, catchAll)] (some catchAll)])] none]
    let two := Json.Value.object
      [("a.org", .object [("A", .object
          [("localparts", .string "x\""), ("labels", .object [("Due", .string "now")])])]),
        ("b.org", .object [("B", .object [("C", .bool true)]), ("Unknown", .string "y")])]
    let domains :=
      [Config.Domain.mk "a.org" {}
          (.folders [("A", .full (.one "x\"") (some [("Due", .one "now")]) none)]),
        Config.Domain.mk "b.org" {}
          (.folders [("B", .folders [("C", .simple (.one ""))]), ("Unknown", .simple (.one "y"))])]
    let due : Statement := .chain [((Test.headerContains ["now"]).phrase id, [into "Due"])] none
    let ofTwo : List Statement :=
      [.chain [
        ((Test.domainIs "a.org").phrase id, [.chain [
          ((Test.localpartMatches ["x\""]).phrase id, [due, into "A"]),
          ((Test.localpartMatches ["a", "a.*"]).phrase id, [due, into "A"])] (some catchAll)]),
        ((Test.domainIs "b.org").phrase id, [.chain [
          ((Test.localpartMatches ["y"]).phrase id, catchAll),
          ((Test.localpartMatches ["c", "c.*"]).phrase id, [into "B", into "B/C"]),
          ((Test.localpartMatches ["b", "b.*"]).phrase id, [into "B"])] (some catchAll)])] none]
    (Config.Domain.decodeAll one = .ok [domain] ∧
      (compile "" false [domain]).result = .ok text ∧ Sieve.readScript text = some ofOne) ∧
    Config.Domain.decodeAll two = .ok domains ∧
      ∃ text, (compile "" false domains).result = .ok text ∧ Sieve.readScript text = some ofTwo := by
  intro into catchAll one domain text ofOne two domains due ofTwo
  -- what is read of the rules, where none of the strings has a line break in it
  have hread {v : Json.Value} {domains : List Config.Domain} {text : String}
      {rules : List DomainRules} {ss : List Statement} (hd : Config.Domain.decodeAll v = .ok domains)
      (hc : (compile "" false domains).result = .ok text) (hrules : RulesOf false domains rules)
      (hss : outline Folder.chain rules = ss) (hmoved : Statement.rowMovedIn 0 ss = ss) :
      Sieve.readScript text = some ss := by
    obtain ⟨-, rules', -, hall, -, hread, -⟩ := readScript_compile hd hc
    rw [hread, hall.unique hrules, hss, hmoved]
  have hstill {d : Nat} {s : String} (h : Still s) : Sieve.moved d s = s :=
    Sieve.moved_eq_self_iff.mpr (.inr h)
  have hmoved : Statement.rowMovedIn 0 ofOne = ofOne ∧ Statement.rowMovedIn 0 ofTwo = ofTwo := by
    simp (disch := decide) [ofOne, ofTwo, into, due, catchAll, Statement.rowMovedIn,
      Statement.movedIn, Statement.armsMovedIn, Statement.otherwiseMovedIn, Test.phrase,
      Sieve.Phrase.mapText, Sieve.Argument.mapText, Sieve.labelHeaders, Sieve.fileInto,
      Sieve.addFlag, hstill]
  have hone : Config.Domain.decodeAll one = .ok [domain] := rfl
  have htext : (compile "" false [domain]).result = .ok text := by decide +kernel
  have hrules : RulesOf false [domain] [⟨"a.org", [""],
      ⟨"Custom", "", [("Unknown", ⟨["x"], none, ⟨false, false, true⟩⟩)]⟩, ⟨"Generic", "", []⟩⟩] :=
    .cons rfl .nil
  have htwo : Config.Domain.decodeAll two = .ok domains := rfl
  obtain ⟨text', htext'⟩ : ∃ text, (compile "" false domains).result = .ok text :=
    Config.exists_of_isOk (by decide +kernel)
  have hrules' : RulesOf false domains
      [⟨"a.org", [""], ⟨"Custom", "", [("A", ⟨["x\""], some [("Due", ["now"])], .root⟩)]⟩,
          ⟨"Generic", "", [("A", ⟨["a", "a.*"], some [("Due", ["now"])], .root⟩)]⟩⟩,
        ⟨"b.org", [""], ⟨"Custom", "", [("Unknown", ⟨["y"], none, ⟨false, false, true⟩⟩)]⟩,
          ⟨"Generic", "",
            [("B/C", ⟨["c", "c.*"], none, .root⟩), ("B", ⟨["b", "b.*"], none, .root⟩)]⟩⟩] :=
    .cons rfl (.cons rfl .nil)
  exact ⟨⟨hone, htext, hread hone htext hrules rfl hmoved.1⟩, htwo, text', htext',
    hread htwo htext' hrules' rfl hmoved.2⟩

end Script

end FolderSieve
