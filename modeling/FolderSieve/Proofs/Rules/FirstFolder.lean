import FolderSieve.Proofs.Config.FirstFolder
import FolderSieve.Proofs.Rules.Verbatim

/-!
# Rules — the first-folder option, domain by domain and forced

To force the option is to give every rule set another home.  Nothing that is checked, warned of or
counted on a walk looks at the home, and of the commands of a rule only the folders on the way to its
path stand below it.

* `DomainRules.walk_rehome`, `Config.Domain.rules_forced`: the walk of a domain with another home.
* `Script.branches_forced`: what is reported, and where it fails, is the same.
* `Script.reading`: the statements read of a script, with a change to the folders on the way to paths.
* `Script.compile_forced`: the two scripts are read as the same statements, except for those folders.
-/

namespace FolderSieve

open Sieve (Arm Statement Test moved)
open Sieve.Statement

/-! ### Another home -/

namespace RuleSet

/-- The set with its folders below another home. -/
def rehome (home : String) (r : RuleSet) : RuleSet :=
  { r with home }

/-- A registration does not look at the home. -/
theorem register_rehome (r : RuleSet) (home path : String) (localparts : Config.OneOrMany)
    (labels : Option GivenLabels) (options : Options) :
    (r.rehome home).register path localparts labels options =
      (r.register path localparts labels options).map (rehome home) := by
  have hhas : (r.rehome home).has path = r.has path := rfl
  have hname : (r.rehome home).name = r.name := rfl
  simp only [register, bind, Except.bind, throw, throwThe, MonadExceptOf.throw, pure, Except.pure,
    hhas, hname]
  split
  · rfl
  split
  · rfl
  split
  · rfl
  split
  · rfl
  split <;> rfl

end RuleSet

namespace DomainRules

/-- The rules with their folders below another home. -/
def rehome (home : String) (d : DomainRules) : DomainRules :=
  { d with custom := d.custom.rehome home, generic := d.generic.rehome home }

theorem register_rehome (d : DomainRules) (home : String) (x : Registration) :
    (d.rehome home).register x = (d.register x).map (rehome home) := by
  unfold register
  cases x.origin with
  | custom =>
      simp only [rehome, RuleSet.register_rehome]
      cases d.custom.register x.path x.localparts x.labels x.options <;> rfl
  | generic =>
      simp only [rehome, RuleSet.register_rehome]
      cases d.generic.register x.path x.localparts x.labels x.options <;> rfl

/-- Steps lead to the same rules, below another home. -/
theorem follow_rehome (d : DomainRules) (home : String) (steps : List WalkStep) :
    (d.rehome home).follow steps =
      { d.follow steps with rules := (d.follow steps).rules.rehome home } := by
  induction steps generalizing d with
  | nil => rfl
  | cons s steps ih =>
      cases s with
      | fail e => rfl
      | warn path written => rw [follow, ih, follow]
      | register x =>
          rw [follow, follow, register_rehome]
          cases d.register x with
          | error e => rfl
          | ok d' => exact ih d'

/-- **A walk** leads to the same rules, below another home. -/
theorem walk_rehome (d : DomainRules) (home : String) (tree : Config.Node) :
    (d.rehome home).walk tree =
      { d.walk tree with rules := (d.walk tree).rules.rehome home } := by
  cases tree with
  | folders children =>
      have hsecrets : (d.rehome home).secrets = d.secrets := rfl
      have hdomain : (d.rehome home).domain = d.domain := rfl
      simp only [walk, hsecrets, hdomain, follow_rehome]
  | _ => rfl

theorem home_walk {domain : String} {firstFolder : Bool} {secrets : List String}
    {tree : Config.Node} (h : ((empty domain firstFolder secrets).walk tree).failure = none) :
    let rules := ((empty domain firstFolder secrets).walk tree).rules
    rules = rules.rehome (if firstFolder then "@" ++ domain ++ "/" else "") := by
  rw [walk_rules h]
  rfl

end DomainRules

/-- The folder that the folders of a domain go below if the option is set. -/
def Config.Domain.folder (d : Config.Domain) : String :=
  "@" ++ d.name ++ "/"

/-- **To force the option** gives the rules of a domain another home, and changes nothing else. -/
theorem Config.Domain.rules_forced (d : Config.Domain) (force : Bool) :
    d.rules true =
      ⟨(d.rules force).events, (d.rules force).result.map (DomainRules.rehome d.folder)⟩ := by
  have hempty (secrets : List String) :
      DomainRules.empty d.name (d.options.firstFolder || true) secrets =
        (DomainRules.empty d.name (d.options.firstFolder || force) secrets).rehome d.folder := by
    rw [Bool.or_true]
    rfl
  unfold rules
  cases d.options.suffixes with
  | error e => rfl
  | ok secrets =>
      dsimp only
      rw [hempty, DomainRules.walk_rehome]
      dsimp only
      cases ((DomainRules.empty d.name (d.options.firstFolder || force) secrets).walk
        d.tree).failure <;> rfl

theorem Config.Domain.rules_of_forced (d : Config.Domain) (force : Bool) :
    d.forced.rules force = d.rules true := by
  unfold rules
  rw [Bool.or_true]
  rfl

namespace Script

/-- Domains that have the option are compiled as if it were forced. -/
theorem branches_map_forced (force first : Bool) (domains : List Config.Domain) :
    branches force first (domains.map Config.Domain.forced) = branches true first domains := by
  induction domains generalizing first with
  | nil => rfl
  | cons d domains ih => rw [List.map_cons, branches, branches, d.rules_of_forced, ih]

/-- **What is reported** of domains, and where they fail, is the same if the option is forced. -/
theorem branches_forced (first : Bool) (domains : List Config.Domain) :
    (branches true first domains).events = (branches false first domains).events ∧
      ∀ e, (branches true first domains).result = .error e ↔
        (branches false first domains).result = .error e := by
  induction domains generalizing first with
  | nil => simp [branches]
  | cons d domains ih =>
      obtain ⟨he, hr⟩ := ih false
      rw [branches, branches, d.rules_forced false]
      cases (d.rules false).result with
      | error e => simp [Except.map]
      | ok r =>
          have hmap : (Except.ok r).map (DomainRules.rehome d.folder) =
              (.ok (r.rehome d.folder) : Except Config.Error DomainRules) := rfl
          have hevent : compiledEvent (r.rehome d.folder) = compiledEvent r := rfl
          rw [hmap]
          simp only [hevent, he, Config.map_eq_error_iff, hr, true_and, implies_true]

end Script

/-! ### What is read of a script -/

/-- The branch of a rule as it is read in the block of its domain, with a change to the folders on the
way to its path and to nothing else. -/
def Rule.armRead (into : String → String) (home : String) (e : String × Rule) : Arm :=
  (((Test.localpartMatches e.2.localparts).phrase id).mapText (moved 1),
    rowMovedIn 2 (e.2.labelStatements e.1) ++
      (Folder.chain e.1).map fun folder =>
        .action (Sieve.fileInto (into (moved 2 (home ++ folder)))))

/-- The branches of a domain as they are read, custom ones first. -/
def DomainRules.armsRead (into : String → String) (d : DomainRules) : List Arm :=
  d.custom.ordered.map (Rule.armRead into d.custom.home) ++
    d.generic.ordered.map (Rule.armRead into d.generic.home)

/-- The branch of a domain as it is read: a chain that the catch-all closes, or the catch-all alone if
there is no rule. -/
def DomainRules.armRead (into : String → String) (d : DomainRules) : Arm :=
  ((Test.domainIs d.domain).phrase id,
    match d.armsRead into with
    | [] => RuleSet.catchAllStatements
    | arms => [.chain arms (some RuleSet.catchAllStatements)])

namespace Script

/-- The statements read of a script: nothing without a domain, else one chain.  What a domain does to
the folders on the way to the paths of its rules is given. -/
def reading (into : Config.Domain → String → String) (domains : List Config.Domain)
    (rules : List DomainRules) : List Statement :=
  match List.zipWith (fun d r => r.armRead (into d)) domains rules with
  | [] => []
  | arms => [.chain arms none]

end Script

theorem Rule.movedIn_arm (home : String) (e : String × Rule) :
    (((Rule.arm Folder.chain home e).1.mapText (moved 1),
      rowMovedIn 2 (Rule.arm Folder.chain home e).2) : Arm) = Rule.armRead id home e := by
  rw [Rule.arm, Rule.armRead, rowMovedIn_append, Rule.rowMovedIn_filingStatements]
  rfl

/-- A rule whose strings stay as they are is read as it is, but for the folders. -/
theorem Rule.armRead_of_still {into : String → String} {home path : String} {r : Rule}
    (hp : ∀ p ∈ r.localparts, Still p) (hl : ∀ l ∈ r.labels.getD [], LabelStill l)
    (hf : ∀ folder ∈ Folder.chain path, Still (home ++ folder)) :
    Rule.armRead into home (path, r) = ((Test.localpartMatches r.localparts).phrase id,
      r.labelStatements path ++
        (Folder.chain path).map fun folder => .action (Sieve.fileInto (into (home ++ folder)))) := by
  have htest : ((Test.localpartMatches r.localparts).phrase id).mapText (moved 1) =
      (Test.localpartMatches r.localparts).phrase id := Test.mapText_phrase_eq_iff.mpr hp
  have hfiling : (Folder.chain path).map (fun folder =>
      Statement.action (Sieve.fileInto (into (moved 2 (home ++ folder))))) =
      (Folder.chain path).map fun folder => .action (Sieve.fileInto (into (home ++ folder))) :=
    List.map_congr_left fun folder h => by rw [moved_of_still (hf folder h)]
  rw [Rule.armRead, htest, Rule.rowMovedIn_labelStatements_iff.mpr hl, hfiling]

namespace DomainRules

theorem movedIn_arms (d : DomainRules) :
    armsMovedIn 1 (d.arms Folder.chain) = d.armsRead id := by
  rw [arms, RuleSet.arms, RuleSet.arms, armsRead, armsMovedIn_eq_map, List.map_append, List.map_map,
    List.map_map]
  exact congrArg₂ (· ++ ·) (List.map_congr_left fun e _ => Rule.movedIn_arm _ e)
    (List.map_congr_left fun e _ => Rule.movedIn_arm _ e)

/-- What is read of the branch of a domain. -/
theorem movedIn_arm (d : DomainRules) :
    (((d.arm Folder.chain).1.mapText (moved 0), rowMovedIn 1 (d.arm Folder.chain).2) : Arm) =
      d.armRead id := by
  have htest : ((Test.domainIs d.domain).phrase id).mapText (moved 0) =
      (Test.domainIs d.domain).phrase id := by
    rw [Test.mapText_phrase, Sieve.moved_zero, Function.comp_id]
  have hclosed : otherwiseMovedIn 1 (some RuleSet.catchAllStatements) =
      some RuleSet.catchAllStatements := congrArg some (RuleSet.rowMovedIn_catchAll 2)
  rw [arm, armRead, htest, statements, ← movedIn_arms]
  cases d.arms Folder.chain with
  | nil => rw [RuleSet.rowMovedIn_catchAll]; rfl
  | cons a as =>
      obtain ⟨test, body⟩ := a
      simp [rowMovedIn, movedIn, armsMovedIn, hclosed]

/-- Folders below a home without a line break are read as below it. -/
theorem armRead_rehome {d : DomainRules} (hd : d = d.rehome "") {home : String}
    (hh : Still home) : (d.rehome home).armRead id = d.armRead (home ++ ·) := by
  have hrule (e : String × Rule) : Rule.armRead id home e = Rule.armRead (home ++ ·) "" e := by
    simp only [Rule.armRead, moved_append_of_still hh, String.empty_append, id_eq]
  have hrules : (d.rehome home).armsRead id = d.armsRead (home ++ ·) := by
    rw [hd]
    exact congrArg₂ (· ++ ·) (List.map_congr_left fun e _ => hrule e)
      (List.map_congr_left fun e _ => hrule e)
  rw [armRead, armRead, hrules]
  rfl

end DomainRules

/-! ### Two scripts -/

namespace Config.Domain

/-- A folder on the way to a path, below the folder of the domain if the option is not set. -/
def below (d : Domain) (folder : String) : String :=
  if d.options.firstFolder then folder else "@" ++ d.name ++ "/" ++ folder

theorem still_folder {d : Domain} (hd : d.SoundNames) (hn : Unbroken d.name) : Still d.folder := by
  have hname : Still d.name := (still_iff_unbroken hd.name).mpr hn
  have hat : Still "@" ∧ Still "/" := by decide
  simp_all [Still, folder, List.any_append]

theorem home_of_rules {d : Domain} {r : DomainRules} (h : (d.rules false).result = .ok r) :
    r = r.rehome (if d.options.firstFolder then d.folder else "") := by
  obtain ⟨_, hf, rfl⟩ := rules_eq_ok h
  have := DomainRules.home_walk hf
  rwa [Bool.or_false] at this ⊢

/-- What is read of the branch of a domain if the option is forced. -/
theorem armRead_of_rules {d : Domain} (hd : d.SoundNames) (hn : Unbroken d.name)
    {r r' : DomainRules} (h : (d.rules false).result = .ok r)
    (h' : (d.rules true).result = .ok r') : r'.armRead id = r.armRead d.below := by
  have hhome := home_of_rules h
  obtain rfl : r' = r.rehome d.folder := by
    rw [d.rules_forced false, h] at h'
    exact (Except.ok.inj h').symm
  cases hopt : d.options.firstFolder with
  | true =>
      have hbelow : d.below = id := by
        funext folder
        simp [below, hopt]
      rw [hopt, if_pos rfl] at hhome
      rw [← hhome, hbelow]
  | false =>
      have hbelow : d.below = (d.folder ++ ·) := by
        funext folder
        simp [below, hopt, Domain.folder]
      rw [hopt, if_neg (by decide)] at hhome
      rw [hbelow, DomainRules.armRead_rehome hhome (still_folder hd hn)]

end Config.Domain

namespace Script

variable {domains : List Config.Domain} {rules rules' : List DomainRules}

theorem armsRead_of_rulesOf {force : Bool} (h : RulesOf force domains rules) :
    rules.map (DomainRules.armRead id) =
      List.zipWith (fun _ r => DomainRules.armRead (fun t => t) r) domains rules := by
  induction h with
  | nil => rfl
  | cons _ _ ih => rw [List.map_cons, ih, List.zipWith_cons_cons]; rfl

theorem armsRead_of_rulesOf_forced
    (hd : ∀ d ∈ domains, d.SoundNames ∧ Unbroken d.name) (h : RulesOf false domains rules)
    (h' : RulesOf true domains rules') :
    rules'.map (DomainRules.armRead id) =
      List.zipWith (fun d r => r.armRead d.below) domains rules := by
  induction h generalizing rules' with
  | nil =>
      cases h'
      rfl
  | cons hr _ ih =>
      obtain ⟨⟨hs, hn⟩, hd⟩ := List.forall_mem_cons.mp hd
      cases h' with
      | cons hr' h' =>
          rw [List.map_cons, ih hd h', Config.Domain.armRead_of_rules hs hn hr hr',
            List.zipWith_cons_cons]

/-- What is read of the branches of domains. -/
theorem movedIn_outline (rules : List DomainRules) :
    rowMovedIn 0 (outline Folder.chain rules) =
      match rules.map (DomainRules.armRead id) with
      | [] => []
      | arms => [.chain arms none] := by
  cases rules with
  | nil => rfl
  | cons r rules =>
      have harms := armsMovedIn_eq_map 0 ((r :: rules).map (DomainRules.arm Folder.chain))
      rw [List.map_map] at harms
      have hread : armsMovedIn 0 ((r :: rules).map (DomainRules.arm Folder.chain)) =
          (r :: rules).map (DomainRules.armRead id) :=
        harms.trans (List.map_congr_left fun r _ => r.movedIn_arm)
      have houtline : rowMovedIn 0 (outline Folder.chain (r :: rules)) =
          [.chain (armsMovedIn 0 ((r :: rules).map (DomainRules.arm Folder.chain))) none] := rfl
      rw [houtline, hread]
      rfl

/-- **The first-folder option only changes folders on the way to paths.**  For domains that are decoded
and whose names hold no U+0085, U+2028 or U+2029, and every text before the script, to force the option
changes neither what is reported nor whether and with what error the compilation fails.  If it does not
fail, both scripts are read as the same statements, except that in a domain without the option a folder
on the way to a path has the folder of the domain before it.  And to force the option is to set it in
each domain, or in the options block that each is decoded from. -/
theorem compile_forced (preamble : String) {ms : Json.Members}
    (hd : List.Forall₂ (fun m d => Config.Domain.decode m.1 m.2 = .ok d) ms domains)
    (hn : ∀ d ∈ domains, Unbroken d.name) :
    let plain := compile preamble false domains
    let forced := compile preamble true domains
    forced.events = plain.events ∧
      (∀ e, forced.result = .error e ↔ plain.result = .error e) ∧
      (∀ text, plain.result = .ok text → ∃ rules script script', RulesOf false domains rules ∧
        text = preamble ++ script ∧ forced.result = .ok (preamble ++ script') ∧
        Sieve.readScript script = some (reading (fun _ folder => folder) domains rules) ∧
        Sieve.readScript script' = some (reading Config.Domain.below domains rules)) ∧
      (∀ force, compile preamble force (domains.map Config.Domain.forced) = forced) ∧
      List.Forall₂ (fun m d => Config.Domain.decode m.1 m.2 = .ok d)
        (ms.map fun m => (m.1, Config.Domain.firstFolderSet m.2))
        (domains.map Config.Domain.forced) := by
  intro plain forced
  have hs : ∀ d ∈ domains, d.SoundNames := by
    clear hn
    induction hd with
    | nil => simp
    | cons hd _ ih => exact List.forall_mem_cons.mpr ⟨(Config.Domain.decode_eq_ok hd).2, ih⟩
  obtain ⟨hevents, hfails⟩ := branches_forced true domains
  have herror (e : Config.Error) : forced.result = .error e ↔ plain.result = .error e := by
    simp only [forced, plain, compile, Config.map_eq_error_iff, hfails]
  refine ⟨hevents, herror, fun text htext => ?_, fun force => ?_, ?_⟩
  · obtain ⟨cs, hcs, rfl⟩ := Config.map_eq_ok_iff.mp htext
    obtain ⟨cs', hcs'⟩ : ∃ cs', (branches true true domains).result = .ok cs' := by
      cases hr : (branches true true domains).result with
      | ok cs' => exact ⟨cs', rfl⟩
      | error e =>
          rw [(hfails e).mp hr] at hcs
          cases hcs
    obtain ⟨rules, hall, -, hread⟩ := readScript_of_branches hs hcs
    obtain ⟨rules', hall', -, hread'⟩ := readScript_of_branches hs hcs'
    have hforced := armsRead_of_rulesOf_forced (fun d hd => ⟨hs d hd, hn d hd⟩) hall hall'
    refine ⟨rules, _, _, hall, rfl, Config.map_eq_ok_iff.mpr ⟨cs', hcs', rfl⟩, ?_, ?_⟩
    · rw [hread, movedIn_outline, armsRead_of_rulesOf hall]
      rfl
    · rw [hread', movedIn_outline, hforced]
      rfl
  · simp only [forced, compile, branches_map_forced]
  · refine List.forall₂_map_left_iff.mpr (List.forall₂_map_right_iff.mpr ?_)
    exact hd.imp fun m d h => Config.Domain.decode_firstFolderSet h

/-- A domain with the option, and one without it that has a label and marks mail as read.  If the option
is forced, the folder of a path gets the folder of its domain before it; that of the label, the one for
unread mail and the catch-all do not. -/
theorem compile_forced_labels :
    let ms : Json.Members :=
      [("a.org", .object
          [("options", .object [("domain-as-first-folder", .bool true)]), ("A", .string "x")]),
        ("b.org", .object [("B", .object
          [("localparts", .string "y"), ("labels", .object [("Due", .string "now")]),
            ("options", .object [("silent", .bool true)])])])]
    let a := Config.Domain.mk "a.org" { firstFolder := true } (.folders [("A", .simple (.one "x"))])
    let b := Config.Domain.mk "b.org" {}
      (.folders [("B", .full (.one "y") (some [("Due", .one "now")]) (some { silent := some true }))])
    let into (folder : String) : Statement := .action (Sieve.fileInto folder)
    let seen : Statement := .action (Sieve.addFlag "\\Seen")
    let due : Statement := .chain [((Test.headerContains ["now"]).phrase id, [into "Due"])]
      (some [seen, into "unread"])
    let statements (folder folder' : String) : List Statement :=
      [.chain [
        ((Test.domainIs "a.org").phrase id, [.chain [
          ((Test.localpartMatches ["x"]).phrase id, [into folder]),
          ((Test.localpartMatches ["a", "a.*"]).phrase id, [into folder])]
          (some [seen, into "Unknown"])]),
        ((Test.domainIs "b.org").phrase id, [.chain [
          ((Test.localpartMatches ["y"]).phrase id, [due, into folder']),
          ((Test.localpartMatches ["b", "b.*"]).phrase id, [due, into folder'])]
          (some [seen, into "Unknown"])])] none]
    List.Forall₂ (fun m d => Config.Domain.decode m.1 m.2 = .ok d) ms [a, b] ∧
      [a.below "@a.org/A", b.below "B"] = ["@a.org/A", "@b.org/B"] ∧
      ∃ rules script script', (compile "# p" false [a, b]).result = .ok ("# p" ++ script) ∧
        (compile "# p" true [a, b]).result = .ok ("# p" ++ script') ∧
        Sieve.readScript script = some (reading (fun _ folder => folder) [a, b] rules) ∧
        Sieve.readScript script' = some (reading Config.Domain.below [a, b] rules) ∧
        Sieve.readScript script = some (statements "@a.org/A" "B") ∧
        Sieve.readScript script' = some (statements "@a.org/A" "@b.org/B") := by
  intro ms a b into seen due statements
  have hd : List.Forall₂ (fun m d => Config.Domain.decode m.1 m.2 = .ok d) ms [a, b] :=
    .cons rfl (.cons rfl .nil)
  have hn : ∀ d ∈ [a, b], Unbroken d.name :=
    List.forall_mem_cons.mpr ⟨by decide, List.forall_mem_singleton.mpr (by decide)⟩
  have hbelow : [a.below "@a.org/A", b.below "B"] = ["@a.org/A", "@b.org/B"] := by decide
  obtain ⟨text, hc⟩ : ∃ text, (compile "# p" false [a, b]).result = .ok text :=
    Config.exists_of_isOk (by decide +kernel)
  obtain ⟨-, -, h, -⟩ := compile_forced "# p" hd hn
  obtain ⟨rules, script, script', hall, rfl, hc', hread, hread'⟩ := h text hc
  let labels : RuleLabels := [("Due", ["now"])]
  have hrules : RulesOf false [a, b]
      [⟨"a.org", [""], ⟨"Custom", "@a.org/", [("A", ⟨["x"], none, .root⟩)]⟩,
          ⟨"Generic", "@a.org/", [("A", ⟨["a", "a.*"], none, .root⟩)]⟩⟩,
        ⟨"b.org", [""], ⟨"Custom", "", [("B", ⟨["y"], some labels, ⟨true, false, true⟩⟩)]⟩,
          ⟨"Generic", "", [("B", ⟨["b", "b.*"], some labels, ⟨true, false, true⟩⟩)]⟩⟩] :=
    .cons rfl (.cons rfl .nil)
  have hreading (f : Config.Domain → String → String) :
      reading f [a, b] rules = statements (f a "@a.org/A") (f b "B") := by
    have ha (ps : List String) (hp : ∀ p ∈ ps, Still p) :
        Rule.armRead (f a) "@a.org/" ("A", ⟨ps, none, .root⟩) =
          ((Test.localpartMatches ps).phrase id, [into (f a "@a.org/A")]) :=
      Rule.armRead_of_still hp (by simp) (by decide)
    have hlabels : ∀ l ∈ labels, Rule.LabelStill l := by decide
    have hb (ps : List String) (hp : ∀ p ∈ ps, Still p) :
        Rule.armRead (f b) "" ("B", ⟨ps, some labels, ⟨true, false, true⟩⟩) =
          ((Test.localpartMatches ps).phrase id, [due, into (f b "B")]) :=
      Rule.armRead_of_still hp hlabels (by decide)
    rw [hall.unique hrules]
    simp only [statements, ← ha ["x"] (by decide), ← ha ["a", "a.*"] (by decide),
      ← hb ["y"] (by decide), ← hb ["b", "b.*"] (by decide)]
    rfl
  have hfolders : a.below "@a.org/A" = "@a.org/A" ∧ b.below "B" = "@b.org/B" := by decide
  have hforced : reading Config.Domain.below [a, b] rules = statements "@a.org/A" "@b.org/B" := by
    rw [hreading, hfolders.1, hfolders.2]
  exact ⟨hd, hbelow, rules, script, script', hc, hc', hread, hread',
    hread.trans (congrArg some (hreading _)), hread'.trans (congrArg some hforced)⟩

end Script

end FolderSieve
