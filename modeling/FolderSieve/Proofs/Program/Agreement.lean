import FolderSieve.Proofs.Program.Output
import FolderSieve.Proofs.Rules.FirstFolder

/-!
# Program — a check and a build of one configuration

A check walks the domains one by one, without a preamble and without the first-folder option forced; a
build compiles them all and then writes.  Neither the preamble nor the option bears on what is compiled
and where it fails, so both come to the same end.

* `Config.Domain.summary_rules`: the rules of a domain are counted alike if the option is forced.
* `Script.compile_of_rulesOf`, `Script.compile_of_failure`: what domains compile to.
* `Program.check_of_rulesOf`, `Program.check_of_failure`: what is checked of them.
* `Program.Agree`, `Program.check_agrees_with_build`: the two of them on one configuration.
-/

namespace FolderSieve

open Program (summary)

/-- **The rules of a domain are counted alike** if the first-folder option is forced. -/
theorem Config.Domain.summary_rules (d : Config.Domain) (force : Bool) :
    (d.rules force).result.map summary = (d.rules false).result.map summary := by
  cases force with
  | false => rfl
  | true =>
      rw [d.rules_forced false]
      cases (d.rules false).result <;> rfl

theorem Config.Domain.summary_of_rules {d : Config.Domain} {force : Bool} {r : DomainRules}
    (h : (d.rules force).result = .ok r) :
    ∃ r', (d.rules false).result = .ok r' ∧ summary r' = summary r := by
  have hmap := d.summary_rules force
  rw [h] at hmap
  obtain ⟨r', hr', hs⟩ := Config.map_eq_ok_iff.mp hmap.symm
  exact ⟨r', hr', hs⟩

theorem Config.Domain.error_of_rules {d : Config.Domain} {force : Bool} {e : Config.Error}
    (h : (d.rules force).result = .error e) : (d.rules false).result = .error e := by
  have hmap := d.summary_rules force
  rw [h] at hmap
  exact Config.map_eq_error_iff.mp hmap.symm

namespace Script

/-! ### Domains up to the first that fails -/

/-- Either all domains have rules, or there is a first that has none. -/
theorem rulesOf_or_failure (force : Bool) (domains : List Config.Domain) :
    (∃ rules, RulesOf force domains rules) ∨
      ∃ before d after rules e, domains = before ++ d :: after ∧ RulesOf force before rules ∧
        (d.rules force).result = .error e := by
  cases h : domains.mapM fun d => (d.rules force).result with
  | ok rules => exact .inl ⟨rules, Config.mapM_eq_ok_iff.mp h⟩
  | error e =>
      obtain ⟨before, d, after, rfl, hb, he⟩ := Config.mapM_eq_error_iff.mp h
      obtain ⟨rules, hrules⟩ := exists_forall₂ hb
      exact .inr ⟨before, d, after, rules, e, rfl, hrules, he⟩

theorem compile_of_rulesOf {force : Bool} {domains : List Config.Domain}
    {rules : List DomainRules} (h : RulesOf force domains rules) :
    (compile "" force domains).result = .ok (String.join (segments true rules)) := by
  have hall := @branches_append force true domains [] rules h
  rw [List.append_nil] at hall
  rw [compile, hall, ← script_branchesOf]
  simp [branches, Except.map]

theorem compile_of_failure {force : Bool} {before after : List Config.Domain} {d : Config.Domain}
    {rules : List DomainRules} {e : Config.Error} (h : RulesOf force before rules)
    (he : (d.rules force).result = .error e) :
    (compile "" force (before ++ d :: after)).result = .error e := by
  rw [compile, @branches_append force true before (d :: after) rules h]
  simp [branches, he, Except.map]

end Script

namespace Program

open Script (RulesOf RulesAlone)

section Run

variable {arguments : List String} {env : Settings.Environment} {w : Workspace} {s : Settings}
  (hs : Settings.load env w = .ok s)

include hs

theorem run_check {config : String} (ht : Task.ofArguments s arguments = .check config) :
    run arguments env w = (check w config).plain := by
  rw [run_eq_perform hs, ht, perform, outcome]

theorem run_build {plan : BuildPlan} (ht : Task.ofArguments s arguments = .build plan) :
    run arguments env w = (build w plan).plain := by
  rw [run_eq_perform hs, ht, perform, outcome]

end Run

/-! ### What is checked -/

/-- **Domains that have rules** are summed up, whatever comes after them. -/
theorem checkDomains_append {force : Bool} {before : List Config.Domain}
    {rules : List DomainRules} (h : RulesOf force before rules) (after : List Config.Domain) :
    (checkDomains (before ++ after)).1 =
        String.join (rules.map summary) ++ (checkDomains after).1 ∧
      (checkDomains (before ++ after)).2.2 = (checkDomains after).2.2 := by
  induction h with
  | nil => exact ⟨(String.empty_append).symm, rfl⟩
  | @cons d r before rules hr _ ih =>
      obtain ⟨r', hr', hs⟩ := Config.Domain.summary_of_rules hr
      rw [List.cons_append, checkDomains, hr']
      dsimp only
      rw [ih.1, ih.2, hs, List.map_cons, String.join_cons, String.append_assoc]
      exact ⟨rfl, rfl⟩

section Check

variable {w : Workspace} {config : String} {domains : List Config.Domain}
  (hl : loadDomains w config = .ok domains)

include hl

/-- Domains that all have rules are summed up. -/
theorem check_of_rulesOf {force : Bool} {rules : List DomainRules}
    (h : RulesOf force domains rules) :
    (check w config).exitCode = 0 ∧ (check w config).stderr = "" ∧
      (check w config).stdout = String.join (rules.map summary) ++ "Config OK.\n" := by
  obtain ⟨hlines, hfailure⟩ := checkDomains_append h []
  rw [List.append_nil] at hlines hfailure
  have hnone : (checkDomains []).1 = "" ∧ (checkDomains []).2.2 = none := ⟨rfl, rfl⟩
  rw [hnone.1, String.append_empty] at hlines
  rw [hnone.2] at hfailure
  unfold check
  rw [hl]
  dsimp only
  rw [hlines, hfailure]
  exact ⟨rfl, rfl, rfl⟩

/-- Domains up to the first that has no rules are summed up, and its mistake is told. -/
theorem check_of_failure {force : Bool} {before after : List Config.Domain} {d : Config.Domain}
    {rules : List DomainRules} {e : Config.Error} (hd : domains = before ++ d :: after)
    (h : RulesOf force before rules) (he : (d.rules force).result = .error e) :
    (check w config).exitCode = 1 ∧ (check w config).stderr = s!"Error: {e.text}\n" ∧
      (check w config).stdout = String.join (rules.map summary) ∧ (check w config).crash = none := by
  obtain ⟨hlines, hfailure⟩ := checkDomains_append h (d :: after)
  have hfirst : (checkDomains (d :: after)).1 = "" ∧ (checkDomains (d :: after)).2.2 = some e := by
    rw [checkDomains, Config.Domain.error_of_rules he]
    exact ⟨rfl, rfl⟩
  rw [hfirst.1, String.append_empty] at hlines
  rw [hfirst.2] at hfailure
  unfold check
  rw [hl, hd]
  dsimp only
  rw [hlines, hfailure]
  exact ⟨rfl, rfl, rfl, rfl⟩

end Check

/-! ### What is built -/

/-- A build of domains of which one has no rules tells its mistake. -/
theorem build_of_failure {w : Workspace} {plan : BuildPlan} {domains : List Config.Domain}
    (hl : loadDomains w plan.config = .ok domains) {preamble : String} {events : List Event}
    (hp : loadPreamble w plan.preamble = .ok (preamble, events)) {e : Config.Error}
    (he : (Script.compile "" plan.firstFolder domains).result = .error e) :
    (build w plan).exitCode = 1 ∧ (build w plan).stderr = s!"Error: {e.text}\n" ∧
      (build w plan).crash = none := by
  unfold build
  rw [hl]
  dsimp only
  rw [hp]
  dsimp only
  rw [Script.compile_result, he]
  exact ⟨rfl, rfl, rfl⟩

/-- Without a configuration a check and a build end alike: with a message, or with a crash if no file
can have the name. -/
theorem unloaded_cases {w : Workspace} {config : String} {fault : LoadFault}
    (h : loadDomains w config = .error fault) :
    (unloaded w config fault).stdout = "" ∧
      ((∃ message : String, (unloaded w config fault).stderr = s!"Error: {message}\n" ∧
          (unloaded w config fault).crash = none) ∨
        '\x00' ∈ (Path.ofString config).toString.toList) := by
  unfold unloaded
  split
  · unfold loadDomains at h
    split at h
    · rename_i hread
      cases h
      exact ⟨rfl, .inr (Workspace.mem_of_read_unnameable hread)⟩
    · rename_i content _
      cases hd : Config.File.decode content <;> simp [hd, Except.mapError] at h
  · exact ⟨rfl, .inl ⟨_, rfl, rfl⟩⟩

/-! ### What is printed of domains -/

theorem isControl_of_isDigit {c : Char} (h : c.isDigit = true) : Text.isControl c = false := by
  unfold Char.isDigit at h
  rw [Bool.and_eq_true, decide_eq_true_eq, decide_eq_true_eq] at h
  obtain ⟨h₁, h₂⟩ := h
  have h₁ : 48 ≤ c.toNat := UInt32.le_iff_toNat_le.mp h₁
  have h₂ : c.toNat ≤ 57 := UInt32.le_iff_toNat_le.mp h₂
  rw [Text.isControl, Bool.or_eq_false_iff, decide_eq_false_iff_not, beq_eq_false_iff_ne]
  omega

theorem lineFeedsOnly_toString (n : Nat) : LineFeedsOnly (toString n) := by
  intro c hc hp
  have hdigits : toString n = String.ofList (Nat.toDigits 10 n) := Nat.repr_eq_ofList_toDigits
  rw [hdigits, String.toList_ofList] at hc
  have hd : c.isDigit = true := Nat.isDigit_of_mem_toDigits (by decide) (by decide) hc
  rw [isControl_of_isDigit hd] at hp
  cases hp

theorem lineFeedsOnly_summary {r : DomainRules} (h : Text.hasControl r.domain = false) :
    LineFeedsOnly (summary r) := by
  have hat : LineFeedsOnly "@" := .of_all (by decide)
  have hcolon : LineFeedsOnly ": " := .of_all (by decide)
  have hcustom : LineFeedsOnly " custom, " := .of_all (by decide)
  have hgeneric : LineFeedsOnly " generic\n" := .of_all (by decide)
  exact (((((hat.append (.of_hasControl h)).append hcolon).append
    (lineFeedsOnly_toString _)).append hcustom).append (lineFeedsOnly_toString _)).append hgeneric

theorem lineFeedsOnly_summaries {domains : List Config.Domain} (hn : ∀ d ∈ domains, d.SoundNames)
    {force : Bool} {rules : List DomainRules} (h : RulesOf force domains rules) :
    LineFeedsOnly (String.join (rules.map summary)) := by
  refine .join fun s hs => ?_
  obtain ⟨r, hr, rfl⟩ := List.mem_map.mp hs
  exact lineFeedsOnly_summary (Script.sound_of_rulesOf hn h r hr).domain

/-! ### Both on one configuration -/

/-- The file at a path holds a JSON object with the given members. -/
def Configured (w : Workspace) (path : String) (ms : Json.Members) : Prop :=
  ∃ content text, w.read (.ofString path) = .ok content ∧ Text.Utf8.decode content = .ok text ∧
    Json.read (Text.unifyBreaks text) = .ok (.object ms)

/-- A file holds one object at most. -/
theorem Configured.unique {w : Workspace} {path : String} {ms ms' : Json.Members}
    (h : Configured w path ms) (h' : Configured w path ms') : ms = ms' := by
  obtain ⟨content, text, hfile, htext, hread⟩ := h
  obtain ⟨content', text', hfile', htext', hread'⟩ := h'
  cases hfile.symm.trans hfile'
  cases htext.symm.trans htext'
  exact Json.Value.object.inj (Except.ok.inj (hread.symm.trans hread'))

/-- Domains that are loaded are those of the members of an object. -/
theorem exists_configured {w : Workspace} {path : String} {domains : List Config.Domain}
    (h : loadDomains w path = .ok domains) : ∃ ms, Configured w path ms ∧
      Config.Domain.decodeAll (.object ms) = .ok domains := by
  obtain ⟨content, text, v, hfile, htext, hread, hd⟩ := loadDomains_eq_ok_iff.mp h
  cases v with
  | object ms => exact ⟨ms, ⟨content, text, hfile, htext, hread⟩, hd⟩
  | _ => cases hd

/-- The rules `r` of a member, the part of the script that they make, and the line on them: what it
counts are the branches on localparts that stand in that part below the one heading and the other. -/
structure Counted (force : Bool) (m : String × Json.Value) (r : DomainRules) : Prop where
  alone : (Script.alone force m).result = .ok r
  segment : Script.IsSegment m r
  line :
    let custom := Sieve.branchesBelow "Custom filters" none r.commands
    let generic := Sieve.branchesBelow "Generic filters" none r.commands
    summary r = s!"@{m.1}: {custom} custom, {generic} generic\n"

theorem counted_of_alone {force : Bool} {m : String × Json.Value} {r : DomainRules}
    (h : (Script.alone force m).result = .ok r) : Counted force m r := by
  have hsegment := Script.isSegment_of_alone h
  refine ⟨h, hsegment, ?_⟩
  obtain ⟨d, hd, hr⟩ := Script.alone_eq_ok_iff.mp h
  have hname : r.domain = m.1 :=
    (Config.Domain.named_of_rules hr).1.trans (Config.Domain.decode_eq_ok hd).1
  rw [hsegment.custom, hsegment.generic, ← hname]
  rfl

/-- A check and a build of the configuration at one path, the build with the given preamble. -/
structure Agree (w : Workspace) (plan : BuildPlan) (preamble : String) (checked built : Run) :
    Prop where
  /-- The check succeeds exactly if the build comes to a script. -/
  verdict : checked.exitCode = 0 ↔ ∃ script, Compiles w plan preamble script
  /-- Then it sums up every domain, in order, and the script is made of their parts. -/
  success : ∀ script, Compiles w plan preamble script → ∃ ms rules, Configured w plan.config ms ∧
    List.Forall₂ (Counted plan.firstFolder) ms rules ∧
    script = String.join (Script.segments true rules) ∧
    checked.stdout = String.join (rules.map summary) ++ "Config OK.\n" ∧ checked.stderr = ""
  /-- The build leaves that script behind, unless no file can have the name to write to. -/
  completion : checked.exitCode = 0 → (built.exitCode = 0 ∧ Leaves w plan built) ∨
    ∃ target, IsTarget w plan.output target ∧ '\x00' ∈ target.toString.toList
  /-- If it does not succeed then the build does not, and both end with the same message, or crash as no
  file can have the name. -/
  failure : checked.exitCode ≠ 0 → checked.exitCode = 1 ∧ built.exitCode = 1 ∧
    checked.stderr = built.stderr ∧ checked.crash = built.crash ∧
    ((∃ message : String, checked.stderr = Run.plainText s!"Error: {message}\n" ∧
        checked.crash = none) ∨
      '\x00' ∈ (Path.ofString plan.config).toString.toList)
  /-- Then either nothing was loaded, or the domains before the first whose walk fails are summed up. -/
  summaries : checked.exitCode ≠ 0 →
    ((∀ domains, loadDomains w plan.config ≠ .ok domains) ∧ checked.stdout = "") ∨
      ∃ before m after rules e, Configured w plan.config (before ++ m :: after) ∧
        (∃ domains, loadDomains w plan.config = .ok domains) ∧
        List.Forall₂ (Counted plan.firstFolder) before rules ∧
        (Script.alone plan.firstFolder m).result = .error e ∧
        checked.stdout = String.join (rules.map summary) ∧
        checked.stderr = Run.plainText s!"Error: {e.text}\n"

section Agree

variable {w : Workspace} {plan : BuildPlan} {preamble : String} {events : List Event}

theorem agree_of_fault {fault : LoadFault} (hl : loadDomains w plan.config = .error fault) :
    Agree w plan preamble (check w plan.config).plain (build w plan).plain := by
  have hcheck : check w plan.config = unloaded w plan.config fault := by
    unfold check
    rw [hl]
  have hbuild : build w plan = unloaded w plan.config fault := by
    unfold build
    rw [hl]
  have hno (script : String) : ¬Compiles w plan preamble script := by
    rintro ⟨⟨domains, h, -⟩, -⟩
    cases hl.symm.trans h
  obtain ⟨hcode, -⟩ := unloaded_eq w plan.config fault
  obtain ⟨hout, hend⟩ := unloaded_cases hl
  rw [hcheck, hbuild]
  generalize unloaded w plan.config fault = r at hcode hout hend
  have hfails : r.plain.exitCode = 1 := hcode
  refine ⟨?_, fun script h => absurd h (hno script), fun h => absurd (hfails.symm.trans h) (by decide),
    fun _ => ⟨hfails, hfails, rfl, rfl, ?_⟩,
    fun _ => .inl ⟨fun domains h => (by cases hl.symm.trans h), ?_⟩⟩
  · rw [hfails]
    exact iff_of_false (by decide) fun ⟨script, h⟩ => hno script h
  · obtain ⟨message, herr, hcrash⟩ | hnull := hend
    · exact .inl ⟨message, congrArg Run.plainText herr, hcrash⟩
    · exact .inr hnull
  · rw [r.plain_stdout, hout]
    rfl

variable {domains : List Config.Domain} (hl : loadDomains w plan.config = .ok domains)
  (hp : loadPreamble w plan.preamble = .ok (preamble, events))

include hl hp

theorem agree_of_rulesOf {rules : List DomainRules} (h : RulesOf plan.firstFolder domains rules) :
    Agree w plan preamble (check w plan.config).plain (build w plan).plain := by
  obtain ⟨ms, hms, hd⟩ := exists_configured hl
  obtain ⟨-, -, -, hn⟩ := Config.Domain.decodeAll_eq_ok hd
  have halone := (Script.rulesAlone_iff (Config.mapM_eq_ok_iff.mp hd)).mpr h
  have hscript := Script.compile_of_rulesOf h
  obtain ⟨hcode, herr, hout⟩ := check_of_rulesOf hl h
  obtain ⟨-, hleaves, hname⟩ := plain_build w plan
  have hcompiles : Compiles w plan preamble (String.join (Script.segments true rules)) :=
    ⟨⟨domains, hl, hscript⟩, events, hp⟩
  generalize check w plan.config = c at hcode herr hout
  generalize (build w plan).plain = b at hleaves hname
  have hok : c.plain.exitCode = 0 := hcode
  refine ⟨iff_of_true hok ⟨_, hcompiles⟩, ?_, fun _ => ?_, fun h => absurd hok h,
    fun h => absurd hok h⟩
  case refine_2 =>
    by_cases hcode : b.exitCode = 0
    · exact .inl ⟨hcode, hleaves hcode⟩
    · exact .inr (hname _ _ hcompiles hcode)
  rintro script ⟨⟨domains', hl', hc⟩, -⟩
  cases hl.symm.trans hl'
  cases hscript.symm.trans hc
  refine ⟨ms, rules, hms, halone.imp fun _ _ => counted_of_alone, rfl, ?_, ?_⟩
  · rw [c.plain_stdout, hout]
    exact Run.plainText_of_lineFeedsOnly
      ((lineFeedsOnly_summaries hn h).append (.of_all (by decide)))
  · rw [c.plain_stderr, herr]
    rfl

theorem agree_of_failure {before after : List Config.Domain} {d : Config.Domain}
    {rules : List DomainRules} {e : Config.Error} (hsplit : domains = before ++ d :: after)
    (h : RulesOf plan.firstFolder before rules)
    (he : (d.rules plan.firstFolder).result = .error e) :
    Agree w plan preamble (check w plan.config).plain (build w plan).plain := by
  obtain ⟨ms, hms, hd⟩ := exists_configured hl
  obtain ⟨-, -, -, hn⟩ := Config.Domain.decodeAll_eq_ok hd
  have hdecoded := Config.mapM_eq_ok_iff.mp hd
  have hscript : (Script.compile "" plan.firstFolder domains).result = .error e := by
    rw [hsplit]
    exact Script.compile_of_failure h he
  obtain ⟨hcode, herr, hout, hcrash⟩ := check_of_failure hl hsplit h he
  obtain ⟨hcode', herr', hcrash'⟩ := build_of_failure hl hp hscript
  generalize check w plan.config = c at hcode herr hout hcrash
  generalize build w plan = b at hcode' herr' hcrash'
  have hstderr : c.plain.stderr = Run.plainText s!"Error: {e.text}\n" := congrArg Run.plainText herr
  have hstderr' : b.plain.stderr = Run.plainText s!"Error: {e.text}\n" := congrArg Run.plainText herr'
  have hfails : c.plain.exitCode = 1 := hcode
  have hno : ¬∃ script, Compiles w plan preamble script := by
    rintro ⟨script, ⟨domains', hl', hc⟩, -⟩
    cases hl.symm.trans hl'
    cases hscript.symm.trans hc
  refine ⟨iff_of_false (by rw [hfails]; decide) hno, fun script hc => absurd ⟨script, hc⟩ hno,
    fun h => absurd (hfails.symm.trans h) (by decide), fun _ => ⟨hfails, hcode', hstderr.trans hstderr'.symm, hcrash.trans hcrash'.symm,
      .inl ⟨e.text, hstderr, hcrash⟩⟩, fun _ => .inr ?_⟩
  -- the members are split where their domains are
  rw [hsplit] at hdecoded
  have hbefore := List.forall₂_take_append ms before (d :: after) hdecoded
  obtain ⟨m, rest, hm, -, hdrop⟩ :=
    List.forall₂_cons_right_iff.mp (List.forall₂_drop_append ms before (d :: after) hdecoded)
  have hmembers : ms.take before.length ++ m :: rest = ms := by
    rw [← hdrop]
    exact List.take_append_drop before.length ms
  have halone := (Script.rulesAlone_iff hbefore).mpr h
  refine ⟨ms.take before.length, m, rest, rules, e, by rw [hmembers]; exact hms, ⟨domains, hl⟩,
    halone.imp fun _ _ => counted_of_alone, by rw [Script.alone_of_decode hm]; exact he, ?_, hstderr⟩
  rw [c.plain_stdout, hout]
  exact Run.plainText_of_lineFeedsOnly
    (lineFeedsOnly_summaries (fun d hd => hn d (hsplit ▸ List.mem_append_left _ hd)) h)

end Agree

/-! ### A configuration that fails -/

/-- The members of a configuration whose second domain has a folder without folders. -/
def emptyFolder : Json.Members :=
  [("a", .object [("B", .string "x")]), ("c", .object [("D", .object [])])]

/-- Its bytes, `{"a":{"B":"x"},"c":{"D":{}}}`. -/
def emptyFolderFile : List UInt8 :=
  [123, 34, 97, 34, 58, 123, 34, 66, 34, 58, 34, 120, 34, 125, 44, 34, 99, 34, 58, 123, 34, 68, 34,
    58, 123, 125, 125, 125]

theorem configured_emptyFolder {w : Workspace} {path : String}
    (h : w.read (.ofString path) = .ok emptyFolderFile) : Configured w path emptyFolder := by
  have hread : Json.read (Text.unifyBreaks
      "\x7b\"a\":\x7b\"B\":\"x\"\x7d,\"c\":\x7b\"D\":\x7b\x7d\x7d\x7d".toList) =
      .ok (.object emptyFolder) := by cbv
  exact ⟨emptyFolderFile, _, h, rfl, hread⟩

theorem loadDomains_emptyFolder {w : Workspace} {path : String}
    (h : w.read (.ofString path) = .ok emptyFolderFile) :
    loadDomains w path = .ok [oneFolder, ⟨"c", {}, .folders [("D", .folders [])]⟩] := by
  obtain ⟨content, text, hfile, htext, hread⟩ := configured_emptyFolder h
  exact loadDomains_eq_ok_iff.mpr ⟨content, text, _, hfile, htext, hread, rfl⟩

/-- The first domain is summed up, and the mistake in the second is told. -/
theorem Agree.emptyFolder {w : Workspace} {plan : BuildPlan} {preamble : String}
    {checked built : Run} (h : Agree w plan preamble checked built)
    (hfile : w.read (.ofString plan.config) = .ok emptyFolderFile) :
    checked.exitCode = 1 ∧ built.exitCode = 1 ∧ checked.stdout = "@a: 1 custom, 1 generic\n" ∧
      checked.stderr = "Error: This is an empty sieve config, expected at least one folder " ++
        "(domain 'c', folder 'D')\n" ∧ built.stderr = checked.stderr := by
  have hl := loadDomains_emptyFolder hfile
  obtain ⟨r, hr, hline⟩ : ∃ r, (Script.alone plan.firstFolder
      ("a", .object [("B", .string "x")])).result = .ok r ∧ summary r = "@a: 1 custom, 1 generic\n" := by
    cases plan.firstFolder <;> exact ⟨_, rfl, by decide +kernel⟩
  have he : (Script.alone plan.firstFolder ("c", .object [("D", .object [])])).result =
      .error ⟨.noFolders, { domain := "c", folder := "D" }⟩ := by
    cases plan.firstFolder <;> rfl
  have hc : (Script.compile "" plan.firstFolder
      [oneFolder, ⟨"c", {}, .folders [("D", .folders [])]⟩]).result =
      .error ⟨.noFolders, { domain := "c", folder := "D" }⟩ := by
    cases plan.firstFolder <;> rfl
  have hcode : checked.exitCode ≠ 0 := by
    intro hzero
    obtain ⟨script, ⟨domains, hl', hc'⟩, -⟩ := h.verdict.mp hzero
    cases hl.symm.trans hl'
    cases hc.symm.trans hc'
  obtain ⟨hchecked, hbuilt, hstderr, -⟩ := h.failure hcode
  obtain ⟨hno, -⟩ | ⟨before, m, after, rules, e, hms, -, hcounted, he', hout, herr⟩ :=
    h.summaries hcode
  · exact absurd hl (hno _)
  have hsplit := hms.unique (configured_emptyFolder hfile)
  -- the first domain that fails is not the first, so it is the second
  cases hcounted with
  | nil =>
      cases hsplit
      cases hr.symm.trans he'
  | @cons _ r' _ _ hfirst hrest =>
      obtain ⟨rfl, hlast⟩ := List.cons.inj hsplit
      obtain ⟨rfl, hm⟩ | ⟨-, hm⟩ := List.append_eq_singleton_iff.mp hlast
      · cases hm
        cases hrest
        cases hr.symm.trans hfirst.alone
        cases he.symm.trans he'
        have hjoin : String.join ([r].map summary) = summary r := by simp [String.join_cons]
        exact ⟨hchecked, hbuilt, hout.trans (hjoin.trans hline), herr.trans (by decide +kernel),
          hstderr.symm⟩
      · cases hm

/-! ### Any configuration -/

/-- **A check and a build of one configuration agree**, whatever the file holds, with the first-folder
option forced or not and with any preamble that can be read. -/
theorem check_agrees_with_build {arguments arguments' : List String} {env : Settings.Environment}
    {w : Workspace} {s : Settings} {plan : BuildPlan} {preamble : String} {events : List Event}
    (hs : Settings.load env w = .ok s)
    (hcheck : Task.ofArguments s arguments = .check plan.config)
    (hbuild : Task.ofArguments s arguments' = .build plan)
    (hp : loadPreamble w plan.preamble = .ok (preamble, events)) :
    Agree w plan preamble (run arguments env w) (run arguments' env w) := by
  rw [run_check hs hcheck, run_build hs hbuild]
  cases hl : loadDomains w plan.config with
  | error fault => exact agree_of_fault hl
  | ok domains =>
      obtain ⟨rules, h⟩ | ⟨before, d, after, rules, e, hsplit, h, he⟩ :=
        Script.rulesOf_or_failure plan.firstFolder domains
      · exact agree_of_rulesOf hl hp h
      · exact agree_of_failure hl hp hsplit h he

/-- With the option forced and no preamble, on a file that compiles, on one whose second domain cannot be
walked and on one that is missing. -/
theorem check_agrees_with_build_forced :
    let w : Workspace := { entries := [(["c.json"], .file oneFolderFile)] }
    let w' : Workspace := { entries := [(["c.json"], .file emptyFolderFile)] }
    let checked := run ["check", "--config", "/c.json"] []
    let built := run ["build", "--config", "/c.json", "--force-domain-folder"] []
    let s : Settings := ⟨"sieve.config.json", "prefix.sieve", "filter.sieve", false⟩
    let plan : BuildPlan := ⟨"/c.json", "prefix.sieve", "filter.sieve", true⟩
    Settings.load [] w = .ok s ∧ Task.ofArguments s ["check", "--config", "/c.json"] =
        .check plan.config ∧
      Task.ofArguments s ["build", "--config", "/c.json", "--force-domain-folder"] = .build plan ∧
      loadPreamble w plan.preamble = .ok ("", [.preambleMissing "prefix.sieve"]) ∧
      Agree w plan "" (checked w) (built w) ∧ (checked w).exitCode = 0 ∧
      Agree w' plan "" (checked w') (built w') ∧ (checked w').exitCode = 1 ∧
        (built w').exitCode = 1 ∧ (checked w').stdout = "@a: 1 custom, 1 generic\n" ∧
        (checked w').stderr = "Error: This is an empty sieve config, expected at least one folder " ++
          "(domain 'c', folder 'D')\n" ∧ (built w').stderr = (checked w').stderr ∧
      Agree {} plan "" (checked {}) (built {}) ∧ (checked {}).stderr = (built {}).stderr := by
  intro w w' checked built s plan
  have hcheck : Task.ofArguments s ["check", "--config", "/c.json"] = .check plan.config := by
    decide +kernel
  have hbuild : Task.ofArguments s ["build", "--config", "/c.json", "--force-domain-folder"] =
      .build plan := by decide +kernel
  have hs : Settings.load [] w = .ok s := rfl
  have hs' : Settings.load [] w' = .ok s := rfl
  have hs'' : Settings.load [] {} = .ok s := rfl
  have hp : loadPreamble w "prefix.sieve" = .ok ("", [.preambleMissing "prefix.sieve"]) := rfl
  have hp' : loadPreamble w' "prefix.sieve" = .ok ("", [.preambleMissing "prefix.sieve"]) := rfl
  have hp'' : loadPreamble {} "prefix.sieve" = .ok ("", [.preambleMissing "prefix.sieve"]) := rfl
  have hagree := check_agrees_with_build hs hcheck hbuild hp
  have hagree' := check_agrees_with_build hs' hcheck hbuild hp'
  have hagree'' := check_agrees_with_build hs'' hcheck hbuild hp''
  have hl : loadDomains w "/c.json" = .ok [oneFolder] := loadDomains_oneFolder (by decide +kernel)
  obtain ⟨script, hc⟩ := exists_compile_oneFolder true
  have hcode : (checked w).exitCode = 0 := hagree.verdict.mpr ⟨script, ⟨_, hl, hc⟩, _, hp⟩
  obtain ⟨hone, hone', hlines, herror, hstderr⟩ := hagree'.emptyFolder (by decide +kernel)
  have hmissing : (checked {}).exitCode ≠ 0 := by decide +kernel
  obtain ⟨-, -, hstderr', -⟩ := hagree''.failure hmissing
  exact ⟨hs, hcheck, hbuild, hp, hagree, hcode, hagree', hone, hone', hlines, herror, hstderr,
    hagree'', hstderr'⟩

end Program

end FolderSieve
