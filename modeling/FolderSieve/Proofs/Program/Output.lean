import Mathlib.Data.List.Permutation
import FolderSieve.Proofs.Rules.Controls
import FolderSieve.Proofs.Text.Plain
import FolderSieve.Proofs.Workspace

/-!
# Program — what a build leaves behind

A build reads the configuration and the preamble, compiles, and writes last of all.  So a run that
fails has written nothing, and one that does not has written the whole script or, where that was
refused, printed it.

* `Program.Compiles`: what has to be there before anything is written.
* `Program.build_cases`: the ways in which a build ends.
* `Program.plainText_dumped`: a script is printed as it is.
* `Program.run_leaves_no_part`: every run, of any arguments.
-/

namespace FolderSieve

namespace Script

/-! ### The text of a script -/

theorem compile_result (preamble : String) (force : Bool) (domains : List Config.Domain) :
    (compile preamble force domains).result =
      (compile "" force domains).result.map (preamble ++ ·) := by
  unfold compile
  cases h : (branches force true domains).result <;> simp [h, Except.map]

/-- The control characters of a script are line feeds. -/
theorem lineFeedsOnly_of_compile {v : Json.Value} {force : Bool} {domains : List Config.Domain}
    {text : String} (hd : Config.Domain.decodeAll v = .ok domains)
    (hc : (compile "" force domains).result = .ok text) : LineFeedsOnly text := by
  intro c hm hp
  obtain ⟨rules, hall, rfl⟩ := eq_script_of_compile hc
  have hlaid := (commented_branchesOf (sound_of_compile hd hall) true).laid_script
  obtain ⟨parts, -, htext, horderly, -⟩ := hlaid.exists_parts
  rw [← htext] at hm
  exact Sieve.Part.eq_lineFeed_of_orderly horderly hm hp

/-- A script starts with a line feed, if there is anything in it. -/
theorem head_of_compile {force : Bool} {domains : List Config.Domain} {text : String}
    (hc : (compile "" force domains).result = .ok text) :
    text = "" ∨ ∃ rest, text.toList = '\n' :: rest := by
  obtain ⟨rules, -, rfl⟩ := eq_script_of_compile hc
  cases rules with
  | nil => exact .inl rfl
  | cons r rules =>
      refine .inr ?_
      rw [Sieve.script, String.toList_ofList]
      exact ⟨_, rfl⟩

end Script

namespace Program

/-- **A script is printed as it is**, whatever stands before it. -/
theorem plainText_dumped {v : Json.Value} {force : Bool} {domains : List Config.Domain}
    {script : String} (hd : Config.Domain.decodeAll v = .ok domains)
    (hc : (Script.compile "" force domains).result = .ok script) {preamble : String}
    (hp : '\r' ∉ preamble.toList) :
    Run.plainText (preamble ++ script ++ "\n") = Run.plainText preamble ++ script ++ "\n" := by
  have hcontrol : LineFeedsOnly (script ++ "\n") := by
    refine (Script.lineFeedsOnly_of_compile hd hc).append fun c hm _ => ?_
    simpa using hm
  have hhead : ∃ rest, (script ++ "\n").toList = '\n' :: rest := by
    rw [String.toList_append]
    rcases Script.head_of_compile hc with rfl | ⟨rest, hrest⟩
    · exact ⟨[], rfl⟩
    · rw [hrest]
      exact ⟨_, rfl⟩
  obtain ⟨rest, hrest⟩ := hhead
  rw [String.append_assoc, String.append_assoc]
  exact Run.plainText_append hp hrest hcontrol

/-- No carriage return is left in a preamble. -/
theorem not_mem_of_loadPreamble {w : Workspace} {path preamble : String} {events : List Event}
    (h : loadPreamble w path = .ok (preamble, events)) : '\r' ∉ preamble.toList := by
  unfold loadPreamble at h
  dsimp only at h
  split at h
  · cases h
  · cases h
    simp
  · split at h
    · cases h
    · split at h
      · cases h
      · cases h
        rw [String.toList_ofList]
        exact Text.not_mem_unifyBreaks _

/-- **Domains are loaded** from a file of UTF-8 text that is JSON and a configuration. -/
theorem loadDomains_eq_ok_iff {w : Workspace} {path : String} {domains : List Config.Domain} :
    loadDomains w path = .ok domains ↔ ∃ content text v, w.read (.ofString path) = .ok content ∧
      Text.Utf8.decode content = .ok text ∧ Json.read (Text.unifyBreaks text) = .ok v ∧
        Config.Domain.decodeAll v = .ok domains := by
  unfold loadDomains
  cases w.read (.ofString path) with
  | error why => simp
  | ok content =>
      dsimp only
      rw [Config.mapError_eq_ok_iff, Config.File.decode]
      cases ht : Text.Utf8.decode content with
      | error fault => simp [ht]
      | ok text =>
          dsimp only
          cases hv : Json.read (Text.unifyBreaks text) <;>
            simp [ht, hv, Config.mapError_eq_ok_iff]

/-! ### The file to write -/

/-- The file that a script is written to: the one asked for, or one in it if it is a directory. -/
def IsTarget (w : Workspace) (path : String) (target : Path) : Prop :=
  (w.find (.ofString path) = .ok .directory ∧
      target = (Path.ofString path).inside "filter.sieve") ∨
    (w.find (.ofString path) ≠ .ok .directory ∧ target = .ofString path)

theorem isTarget_of_outputTarget {w : Workspace} {path : String} {target : Path}
    (h : outputTarget w path = .ok target) : IsTarget w path target := by
  unfold outputTarget at h
  dsimp only at h
  obtain ⟨yes, hyes, rfl⟩ := Config.map_eq_ok_iff.mp h
  obtain ⟨hd, hok⟩ | ⟨hd, hok | hlong⟩ := w.isDirectory_cases (.ofString path)
  · cases hyes.symm.trans hok
    exact .inl ⟨hd, rfl⟩
  · cases hyes.symm.trans hok
    exact .inr ⟨hd, rfl⟩
  · cases hyes.symm.trans hlong

theorem isTarget_of_writeScript {w w' : Workspace} {path text : String} {target : Path}
    (h : writeScript w path text = .ok (target, w')) :
    IsTarget w path target ∧ w.Writes target text w' := by
  unfold writeScript at h
  split at h
  · cases h
  · rename_i p hp
    obtain ⟨_, hw, ⟨⟩⟩ := Config.map_eq_ok_iff.mp h
    exact ⟨isTarget_of_outputTarget hp, Workspace.writes_of_write hw⟩

theorem isTarget_of_unnameable {w : Workspace} {path text : String}
    (h : writeScript w path text = .error .unnameable) :
    ∃ target, IsTarget w path target ∧ '\x00' ∈ target.toString.toList := by
  unfold writeScript at h
  split at h
  · rename_i why hp
    cases h
    unfold outputTarget at hp
    dsimp only at hp
    have hwhy := Config.map_eq_error_iff.mp hp
    obtain ⟨-, hok⟩ | ⟨-, hok | hlong⟩ := w.isDirectory_cases (.ofString path)
    · cases hwhy.symm.trans hok
    · cases hwhy.symm.trans hok
    · cases hwhy.symm.trans hlong
  · rename_i p hp
    refine ⟨p, isTarget_of_outputTarget hp, Workspace.mem_of_reach_unnameable (w := w) ?_⟩
    have hw := Config.map_eq_error_iff.mp h
    unfold Workspace.write at hw
    split at hw
    · cases hw
      assumption
    · split at hw <;> cases hw

/-! ### One build -/

/-- All that comes before a script is written: the configuration is loaded and compiles to `script`,
and `preamble` is what goes before it. -/
structure Compiles (w : Workspace) (plan : BuildPlan) (preamble script : String) : Prop where
  config : ∃ domains, loadDomains w plan.config = .ok domains ∧
    (Script.compile "" plan.firstFolder domains).result = .ok script
  preamble : ∃ events, loadPreamble w plan.preamble = .ok (preamble, events)

theorem unloaded_eq (w : Workspace) (path : String) (fault : LoadFault) :
    (unloaded w path fault).exitCode = 1 ∧ (unloaded w path fault).workspace = w := by
  unfold unloaded
  split <;> exact ⟨rfl, rfl⟩

/-- **A build** fails before anything is written, or writes the script, or cannot name the file to
write to, or prints the script since it could not be written. -/
theorem build_cases (w : Workspace) (plan : BuildPlan) :
    let r := build w plan
    (¬(∃ preamble script, Compiles w plan preamble script) ∧ r.exitCode = 1 ∧ r.workspace = w) ∨
      ∃ preamble script, Compiles w plan preamble script ∧
        ((∃ target w', writeScript w plan.output (preamble ++ script) = .ok (target, w') ∧
            r.exitCode = 0 ∧ r.workspace = w') ∨
          (writeScript w plan.output (preamble ++ script) = .error .unnameable ∧
            r.exitCode = 1 ∧ r.workspace = w) ∨
          ∃ why, writeScript w plan.output (preamble ++ script) = .error why ∧ why ≠ .unnameable ∧
            r.exitCode = 0 ∧ r.workspace = w ∧ r.stdout = preamble ++ script ++ "\n") := by
  intro r
  have hr : r = build w plan := rfl
  unfold build at hr
  -- the stages in their order: the configuration, the preamble, the script, the file to write
  split at hr
  · rename_i fault hl
    refine .inl ⟨?_, ?_⟩
    · rintro ⟨_, _, ⟨_, h, -⟩, -⟩
      cases hl.symm.trans h
    · rw [hr]
      exact unloaded_eq w plan.config fault
  · rename_i domains hl
    dsimp only at hr
    split at hr
    · rename_i crash hp
      refine .inl ⟨?_, by rw [hr]; rfl, by rw [hr]; rfl⟩
      rintro ⟨_, _, -, _, h⟩
      cases hp.symm.trans h
    · rename_i preamble events hp
      rw [Script.compile_result] at hr
      cases hc : (Script.compile "" plan.firstFolder domains).result with
      | error e =>
          rw [hc] at hr
          refine .inl ⟨?_, by rw [hr]; rfl, by rw [hr]; rfl⟩
          rintro ⟨_, _, ⟨domains', hl', h⟩, -⟩
          cases hl.symm.trans hl'
          cases hc.symm.trans h
      | ok script =>
          rw [hc] at hr
          refine .inr ⟨preamble, script, ⟨⟨domains, hl, hc⟩, events, hp⟩, ?_⟩
          dsimp only [Except.map] at hr
          cases hw : writeScript w plan.output (preamble ++ script) with
          | ok written =>
              rw [hw] at hr
              exact .inl ⟨written.1, written.2, rfl, by rw [hr]; rfl, by rw [hr]; rfl⟩
          | error why =>
              rw [hw] at hr
              cases why with
              | unnameable => exact .inr (.inl ⟨rfl, by rw [hr]; rfl, by rw [hr]; rfl⟩)
              | missing | notDirectory | isDirectory | nameTooLong =>
                  exact .inr (.inr ⟨_, rfl, nofun, by rw [hr]; rfl, by rw [hr]; rfl, by rw [hr]; rfl⟩)

/-! ### A small configuration -/

/-- A domain with one folder. -/
def oneFolder : Config.Domain :=
  ⟨"a", {}, .folders [("B", .simple (.one "x"))]⟩

/-- The bytes of its configuration, `{"a":{"B":"x"}}`. -/
def oneFolderFile : List UInt8 :=
  [123, 34, 97, 34, 58, 123, 34, 66, 34, 58, 34, 120, 34, 125, 125]

theorem loadDomains_oneFolder {w : Workspace} {path : String}
    (h : w.read (.ofString path) = .ok oneFolderFile) : loadDomains w path = .ok [oneFolder] := by
  have hread : Json.read (Text.unifyBreaks "\x7b\"a\":\x7b\"B\":\"x\"\x7d\x7d".toList) =
      .ok (.object [("a", .object [("B", .string "x")])]) := by cbv
  exact loadDomains_eq_ok_iff.mpr ⟨oneFolderFile, _, _, h, rfl, hread, rfl⟩

theorem exists_compile_oneFolder (force : Bool) :
    ∃ script, (Script.compile "" force [oneFolder]).result = .ok script :=
  Config.exists_of_isOk (by cases force <;> decide +kernel)

/-! ### Every run -/

theorem run_eq_perform {env : Settings.Environment} {w : Workspace} {s : Settings}
    (h : Settings.load env w = .ok s) (arguments : List String) :
    run arguments env w = perform w (Task.ofArguments s arguments) := by
  unfold run
  rw [h]

theorem workspace_check (w : Workspace) (config : String) : (check w config).workspace = w := by
  unfold check
  split
  · exact (unloaded_eq w config _).2
  · dsimp only
    split <;> rfl

/-- Only a build changes a file. -/
theorem workspace_perform {w : Workspace} {task : Task} (h : ∀ plan, task ≠ .build plan) :
    (perform w task).workspace = w := by
  rw [perform, Run.plain_workspace]
  cases task with
  | build plan => exact absurd rfl (h plan)
  | print | remind | refuse => rfl
  | check config => exact workspace_check w config

/-- What a build leaves behind that does not fail: the file to write holds the preamble and the script,
and nothing else has changed, or the writing was refused, nothing has changed and the script is
printed. -/
def Leaves (w : Workspace) (plan : BuildPlan) (r : Run) : Prop :=
  ∃ preamble script, Compiles w plan preamble script ∧
    ((∃ target, IsTarget w plan.output target ∧
        w.Writes target (preamble ++ script) r.workspace) ∨
      (r.workspace = w ∧ (∃ why, writeScript w plan.output (preamble ++ script) = .error why) ∧
        ∃ shown, r.stdout = shown ++ script ++ "\n" ∧
          ('\x1b' ∉ preamble.toList → shown = preamble)))

/-- A script that cannot be written is printed behind its preamble. -/
theorem Compiles.stdout_plain {w : Workspace} {plan : BuildPlan} {preamble script : String}
    (h : Compiles w plan preamble script) :
    ∃ shown, Run.plainText (preamble ++ script ++ "\n") = shown ++ script ++ "\n" ∧
      ('\x1b' ∉ preamble.toList → shown = preamble) := by
  obtain ⟨⟨domains, hl, hc⟩, events, hp⟩ := h
  obtain ⟨-, -, v, -, -, -, hd⟩ := loadDomains_eq_ok_iff.mp hl
  have hreturn := not_mem_of_loadPreamble hp
  exact ⟨_, plainText_dumped hd hc hreturn, fun he => Run.plainText_of_not_mem he hreturn⟩

/-- **A build** changes nothing if it fails, and leaves all of its script if not. -/
theorem plain_build (w : Workspace) (plan : BuildPlan) :
    let r := (build w plan).plain
    (r.exitCode ≠ 0 → r.workspace = w) ∧ (r.exitCode = 0 → Leaves w plan r) ∧
      ∀ preamble script, Compiles w plan preamble script → r.exitCode ≠ 0 →
        ∃ target, IsTarget w plan.output target ∧ '\x00' ∈ target.toString.toList := by
  have hcases := build_cases w plan
  -- how the build came about plays no part from here on
  generalize build w plan = b at hcases
  intro r
  have hr : r = b.plain := rfl
  clear_value r
  subst hr
  rw [b.plain_exitCode, b.plain_workspace]
  obtain ⟨hno, hcode, hw⟩ | ⟨preamble, script, hc, hend⟩ := hcases
  · rw [hcode]
    exact ⟨fun _ => hw, nofun, fun preamble script hc => absurd ⟨preamble, script, hc⟩ hno⟩
  · obtain ⟨target, w', hwrite, hcode, hw⟩ | ⟨hwrite, hcode, hw⟩ | ⟨why, hwrite, -, hcode, hw, hout⟩ :=
      hend
    · rw [hcode]
      refine ⟨nofun, fun _ => ⟨preamble, script, hc, .inl ⟨target, ?_⟩⟩, fun _ _ _ h => (h rfl).elim⟩
      rw [b.plain_workspace, hw]
      exact isTarget_of_writeScript hwrite
    · rw [hcode]
      exact ⟨fun _ => hw, nofun, fun _ _ _ _ => isTarget_of_unnameable hwrite⟩
    · rw [hcode]
      refine ⟨nofun, fun _ => ⟨preamble, script, hc, .inr ⟨hw, ⟨why, hwrite⟩, ?_⟩⟩,
        fun _ _ _ h => (h rfl).elim⟩
      rw [b.plain_stdout, hout]
      exact hc.stdout_plain

/-- **A run leaves no part of a script**, whatever the files, the variables and the arguments are.  A
run that fails changes no file, and neither does one that does not build.  A build that does not fail
has compiled a script, and leaves all of it in the file to write or, where that is refused, in what is
printed.  A build that has compiled a script only fails if no file can have the name. -/
theorem run_leaves_no_part (arguments : List String) (env : Settings.Environment) (w : Workspace) :
    let r := run arguments env w
    (r.exitCode ≠ 0 → r.workspace = w) ∧
    ((∀ s plan, Settings.load env w = .ok s → Task.ofArguments s arguments ≠ .build plan) →
      r.workspace = w) ∧
    ∀ s plan, Settings.load env w = .ok s → Task.ofArguments s arguments = .build plan →
      (r.exitCode = 0 → Leaves w plan r) ∧
      ∀ preamble script, Compiles w plan preamble script → r.exitCode ≠ 0 →
        ∃ target, IsTarget w plan.output target ∧ '\x00' ∈ target.toString.toList := by
  intro r
  have hr : r = run arguments env w := rfl
  cases hs : Settings.load env w with
  | error crash =>
      unfold run at hr
      rw [hs] at hr
      exact ⟨fun _ => by rw [hr]; rfl, fun _ => by rw [hr]; rfl, fun _ _ h => by cases h⟩
  | ok s =>
      rw [run_eq_perform hs] at hr
      by_cases hb : ∃ plan, Task.ofArguments s arguments = .build plan
      · obtain ⟨plan, hb⟩ := hb
        rw [hb, perform, outcome] at hr
        obtain ⟨hfail, hleaves, hname⟩ := plain_build w plan
        rw [← hr] at hfail hleaves hname
        refine ⟨hfail, fun h => absurd hb (h s plan rfl), ?_⟩
        rintro _ plan' ⟨⟩ hb'
        cases hb.symm.trans hb'
        exact ⟨hleaves, hname⟩
      · have hw : r.workspace = w := by
          rw [hr]
          exact workspace_perform fun plan h => hb ⟨plan, h⟩
        refine ⟨fun _ => hw, fun _ => hw, ?_⟩
        rintro _ plan ⟨⟩ h
        exact absurd ⟨plan, h⟩ hb

/-- Into a directory, and without any file. -/
theorem run_leaves_no_part_directory :
    let w : Workspace := { entries := [(["c.json"], .file oneFolderFile), (["out"], .directory)] }
    let arguments := ["build", "--config", "/c.json", "--output", "/out"]
    let s : Settings := ⟨"sieve.config.json", "prefix.sieve", "filter.sieve", false⟩
    let plan : BuildPlan := ⟨"/c.json", "prefix.sieve", "/out", false⟩
    Settings.load [] w = .ok s ∧ Task.ofArguments s arguments = .build plan ∧
      (run arguments [] w).exitCode = 0 ∧ Leaves w plan (run arguments [] w) ∧
      (run arguments [] {}).exitCode ≠ 0 ∧ (run arguments [] {}).workspace = {} := by
  intro w arguments s plan
  have hs : Settings.load [] w = .ok s := rfl
  have ht : Task.ofArguments s arguments = .build plan := by decide +kernel
  have hl : loadDomains w "/c.json" = .ok [oneFolder] := loadDomains_oneFolder (by decide +kernel)
  have hp : loadPreamble w "prefix.sieve" = .ok ("", [.preambleMissing "prefix.sieve"]) := rfl
  obtain ⟨script, hc⟩ := exists_compile_oneFolder false
  obtain ⟨-, -, hbuild⟩ := run_leaves_no_part arguments [] w
  obtain ⟨hleaves, hname⟩ := hbuild s plan hs ht
  have hcode : (run arguments [] w).exitCode = 0 := by
    by_contra hcode
    obtain ⟨target, htarget, hnull⟩ := hname "" script ⟨⟨_, hl, hc⟩, _, hp⟩ hcode
    have hdirectory : w.find (.ofString "/out") = .ok .directory := rfl
    obtain ⟨-, rfl⟩ | ⟨hno, -⟩ := htarget
    · revert hnull
      decide +kernel
    · exact hno hdirectory
  have hmissing : (run arguments [] {}).exitCode ≠ 0 := by decide +kernel
  exact ⟨hs, ht, hcode, hleaves hcode, hmissing, (run_leaves_no_part arguments [] {}).1 hmissing⟩

end Program

end FolderSieve
