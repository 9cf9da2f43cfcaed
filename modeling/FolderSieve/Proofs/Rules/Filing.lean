import FolderSieve.Proofs.Rules.Reached
import FolderSieve.Proofs.Rules.Soundness
import FolderSieve.Proofs.Rules.Verbatim

/-!
# Rules — the folders that a rule files into

A message is filed into every folder from the top one down to that of its rule, so that it lies in
one that is still there if a folder is removed.  This is so exactly if the path of the rule does not
begin with a slash.  A slash in front stands for an empty name; the path is put together from its
names, and an empty one adds no slash as long as nothing stands before it.

* `Folder.LeadTo`: what the folders should be.
* `Config.Node.exists_top_of_mem_located`: where the first name along a path comes from.
* `Config.Domain.filing_leads_iff`: the folders of each rule of a domain that is compiled.
-/

namespace FolderSieve

open Sieve (Statement)

namespace Folder

/-- Folders below `home` that lead to the one at `path`: the path cut before one of its slashes, or
the path itself, from the top folder down; none of these is empty, and the folder at `path` is the
last. -/
structure LeadTo (home path : String) (folders : List String) : Prop where
  mem_iff (folder : String) :
    folder ∈ folders ↔ ∃ q, (q = path ∨ ∃ rest, path = q ++ "/" ++ rest) ∧ folder = home ++ q
  descending : folders.Pairwise fun p q => p.length < q.length
  named (q rest : String) : path = q ++ "/" ++ rest → q ≠ ""
  last : folders.getLast? = some (home ++ path)

/-- **The folders on the way** lead to a path exactly if it does not begin with a slash. -/
theorem leadTo_chain_iff {home path : String} (hp : path ≠ "") :
    LeadTo home path ((chain path).map (home ++ ·)) ↔ path.toList.head? ≠ some '/' := by
  constructor
  · intro h
    have hlast := h.last
    rw [List.getLast?_map, getLast?_chain] at hlast
    exact unslashed_eq_self_iff.mp (by simpa using hlast)
  · intro h
    rw [chain_eq_prefixes h]
    constructor
    case mem_iff =>
      intro folder
      simp only [List.mem_map, mem_prefixes_iff, eq_comm (a := folder)]
    case descending =>
      rw [List.pairwise_map]
      exact (pairwise_prefixes path).imp fun hlt => by simpa using hlt
    case named =>
      rintro q rest hq rfl
      exact h ((empty_mem_prefixes_iff hp).mp (mem_prefixes_iff.mpr (.inr ⟨rest, hq⟩)))
    case last => rw [List.getLast?_map, getLast?_prefixes, Option.map_some]

end Folder

namespace Config.Node

/-- What lies below the root lies in one of its folders, or is one. -/
theorem exists_top_of_mem_located {children : List (String × Node)} {l : String × Node}
    (hc : ∀ c ∈ children, c.1 ≠ "" ∧ c.1 ≠ Folder.selfName)
    (hl : l ∈ (Node.folders children).located "") (hp : l.1 ≠ "") :
    ∃ c ∈ children, c.1 ∈ Folder.prefixes l.1 := by
  have hall : ∀ l ∈ locatedChildren "" children, ∃ c ∈ children, c.1 ∈ Folder.prefixes l.1 := by
    have hP : HandedOn fun path _ => ∃ c ∈ children, c.1 ∈ Folder.prefixes path :=
      fun path _ ⟨c, hm, hq⟩ c' _ => ⟨c, hm, Folder.mem_prefixes_child (hc c hm).1 hq⟩
    refine forall_mem_locatedChildren hP children fun c hm => ⟨c, hm, ?_⟩
    have hchild : Folder.child "" c.1 = c.1 := by simp [Folder.child, Folder.join, (hc c hm).2]
    rw [hchild]
    exact Folder.self_mem_prefixes c.1
  rw [located] at hl
  rcases List.mem_append.mp hl with hl | hl
  · exact hall l hl
  · exact absurd (by rw [List.mem_singleton.mp hl]) hp

end Config.Node

/-- **The folders that a rule files into**, for each rule of a domain that is compiled.  What is
written for them is read as filing into the folders on the way to the path of the rule.  They lead
to the path exactly if it does not begin with a slash, which it does only if a top folder's name
does.  Each slash in front gives the folder that all others lie below, and the slashes are missing
from those that follow. -/
theorem Config.Domain.filing_leads_iff {d : Config.Domain} {force : Bool} {r : DomainRules}
    (h : (d.rules force).result = .ok r) {o : Origin} {e : String × Rule}
    (he : e ∈ (r.set o).entries) :
    let home := if d.options.firstFolder || force then "@" ++ d.name ++ "/" else ""
    let path := e.1
    let targets := (Folder.chain path).map (home ++ ·)
    Sieve.readScript (Sieve.script (Rule.filing (r.set o).home path)) =
        some (targets.map fun target => .action (Sieve.fileInto target)) ∧
      (Folder.LeadTo home path targets ↔ path.toList.head? ≠ some '/') ∧
      targets = List.replicate (Folder.leadingSlashes path) home ++
        (Folder.prefixes (Folder.unslashed path)).map (home ++ ·) ∧
      (path.toList.head? = some '/' → ∃ children, d.tree = .folders children ∧
        ∃ c ∈ children, c.1 ∈ Folder.prefixes path ∧ c.1.toList.head? = some '/') := by
  intro home path targets
  obtain ⟨secrets, hf, rfl⟩ := rules_eq_ok h
  have hhome : (((DomainRules.empty d.name (d.options.firstFolder || force) secrets).walk
      d.tree).rules.set o).home = home :=
    DomainRules.home_walkAll d.name _ secrets [d.tree] o
  have hpath : path ≠ "" := (DomainRules.sound_of_mem_walkAll d.name _ secrets [d.tree] he).1
  refine ⟨?_, Folder.leadTo_chain_iff hpath, ?_, fun hslash => ?_⟩
  · have hread : Sieve.Reads (Rule.filing home path)
        (Rule.filingStatements home (Folder.chain path)) :=
      .map fun folder _ => .fileInto (home ++ folder)
    rw [hhome, hread.readScript, Rule.rowMovedIn_filingStatements]
    simp [targets]
  · simp [targets, Folder.chain_eq_replicate_append]
  · obtain ⟨⟨children, htree⟩, hsound, -⟩ := DomainRules.walk_empty_failure_eq_none_iff.mp hf
    have hnames : ∀ c ∈ children, c.1 ≠ "" ∧ c.1 ≠ Folder.selfName := by
      intro c hc
      have hroot := hsound _ (Config.Node.self_mem_located "" d.tree)
      obtain ⟨hn, hs⟩ := nameMistake?_eq_none_iff.mp ((hroot.folders children htree).2 c hc)
      exact ⟨hn, fun hself => (hs hself).1 rfl⟩
    obtain ⟨tree, ht, l, hl, hr⟩ :=
      DomainRules.exists_located_of_mem_walkAll d.name _ secrets [d.tree] he
    obtain rfl := List.mem_singleton.mp ht
    have hpl : path = l.1 := Config.Node.fst_of_mem_rulesIn hr
    obtain ⟨c, hc, hq⟩ := Config.Node.exists_top_of_mem_located hnames (htree ▸ hl) (hpl ▸ hpath)
    rw [← hpl] at hq
    exact ⟨children, htree, c, hc, hq,
      (Folder.head?_of_mem_prefixes (hnames c hc).1 hq).trans hslash⟩

/-- A top folder whose name begins with a slash, and a folder further down whose name has one. -/
theorem Config.Domain.filing_leads_iff_slash :
    let tree : Config.Node := .folders
      [("/A", .simple (.one "x")), ("B", .folders [("/C", .simple (.one "y"))])]
    let d := Config.Domain.mk "a.org" {} tree
    let r := ((DomainRules.empty "a.org" true [""]).walk tree).rules
    let filing path := Sieve.readScript (Sieve.script (Rule.filing r.custom.home path))
    let into folder := Statement.action (Sieve.fileInto folder)
    (d.rules true).result = .ok r ∧
      filing "/A" = some [into "@a.org/", into "@a.org/A"] ∧
      ¬Folder.LeadTo "@a.org/" "/A" ["@a.org/", "@a.org/A"] ∧
      filing "B//C" = some [into "@a.org/B", into "@a.org/B/", into "@a.org/B//C"] ∧
      Folder.LeadTo "@a.org/" "B//C" ["@a.org/B", "@a.org/B/", "@a.org/B//C"] := by
  intro tree d r filing into
  have hr : (d.rules true).result = .ok r := by
    have hf : ((DomainRules.empty "a.org" true [""]).walk tree).failure = none := by decide +kernel
    simp [rules, d, DomainOptions.suffixes, hf, r]
  have ha : ("/A", Rule.mk ["x"] none .root) ∈ (r.set .custom).entries := by decide +kernel
  have hc : ("B//C", Rule.mk ["y"] none .root) ∈ (r.set .custom).entries := by decide +kernel
  have hhome : (if d.options.firstFolder || true then "@" ++ d.name ++ "/" else "") = "@a.org/" := by
    decide
  have hchain : (Folder.chain "/A").map ("@a.org/" ++ ·) = ["@a.org/", "@a.org/A"] ∧
      (Folder.chain "B//C").map ("@a.org/" ++ ·) = ["@a.org/B", "@a.org/B/", "@a.org/B//C"] := by
    decide +kernel
  obtain ⟨hread, hlead, -⟩ := filing_leads_iff hr ha
  obtain ⟨hread', hlead', -⟩ := filing_leads_iff hr hc
  simp only [hhome, hchain] at hread hlead hread' hlead'
  exact ⟨hr, hread, fun h => hlead.mp h (by decide), hread', hlead'.mpr (by decide)⟩

end FolderSieve
