import FolderSieve.Config.Domain
import FolderSieve.Proofs.Config.Reading
import FolderSieve.Proofs.Json.Distinct

/-!
# Configuration — what is decoded

What holds of a configuration once it is decoded, whatever the value it is decoded from.

* `Node.of_decode`: what holds of every decoded tree, if it holds of filters and passes from the
  members of an object to a folder map.
* `Node.distinctLabels_of_decode`: a tree decoded from a value with distinct keys has no label name
  twice.
* `Node.soundNames_of_decode`: a decoded tree has no control character in a name.
* `Node.soundTexts_of_decode`: it has none in a localpart, a label name or a keyword either.
* `Domain.decode_eq_ok`, `Domain.decodeAll_eq_ok`: a decoded domain keeps its name, and neither that
  nor its tree has a control character in a name; the domains of a configuration keep their order.
-/

namespace FolderSieve

namespace Config

namespace Node

/-- No filter of the tree has a label name twice. -/
inductive DistinctLabels : Node → Prop
  | simple (localparts : OneOrMany) : DistinctLabels (.simple localparts)
  | full (localparts : OneOrMany) {labels : Option Labels} (written : Option Override)
      (h : ∀ ls, labels = some ls → (ls.map (·.1)).Nodup) :
      DistinctLabels (.full localparts labels written)
  | folders {children : List (String × Node)} (h : ∀ c ∈ children, c.2.DistinctLabels) :
      DistinctLabels (.folders children)

/-- No folder map of the tree has a control character in a name. -/
inductive SoundNames : Node → Prop
  | simple (localparts : OneOrMany) : SoundNames (.simple localparts)
  | full (localparts : OneOrMany) (labels : Option Labels) (written : Option Override) :
      SoundNames (.full localparts labels written)
  | folders {children : List (String × Node)} (hn : ∀ c ∈ children, Text.hasControl c.1 = false)
      (h : ∀ c ∈ children, c.2.SoundNames) : SoundNames (.folders children)

/-- No filter of the tree has a control character in a localpart, a label name or a keyword. -/
inductive SoundTexts : Node → Prop
  | simple {localparts : OneOrMany} (h : localparts.Printable) : SoundTexts (.simple localparts)
  | full {localparts : OneOrMany} {labels : Option Labels} (written : Option Override)
      (h : localparts.Printable) (hl : PrintableLabels labels) :
      SoundTexts (.full localparts labels written)
  | folders {children : List (String × Node)} (h : ∀ c ∈ children, c.2.SoundTexts) :
      SoundTexts (.folders children)

/-- Labels have the names that are written. -/
theorem map_fst_of_readLabels {ms : Json.Members} {labels : Labels}
    (h : readLabels ms = .ok labels) : labels.map (·.1) = ms.map (·.1) := by
  obtain ⟨rfl, -⟩ := readLabels_eq_ok_iff.mp h
  rw [labelMembers, List.map_map]
  rfl

theorem printableLabels_of_readLabels? {v : Option Json.Value} {labels : Option Labels}
    (h : readLabels? v = .ok labels) : PrintableLabels labels := by
  rintro ls rfl
  unfold readLabels? at h
  split at h
  · cases h
  · cases h
  · obtain ⟨ls', hl, ⟨⟩⟩ := map_eq_ok_iff.mp h
    exact (readLabels_eq_ok_iff.mp hl).2
  · cases h

theorem readFull_eq_ok {ms : Json.Members} {node : Node} (h : readFull ms = .ok node) :
    ∃ localparts labels written, node = .full localparts labels written ∧
      localparts.Printable ∧ readLabels? (ms.get? "labels") = .ok labels := by
  obtain ⟨_, -, hn, -, rfl⟩ := Checked.both_eq_ok_iff.mp h
  obtain ⟨localparts, ⟨labels, written⟩, hp, hb, rfl⟩ := Checked.both_eq_ok_iff.mp hn
  obtain ⟨labels, written, hl, -, ⟨⟩⟩ := Checked.both_eq_ok_iff.mp hb
  exact ⟨localparts, labels, written, rfl,
    (OneOrMany.read_eq_ok_iff.mp (Checked.under_eq_ok_iff.mp hp)).1, Checked.under_eq_ok_iff.mp hl⟩

theorem readSimple_eq_ok {v : Json.Value} {node : Node} (h : readSimple v = .ok node) :
    ∃ localparts, node = .simple localparts ∧ localparts.Printable := by
  obtain ⟨localparts, hp, rfl⟩ := map_eq_ok_iff.mp h
  exact ⟨localparts, rfl, (OneOrMany.read_eq_ok_iff.mp (Checked.under_eq_ok_iff.mp hp)).1⟩

/-- The members of a map of folders, once their names have been checked. -/
theorem decode_object_eq_ok {path : String} {ms : Json.Members} {node : Node}
    (hl : ¬Json.Members.has ms "localparts") (h : decode path (.object ms) = .ok node) :
    (∀ m ∈ ms, Text.hasControl m.1 = false) ∧
      ∃ children, decodeChildren path ms = .ok children ∧ node = .folders children := by
  rw [decode, if_neg hl] at h
  obtain ⟨_, hn, hm⟩ := bind_eq_ok_iff.mp h
  obtain ⟨children, hc, rfl⟩ := map_eq_ok_iff.mp hm
  exact ⟨checkNames_eq_ok_iff.mp hn, children, hc, rfl⟩

/-- A property of decoded trees that holds of filters as they are read, and of a folder map if it
holds of what each member of the object stands for. -/
structure FollowsDecoding (P : Json.Value → Node → Prop) : Prop where
  simple : ∀ v localparts, localparts.Printable → P v (.simple localparts)
  full : ∀ (ms : Json.Members) localparts labels written, localparts.Printable →
    readLabels? (ms.get? "labels") = .ok labels → P (.object ms) (.full localparts labels written)
  folders : ∀ (ms : Json.Members) children,
    (∀ c ∈ children, Text.hasControl c.1 = false ∧ ∃ v, (c.1, v) ∈ ms ∧ P v c.2) →
    P (.object ms) (.folders children)

mutual

/-- **What follows decoding** is true of every decoded tree. -/
theorem of_decode {P : Json.Value → Node → Prop} (hP : FollowsDecoding P) :
    ∀ (v : Json.Value) (path : String) {node : Node}, decode path v = .ok node → P v node
  | .bool true, path, node, h => by
      cases h
      exact hP.simple _ _ (by simp [OneOrMany.Printable, OneOrMany.toList, Text.hasControl])
  | .string s, path, node, h => by
      obtain ⟨localparts, rfl, hp⟩ := readSimple_eq_ok (mapError_eq_ok_iff.mp h)
      exact hP.simple _ localparts hp
  | .array items, path, node, h => by
      obtain ⟨localparts, rfl, hp⟩ := readSimple_eq_ok (mapError_eq_ok_iff.mp h)
      exact hP.simple _ localparts hp
  | .object ms, path, node, h => by
      by_cases hl : Json.Members.has ms "localparts" = true
      · rw [decode, if_pos hl] at h
        obtain ⟨localparts, labels, written, rfl, hp, hb⟩ := readFull_eq_ok (mapError_eq_ok_iff.mp h)
        exact hP.full ms localparts labels written hp hb
      · obtain ⟨hn, children, hc, rfl⟩ := decode_object_eq_ok hl h
        refine hP.folders ms children fun c hm => ?_
        obtain ⟨v, hv, hPc⟩ := of_decodeChildren hP ms path hc c hm
        exact ⟨hn _ hv, v, hv, hPc⟩

theorem of_decodeChildren {P : Json.Value → Node → Prop} (hP : FollowsDecoding P) :
    ∀ (ms : List (String × Json.Value)) (path : String) {children : List (String × Node)},
    decodeChildren path ms = .ok children → ∀ c ∈ children, ∃ v, (c.1, v) ∈ ms ∧ P v c.2
  | [], path, children, h => by
      cases h
      simp
  | (name, v) :: ms, path, children, h => by
      rw [decodeChildren] at h
      split at h
      · cases h
      · rename_i node hn
        obtain ⟨rest, hr, rfl⟩ := map_eq_ok_iff.mp h
        refine List.forall_mem_cons.mpr
          ⟨⟨v, List.mem_cons_self, of_decode hP v _ hn⟩, fun c hc => ?_⟩
        obtain ⟨w, hw, hPc⟩ := of_decodeChildren hP ms path hr c hc
        exact ⟨w, List.mem_cons_of_mem _ hw, hPc⟩

end

/-- A tree decoded from a value without a key twice has no label name twice. -/
theorem distinctLabels_of_decode (v : Json.Value) (path : String) {node : Node}
    (hv : v.DistinctKeys) (h : decode path v = .ok node) : node.DistinctLabels := by
  refine of_decode (P := fun v node => v.DistinctKeys → node.DistinctLabels) ⟨?_, ?_, ?_⟩ v path h hv
  · exact fun _ localparts _ _ => .simple localparts
  · intro ms localparts labels written _ hl hv
    refine .full localparts written ?_
    rintro ls rfl
    cases hg : ms.get? "labels" with
    | none =>
        rw [hg] at hl
        cases hl
    | some w =>
        rw [hg] at hl
        cases hv with
        | object _ hd =>
            cases hd _ (Json.Members.mem_of_get? hg) with
            | object hk _ =>
                obtain ⟨ls', hl, ⟨⟩⟩ := map_eq_ok_iff.mp hl
                rwa [map_fst_of_readLabels hl]
            | _ => cases hl
  · intro ms children hc hv
    refine .folders fun c hm => ?_
    obtain ⟨-, w, hw, hcw⟩ := hc c hm
    cases hv with
    | object _ hd => exact hcw (hd _ hw)

/-- A decoded tree has no control character in a name. -/
theorem soundNames_of_decode (v : Json.Value) (path : String) {node : Node}
    (h : decode path v = .ok node) : node.SoundNames := by
  refine of_decode (P := fun _ node => node.SoundNames) ⟨?_, ?_, ?_⟩ v path h
  · exact fun _ localparts _ => .simple localparts
  · exact fun _ localparts labels written _ _ => .full localparts labels written
  · exact fun _ _ hc => .folders (fun c hm => (hc c hm).1) fun c hm =>
      let ⟨_, _, _, hn⟩ := hc c hm
      hn

/-- A decoded tree has no control character in a localpart, a label name or a keyword. -/
theorem soundTexts_of_decode (v : Json.Value) (path : String) {node : Node}
    (h : decode path v = .ok node) : node.SoundTexts := by
  refine of_decode (P := fun _ node => node.SoundTexts) ⟨?_, ?_, ?_⟩ v path h
  · exact fun _ _ hp => .simple hp
  · exact fun _ _ _ written hp hl => .full written hp (printableLabels_of_readLabels? hl)
  · exact fun _ _ hc => .folders fun c hm =>
      let ⟨_, _, _, ht⟩ := hc c hm
      ht

end Node

namespace Domain

/-- The names in a domain, its own and those in its tree, have no control character. -/
structure SoundNames (d : Domain) : Prop where
  name : Text.hasControl d.name = false
  tree : d.tree.SoundNames

/-- A decoded domain keeps its name. -/
theorem decode_eq_ok {name : String} {v : Json.Value} {d : Domain} (h : decode name v = .ok d) :
    d.name = name ∧ d.SoundNames := by
  unfold decode at h
  split at h
  · cases h
  split at h
  · cases h
  rename_i hc
  split at h
  · obtain ⟨options, -, h⟩ := bind_eq_ok_iff.mp (mapError_eq_ok_iff.mp h)
    obtain ⟨-, -, h⟩ := bind_eq_ok_iff.mp h
    obtain ⟨tree, ht, rfl⟩ := map_eq_ok_iff.mp h
    exact ⟨rfl, by simpa using hc, Node.soundNames_of_decode _ _ ht⟩
  · cases h

/-- A configuration is an object, and its domains have the names of its members, in order. -/
theorem decodeAll_eq_ok {v : Json.Value} {domains : List Domain} (h : decodeAll v = .ok domains) :
    ∃ ms, v = .object ms ∧ domains.map (·.name) = ms.map (·.1) ∧
      ∀ d ∈ domains, d.SoundNames := by
  cases v with
  | object ms =>
      refine ⟨ms, rfl, ?_⟩
      have hall : List.Forall₂ (fun m d => decode m.1 m.2 = .ok d) ms domains :=
        mapM_eq_ok_iff.mp h
      clear h
      induction hall with
      | nil => simp
      | cons hd _ ih =>
          obtain ⟨hn, hc⟩ := decode_eq_ok hd
          simpa [hn, hc] using ih
  | _ => cases h

end Domain

end Config

end FolderSieve
