import FolderSieve.Proofs.Config.Decoding

/-!
# Configuration — positions in document order

A value that is decoded as a folder tree has positions: the value itself, and below a folder map what
its names lead to.  Each has a path.  A position by itself is its value, but for a folder map, of
which only the names count (`Node.alone`).

* `Node.decode_eq_error_iff`: a value is refused for its first position, in document order, that is
  refused by itself.
* `Node.decode_alone_eq_error_iff`, `Node.folder_of_decode_error`: the path that is told of a position.
* `Node.forall₂_topDown`: the nodes of a tree that is decoded, with their paths, are what is decoded
  from the positions, one by one.
-/

namespace FolderSieve.Config

open Json (Members Value)

/-! ### The first error of a row -/

theorem mapM_singleton_eq_error_iff {ε α β : Type} {f : α → Except ε β} {a : α} {e : ε} :
    [a].mapM f = .error e ↔ f a = .error e := by
  rw [List.mapM_cons]
  cases f a <;> simp [bind, Except.bind, pure, Except.pure]

theorem mapM_append_eq_error_iff {ε α β : Type} {f : α → Except ε β} {l l' : List α} {e : ε} :
    (l ++ l').mapM f = .error e ↔
      l.mapM f = .error e ∨ (∃ bs, l.mapM f = .ok bs) ∧ l'.mapM f = .error e := by
  rw [List.mapM_append]
  cases l.mapM f <;> cases l'.mapM f <;> simp [bind, Except.bind, pure, Except.pure]

/-- What fails alike succeeds alike. -/
theorem exists_eq_ok_iff {ε α β : Type} {x : Except ε α} {y : Except ε β}
    (h : ∀ e, x = .error e ↔ y = .error e) : (∃ a, x = .ok a) ↔ ∃ b, y = .ok b := by
  cases x with
  | error e => simp [(h e).mp rfl]
  | ok a =>
      cases y with
      | error e => cases (h e).mpr rfl
      | ok b => simp

namespace Node

/-! ### Positions -/

/-- The value is a folder map. -/
def IsFolders (v : Value) : Prop :=
  ∃ ms, v = .object ms ∧ Members.has ms "localparts" = false

theorem isFolders_object_iff {ms : Members} :
    IsFolders (.object ms) ↔ Members.has ms "localparts" = false := by
  constructor
  · rintro ⟨_, ⟨⟩, hl⟩
    exact hl
  · exact fun hl => ⟨ms, rfl, hl⟩

theorem has_of_not_isFolders {ms : Members} (h : ¬IsFolders (.object ms)) :
    Members.has ms "localparts" = true := by
  simpa [isFolders_object_iff] using h

mutual

/-- The positions of a value at `path`, in document order: the value, and in a folder map then those
of what its names lead to. -/
def positions (path : String) : Value → List (String × Value)
  | .object ms =>
      (path, .object ms) ::
        if Json.Members.has ms "localparts" then [] else memberPositions path ms
  | v => [(path, v)]

/-- The positions of the members of a folder map at `path`. -/
def memberPositions (path : String) : List (String × Value) → List (String × Value)
  | [] => []
  | (name, v) :: ms => positions (Folder.child path name) v ++ memberPositions path ms

end

/-- A position by itself: of a folder map the names alone, each of which asks for nothing. -/
def alone : Value → Value
  | .object ms =>
      if Json.Members.has ms "localparts" then .object ms
      else .object (ms.map fun m => (m.1, .bool true))
  | v => v

theorem alone_of_not_isFolders {v : Value} (h : ¬IsFolders v) : alone v = v := by
  cases v with
  | object ms => exact if_pos (has_of_not_isFolders h)
  | _ => rfl

theorem positions_of_not_isFolders (path : String) {v : Value} (h : ¬IsFolders v) :
    positions path v = [(path, v)] := by
  cases v with
  | object ms => rw [positions, if_pos (has_of_not_isFolders h)]
  | _ => rfl

theorem positions_folders (path : String) {ms : Members}
    (hl : Members.has ms "localparts" = false) :
    positions path (.object ms) = (path, .object ms) :: memberPositions path ms := by
  rw [positions, if_neg (by simp [hl])]

/-! ### One position by itself -/

theorem checkNames_eq_error_iff {path : String} {ms : Members} {e : Error} :
    checkNames path ms = .error e ↔ ∃ before m after, ms = before ++ m :: after ∧
      (∀ b ∈ before, Text.hasControl b.1 = false) ∧ Text.hasControl m.1 = true ∧
        e = ⟨.folderControl, { folder := Folder.child path m.1 }⟩ := by
  unfold checkNames
  cases h : ms.find? fun m => Text.hasControl m.1 with
  | none =>
      refine ⟨fun h => (by cases h), ?_⟩
      rintro ⟨before, m, after, rfl, -, hm, -⟩
      exact absurd hm (List.find?_eq_none.mp h m (by simp))
  | some m =>
      obtain ⟨hm, before, after, rfl, hb⟩ := List.find?_eq_some_iff_append.mp h
      constructor
      · intro he
        cases he
        exact ⟨before, m, after, rfl, fun b hm => by simpa using hb b hm, hm, rfl⟩
      · rintro ⟨before', m', after', hs, hb', hm', rfl⟩
        have h' : (before' ++ m' :: after').find? (fun m => Text.hasControl m.1) = some m' :=
          List.find?_eq_some_iff_append.mpr ⟨hm', before', after', rfl, by simpa using hb'⟩
        rw [← hs, h] at h'
        rw [Option.some.inj h']

theorem checkNames_map (path : String) (ms : Members) (f : String × Value → Value) :
    checkNames path (ms.map fun m => (m.1, f m)) = checkNames path ms := by
  have hcomp : (fun m => Text.hasControl m.1) ∘ (fun m => (m.1, f m)) =
      fun m : String × Value => Text.hasControl m.1 := rfl
  unfold checkNames
  rw [List.find?_map, hcomp]
  cases ms.find? fun m => Text.hasControl m.1 <;> rfl

theorem decodeChildren_true (path : String) (ms : Members) :
    decodeChildren path (ms.map fun m => (m.1, .bool true)) =
      .ok (ms.map fun m => (m.1, .simple (.one ""))) := by
  induction ms with
  | nil => rfl
  | cons m ms ih =>
      rw [List.map_cons, decodeChildren, ih]
      rfl

/-- **A folder map by itself** is refused for its first name with a control character. -/
theorem decode_alone_eq_error_iff {path : String} {ms : Members}
    (hl : Members.has ms "localparts" = false) {e : Error} :
    decode path (alone (.object ms)) = .error e ↔ checkNames path ms = .error e := by
  have hmap : Members.has (ms.map fun m => (m.1, .bool true)) "localparts" = false := by
    simpa [Members.has] using hl
  rw [alone, if_neg (by simp [hl]), decode, if_neg (by simp [hmap]), checkNames_map,
    decodeChildren_true]
  cases checkNames path ms <;> simp [Except.bind, Except.map]

/-- **Any other position** is refused with its path. -/
theorem folder_of_decode_error {path : String} {v : Value} (hv : ¬IsFolders v) {e : Error}
    (h : decode path v = .error e) : e.place = { folder := path, field := e.place.field } := by
  have hfilter {r : Checked Node} : atFolder path r = .error e →
      e.place = { folder := path, field := e.place.field } := by
    intro h
    cases r <;> cases h
    rfl
  cases v with
  | object ms =>
      rw [decode, if_pos (has_of_not_isFolders hv)] at h
      exact hfilter h
  | string s => exact hfilter h
  | array items => exact hfilter h
  | bool b => cases b <;> cases h; rfl
  | null => cases h; rfl
  | int n => cases h; rfl
  | real x => cases h; rfl

/-! ### The first position that is refused -/

/-- Decodes a position by itself. -/
def decodeAlone (p : String × Value) : Except Error Node :=
  decode p.1 (alone p.2)

mutual

/-- A value fails as its positions do, one after the other. -/
theorem decode_eq_error_iff_mapM : ∀ (v : Value) (path : String) {e : Error},
    decode path v = .error e ↔ (positions path v).mapM decodeAlone = .error e
  | .object ms, path, e => by
      by_cases hv : IsFolders (.object ms)
      case neg =>
        rw [positions_of_not_isFolders path hv, mapM_singleton_eq_error_iff, decodeAlone,
          alone_of_not_isFolders hv]
      case pos =>
        -- all names are checked before anything is decoded: the folder map by itself comes first
        have hl := isFolders_object_iff.mp hv
        have herror {e : Error} := @decode_alone_eq_error_iff path ms hl e
        rw [positions_folders path hl, ← List.singleton_append, mapM_append_eq_error_iff,
          mapM_singleton_eq_error_iff, ← decodeChildren_eq_error_iff_mapM ms path, decodeAlone,
          herror, decode, if_neg (by simp [hl]), bind_eq_error_iff]
        have hok : (∃ bs, [(path, .object ms)].mapM decodeAlone = .ok bs) ↔
            ∃ u, checkNames path ms = .ok u :=
          exists_eq_ok_iff fun e => by rw [mapM_singleton_eq_error_iff, decodeAlone, herror]
        simp only [hok, map_eq_error_iff, exists_and_right]
  | .null, path, e | .bool _, path, e | .int _, path, e | .real _, path, e | .string _, path, e
  | .array _, path, e => by
      rw [positions, mapM_singleton_eq_error_iff, decodeAlone, alone]
      all_goals simp

theorem decodeChildren_eq_error_iff_mapM : ∀ (ms : List (String × Value)) (path : String)
    {e : Error}, decodeChildren path ms = .error e ↔
      (memberPositions path ms).mapM decodeAlone = .error e
  | [], path, e => by simp [decodeChildren, memberPositions, pure, Except.pure]
  | (name, v) :: ms, path, e => by
      -- the rest counts if the first member is decoded, that is, if none of its positions fails
      have hv {e : Error} := @decode_eq_error_iff_mapM v (Folder.child path name) e
      rw [memberPositions, mapM_append_eq_error_iff, ← hv,
        ← decodeChildren_eq_error_iff_mapM ms path, ← exists_eq_ok_iff fun _ => hv,
        decodeChildren]
      cases decode (Folder.child path name) v <;> simp [map_eq_error_iff]

end

/-- **A value is refused** for the first of its positions that is refused by itself. -/
theorem decode_eq_error_iff {v : Value} {path : String} {e : Error} :
    decode path v = .error e ↔ ∃ before p after, positions path v = before ++ p :: after ∧
      (∀ q ∈ before, ∃ node, decode q.1 (alone q.2) = .ok node) ∧
        decode p.1 (alone p.2) = .error e := by
  rw [decode_eq_error_iff_mapM, mapM_eq_error_iff]
  rfl

/-! ### Nodes in document order -/

mutual

/-- The nodes of a tree at `path` with their paths, a folder map before what it holds. -/
def topDown (path : String) : Node → List (String × Node)
  | .simple localparts => [(path, .simple localparts)]
  | .full localparts labels written => [(path, .full localparts labels written)]
  | .folders children => (path, .folders children) :: topDownChildren path children

/-- The nodes of what a folder map at `path` holds. -/
def topDownChildren (path : String) : List (String × Node) → List (String × Node)
  | [] => []
  | (name, node) :: rest => topDown (Folder.child path name) node ++ topDownChildren path rest

end

/-- A node with its path is what is decoded from a position. -/
def DecodedFrom (q : String × Node) (p : String × Value) : Prop :=
  q.1 = p.1 ∧ decode p.1 p.2 = .ok q.2

mutual

/-- **The nodes of a decoded tree** are decoded from the positions of its value, one by one. -/
theorem forall₂_topDown : ∀ (v : Value) (path : String) {node : Node}, decode path v = .ok node →
    List.Forall₂ DecodedFrom (node.topDown path) (positions path v)
  | .bool true, path, node, h => by
      cases h
      exact .cons ⟨rfl, rfl⟩ .nil
  | .string s, path, node, h => by
      obtain ⟨localparts, rfl, -⟩ := readSimple_eq_ok (mapError_eq_ok_iff.mp h)
      exact .cons ⟨rfl, h⟩ .nil
  | .array items, path, node, h => by
      obtain ⟨localparts, rfl, -⟩ := readSimple_eq_ok (mapError_eq_ok_iff.mp h)
      exact .cons ⟨rfl, h⟩ .nil
  | .object ms, path, node, h => by
      have hd := h
      by_cases hl : Members.has ms "localparts" = true
      · rw [decode, if_pos hl] at hd
        obtain ⟨localparts, labels, written, rfl, -⟩ := readFull_eq_ok (mapError_eq_ok_iff.mp hd)
        rw [positions, if_pos hl]
        exact .cons ⟨rfl, h⟩ .nil
      · obtain ⟨-, children, hc, rfl⟩ := decode_object_eq_ok hl hd
        rw [positions, if_neg hl]
        exact .cons ⟨rfl, h⟩ (forall₂_topDownChildren ms path hc)

theorem forall₂_topDownChildren : ∀ (ms : List (String × Value)) (path : String)
    {children : List (String × Node)}, decodeChildren path ms = .ok children →
    List.Forall₂ DecodedFrom (topDownChildren path children) (memberPositions path ms)
  | [], path, children, h => by
      cases h
      exact .nil
  | (name, v) :: ms, path, children, h => by
      rw [decodeChildren] at h
      split at h
      · cases h
      · rename_i node hn
        obtain ⟨rest, hr, rfl⟩ := map_eq_ok_iff.mp h
        exact List.rel_append (forall₂_topDown v _ hn) (forall₂_topDownChildren ms path hr)

end

end Node

end FolderSieve.Config
