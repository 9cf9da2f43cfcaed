import FolderSieve.Folder

/-!
# Folders — the folders on the way to a path

The folders a message is filed into come from the names along a path, put together again one by one
(`Folder.chain`).  What they should be is the path cut before one of its slashes, and the path as a
whole (`Folder.prefixes`).

* `mem_prefixes_iff`, `pairwise_prefixes`, `getLast?_prefixes`: what these are, in their order.
* `chain_eq_prefixes`: they are the folders on the way, unless the path begins with a slash.
* `chain_eq_replicate_append`: if it does then each slash in front gives a folder without a name, and
  the rest are those of the path behind these slashes.
-/

namespace FolderSieve

namespace Text

/-- The pieces of a text that end before a separator or with the text, the shortest first. -/
def cuts (sep : Char) : List Char → List (List Char)
  | [] => [[]]
  | c :: s => if c = sep then [] :: (cuts sep s).map (c :: ·) else (cuts sep s).map (c :: ·)

/-- The pieces end before a separator, but for the last, which is the text. -/
theorem mem_cuts_iff {sep : Char} {s q : List Char} :
    q ∈ cuts sep s ↔ q = s ∨ ∃ rest, s = q ++ sep :: rest := by
  induction s generalizing q with
  | nil => simp [cuts]
  | cons c s ih =>
      have hcuts : q ∈ cuts sep (c :: s) ↔ (c = sep ∧ q = []) ∨ ∃ r ∈ cuts sep s, c :: r = q := by
        rw [cuts]
        split
        · simp [*]
        · simp [*]
      rw [hcuts]
      cases q with
      | nil => simp [eq_comm]
      | cons d q =>
          have htail : (∃ r ∈ cuts sep s, c :: r = d :: q) ↔ d = c ∧ q ∈ cuts sep s := by
            constructor
            · rintro ⟨r, hr, h⟩
              cases h
              exact ⟨rfl, hr⟩
            · rintro ⟨rfl, hq⟩
              exact ⟨q, hq, rfl⟩
          rw [htail, ih, and_or_left]
          simp [eq_comm]

theorem prefix_of_mem_cuts {sep : Char} {s q : List Char} (h : q ∈ cuts sep s) : q <+: s := by
  rcases mem_cuts_iff.mp h with rfl | ⟨rest, rfl⟩
  · exact List.prefix_rfl
  · exact List.prefix_append _ _

theorem pairwise_length_cuts (sep : Char) (s : List Char) :
    (cuts sep s).Pairwise fun p q => p.length < q.length := by
  induction s with
  | nil => simp [cuts]
  | cons c s ih =>
      have hmap : ((cuts sep s).map (c :: ·)).Pairwise fun p q => p.length < q.length := by
        simpa [List.pairwise_map] using ih
      rw [cuts]
      split
      · exact List.pairwise_cons.mpr ⟨by simp, hmap⟩
      · exact hmap

theorem getLast?_cuts (sep : Char) (s : List Char) : (cuts sep s).getLast? = some s := by
  induction s with
  | nil => rfl
  | cons c s ih =>
      have hmap : ((cuts sep s).map (c :: ·)).getLast? = some (c :: s) := by
        rw [List.getLast?_map, ih]
        rfl
      rw [cuts]
      split
      · rw [List.getLast?_cons, hmap]
        rfl
      · exact hmap

theorem split_ne_nil (sep : Char) (s : List Char) : split sep s ≠ [] := by
  cases s with
  | nil => simp [split]
  | cons c s =>
      simp only [split]
      split
      · simp
      · cases split sep s <;> simp [consFirst]

theorem length_split (sep : Char) (s : List Char) : (split sep s).length = s.count sep + 1 := by
  induction s with
  | nil => rfl
  | cons c s ih =>
      simp only [split]
      by_cases hc : c = sep
      · simp [hc, ih]
      · obtain ⟨p, ps, hp⟩ := List.exists_cons_of_ne_nil (split_ne_nil sep s)
        rw [hp] at ih
        simpa [hc, hp, consFirst] using ih

end Text

namespace Folder

/-- There is one folder on the way for each name along the path. -/
theorem length_chain (path : String) : (chain path).length = (names path).length := by
  have h : ∀ (names : List String) (before : String),
      (chainFrom before names).length = names.length := by
    intro names
    induction names with
    | nil => exact fun _ => rfl
    | cons name names ih => exact fun before => congrArg (· + 1) (ih _)
  exact h (names path) ""

/-- The path cut before each of its slashes, and the path itself. -/
def prefixes (path : String) : List String :=
  (Text.cuts '/' path.toList).map String.ofList

theorem mem_prefixes_iff {path q : String} :
    q ∈ prefixes path ↔ q = path ∨ ∃ rest, path = q ++ "/" ++ rest := by
  have hmem : q ∈ prefixes path ↔ q.toList ∈ Text.cuts '/' path.toList := by
    rw [prefixes, List.mem_map]
    constructor
    · rintro ⟨r, hr, rfl⟩
      rwa [String.toList_ofList]
    · exact fun h => ⟨q.toList, h, String.ofList_toList⟩
  rw [hmem, Text.mem_cuts_iff, String.toList_inj]
  refine or_congr_right ⟨?_, ?_⟩
  · rintro ⟨rest, h⟩
    refine ⟨String.ofList rest, String.toList_injective ?_⟩
    simp [h]
  · rintro ⟨rest, rfl⟩
    exact ⟨rest.toList, by simp⟩

theorem self_mem_prefixes (path : String) : path ∈ prefixes path :=
  mem_prefixes_iff.mpr (.inl rfl)

/-- From the top folder down. -/
theorem pairwise_prefixes (path : String) :
    (prefixes path).Pairwise fun p q => p.length < q.length := by
  simpa [prefixes, List.pairwise_map] using Text.pairwise_length_cuts '/' path.toList

theorem getLast?_prefixes (path : String) : (prefixes path).getLast? = some path := by
  simp [prefixes, Text.getLast?_cuts]

/-- A folder without a name stands on the way to a path that begins with a slash. -/
theorem empty_mem_prefixes_iff {path : String} (h : path ≠ "") :
    "" ∈ prefixes path ↔ path.toList.head? = some '/' := by
  rw [mem_prefixes_iff, List.head?_eq_some_iff]
  constructor
  · rintro (rfl | ⟨rest, rfl⟩)
    · exact absurd rfl h
    · exact ⟨rest.toList, by simp⟩
  · rintro ⟨rest, hr⟩
    exact .inr ⟨String.ofList rest, String.toList_injective (by simp [hr])⟩

/-- A folder on the way to a path is one on the way to what the path holds. -/
theorem mem_prefixes_child {q path name : String} (hq : q ≠ "") (h : q ∈ prefixes path) :
    q ∈ prefixes (child path name) := by
  unfold child join
  split
  · exact h
  rcases mem_prefixes_iff.mp h with rfl | ⟨rest, rfl⟩
  · rw [if_neg hq]
    exact mem_prefixes_iff.mpr (.inr ⟨name, rfl⟩)
  · rw [if_neg (by simp)]
    exact mem_prefixes_iff.mpr (.inr ⟨rest ++ "/" ++ name, by simp only [String.append_assoc]⟩)

/-- A path begins as the folders on the way to it do. -/
theorem head?_of_mem_prefixes {q path : String} (hq : q ≠ "") (h : q ∈ prefixes path) :
    q.toList.head? = path.toList.head? := by
  obtain ⟨a, s, hs⟩ : ∃ a s, q.toList = a :: s := List.exists_cons_of_ne_nil (by simpa using hq)
  rcases mem_prefixes_iff.mp h with rfl | ⟨rest, rfl⟩
  · rfl
  · simp [hs]

theorem join_eq_append (path name : String) : join path name = join path "" ++ name := by
  unfold join
  split <;> simp

/-- Where something in the folder at `path` stands on the way to `p`, its name is what follows the
folder, up to the next slash. -/
theorem takeWhile_drop_of_join_mem_prefixes {path name p : String} (hn : '/' ∉ name.toList)
    (h : join path name ∈ prefixes p) :
    (p.toList.drop (join path "").toList.length).takeWhile (· ≠ '/') = name.toList := by
  have hname : ∀ c ∈ name.toList, decide (c ≠ '/') = true :=
    fun c hc => decide_eq_true fun he => hn (he ▸ hc)
  obtain ⟨tail, hp, ht⟩ : ∃ tail : List Char,
      p.toList = (join path "").toList ++ (name.toList ++ tail) ∧
        tail.takeWhile (· ≠ '/') = [] := by
    rw [join_eq_append] at h
    rcases mem_prefixes_iff.mp h with rfl | ⟨rest, rfl⟩
    · exact ⟨[], by simp, rfl⟩
    · exact ⟨'/' :: rest.toList, by simp, by simp⟩
  rw [hp, List.drop_left, List.takeWhile_append_of_pos hname, ht, List.append_nil]

/-- Of all that lies in one folder, no two things stand on the way to one path. -/
theorem eq_of_join_mem_prefixes {path a b p : String} (ha : '/' ∉ a.toList) (hb : '/' ∉ b.toList)
    (hpa : join path a ∈ prefixes p) (hpb : join path b ∈ prefixes p) : a = b := by
  apply String.toList_injective
  rw [← takeWhile_drop_of_join_mem_prefixes ha hpa, takeWhile_drop_of_join_mem_prefixes hb hpb]

/-- What lies in a folder does not stand on the way to the folder. -/
theorem join_not_mem_prefixes {path name : String} (hn : name ≠ "") :
    join path name ∉ prefixes path := by
  have hpath : path.length ≤ (join path "").length := by
    unfold join
    split <;> simp [*]
  have hname : name.length ≠ 0 := by simpa using hn
  rw [join_eq_append, mem_prefixes_iff]
  rintro (h | ⟨rest, h⟩) <;>
    · have hlength := congrArg String.length h
      simp only [String.length_append] at hlength
      omega

theorem join_ofList {before : List Char} (h : before ≠ []) (name : List Char) :
    join (String.ofList before) (String.ofList name) = String.ofList (before ++ '/' :: name) := by
  have hne : String.ofList before ≠ "" := by simpa using h
  rw [join, if_neg hne]
  apply String.toList_injective
  simp

/-- A row of names behind a path that is not empty. -/
theorem map_cuts_eq_chainFrom {s : List Char} : ∀ {before name : List Char}
    {names : List (List Char)}, before ≠ [] → Text.split '/' s = name :: names →
    ((Text.cuts '/' s).map fun q => String.ofList (before ++ q)) =
      String.ofList (before ++ name) ::
        chainFrom (String.ofList (before ++ name)) (names.map String.ofList) := by
  induction s with
  | nil =>
      rintro before name names - h
      cases h
      rfl
  | cons c s ih =>
      intro before name names hb h
      obtain ⟨n, ns, hn⟩ := List.exists_cons_of_ne_nil (Text.split_ne_nil '/' s)
      by_cases hc : c = '/'
      · subst hc
        obtain ⟨rfl, rfl⟩ : [] = name ∧ n :: ns = names := by simpa [Text.split, hn] using h
        have := @ih (before ++ ['/']) n ns (by simp) hn
        simpa [Text.cuts, chainFrom, join_ofList hb, Function.comp_def] using this
      · obtain ⟨rfl, rfl⟩ : c :: n = name ∧ ns = names := by
          simpa [Text.split, hc, hn, Text.consFirst] using h
        have := @ih (before ++ [c]) n ns (by simp) hn
        simpa [Text.cuts, hc, Function.comp_def] using this

/-- **The folders on the way** to a path that does not begin with a slash. -/
theorem chain_eq_prefixes {path : String} (h : path.toList.head? ≠ some '/') :
    chain path = prefixes path := by
  unfold chain names prefixes
  cases hp : path.toList with
  | nil => rfl
  | cons c s =>
      have hc : c ≠ '/' := by simpa [hp] using h
      obtain ⟨n, ns, hn⟩ := List.exists_cons_of_ne_nil (Text.split_ne_nil '/' s)
      have := @map_cuts_eq_chainFrom s [c] n ns (by simp) hn
      simpa [Text.split, Text.cuts, hc, hn, Text.consFirst, chainFrom, join, Function.comp_def]
        using this.symm

/-- How many slashes a path begins with. -/
def leadingSlashes (path : String) : Nat :=
  (path.toList.takeWhile (· == '/')).length

/-- The path behind the slashes that it begins with. -/
def unslashed (path : String) : String :=
  String.ofList (path.toList.dropWhile (· == '/'))

theorem unslashed_eq_self_iff {path : String} :
    unslashed path = path ↔ path.toList.head? ≠ some '/' := by
  rw [unslashed, ← String.toList_inj, String.toList_ofList]
  cases path.toList with
  | nil => simp
  | cons c s =>
      by_cases hc : c = '/'
      · have hlength := (List.dropWhile_sublist (l := s) (· == '/')).length_le
        have hne : s.dropWhile (· == '/') ≠ '/' :: s := by
          intro h
          rw [h, List.length_cons] at hlength
          omega
        simpa [hc] using hne
      · simp [hc]

theorem chain_ofList_cons_slash (s : List Char) :
    chain (String.ofList ('/' :: s)) = "" :: chain (String.ofList s) := by
  simp [chain, names, Text.split, chainFrom, join]

/-- **The folders on the way** to any path: one without a name for each slash that it begins with,
and those on the way to the path behind these slashes. -/
theorem chain_eq_replicate_append (path : String) :
    chain path = List.replicate (leadingSlashes path) "" ++ prefixes (unslashed path) := by
  unfold leadingSlashes unslashed
  rw [← @String.ofList_toList path]
  generalize path.toList = s
  simp only [String.toList_ofList]
  induction s with
  | nil => rfl
  | cons c s ih =>
      by_cases hc : c = '/'
      · subst hc
        rw [chain_ofList_cons_slash, ih]
        simp [List.replicate_succ]
      · have hpath : (String.ofList (c :: s)).toList.head? ≠ some '/' := by simpa using hc
        simpa [hc] using chain_eq_prefixes hpath

theorem getLast?_chain (path : String) : (chain path).getLast? = some (unslashed path) := by
  rw [chain_eq_replicate_append, List.getLast?_append, getLast?_prefixes, Option.some_or]

/-- The slashes of `s`. -/
def slashes (s : String) : Nat :=
  s.toList.count '/'

/-- A path that begins with a slash has more slashes than any folder on the way to it. -/
theorem slashes_lt_of_mem_chain {path q : String} (h : path.toList.head? = some '/')
    (hq : q ∈ chain path) : slashes q < slashes path := by
  obtain ⟨s, hp⟩ := List.head?_eq_some_iff.mp h
  have hpath : slashes path = s.count '/' + 1 := by simp [slashes, hp]
  have hrest : slashes (unslashed path) ≤ s.count '/' := by
    have hs : (s.dropWhile (· == '/')).Sublist s := List.dropWhile_sublist _
    simpa [slashes, unslashed, hp] using hs.count_le '/'
  rw [chain_eq_replicate_append] at hq
  rcases List.mem_append.mp hq with hq | hq
  · obtain rfl := List.eq_of_mem_replicate hq
    rw [hpath]
    exact Nat.succ_pos _
  · obtain ⟨r, hr, rfl⟩ := List.mem_map.mp hq
    have hle := (Text.prefix_of_mem_cuts hr).sublist.count_le '/'
    simp only [slashes, String.toList_ofList] at hpath hrest ⊢
    omega

/-- The folders on the way to a path are written with its characters. -/
theorem subset_of_mem_chain {path q : String} (hq : q ∈ chain path) : q.toList ⊆ path.toList := by
  rw [chain_eq_replicate_append] at hq
  rcases List.mem_append.mp hq with hq | hq
  · obtain rfl := List.eq_of_mem_replicate hq
    exact List.nil_subset _
  · obtain ⟨r, hr, rfl⟩ := List.mem_map.mp hq
    have hrest : (unslashed path).toList ⊆ path.toList := by
      rw [unslashed, String.toList_ofList]
      exact (List.dropWhile_sublist _).subset
    rw [String.toList_ofList]
    exact List.Subset.trans (Text.prefix_of_mem_cuts hr).subset hrest

end Folder

end FolderSieve
