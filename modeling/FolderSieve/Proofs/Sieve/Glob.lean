import Mathlib.Data.List.Infix

/-!
# Sieve — patterns

The patterns of `:matches`: `*` stands for any characters and `?` for any one, and a backslash makes
the next character stand for itself.  Other characters stand for themselves, and so does a backslash
with nothing behind it.

* `Comparator.accepts_iff`: the matcher decides what matches.
* `Pattern.exists_pieces_append`: a text without special characters stands for itself wherever it is
  in a pattern, also behind a backslash.
* `Comparator.contains_of_matching`: what matches the pattern contains the text.
* `Comparator.matching_or_star_iff_plain`: a text, and the text with `.*` behind it, match the text
  and what begins with it and a point, and nothing else, exactly if it has no special character.
-/

namespace FolderSieve.Sieve

/-! ### Patterns -/

/-- A piece of a pattern. -/
inductive Piece where
  | run
  | any
  | char (c : Char)
  deriving DecidableEq, Repr

namespace Pattern

/-- The pieces of a pattern. -/
def pieces : List Char → List Piece
  | [] => []
  | '\\' :: c :: p => .char c :: pieces p
  | '*' :: p => .run :: pieces p
  | '?' :: p => .any :: pieces p
  | c :: p => .char c :: pieces p

/-- The character means nothing but itself. -/
def Plain (c : Char) : Prop :=
  c ≠ '*' ∧ c ≠ '?' ∧ c ≠ '\\'

instance (c : Char) : Decidable (Plain c) :=
  inferInstanceAs (Decidable (_ ∧ _))

theorem forall_plain_iff {s : List Char} :
    (∀ c ∈ s, Plain c) ↔ '*' ∉ s ∧ '?' ∉ s ∧ '\\' ∉ s := by
  simp only [Plain, ne_eq, forall_and, List.forall_mem_ne']

/-- A character that has no meaning of its own stands for itself, unless it is a backslash with
something behind it. -/
theorem pieces_cons {c : Char} (h : c ≠ '*' ∧ c ≠ '?') {p : List Char} (hp : c = '\\' → p = []) :
    pieces (c :: p) = .char c :: pieces p := by
  rw [pieces]
  · rintro d q hc rfl
    cases hp hc
  · exact h.1
  · exact h.2

theorem pieces_append_of_plain {s : List Char} (h : ∀ c ∈ s, Plain c) (q : List Char) :
    pieces (s ++ q) = s.map .char ++ pieces q := by
  induction s with
  | nil => rfl
  | cons c s ih =>
      obtain ⟨⟨hrun, hany, hescape⟩, hs⟩ := List.forall_mem_cons.mp h
      rw [List.cons_append, pieces_cons ⟨hrun, hany⟩ fun hc => absurd hc hescape, ih hs]
      rfl

/-- **Plain text within a pattern** stands for itself.  If what is before it ends in a backslash,
that is spent on the first character, which it does not change. -/
theorem exists_pieces_append {s : List Char} (hs : ∀ c ∈ s, Plain c) (hn : s ≠ [])
    (p q : List Char) : ∃ before, pieces (p ++ (s ++ q)) = before ++ (s.map .char ++ pieces q) := by
  induction p using pieces.induct with
  | case1 => exact ⟨[], pieces_append_of_plain hs q⟩
  | case2 c p ih =>
      obtain ⟨before, hb⟩ := ih
      exact ⟨.char c :: before, by simp [pieces, hb]⟩
  | case3 p ih =>
      obtain ⟨before, hb⟩ := ih
      exact ⟨.run :: before, by simp [pieces, hb]⟩
  | case4 p ih =>
      obtain ⟨before, hb⟩ := ih
      exact ⟨.any :: before, by simp [pieces, hb]⟩
  | case5 c p hlone hrun hany ih =>
      obtain ⟨before, hb⟩ := ih
      by_cases hp : c = '\\' ∧ p = []
      · -- the lone backslash takes the first character of the text with it
        obtain ⟨rfl, rfl⟩ := hp
        obtain ⟨d, s, rfl⟩ := List.exists_cons_of_ne_nil hn
        have hd := pieces_append_of_plain (List.forall_mem_cons.mp hs).2 q
        exact ⟨[], by simp [pieces, hd]⟩
      · have hcons : pieces (c :: (p ++ (s ++ q))) = .char c :: pieces (p ++ (s ++ q)) := by
          refine pieces_cons ⟨hrun, hany⟩ fun hc => ?_
          cases p with
          | nil => exact absurd ⟨hc, rfl⟩ hp
          | cons d p => exact (hlone d p hc rfl).elim
        exact ⟨.char c :: before, by rw [List.cons_append, hcons, hb]; rfl⟩

end Pattern

/-! ### Matching -/

/-- How characters are compared: as they are, or without regard to the case of ASCII letters. -/
inductive Comparator where
  | exact
  | ignoringCase
  deriving DecidableEq, Repr

namespace Comparator

variable (cmp : Comparator)

/-- A character as far as the comparator tells it from others. -/
def fold : Comparator → Char → Char
  | .exact => id
  | .ignoringCase => Char.toLower

/-- The text contains another in one piece. -/
def Contains (text part : String) : Prop :=
  part.toList.map cmp.fold <:+: text.toList.map cmp.fold

instance (text part : String) : Decidable (cmp.Contains text part) :=
  inferInstanceAs (Decidable (_ <:+: _))

/-- The comparator does not tell the texts apart. -/
def Same (s t : String) : Prop :=
  s.toList.map cmp.fold = t.toList.map cmp.fold

/-- The text begins with another. -/
def StartsWith (text part : String) : Prop :=
  part.toList.map cmp.fold <+: text.toList.map cmp.fold

/-- What the pieces of a pattern match. -/
def Matches : List Piece → List Char → Prop
  | [], t => t = []
  | .run :: ps, t => ∃ u v, t = u ++ v ∧ Matches ps v
  | .any :: ps, t => ∃ c v, t = c :: v ∧ Matches ps v
  | .char c :: ps, t => ∃ d v, t = d :: v ∧ cmp.fold c = cmp.fold d ∧ Matches ps v

/-- The matcher of pieces. -/
def accepts : List Piece → List Char → Bool
  | [], t => t.isEmpty
  | .run :: ps, t => t.tails.any fun v => accepts ps v
  | .any :: ps, _ :: t => accepts ps t
  | .char c :: ps, d :: t => cmp.fold c == cmp.fold d && accepts ps t
  | .any :: _, [] | .char _ :: _, [] => false

/-- The matcher of patterns. -/
def matching (pattern text : String) : Bool :=
  cmp.accepts (Pattern.pieces pattern.toList) text.toList

variable {cmp}

/-- **The matcher** accepts what matches. -/
theorem accepts_iff {ps : List Piece} {t : List Char} :
    cmp.accepts ps t = true ↔ cmp.Matches ps t := by
  induction ps generalizing t with
  | nil => simp [accepts, Matches]
  | cons piece ps ih =>
      cases piece with
      | run =>
          simp only [accepts, Matches, List.any_eq_true, List.mem_tails, ih]
          constructor
          · rintro ⟨v, ⟨u, rfl⟩, h⟩
            exact ⟨u, v, rfl, h⟩
          · rintro ⟨u, v, rfl, h⟩
            exact ⟨v, List.suffix_append u v, h⟩
      | any => cases t <;> simp [accepts, Matches, ih]
      | char c => cases t <;> simp [accepts, Matches, ih]

/-- An escaped star is one, and case is a matter of the comparator. -/
example :
    exact.matching "a\\**" "a*bc" = true ∧ exact.matching "a\\*" "ab" = false ∧
      exact.matching "a?*" "A" = false ∧ ignoringCase.matching "a?*" "Ab" = true := by
  decide

/-- What matches one row of pieces behind another is in two parts. -/
theorem exists_of_matches_append {ps qs : List Piece} {t : List Char}
    (h : cmp.Matches (ps ++ qs) t) :
    ∃ u v, t = u ++ v ∧ cmp.Matches ps u ∧ cmp.Matches qs v := by
  induction ps generalizing t with
  | nil => exact ⟨[], t, rfl, rfl, h⟩
  | cons piece ps ih =>
      cases piece with
      | run =>
          obtain ⟨u, v, rfl, h⟩ := h
          obtain ⟨v, w, rfl, hv, hw⟩ := ih h
          exact ⟨u ++ v, w, (List.append_assoc u v w).symm, ⟨u, v, rfl, hv⟩, hw⟩
      | any =>
          obtain ⟨c, v, rfl, h⟩ := h
          obtain ⟨v, w, rfl, hv, hw⟩ := ih h
          exact ⟨c :: v, w, rfl, ⟨c, v, rfl, hv⟩, hw⟩
      | char c =>
          obtain ⟨d, v, rfl, hc, h⟩ := h
          obtain ⟨v, w, rfl, hv, hw⟩ := ih h
          exact ⟨d :: v, w, rfl, ⟨d, v, rfl, hc, hv⟩, hw⟩

/-- Characters match their like, and what comes after them the rest. -/
theorem matches_map_char_append_iff {s : List Char} {ps : List Piece} {t : List Char} :
    cmp.Matches (s.map .char ++ ps) t ↔
      ∃ u v, t = u ++ v ∧ s.map cmp.fold = u.map cmp.fold ∧ cmp.Matches ps v := by
  induction s generalizing t with
  | nil => simp
  | cons c s ih =>
      simp only [List.map_cons, List.cons_append, Matches, ih]
      constructor
      · rintro ⟨d, _, rfl, hc, u, v, rfl, hu, hv⟩
        exact ⟨d :: u, v, rfl, by rw [List.map_cons, hc, hu], hv⟩
      · rintro ⟨u, v, rfl, hu, hv⟩
        obtain ⟨d, u, rfl, hc, hu⟩ := List.map_eq_cons_iff.mp hu.symm
        exact ⟨d, u ++ v, rfl, hc.symm, u, v, rfl, hu.symm, hv⟩

theorem matches_map_char_iff {s t : List Char} :
    cmp.Matches (s.map .char) t ↔ s.map cmp.fold = t.map cmp.fold := by
  rw [← List.append_nil (s.map _), matches_map_char_append_iff]
  simp [Matches]

/-- **What matches a pattern** contains every plain text that stands in it. -/
theorem contains_of_matching {s : String} (hs : ∀ c ∈ s.toList, Pattern.Plain c) {p q text : String}
    (h : cmp.matching (p ++ s ++ q) text = true) : cmp.Contains text s := by
  by_cases hn : s.toList = []
  · rw [Contains, hn]
    exact List.nil_infix
  obtain ⟨before, hpieces⟩ := Pattern.exists_pieces_append hs hn p.toList q.toList
  rw [matching, accepts_iff, String.toList_append, String.toList_append, List.append_assoc,
    hpieces] at h
  obtain ⟨u, rest, ht, -, hrest⟩ := exists_of_matches_append h
  obtain ⟨v, w, rfl, hv, -⟩ := exists_of_matches_append hrest
  rw [Contains, ht, matches_map_char_iff.mp hv, List.map_append, List.map_append]
  exact ⟨u.map cmp.fold, w.map cmp.fold, by rw [List.append_assoc]⟩

/-! ### Texts as patterns -/

@[simp] theorem same_exact_iff {s t : String} : exact.Same s t ↔ s = t := by
  simp [Same, fold, String.toList_inj]

@[simp] theorem startsWith_exact_iff {text part : String} :
    exact.StartsWith text part ↔ part.toList <+: text.toList := by
  simp [StartsWith, fold]

/-- A plain text matches itself. -/
theorem matches_pieces_iff_of_plain {s t : List Char} (h : ∀ c ∈ s, Pattern.Plain c) :
    cmp.Matches (Pattern.pieces s) t ↔ s.map cmp.fold = t.map cmp.fold := by
  have hs := Pattern.pieces_append_of_plain h []
  rw [List.append_nil, Pattern.pieces, List.append_nil] at hs
  rw [hs, matches_map_char_iff]

/-- A plain text with a star behind it matches what begins with the text. -/
theorem matches_pieces_star_iff_of_plain {s t : List Char} (h : ∀ c ∈ s, Pattern.Plain c) :
    cmp.Matches (Pattern.pieces (s ++ ['*'])) t ↔ s.map cmp.fold <+: t.map cmp.fold := by
  rw [Pattern.pieces_append_of_plain h, matches_map_char_append_iff, List.prefix_map_iff]
  constructor
  · rintro ⟨u, v, rfl, hu, -⟩
    exact ⟨u, List.prefix_append u v, hu⟩
  · rintro ⟨u, ⟨v, rfl⟩, hu⟩
    exact ⟨u, v, rfl, hu, v, [], (List.append_nil v).symm, rfl⟩

/-- A pattern without a backslash matches itself as a text, in front of whatever else is matched. -/
theorem matches_pieces_append_self {s : List Char} (h : '\\' ∉ s) {p t : List Char}
    (ht : cmp.Matches (Pattern.pieces p) t) :
    cmp.Matches (Pattern.pieces (s ++ p)) (s ++ t) := by
  induction s with
  | nil => exact ht
  | cons c s ih =>
      obtain ⟨hc, hs⟩ := List.ne_and_not_mem_of_not_mem_cons h
      have ih := ih hs
      by_cases hrun : c = '*'
      · subst hrun
        exact ⟨['*'], s ++ t, rfl, ih⟩
      by_cases hany : c = '?'
      · subst hany
        exact ⟨'?', s ++ t, rfl, ih⟩
      · rw [List.cons_append, Pattern.pieces_cons ⟨hrun, hany⟩ fun he => absurd he.symm hc]
        exact ⟨c, s ++ t, rfl, rfl, ih⟩

/-- With a point and a star behind it, a pattern without a backslash matches what begins with it and a
point. -/
theorem matching_star_of_not_mem {s : String} (h : '\\' ∉ s.toList) (text : String) :
    cmp.matching (s ++ ".*") (s ++ "." ++ text) = true := by
  have hstar : cmp.Matches (Pattern.pieces ['.', '*']) ('.' :: text.toList) :=
    ⟨'.', text.toList, rfl, rfl, text.toList, [], (List.append_nil _).symm, rfl⟩
  rw [matching, accepts_iff, String.toList_append, String.toList_append, String.toList_append,
    List.append_assoc]
  exact matches_pieces_append_self h hstar

/-- **A short match.**  Every pattern matches a text that is no longer than the pattern, and that is
another text unless nothing in the pattern is special but a backslash at its end. -/
theorem exists_short_match (s : List Char) :
    ∃ t, cmp.Matches (Pattern.pieces s) t ∧ t.length ≤ s.length ∧
      (s.map cmp.fold = t.map cmp.fold → '*' ∉ s ∧ '?' ∉ s ∧ '\\' ∉ s.dropLast) := by
  induction s using Pattern.pieces.induct with
  | case1 => exact ⟨[], rfl, le_rfl, by simp⟩
  | case2 c p ih =>
      -- the backslash matches nothing, so that the text is too short
      obtain ⟨t, hm, hlen, -⟩ := ih
      refine ⟨c :: t, ⟨c, t, rfl, rfl, hm⟩, by simp; omega, fun h => ?_⟩
      have := congrArg List.length h
      simp at this
      omega
  | case3 p ih =>
      obtain ⟨t, hm, hlen, -⟩ := ih
      refine ⟨t, ⟨[], t, rfl, hm⟩, by simp; omega, fun h => ?_⟩
      have := congrArg List.length h
      simp at this
      omega
  | case4 p ih =>
      obtain ⟨t, hm, hlen, -⟩ := ih
      refine ⟨'a' :: t, ⟨'a', t, rfl, hm⟩, by simpa, fun h => ?_⟩
      have hc : cmp.fold '?' ≠ cmp.fold 'a' := by cases cmp <;> decide
      exact absurd (List.cons.inj h).1 hc
  | case5 c p hlone hrun hany ih =>
      obtain ⟨t, hm, hlen, himp⟩ := ih
      have hp : c = '\\' → p = [] := by
        rintro rfl
        cases p with
        | nil => rfl
        | cons d p => exact (hlone d p rfl rfl).elim
      refine ⟨c :: t, ?_, by simpa, fun h => ?_⟩
      · rw [Pattern.pieces_cons ⟨hrun, hany⟩ hp]
        exact ⟨c, t, rfl, rfl, hm⟩
      · obtain ⟨hr, ha, he⟩ := himp (List.cons.inj h).2
        refine ⟨by simp [hr, Ne.symm hrun], by simp [ha, Ne.symm hany], ?_⟩
        cases p with
        | nil => simp
        | cons d p =>
            have hc : c ≠ '\\' := fun hc => List.cons_ne_nil d p (hp hc)
            simpa [Ne.symm hc] using he

/-- A backslash at the end is one, but takes the point of a longer pattern with it. -/
theorem not_matches_backslash {p : List Char} (h : ∀ c ∈ p, Pattern.Plain c) :
    ¬(cmp.Matches (Pattern.pieces (p ++ ['\\'])) (p ++ ['\\', '.']) ∨
      cmp.Matches (Pattern.pieces (p ++ ['\\', '.', '*'])) (p ++ ['\\', '.'])) := by
  rw [Pattern.pieces_append_of_plain h, Pattern.pieces_append_of_plain h,
    matches_map_char_append_iff, matches_map_char_append_iff]
  have hcut : ∀ {u v : List Char}, p ++ ['\\', '.'] = u ++ v → p.map cmp.fold = u.map cmp.fold →
      v = ['\\', '.'] := by
    intro u v ht hu
    have hlen : p.length = u.length := by simpa using congrArg List.length hu
    exact (List.append_inj ht hlen).2.symm
  rintro (⟨u, v, ht, hu, hv⟩ | ⟨u, v, ht, hu, hv⟩)
  · obtain rfl := hcut ht hu
    obtain ⟨d, w, hw, -, rfl⟩ := hv
    cases hw
  · obtain rfl := hcut ht hu
    obtain ⟨d, w, hw, hd, -⟩ := hv
    cases hw
    cases cmp <;> exact absurd hd (by decide)

/-- A text, and the text with a point and a star behind it, match the text and what begins with it and
a point, and nothing else, exactly if the text is plain. -/
theorem matches_or_star_iff_plain {s : List Char} :
    (∀ t, cmp.Matches (Pattern.pieces s) t ∨ cmp.Matches (Pattern.pieces (s ++ ['.', '*'])) t ↔
        s.map cmp.fold = t.map cmp.fold ∨ (s ++ ['.']).map cmp.fold <+: t.map cmp.fold) ↔
      ∀ c ∈ s, Pattern.Plain c := by
  constructor
  · intro h
    obtain ⟨t, hm, hlen, himp⟩ := @exists_short_match cmp s
    have hsame : s.map cmp.fold = t.map cmp.fold := by
      refine ((h t).mp (.inl hm)).resolve_right fun hp => ?_
      have := hp.length_le
      simp at this
      omega
    obtain ⟨hrun, hany, hescape⟩ := himp hsame
    refine Pattern.forall_plain_iff.mpr ⟨hrun, hany, fun hm => ?_⟩
    -- the only backslash is the last character, and with it the longer pattern matches too little
    obtain ⟨p, x, rfl⟩ := (List.eq_nil_or_concat s).resolve_left (List.ne_nil_of_mem hm)
    rw [List.concat_eq_append] at *
    rw [List.dropLast_concat] at hescape
    obtain rfl : '\\' = x := by simpa [hescape] using hm
    have hp : ∀ c ∈ p, Pattern.Plain c := Pattern.forall_plain_iff.mpr
      ⟨fun hc => hrun (by simp [hc]), fun hc => hany (by simp [hc]), hescape⟩
    refine @not_matches_backslash cmp p hp ?_
    simpa using (h (p ++ ['\\', '.'])).mpr (.inr (by simp))
  · intro h t
    have hpoint : ∀ c ∈ s ++ ['.'], Pattern.Plain c :=
      List.forall_mem_append.mpr ⟨h, List.forall_mem_singleton.mpr (by decide)⟩
    rw [matches_pieces_iff_of_plain h, ← matches_pieces_star_iff_of_plain hpoint, List.append_assoc]
    rfl

/-- **What a text stands for as a pattern.**  Together with the text that has a point and a star
behind it, it matches itself and what begins with it and a point, and nothing else, exactly if it has
no special character. -/
theorem matching_or_star_iff_plain {s : String} :
    (∀ text, cmp.matching s text = true ∨ cmp.matching (s ++ ".*") text = true ↔
        cmp.Same text s ∨ cmp.StartsWith text (s ++ ".")) ↔
      ∀ c ∈ s.toList, Pattern.Plain c := by
  have hpoint : ".".toList = ['.'] ∧ ".*".toList = ['.', '*'] := by decide
  rw [← @matches_or_star_iff_plain cmp]
  simp only [matching, accepts_iff, Same, StartsWith, String.toList_append, hpoint]
  constructor
  · intro h t
    have := h (String.ofList t)
    rwa [String.toList_ofList, eq_comm (a := t.map _)] at this
  · intro h text
    rw [h text.toList, eq_comm]

end Comparator

end FolderSieve.Sieve
