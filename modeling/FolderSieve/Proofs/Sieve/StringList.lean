import FolderSieve.Proofs.Sieve.Token

/-!
# Sieve — strings taken off a text

`readString` takes a quoted string off the front of a text, and `readStrings` a string list: strings in
brackets with commas between them, or a single string, with white space and comments of both kinds
wherever the language has them.  A quoted string ends at the first quotation mark without a backslash
before it, and a backslash stands for the character after it.

* `escape_eq_marked`: to escape is to put a backslash before each backslash, and then before each
  quotation mark.
* `readString_quote`, `readStrings_stringList`: what is written is read, whatever follows it.
* `readString_append`, `readStrings_append`: what is read does not depend on what follows.
* `quoting_undone`: both together, so that a text that is written has one meaning, and has it only at
  its end.
-/

namespace FolderSieve.Sieve

/-! ### Backslashes -/

/-- A backslash before each `c`. -/
def marked (c : Char) : List Char → List Char
  | [] => []
  | d :: s => if d = c then '\\' :: d :: marked c s else d :: marked c s

/-- **To escape** is to mark the backslashes first, so that those before quotation marks stay single. -/
theorem escape_eq_marked (s : List Char) : escape s = marked '"' (marked '\\' s) := by
  induction s with
  | nil => rfl
  | cons c s ih =>
      by_cases hq : c = '"'
      · subst hq
        simp [escape, marked, ih]
      by_cases hb : c = '\\'
      · subst hb
        simp [escape, marked, ih]
      · simp [escape, marked, ih, hq, hb]

/-- The other way round, a quotation mark ends the string that it stands in. -/
example : unquote (marked '\\' (marked '"' ['"']) ++ ['"']) = some (['\\'], ['"']) := rfl

/-! ### The reader -/

/-- What stands between two tokens: white space, a comment up to the end of the line, a comment up to
its closing mark. -/
inductive Gap where
  | space
  | line
  | bracketed

/-- The text from the next token on. -/
def skip : Gap → List Char → List Char
  | _, [] => []
  | .line, c :: s => skip (if c = '\n' then .space else .line) s
  | .bracketed, '*' :: '/' :: s => skip .space s
  | .bracketed, _ :: s => skip .bracketed s
  | .space, '/' :: '*' :: s => skip .bracketed s
  | .space, c :: s =>
      if isSpace c then skip .space s else if c = '#' then skip .line s else c :: s

/-- The quoted string at the front of a text, and the text behind it. -/
def readString : List Char → Option (String × List Char)
  | '"' :: s => (unquote s).map fun (v, t) => (String.ofList v, t)
  | _ => none

theorem length_skip_le (g : Gap) (s : List Char) : (skip g s).length ≤ s.length := by
  fun_induction skip g s with
  | case1 => exact Nat.le_refl _
  | case2 c s ih => exact Nat.le_succ_of_le ih
  | case3 s ih => exact Nat.le_succ_of_le (Nat.le_succ_of_le ih)
  | case4 c s _ ih => exact Nat.le_succ_of_le ih
  | case5 s ih => exact Nat.le_succ_of_le (Nat.le_succ_of_le ih)
  | case6 c s _ _ ih => exact Nat.le_succ_of_le ih
  | case7 s _ _ ih => exact Nat.le_succ_of_le ih
  | case8 c s _ _ _ => exact Nat.le_refl _

theorem length_of_readString {s t : List Char} {v : String} (h : readString s = some (v, t)) :
    t.length < s.length := by
  unfold readString at h
  split at h
  · obtain ⟨⟨v', t'⟩, hs, he⟩ := Option.map_eq_some_iff.mp h
    cases he
    exact Nat.lt_succ_of_lt (length_of_unquote hs)
  · cases h

/-- The strings of a list up to its closing bracket, and the text behind it. -/
def readItems (s : List Char) : Option (List String × List Char) :=
  match _h : readString (skip .space s) with
  | none => none
  | some (v, t) =>
      if (skip .space t).head? = some ',' then
        (readItems (skip .space t).tail).map fun (vs, t) => (v :: vs, t)
      else if (skip .space t).head? = some ']' then some ([v], (skip .space t).tail)
      else none
termination_by s.length
decreasing_by
  have hstring := length_of_readString _h
  have hbefore := length_skip_le .space s
  have hbehind := length_skip_le .space t
  rename_i hcomma
  obtain ⟨t', ht'⟩ := List.head?_eq_some_iff.mp hcomma
  rw [ht', List.length_cons] at hbehind
  rw [ht', List.tail_cons]
  omega

/-- The string list at the front of a text, and the text behind it.  A list without strings is read
too, although the language has none. -/
def readStrings (s : List Char) : Option (List String × List Char) :=
  if (skip .space s).head? = some '[' then
    if (skip .space (skip .space s).tail).head? = some ']' then
      some ([], (skip .space (skip .space s).tail).tail)
    else readItems (skip .space s).tail
  else (readString (skip .space s)).map fun (v, t) => ([v], t)

/-! ### What is written is read -/

theorem skip_quote (v : String) (t : List Char) : skip .space (quote v ++ t) = quote v ++ t :=
  rfl

theorem readString_quote (v : String) (t : List Char) : readString (quote v ++ t) = some (v, t) := by
  have hquote : quote v ++ t = '"' :: (escape v.toList ++ '"' :: t) := by simp [quote]
  rw [hquote, readString, unquote_quoted]
  exact congrArg (fun v => some (v, t)) (String.ofList_toList)

theorem readItems_quotedItems (v : String) (vs : List String) (t : List Char) :
    readItems (quotedItems (v :: vs) ++ ']' :: t) = some (v :: vs, t) := by
  induction vs generalizing v with
  | nil =>
      rw [quotedItems, readItems, skip_quote, readString_quote]
      rfl
  | cons w vs ih =>
      have hitems : quotedItems (v :: w :: vs) ++ ']' :: t =
          quote v ++ ',' :: (quotedItems (w :: vs) ++ ']' :: t) := by simp [quotedItems]
      rw [hitems, readItems, skip_quote, readString_quote]
      show (readItems (quotedItems (w :: vs) ++ ']' :: t)).map _ = _
      rw [ih, Option.map_some]

/-- **A string list is read**, whatever follows it. -/
theorem readStrings_stringList (vs : List String) (t : List Char) :
    readStrings (stringList vs ++ t) = some (vs, t) := by
  have hlist : stringList vs ++ t = '[' :: (quotedItems vs ++ ']' :: t) := by simp [stringList]
  rw [hlist]
  cases vs with
  | nil => rfl
  | cons v vs =>
      have hstart : (skip .space (quotedItems (v :: vs) ++ ']' :: t)).head? = some '"' := by
        cases vs <;> rfl
      show (if (skip .space (quotedItems (v :: vs) ++ ']' :: t)).head? = some ']' then _
        else readItems (quotedItems (v :: vs) ++ ']' :: t)) = _
      rw [hstart, if_neg (by decide), readItems_quotedItems]

/-- A single string is read as a list too. -/
theorem readStrings_quote (v : String) (t : List Char) :
    readStrings (quote v ++ t) = some ([v], t) := by
  show (readString (quote v ++ t)).map _ = _
  rw [readString_quote, Option.map_some]

/-! ### What follows does not matter -/

theorem unquote_append {s v t : List Char} (h : unquote s = some (v, t)) (u : List Char) :
    unquote (s ++ u) = some (v, t ++ u) := by
  fun_induction unquote s generalizing v t with
  | case1 => cases h
  | case2 => cases h
  | case3 s =>
      cases h
      rfl
  | case4 c s ih =>
      obtain ⟨⟨v', t'⟩, hs, he⟩ := Option.map_eq_some_iff.mp h
      cases he
      rw [List.cons_append, List.cons_append, unquote, ih hs, Option.map_some]
  | case5 c s hlast hq hb ih =>
      obtain ⟨⟨v', t'⟩, hs, he⟩ := Option.map_eq_some_iff.mp h
      cases he
      have hne : c ≠ '\\' := by
        rintro rfl
        cases s with
        | nil => exact hlast rfl rfl
        | cons d s => exact hb d s rfl rfl
      rw [List.cons_append, unquote, ih hs, Option.map_some]
      · exact fun hc => absurd hc hne
      · exact hq
      · exact fun _ _ hc => absurd hc hne

theorem readString_append {s t : List Char} {v : String} (h : readString s = some (v, t))
    (u : List Char) : readString (s ++ u) = some (v, t ++ u) := by
  unfold readString at h
  split at h
  · rename_i s
    obtain ⟨⟨v', t'⟩, hs, he⟩ := Option.map_eq_some_iff.mp h
    cases he
    rw [List.cons_append, readString, unquote_append hs, Option.map_some]
  · cases h

/-- What is skipped ends at a token, but for a slash, which could open a comment. -/
theorem skip_append {g : Gap} {s : List Char} {c : Char} (h : (skip g s).head? = some c)
    (hc : c ≠ '/') (u : List Char) : skip g (s ++ u) = skip g s ++ u := by
  fun_induction skip g s with
  | case1 => cases h
  | case2 d s ih => exact ih h
  | case3 s ih => exact ih h
  | case4 d s hclose ih =>
      rw [List.cons_append, skip, ih h]
      rintro s' rfl he
      cases s with
      | nil => cases h
      | cons e s => exact hclose s rfl (by rw [(List.cons.inj he).1])
  | case5 s ih => exact ih h
  | case6 d s _ hspace ih =>
      rw [List.cons_append, skip, if_pos hspace, ih h]
      rintro s' rfl -
      cases hspace
  | case7 s _ _ ih => exact ih h
  | case8 d s _ hspace hhash =>
      rw [List.cons_append, skip, if_neg hspace, if_neg hhash]
      rintro s' rfl -
      exact hc (Option.some.inj h).symm

theorem head?_of_readString {s t : List Char} {v : String} (h : readString s = some (v, t)) :
    s.head? = some '"' := by
  unfold readString at h
  split at h
  · rfl
  · cases h

theorem readString_skip_append {s t : List Char} {v : String}
    (h : readString (skip .space s) = some (v, t)) (u : List Char) :
    readString (skip .space (s ++ u)) = some (v, t ++ u) := by
  rw [skip_append (head?_of_readString h) (by decide), readString_append h]

theorem readItems_append {s t : List Char} {vs : List String} (h : readItems s = some (vs, t))
    (u : List Char) : readItems (s ++ u) = some (vs, t ++ u) := by
  fun_induction readItems s generalizing vs t with
  | case1 => cases h
  | case2 s v rest hv hcomma ih =>
      obtain ⟨⟨vs', t'⟩, hitems, he⟩ := Option.map_eq_some_iff.mp h
      cases he
      have hrest := skip_append hcomma (by decide) u
      obtain ⟨r, hr⟩ := List.head?_eq_some_iff.mp hcomma
      rw [hr, List.tail_cons] at ih hitems
      rw [readItems, readString_skip_append hv u]
      dsimp only
      rw [hrest, hr, List.cons_append, List.head?_cons, if_pos rfl, List.tail_cons, ih hitems,
        Option.map_some]
  | case3 s v rest hv _ hend =>
      cases h
      have hrest := skip_append hend (by decide) u
      obtain ⟨r, hr⟩ := List.head?_eq_some_iff.mp hend
      rw [readItems, readString_skip_append hv u]
      dsimp only
      rw [hrest, hr, List.cons_append, List.head?_cons, if_neg (by decide), if_pos rfl,
        List.tail_cons, List.tail_cons]
  | case4 => cases h

theorem head?_of_readItems {s t : List Char} {vs : List String} (h : readItems s = some (vs, t)) :
    (skip .space s).head? = some '"' := by
  rw [readItems] at h
  split at h
  · cases h
  · rename_i hv
    exact head?_of_readString hv

/-- **A list is read to its end**, and what follows it is left. -/
theorem readStrings_append {s t : List Char} {vs : List String} (h : readStrings s = some (vs, t))
    (u : List Char) : readStrings (s ++ u) = some (vs, t ++ u) := by
  rw [readStrings] at h ⊢
  split at h
  · rename_i hopen
    have hs := skip_append hopen (by decide) u
    obtain ⟨r, hr⟩ := List.head?_eq_some_iff.mp hopen
    rw [hr, List.tail_cons] at h
    rw [hs, hr, List.cons_append, List.head?_cons, if_pos rfl, List.tail_cons]
    split at h
    · rename_i hend
      cases h
      obtain ⟨r', hr'⟩ := List.head?_eq_some_iff.mp hend
      rw [skip_append hend (by decide), hr', List.cons_append, List.head?_cons, if_pos rfl,
        List.tail_cons, List.tail_cons]
    · have hquote := head?_of_readItems h
      obtain ⟨r', hr'⟩ := List.head?_eq_some_iff.mp hquote
      rw [skip_append hquote (by decide), hr', List.cons_append, List.head?_cons,
        if_neg (by decide), readItems_append h]
  · obtain ⟨⟨v, t'⟩, hv, he⟩ := Option.map_eq_some_iff.mp h
    cases he
    have hquote := head?_of_readString hv
    obtain ⟨r, hr⟩ := List.head?_eq_some_iff.mp hquote
    rw [readString_skip_append hv, skip_append hquote (by decide), hr, List.cons_append,
      List.head?_cons, if_neg (by decide), Option.map_some]

/-! ### One meaning -/

section

variable {α : Type} {read : List Char → Option (α × List Char)}

/-- What is read as what was written is written in one way for each value. -/
theorem injective_of_read {write : α → List Char} (h : ∀ x, read (write x) = some (x, [])) :
    Function.Injective write := by
  intro x y hxy
  have hx := h x
  rw [hxy, h y] at hx
  exact (congrArg Prod.fst (Option.some.inj hx)).symm

/-- What a reader takes off a text and finishes with, it does not find in less of the text. -/
theorem eq_none_of_proper
    (hread : ∀ {s t : List Char} {x : α}, read s = some (x, t) →
      ∀ u, read (s ++ u) = some (x, t ++ u))
    {x : α} {s u : List Char} (h : read (s ++ u) = some (x, [])) (hu : u ≠ []) : read s = none := by
  cases hs : read s with
  | none => rfl
  | some p =>
      obtain ⟨y, t⟩ := p
      rw [hread hs u] at h
      have hnil : t ++ u = [] := congrArg Prod.snd (Option.some.inj h)
      exact absurd (List.append_eq_nil_iff.mp hnil).2 hu

end

/-- **Quoting can be undone in any context.**  A string list that is written is read as its strings, and
a quoted string as the string, on its own or as a list, and the text behind is left as it is.  So
different strings and lists are written in different ways; and nothing that stands in a string ends it,
or the list it is in, before its end. -/
theorem quoting_undone :
    (∀ (vs : List String) (t : List Char), readStrings (stringList vs ++ t) = some (vs, t)) ∧
      (∀ (v : String) (t : List Char),
        readString (quote v ++ t) = some (v, t) ∧ readStrings (quote v ++ t) = some ([v], t)) ∧
      (Function.Injective quote ∧ Function.Injective stringList) ∧
      (∀ (v : String) (s t : List Char), quote v = s ++ t → t ≠ [] → readString s = none) ∧
      ∀ (vs : List String) (s t : List Char),
        stringList vs = s ++ t → t ≠ [] → readStrings s = none := by
  have hquote (v : String) : readString (quote v) = some (v, []) := by
    simpa using readString_quote v []
  have hlist (vs : List String) : readStrings (stringList vs) = some (vs, []) := by
    simpa using readStrings_stringList vs []
  refine ⟨readStrings_stringList, fun v t => ⟨readString_quote v t, readStrings_quote v t⟩,
    ⟨injective_of_read hquote, injective_of_read hlist⟩, ?_, ?_⟩
  · intro v s t h ht
    exact eq_none_of_proper readString_append (h ▸ hquote v) ht
  · intro vs s t h ht
    exact eq_none_of_proper readStrings_append (h ▸ hlist vs) ht

/-- A backslash at the end of a string, and a quotation mark with the end of a list behind it. -/
theorem quoting_undone_backslash :
    readStrings (stringList ["a\\", "\"],[\""] ++ "]\"".toList) = some (["a\\", "\"],[\""], "]\"".toList) ∧
      quote "a\\" = "\"a\\\\".toList ++ ['"'] ∧ ['"'] ≠ [] ∧
      readString "\"a\\\\".toList = none ∧
      stringList ["\"]"] = "[\"\\\"]\"".toList ++ [']'] ∧ [']'] ≠ [] ∧
      readStrings "[\"\\\"]\"".toList = none := by
  obtain ⟨hlist, -, -, hstring, hstrings⟩ := quoting_undone
  have hquote : quote "a\\" = "\"a\\\\".toList ++ ['"'] := by decide
  have hclosed : stringList ["\"]"] = "[\"\\\"]\"".toList ++ [']'] := by decide
  exact ⟨hlist _ _, hquote, by decide, hstring _ _ _ hquote (by decide), hclosed, by decide,
    hstrings _ _ _ hclosed (by decide)⟩

end FolderSieve.Sieve
