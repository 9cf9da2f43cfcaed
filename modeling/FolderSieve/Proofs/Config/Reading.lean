import FolderSieve.Config.Node
import Mathlib.Data.List.Forall2

/-!
# Configuration — what is read

When reading succeeds, and with what result: combinators of readings first, then texts, labels and
the names of a folder map.

* `Checked.both_eq_ok_iff`, `mapM_eq_ok_iff`, `mapM_eq_error_iff`: readings put together.
* `OneOrMany.read_eq_ok_iff`, `Node.readLabels_eq_ok_iff`: the value that is read, from the result.
-/

namespace FolderSieve

namespace Config

open Json (Members Value)

theorem map_eq_ok_iff {ε α β : Type} {f : α → β} {x : Except ε α} {b : β} :
    x.map f = .ok b ↔ ∃ a, x = .ok a ∧ f a = b := by
  cases x <;> simp [Except.map]

theorem map_eq_error_iff {ε α β : Type} {f : α → β} {x : Except ε α} {e : ε} :
    x.map f = .error e ↔ x = .error e := by
  cases x <;> simp [Except.map]

theorem mapError_eq_ok_iff {ε ε' α : Type} {f : ε → ε'} {x : Except ε α} {a : α} :
    x.mapError f = .ok a ↔ x = .ok a := by
  cases x <;> simp [Except.mapError]

theorem bind_eq_ok_iff {ε α β : Type} {f : α → Except ε β} {x : Except ε α} {b : β} :
    x.bind f = .ok b ↔ ∃ a, x = .ok a ∧ f a = .ok b := by
  cases x <;> simp [Except.bind]

theorem exists_of_isOk {ε α : Type} {x : Except ε α} (h : x.isOk = true) : ∃ a, x = .ok a := by
  cases x with
  | error e => cases h
  | ok a => exact ⟨a, rfl⟩

theorem mapM_eq_ok_iff {ε α β : Type} {f : α → Except ε β} {l : List α} {bs : List β} :
    l.mapM f = .ok bs ↔ List.Forall₂ (fun a b => f a = .ok b) l bs := by
  induction l generalizing bs with
  | nil => simp [pure, Except.pure, eq_comm]
  | cons a l ih =>
      rw [List.mapM_cons, List.forall₂_cons_left_iff]
      constructor
      · intro h
        obtain ⟨b, hb, h⟩ := bind_eq_ok_iff.mp h
        obtain ⟨bs', hbs, h⟩ := bind_eq_ok_iff.mp h
        cases h
        exact ⟨b, bs', hb, ih.mp hbs, rfl⟩
      · rintro ⟨b, bs', hb, hbs, rfl⟩
        exact bind_eq_ok_iff.mpr ⟨b, hb, bind_eq_ok_iff.mpr ⟨bs', ih.mpr hbs, rfl⟩⟩

theorem bind_eq_error_iff {ε α β : Type} {f : α → Except ε β} {x : Except ε α} {e : ε} :
    x.bind f = .error e ↔ x = .error e ∨ ∃ a, x = .ok a ∧ f a = .error e := by
  cases x <;> simp [Except.bind]

/-- The error of a row is that of the first element that has one. -/
theorem mapM_eq_error_iff {ε α β : Type} {f : α → Except ε β} {l : List α} {e : ε} :
    l.mapM f = .error e ↔ ∃ before a after,
      l = before ++ a :: after ∧ (∀ b ∈ before, ∃ c, f b = .ok c) ∧ f a = .error e := by
  induction l with
  | nil => simp [pure, Except.pure]
  | cons a l ih =>
      rw [List.mapM_cons]
      constructor
      · intro h
        rcases bind_eq_error_iff.mp h with h | ⟨b, hb, h⟩
        · exact ⟨[], a, l, rfl, by simp, h⟩
        rcases bind_eq_error_iff.mp h with h | ⟨bs, -, h⟩
        · obtain ⟨before, a', after, rfl, hok, he⟩ := ih.mp h
          exact ⟨a :: before, a', after, rfl, List.forall_mem_cons.mpr ⟨⟨b, hb⟩, hok⟩, he⟩
        · cases h
      · rintro ⟨before, a', after, hl, hok, he⟩
        cases before with
        | nil =>
            obtain ⟨rfl, rfl⟩ := List.cons.inj hl
            exact bind_eq_error_iff.mpr (.inl he)
        | cons b before =>
            obtain ⟨rfl, rfl⟩ := List.cons.inj hl
            obtain ⟨⟨c, hc⟩, hok⟩ := List.forall_mem_cons.mp hok
            exact bind_eq_error_iff.mpr (.inr ⟨c, hc, bind_eq_error_iff.mpr
              (.inl (ih.mpr ⟨before, a', after, rfl, hok, he⟩))⟩)

theorem exists_eq_error_of_mapM {ε α β : Type} {f : α → Except ε β} {l : List α} {e : ε}
    (h : l.mapM f = .error e) : ∃ a ∈ l, f a = .error e := by
  obtain ⟨before, a, after, rfl, -, he⟩ := mapM_eq_error_iff.mp h
  exact ⟨a, by simp, he⟩

namespace Checked

theorem under_eq_ok_iff {α : Type} {step : Step} {x : Checked α} {a : α} :
    x.under step = .ok a ↔ x = .ok a :=
  mapError_eq_ok_iff

theorem both_eq_ok_iff {α β γ : Type} {f : α → β → γ} {x : Checked α} {y : Checked β} {c : γ} :
    x.both f y = .ok c ↔ ∃ a b, x = .ok a ∧ y = .ok b ∧ f a b = c := by
  cases x <;> cases y <;> simp [both]

end Checked

/-! ### Texts -/

namespace OneOrMany

/-- None of the texts has a control character. -/
def Printable (x : OneOrMany) : Prop :=
  ∀ t ∈ x.toList, Text.hasControl t = false

/-- The texts as a value. -/
def json : OneOrMany → Value
  | .one text => .string text
  | .many texts => .array (texts.map .string)

theorem json_injective : Function.Injective json := by
  have hstring : Function.Injective Value.string := fun _ _ h => Value.string.inj h
  rintro (s | ss) (t | ts) h
  · rw [Value.string.inj h]
  · cases h
  · cases h
  · rw [List.map_injective_iff.mpr hstring (Value.array.inj h)]

theorem readText_eq_ok_iff {v : Value} {s : String} :
    readText v = .ok s ↔ v = .string s ∧ Text.hasControl s = false := by
  cases v with
  | string t =>
      by_cases ht : Text.hasControl t = true
      · simp [readText, ht]
        rintro rfl
        exact ht
      · simp [readText, ht]
        rintro rfl
        simpa using ht
  | _ => simp [readText]

theorem readTexts_eq_ok_iff {i : Nat} {vs : List Value} {ts : List String} :
    readTexts i vs = .ok ts ↔ vs = ts.map .string ∧ ∀ t ∈ ts, Text.hasControl t = false := by
  induction vs generalizing i ts with
  | nil => cases ts <;> simp [readTexts]
  | cons v vs ih =>
      rw [readTexts, Checked.both_eq_ok_iff]
      simp only [Checked.under_eq_ok_iff, readText_eq_ok_iff, ih]
      constructor
      · rintro ⟨t, ts, ⟨rfl, ht⟩, ⟨rfl, hts⟩, rfl⟩
        exact ⟨rfl, List.forall_mem_cons.mpr ⟨ht, hts⟩⟩
      · rintro ⟨h, hts⟩
        cases ts with
        | nil => cases h
        | cons t ts =>
            obtain ⟨rfl, rfl⟩ := List.cons.inj h
            obtain ⟨ht, hts⟩ := List.forall_mem_cons.mp hts
            exact ⟨t, ts, ⟨rfl, ht⟩, ⟨rfl, hts⟩, rfl⟩

theorem readMany_eq_ok_iff {v : Value} {ts : List String} :
    readMany v = .ok ts ↔ v = (many ts).json ∧ (many ts).Printable := by
  cases v with
  | array items => simp [readMany, readTexts_eq_ok_iff, json, Printable, toList]
  | _ => simp [readMany, json]

/-- **Texts are read** exactly from the value that they are, if none has a control character. -/
theorem read_eq_ok_iff {v : Value} {x : OneOrMany} :
    read v = .ok x ↔ x.Printable ∧ v = x.json := by
  have hone (s : String) : readText v = .ok s ↔ v = (one s).json ∧ (one s).Printable := by
    simp [readText_eq_ok_iff, json, Printable, toList]
  constructor
  · intro h
    unfold read at h
    split at h
    · rename_i ht
      cases h
      exact ((hone _).mp (Checked.under_eq_ok_iff.mp ht)).symm
    · split at h
      · rename_i hts
        cases h
        exact (readMany_eq_ok_iff.mp (Checked.under_eq_ok_iff.mp hts)).symm
      · cases h
  · rintro ⟨hx, rfl⟩
    cases x with
    | one s =>
        have hs : readText (one s).json = .ok s := readText_eq_ok_iff.mpr ⟨rfl, by
          simpa [Printable, toList] using hx⟩
        rw [read, Checked.under_eq_ok_iff.mpr hs]
    | many ts =>
        have hts : readMany (many ts).json = .ok ts := readMany_eq_ok_iff.mpr ⟨rfl, hx⟩
        have hnone : (readText (many ts).json).under oneStep = .error ⟨.notString, [oneStep]⟩ := rfl
        rw [read, hnone, Checked.under_eq_ok_iff.mpr hts]

end OneOrMany

/-! ### Labels and names -/

namespace Node

/-- No label has a control character in its name or in a keyword. -/
def PrintableLabels (labels : Option Labels) : Prop :=
  ∀ ls, labels = some ls → ∀ l ∈ ls, Text.hasControl l.1 = false ∧ l.2.Printable

/-- Labels as the members of an object. -/
def labelMembers (labels : Labels) : Members :=
  labels.map fun l => (l.1, l.2.json)

theorem labelMembers_injective : Function.Injective labelMembers := by
  refine List.map_injective_iff.mpr fun l l' h => ?_
  obtain ⟨hname, hx⟩ := Prod.mk.inj h
  exact Prod.ext hname (OneOrMany.json_injective hx)

theorem readLabels_eq_ok_iff {ms : Members} {labels : Labels} :
    readLabels ms = .ok labels ↔
      ms = labelMembers labels ∧ ∀ l ∈ labels, Text.hasControl l.1 = false ∧ l.2.Printable := by
  induction ms generalizing labels with
  | nil => cases labels <;> simp [readLabels, labelMembers]
  | cons m ms ih =>
      obtain ⟨name, v⟩ := m
      rw [readLabels, Checked.both_eq_ok_iff]
      simp only [Checked.under_eq_ok_iff, Checked.both_eq_ok_iff, OneOrMany.readText_eq_ok_iff,
        OneOrMany.read_eq_ok_iff, ih]
      constructor
      · rintro ⟨_, ls, ⟨_, x, ⟨⟨⟩, hn⟩, ⟨hx, rfl⟩, rfl⟩, ⟨rfl, hls⟩, rfl⟩
        exact ⟨rfl, List.forall_mem_cons.mpr ⟨⟨hn, hx⟩, hls⟩⟩
      · rintro ⟨h, hl⟩
        cases labels with
        | nil => cases h
        | cons l ls =>
            obtain ⟨hm, rfl⟩ := List.cons.inj h
            obtain ⟨rfl, rfl⟩ := Prod.mk.inj hm
            obtain ⟨⟨hn, hx⟩, hls⟩ := List.forall_mem_cons.mp hl
            exact ⟨l, ls, ⟨l.1, l.2, ⟨rfl, hn⟩, ⟨hx, rfl⟩, rfl⟩, ⟨rfl, hls⟩, rfl⟩

theorem checkNames_eq_ok_iff {path : String} {ms : Members} :
    checkNames path ms = .ok () ↔ ∀ m ∈ ms, Text.hasControl m.1 = false := by
  unfold checkNames
  cases h : ms.find? fun m => Text.hasControl m.1 with
  | none => simpa using List.find?_eq_none.mp h
  | some m =>
      have hm := List.mem_of_find?_eq_some h
      have hc : Text.hasControl m.1 = true := by simpa using List.find?_some h
      simpa using ⟨m.1, ⟨m.2, hm⟩, hc⟩

end Node

end Config

end FolderSieve
