import FolderSieve.Options

/-!
# Options — rows of overrides

The overrides on the way to a folder stand in a row, the outermost first.  Each may be settled with
what those before it come to, or all of them may be put together first and settled once.

* `Override.get?_maskWith`, `Options.get_resolve`: both ways go option by option, and what is written
  for one option plays no part in another.
* `Override.maskWith_assoc`, `Override.resolve_maskWith`: to put overrides together is associative,
  and an override with a mask settles as the override and then the mask.
* `Options.below_eq_resolve_flatten`: the two ways come to the same options.
* `Override.get?_flatten_eq_some_iff`: what is put together has the last value that is written for an
  option.  That the value may be false is not that the option is open.
* `Options.below_row`: what holds below a row of overrides.
-/

namespace FolderSieve

/-- The names of the options. -/
inductive OptionName where
  | generic
  | fullpath
  | silent
  deriving DecidableEq, Repr

/-- The value of an option. -/
def Options.get (p : Options) : OptionName → Bool
  | .generic => p.generic
  | .fullpath => p.fullpath
  | .silent => p.silent

/-- What is written for an option, if it is not left open. -/
def Override.get? (o : Override) : OptionName → Option Bool
  | .generic => o.generic
  | .fullpath => o.fullpath
  | .silent => o.silent

namespace Override

theorem get?_injective {a b : Override} (h : ∀ name, a.get? name = b.get? name) : a = b := by
  obtain ⟨g, f, s⟩ := a
  obtain rfl : g = b.generic := h .generic
  obtain rfl : f = b.fullpath := h .fullpath
  obtain rfl : s = b.silent := h .silent
  rfl

@[simp] theorem get?_empty (name : OptionName) : get? {} name = none := by
  cases name <;> rfl

@[simp] theorem get?_maskWith (o mask : Override) (name : OptionName) :
    (o.maskWith mask).get? name = (mask.get? name).or (o.get? name) := by
  cases name <;> rfl

end Override

namespace Options

theorem get_injective {p q : Options} (h : ∀ name, p.get name = q.get name) : p = q := by
  obtain ⟨g, f, s⟩ := p
  obtain rfl : g = q.generic := h .generic
  obtain rfl : f = q.fullpath := h .fullpath
  obtain rfl : s = q.silent := h .silent
  rfl

@[simp] theorem get_resolve (o : Override) (parent : Options) (name : OptionName) :
    (o.resolve parent).get name = (o.get? name).getD (parent.get name) := by
  cases name <;> rfl

end Options

namespace Override

/-! ### Overrides put together -/

theorem maskWith_assoc (a b c : Override) :
    (a.maskWith b).maskWith c = a.maskWith (b.maskWith c) :=
  get?_injective fun name => by simp only [get?_maskWith, Option.or_assoc]

@[simp] theorem empty_maskWith (mask : Override) : maskWith {} mask = mask :=
  get?_injective fun name => by simp

@[simp] theorem maskWith_empty (o : Override) : o.maskWith {} = o :=
  get?_injective fun name => by simp

@[simp] theorem resolve_empty (parent : Options) : resolve {} parent = parent :=
  Options.get_injective fun name => by simp

/-- **An override with a mask** settles as the override, and then the mask below it. -/
theorem resolve_maskWith (o mask : Override) (parent : Options) :
    (o.maskWith mask).resolve parent = mask.resolve (o.resolve parent) := by
  refine Options.get_injective fun name => ?_
  simp only [Options.get_resolve, get?_maskWith]
  cases mask.get? name <;> rfl

instance : Std.Associative maskWith :=
  ⟨maskWith_assoc⟩

/-- The outermost override comes under what is put together from the rest. -/
theorem flatten_cons (o : Override) (os : List Override) :
    flatten (o :: os) = o.maskWith (flatten os) := by
  have ho : maskWith {} o = o.maskWith {} := by rw [empty_maskWith, maskWith_empty]
  rw [flatten, List.foldl_cons, ho, List.foldl_assoc]
  rfl

/-- The values that are written for an option are looked through from the last override on. -/
theorem get?_flatten (os : List Override) (name : OptionName) :
    (flatten os).get? name = os.reverse.findSome? fun o => o.get? name := by
  induction os with
  | nil => exact get?_empty name
  | cons o os ih =>
      rw [flatten_cons, get?_maskWith, ih, List.reverse_cons, List.findSome?_append,
        List.findSome?_singleton]

/-- **The last value that is written** for an option is the one that a row has. -/
theorem get?_flatten_eq_some_iff {os : List Override} {name : OptionName} {b : Bool} :
    (flatten os).get? name = some b ↔ ∃ before o after, os = before ++ o :: after ∧
      o.get? name = some b ∧ ∀ p ∈ after, p.get? name = none := by
  rw [get?_flatten, List.findSome?_eq_some_iff]
  constructor
  · rintro ⟨after, o, before, h, ho, hafter⟩
    refine ⟨before.reverse, o, after.reverse, ?_, ho, fun p hp => hafter p (by simpa using hp)⟩
    simpa using congrArg List.reverse h
  · rintro ⟨before, o, after, rfl, ho, hafter⟩
    exact ⟨after.reverse, o, before.reverse, by simp, ho, fun p hp => hafter p (by simpa using hp)⟩

theorem get?_flatten_eq_none_iff {os : List Override} {name : OptionName} :
    (flatten os).get? name = none ↔ ∀ o ∈ os, o.get? name = none := by
  simp [get?_flatten]

end Override

namespace Options

/-! ### Overrides one by one -/

/-- The options below a row of overrides: each override is settled with what those before it come
to, the first with the options of the folder around them all. -/
def below (parent : Options) (os : List Override) : Options :=
  os.foldl (fun options o => o.resolve options) parent

/-- **One by one or together**, a row of overrides settles to the same options. -/
theorem below_eq_resolve_flatten (parent : Options) (os : List Override) :
    parent.below os = (Override.flatten os).resolve parent := by
  induction os generalizing parent with
  | nil => exact (Override.resolve_empty parent).symm
  | cons o os ih =>
      calc parent.below (o :: os)
        _ = (o.resolve parent).below os := rfl
        _ = (Override.flatten os).resolve (o.resolve parent) := ih _
        _ = (o.maskWith (Override.flatten os)).resolve parent :=
            (Override.resolve_maskWith o _ parent).symm
        _ = (Override.flatten (o :: os)).resolve parent := by rw [Override.flatten_cons]

/-- **What holds below a row of overrides** of any length, in a folder whose options are settled: it
is the same whether they are settled one by one or put together first, and each option has the last
value that is written for it, be it true or false, or the value it had if none of them writes one. -/
theorem below_row (parent : Options) (os : List Override) :
    parent.below os = (Override.flatten os).resolve parent ∧
      ∀ (name : OptionName) (b : Bool), (parent.below os).get name = b ↔
        (∃ before o after, os = before ++ o :: after ∧ o.get? name = some b ∧
          ∀ p ∈ after, p.get? name = none) ∨
        (∀ o ∈ os, o.get? name = none) ∧ parent.get name = b := by
  refine ⟨below_eq_resolve_flatten parent os, fun name b => ?_⟩
  rw [below_eq_resolve_flatten, get_resolve, ← Override.get?_flatten_eq_some_iff,
    ← Override.get?_flatten_eq_none_iff]
  cases (Override.flatten os).get? name <;> simp

/-- The last override writes that `silent` is false, which is more than to leave it open. -/
example :
    root.below [{ silent := some true }, { generic := some false },
      { fullpath := some true, silent := some false }] = ⟨false, true, false⟩ := by
  rfl

end Options

end FolderSieve
