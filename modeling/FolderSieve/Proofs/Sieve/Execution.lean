import FolderSieve.Proofs.Sieve.Row

/-!
# Sieve — what a script does with a message

A script performs actions, one after the other.  Of a chain it runs one block: that of the first
branch whose test the message passes, or what stands behind `else` if it passes none.  Which pattern
matches which localpart, and what the headers of a message hold, is left open.

* `Message.passes_phrase`: when a message passes a test that commands ask for.
* `performRow_chain`: a chain does what the first branch does that is open to the message, or what
  stands behind the `else` if it has one.
-/

namespace FolderSieve.Sieve

/-- A message, as far as tests can tell. -/
structure Message where
  /-- What stands before the at sign of the recipient. -/
  localpart : String
  /-- The recipient's domain is the given one. -/
  sentTo (domain : String) : Bool
  /-- A header of the given name contains the text. -/
  mentions (header text : String) : Bool

namespace Message

variable (matching : String → String → Bool) (m : Message)

/-- The message passes a test; `matching` says which pattern matches which localpart.  Of several
patterns, headers or keywords one is enough.  What is no test of these forms is passed by none. -/
def passes (p : Phrase) : Bool :=
  match p.name, p.arguments with
  | "envelope", [.tag "localpart", .tag "matches", .text "to", .list patterns] =>
      patterns.any fun pattern => matching pattern m.localpart
  | "envelope", [.tag "domain", .tag "is", .text "to", .text domain] => m.sentTo domain
  | "header", [.tag "contains", .list headers, .list keywords] =>
      headers.any fun header => keywords.any (m.mentions header)
  | _, _ => false

/-- One of the headers that labels look at contains the keyword. -/
def holds (keyword : String) : Bool :=
  labelHeaders.any fun header => m.mentions header keyword

/-- The message passes a test of a command. -/
def answers : Test → Bool
  | .headerContains keywords => keywords.any m.holds
  | .localpartMatches patterns => patterns.any fun pattern => matching pattern m.localpart
  | .domainIs domain => m.sentTo domain

theorem phrase_headerContains (f : String → String) (keywords : List String) :
    (Test.headerContains keywords).phrase f = (Test.headerContains (keywords.map f)).phrase id := by
  simp [Test.phrase]

theorem passes_phrase (t : Test) : m.passes matching (t.phrase id) = m.answers matching t := by
  cases t with
  | headerContains keywords =>
      -- whether headers or keywords are gone through first makes no difference
      have hp : m.passes matching ((Test.headerContains keywords).phrase id) =
          labelHeaders.any fun header => keywords.any (m.mentions header) := by
        simp [passes, Test.phrase]
      rw [hp, answers, Bool.eq_iff_iff]
      simp only [holds, List.any_eq_true]
      constructor
      · rintro ⟨h, hh, k, hk, hm⟩
        exact ⟨k, hk, h, hh, hm⟩
      · rintro ⟨k, hk, h, hh, hm⟩
        exact ⟨h, hh, k, hk, hm⟩
  | localpartMatches patterns => simp [passes, answers, Test.phrase]
  | domainIs domain => simp [passes, answers, Test.phrase]

end Message

/-! ### Performed actions -/

section Perform

variable (passes : Phrase → Bool)

mutual

/-- The actions that a statement performs, if `passes` says how tests turn out. -/
def Statement.perform : Statement → List Phrase
  | .action p => [p]
  | .chain arms otherwise => (performArms arms).getD (performOtherwise otherwise)

/-- The actions that statements perform, one after the other. -/
def performRow : List Statement → List Phrase
  | [] => []
  | s :: ss => s.perform ++ performRow ss

/-- The actions of the first branch whose test is passed, if there is one. -/
def performArms : List Arm → Option (List Phrase)
  | [] => none
  | (test, body) :: arms => if passes test then some (performRow body) else performArms arms

def performOtherwise : Option (List Statement) → List Phrase
  | none => []
  | some body => performRow body

end

variable {passes}

@[simp] theorem performRow_append (ss ts : List Statement) :
    performRow passes (ss ++ ts) = performRow passes ss ++ performRow passes ts := by
  induction ss with
  | nil => rfl
  | cons s ss ih => simp [performRow, ih]

theorem performArms_eq_find? (arms : List Arm) :
    performArms passes arms =
      (arms.find? fun a => passes a.1).map fun a => performRow passes a.2 := by
  induction arms with
  | nil => rfl
  | cons a arms ih =>
      obtain ⟨test, body⟩ := a
      by_cases h : passes test = true
      · simp [performArms, h]
      · simp [performArms, h, ih]

/-- **A chain** does what the first branch does that is open to the message, or what stands behind
the `else` if it has one. -/
theorem performRow_chain (arms : List Arm) (otherwise : Option (List Statement)) :
    performRow passes [.chain arms otherwise] =
      match arms.find? fun a => passes a.1 with
      | some a => performRow passes a.2
      | none => performOtherwise passes otherwise := by
  rw [performRow, Statement.perform, performArms_eq_find?]
  cases arms.find? fun a => passes a.1 with
  | none => simp [performRow]
  | some a => simp [performRow]

end Perform

/-! ### Written actions -/

mutual

/-- The actions that stand in a statement, whether they are performed or not. -/
def Statement.actions : Statement → List Phrase
  | .action p => [p]
  | .chain arms otherwise => armActions arms ++ otherwiseActions otherwise

def rowActions : List Statement → List Phrase
  | [] => []
  | s :: ss => s.actions ++ rowActions ss

def armActions : List Arm → List Phrase
  | [] => []
  | (_, body) :: arms => rowActions body ++ armActions arms

def otherwiseActions : Option (List Statement) → List Phrase
  | none => []
  | some body => rowActions body

end

end FolderSieve.Sieve
