import Keypad.Lexeme

/-!
The lists of lexemes that a text can fall into.

A scan has no choice: a hyphen where a sign may stand is a sign, and a numeral
goes on as long as it can.  So some lists never come out of a scan, although
their characters, side by side, make up a text.

Owns: which lexeme may follow which, and the admissible lists.
-/

namespace Keypad.Lexeme

/-- A sign may stand after the lexeme before, and at the start. -/
def signMayFollow (previous : Option Lexeme) : Bool :=
  previous.all allowsSign

/-- The second of two adjacent numerals starts with a point and the first has
one already; otherwise they would be one numeral. -/
def splitsAfter (previous : Option Lexeme) (written : Numeral) : Prop :=
  match previous with
  | some (.numeral first) => first.fraction.isSome ∧ written.whole = []
  | _ => True

instance (previous : Option Lexeme) (written : Numeral) :
    Decidable (splitsAfter previous written) := by
  unfold splitsAfter
  split <;> infer_instance

/-- A lexeme may follow another one, or start a list. -/
def MayFollow (previous : Option Lexeme) : Lexeme → Prop
  | .numeral written =>
      written.WellFormed ∧
        (written.negative → signMayFollow previous) ∧
        splitsAfter previous written
  | .operator op => op = .sub → ¬ signMayFollow previous
  | .opening => True
  | .closing => True

def AdmissibleAfter (previous : Option Lexeme) : List Lexeme → Prop
  | [] => True
  | lexeme :: later =>
      MayFollow previous lexeme ∧ AdmissibleAfter (some lexeme) later

def Admissible (lexemes : List Lexeme) : Prop :=
  AdmissibleAfter none lexemes

theorem admissibleAfter_cons
    (previous : Option Lexeme)
    (lexeme : Lexeme)
    (later : List Lexeme) :
    AdmissibleAfter previous (lexeme :: later) ↔
      MayFollow previous lexeme ∧ AdmissibleAfter (some lexeme) later :=
  Iff.rfl

/-- The start of an admissible list is admissible. -/
theorem AdmissibleAfter.of_append
    {previous : Option Lexeme}
    {front back : List Lexeme}
    (admissible : AdmissibleAfter previous (front ++ back)) :
    AdmissibleAfter previous front := by
  induction front generalizing previous with
  | nil => trivial
  | cons lexeme front inductionHypothesis =>
      exact ⟨admissible.1, inductionHypothesis admissible.2⟩

end Keypad.Lexeme
