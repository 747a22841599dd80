import Keypad.Proofs.Lexeme.Scan

/-!
Where a failing scan stops.

A scan that fails has read lexemes up to the place that its fault names.  What
stands there is a numeral without a digit, or a character that belongs to no
lexeme.

Owns: that place, what stands there, and what was read before.

Main statement: `ofText_eq_error_iff`.
-/

namespace Keypad.Lexeme

/-- A scan cannot read on here: why, and with which fault. -/
inductive StopsAt (signAllowed : Bool) (position : Nat) : Text → Fault → Prop where
  | numeral
      {text behind : Text}
      {written : Numeral}
      (found : numeral? signAllowed text = some (written, behind))
      (noDigit : ¬ written.HasDigit) :
      StopsAt signAllowed position text (.invalidNumber written.text position)
  | character
      {first : Char}
      {behind : Text}
      (noNumeral : numeral? signAllowed (first :: behind) = none)
      (noLexeme : ofChar? first = none) :
      StopsAt signAllowed position (first :: behind)
        (.invalidCharacter first position)

private theorem scan_of_bind
    {position : Nat}
    {signAllowed : Bool}
    {text : Text}
    {lexeme : Lexeme}
    {fault : Fault}
    (failed :
      (scan position signAllowed text >>= fun later => .ok (lexeme :: later)) =
        .error fault) :
    scan position signAllowed text = .error fault := by
  rcases error_of_bind failed with scanFailed | ⟨later, _, impossible⟩
  · exact scanFailed
  · contradiction

private theorem StopsAt.scan
    {signAllowed : Bool}
    {position : Nat}
    {rest : Text}
    {fault : Fault}
    (stops : StopsAt signAllowed position rest fault) :
    scan position signAllowed rest = .error fault := by
  cases stops with
  | numeral found noDigit => rw [scan_of_numeral position found, if_neg noDigit]
  | character noNumeral noLexeme => rw [scan_of_char position _ noNumeral, noLexeme]

/-- The lexemes before the stop are read, and the position of the fault counts
their characters. -/
theorem scan_eq_error
    {position : Nat}
    {previous : Option Lexeme}
    {text : Text}
    {fault : Fault}
    (cut : CutAfter previous text)
    (failed : scan position (signMayFollow previous) text = .error fault) :
    ∃ lexemes rest, text = spelling lexemes ++ rest ∧
      AdmissibleAfter previous lexemes ∧ CutAfter (lastOf previous lexemes) rest ∧
      StopsAt (signMayFollow (lastOf previous lexemes))
        (position + (spelling lexemes).length) rest fault := by
  generalize allowed : signMayFollow previous = signAllowed at failed
  induction position, signAllowed, text using scan.induct generalizing previous with
  | case1 position signAllowed text written rest found hasDigit inductionHypothesis =>
      subst allowed
      rw [scan_of_numeral position found, if_pos hasDigit] at failed
      obtain ⟨rfl, mayFollow, nextCut⟩ := mayFollow_of_numeral? cut found hasDigit
      obtain ⟨lexemes, rest, rfl, admissible, laterCut, stops⟩ :=
        inductionHypothesis nextCut rfl (scan_of_bind failed)
      refine ⟨.numeral written :: lexemes, rest, ?_, ⟨mayFollow, admissible⟩, ?_, ?_⟩
      · rw [spelling_cons, List.append_assoc]
        rfl
      · rwa [lastOf_cons]
      · rw [lastOf_cons, spelling_cons, List.length_append, ← Nat.add_assoc]
        exact stops
  | case2 position signAllowed text written rest found noDigit =>
      subst allowed
      rw [scan_of_numeral position found, if_neg noDigit] at failed
      cases failed
      exact ⟨[], text, rfl, trivial, cut, .numeral found noDigit⟩
  | case3 position signAllowed noNumeral =>
      rw [scan_nil] at failed
      contradiction
  | case4 position signAllowed first rest noNumeral lexeme isLexeme inductionHypothesis =>
      subst allowed
      rw [scan_of_char position rest noNumeral, isLexeme] at failed
      obtain ⟨single, mayFollow, nextCut⟩ := mayFollow_of_ofChar? noNumeral isLexeme
      obtain ⟨lexemes, rest, rfl, admissible, laterCut, stops⟩ :=
        inductionHypothesis nextCut rfl (scan_of_bind failed)
      refine ⟨lexeme :: lexemes, rest, ?_, ⟨mayFollow, admissible⟩, ?_, ?_⟩
      · rw [spelling_cons, single]
        rfl
      · rwa [lastOf_cons]
      · rw [lastOf_cons, spelling_cons, single, List.length_append, ← Nat.add_assoc]
        exact stops
  | case5 position signAllowed first rest noNumeral noLexeme =>
      subst allowed
      rw [scan_of_char position rest noNumeral, noLexeme] at failed
      cases failed
      exact ⟨[], first :: rest, rfl, trivial, cut, .character noNumeral noLexeme⟩

/-- A text is read up to a place where it cannot be read on. -/
structure Breaks (text : Text) (lexemes : List Lexeme) (rest : Text) (fault : Fault) :
    Prop where
  split : text = spelling lexemes ++ rest
  admissible : Admissible lexemes
  cut : CutAfter (lastOf none lexemes) rest
  stops : StopsAt (signMayFollow (lastOf none lexemes)) (spelling lexemes).length rest fault

theorem ofText_eq_error_iff {source : Text} {fault : Fault} :
    ofText source = .error fault ↔
      ∃ lexemes rest, Breaks (Text.squeeze (Text.plain source)) lexemes rest fault := by
  constructor
  · intro failed
    obtain ⟨lexemes, rest, split, admissible, cut, stops⟩ :=
      scan_eq_error (cutAfter_none _) failed
    rw [Nat.zero_add] at stops
    exact ⟨lexemes, rest, split, admissible, cut, stops⟩
  · rintro ⟨lexemes, rest, split, admissible, cut, stops⟩
    have scanned := scan_spelling_append admissible cut 0
    rw [Nat.zero_add, stops.scan] at scanned
    rw [ofText, split]
    exact scanned

end Keypad.Lexeme
