import Keypad.Proofs.Entry.Result
import Keypad.Proofs.Lexeme.Stop

/-!
How a well-kept entry is read.

A well-kept entry can stop its reader only at a literal without a digit or at the
letter of an exponent.  Once it is read, no two of its numbers stand side by
side: the second of them would bring a second point into one stretch.

Owns: the faults of a well-kept entry, and its neighbouring numbers.

Main statements: `WellKept.fault_of_error`, `WellKept.numbers_apart`.
-/

namespace Keypad

namespace Lexeme

theorem eq_numeral_of_token
    {lexeme : Lexeme}
    {value : Binary64}
    (token : lexeme.token = .number value) :
    ∃ written, lexeme = .numeral written := by
  cases lexeme with
  | numeral written => exact ⟨written, rfl⟩
  | _ => contradiction

theorem ofChar?_of_key
    {character : Char}
    (noNumber : character.isDigit = false ∧ character ≠ '.')
    (noLexeme : ofChar? character = none) :
    Entry.isKey character = false := by
  unfold ofChar? at noLexeme
  by_cases opening : character = '('
  · rw [if_pos opening] at noLexeme
    contradiction
  · by_cases closing : character = ')'
    · rw [if_neg opening, if_pos closing] at noLexeme
      contradiction
    · rw [if_neg opening, if_neg closing, Option.map_eq_none_iff] at noLexeme
      simp [Entry.isKey, Entry.isNumberKey, noNumber, opening, closing,
        Operator.isSymbol, noLexeme]

end Lexeme

namespace Entry

theorem isSeparator_of_isNumberKey
    {character : Char}
    (number : isNumberKey character = true) :
    isSeparator character = false := by
  rw [← Bool.not_eq_true]
  intro separator
  simp only [isSeparator, Bool.or_eq_true, decide_eq_true_eq] at separator
  rcases separator with ((((rfl | rfl) | rfl) | rfl) | rfl) | rfl <;> contradiction

theorem not_isGlyph_of_isKey
    {character : Char}
    (key : isKey character = true) :
    ¬ Text.IsGlyph character := by
  rintro (rfl | rfl | rfl)
  · contradiction
  · contradiction
  · contradiction

theorem plain_key
    {key : Char}
    (keypad : isKey key = true) :
    Text.plain [key] = [key] := by
  apply Text.plain_of_no_glyph
  intro character member
  rw [List.mem_singleton.mp member]
  exact not_isGlyph_of_isKey keypad

end Entry

/-- The characters of two numerals side by side, but for a sign at the start,
have two points and no separator. -/
theorem Lexeme.MayFollow.two_points
    {first second : Numeral}
    (follows : MayFollow (some (.numeral first)) (.numeral second))
    (wellFormed : first.WellFormed) :
    ∃ sign stretch, first.text ++ second.text = sign ++ stretch ∧
      (∀ character ∈ stretch, Entry.isSeparator character = false) ∧
      2 ≤ stretch.count '.' := by
  obtain ⟨pointed, unsigned, behind, body⟩ := follows.second_point
  obtain ⟨decimals, fraction⟩ := Option.isSome_iff_exists.mp pointed
  have secondFormed : second.WellFormed := follows.1
  refine ⟨if first.negative then ['-'] else [], first.body ++ second.body, ?_, ?_, ?_⟩
  · unfold Numeral.text
    rw [unsigned, if_neg Bool.false_ne_true]
    split <;> simp
  · intro character member
    apply Entry.isSeparator_of_isNumberKey
    rcases List.mem_append.mp member with inFirst | inSecond
    · exact Numeral.isNumberKey_of_mem_body wellFormed inFirst
    · exact Numeral.isNumberKey_of_mem_body secondFormed inSecond
  · have firstPoint : 0 < first.body.count '.' := by
      rw [List.count_pos_iff, Numeral.body, Numeral.fractionText, fraction]
      simp
    have secondPoint : 0 < second.body.count '.' := by
      rw [List.count_pos_iff, body]
      simp
    rw [List.count_append]
    omega

namespace Entry

namespace WellKept

/-- No glyph gets into a well-kept entry. -/
theorem plain
    {entry : Text}
    (kept : WellKept entry) :
    Text.plain entry = entry := by
  apply Text.plain_of_no_glyph
  intro character member
  rcases kept.characters character member with key | rfl
  · exact not_isGlyph_of_isKey key
  · decide

/-- A well-kept entry is read as it stands. -/
theorem squeeze_plain
    {entry : Text}
    (kept : WellKept entry) :
    Text.squeeze (Text.plain entry) = entry := by
  rw [kept.plain, Text.squeeze, List.filter_eq_self]
  intro character member
  rw [kept.isBlank_eq_false member]
  rfl

theorem fault_of_error
    {entry : Text}
    {fault : Fault}
    (kept : WellKept entry)
    (failed : Token.ofText entry = .error fault) :
    fault.kind = .invalidNumber ∨
      'e' ∈ entry ∧ ∃ position, fault = .invalidCharacter 'e' position := by
  rw [Token.ofText_eq_error_iff, Lexeme.ofText_eq_error_iff, kept.squeeze_plain] at failed
  obtain ⟨lexemes, rest, rfl, _, _, stops⟩ := failed
  cases stops with
  | numeral => exact .inl rfl
  | @character first behind noNumeral noLexeme =>
      have noNumber := Lexeme.numeral?_eq_none noNumeral
      have notKey := Lexeme.ofChar?_of_key ⟨noNumber.1, noNumber.2.1⟩ noLexeme
      have member : first ∈ Lexeme.spelling lexemes ++ first :: behind := by simp
      rcases kept.characters first member with key | rfl
      · rw [notKey] at key
        contradiction
      · exact .inr ⟨member, _, rfl⟩

theorem numbers_apart
    {entry : Text}
    {tokens : List Token}
    (kept : WellKept entry)
    (read : Token.ofText entry = .ok tokens)
    (front back : List Token)
    (first second : Binary64) :
    tokens ≠ front ++ .number first :: .number second :: back := by
  intro split
  obtain ⟨lexemes, scanned, rfl⟩ := Token.ofText_eq_ok_iff.mp read
  obtain ⟨before, rest, rfl, _, numbers⟩ := List.map_eq_append_iff.mp split
  obtain ⟨left, _, rfl, isLeft, later⟩ := List.map_eq_cons_iff.mp numbers
  obtain ⟨right, after, rfl, isRight, _⟩ := List.map_eq_cons_iff.mp later
  obtain ⟨earlier, rfl⟩ := Lexeme.eq_numeral_of_token isLeft
  obtain ⟨next, rfl⟩ := Lexeme.eq_numeral_of_token isRight
  obtain ⟨spelled, admissible⟩ := Lexeme.ofText_eq_ok_iff.mp scanned
  rw [Lexeme.Spells, kept.squeeze_plain] at spelled
  obtain ⟨_, earlierFollows, nextFollows, _⟩ := Lexeme.admissibleAfter_append.mp admissible
  -- The two numerals share a stretch of the entry, and each brings a point.
  obtain ⟨sign, stretch, texts, free, points⟩ :=
    nextFollows.two_points earlierFollows.1
  have atMostOne : stretch.count '.' ≤ 1 := by
    apply kept.singlePointed (Lexeme.spelling before ++ sign) stretch
      (Lexeme.spelling after) _ free
    calc
      entry = Lexeme.spelling before ++ (earlier.text ++ next.text) ++
          Lexeme.spelling after := by simp [spelled, Lexeme.text]
      _ = Lexeme.spelling before ++ sign ++ stretch ++ Lexeme.spelling after := by
          simp [texts]
  omega

end WellKept

end Entry

end Keypad
