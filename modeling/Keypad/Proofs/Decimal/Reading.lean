import Keypad.Decimal.Reading
import Keypad.Proofs.Lexeme.Scan

/-!
Reading decimals as they are written.

The text of a numeral has no other sign than its own and nothing that an exponent
could be taken for, so the reader finds the decimal that the numeral stands for; an
exponent behind it is added.

Owns: what is read from the text of a numeral, alone or in front of an exponent.

Does not own: the rounding of what is read.
-/

namespace Keypad.Decimal

private theorem padded_ne_nil (width number : Nat) : padded width number ≠ [] := by
  rw [padded, List.leftpad]
  exact List.append_ne_nil_of_right_ne_nil _ (digits_ne_nil number)

/-- An exponent is read as it is written, with zeros in front or without. -/
theorem readInteger?_exponentText
    (width : Nat)
    (exponent : Int) :
    readInteger? (exponentText width exponent) = some exponent := by
  have digitsOnly : (padded width exponent.natAbs).all Char.isDigit = true :=
    List.all_eq_true.mpr fun _ => isDigit_of_mem_padded
  have isInteger :=
    And.intro (padded_ne_nil width exponent.natAbs) digitsOnly
  by_cases negative : exponent < 0
  · simp only [exponentText, if_pos negative, readInteger?, splitSign,
      if_pos isInteger, ofDigits_padded, withSign, if_true]
    rw [Int.ofNat_natAbs_of_nonpos (Int.le_of_lt negative), Int.neg_neg]
  · simp only [exponentText, if_neg negative, readInteger?, splitSign,
      if_pos isInteger, ofDigits_padded, withSign, Bool.false_eq_true, if_false]
    rw [Int.natAbs_of_nonneg (Int.not_lt.mp negative)]

section Numeral

variable {written : Numeral} (wellFormed : written.WellFormed)
include wellFormed

private theorem splitSign_text (rest : Text) :
    splitSign (written.text ++ rest) = (written.negative, written.body ++ rest) := by
  obtain ⟨first, later, body, starts⟩ := Numeral.body_head wellFormed
  cases sign : written.negative with
  | true => rw [Numeral.text, sign, if_pos rfl, List.cons_append, splitSign]
  | false =>
      rw [Numeral.text, sign, if_neg Bool.false_ne_true, body, List.cons_append,
        splitSign]
      · intro other hyphen
        obtain ⟨rfl, _⟩ := List.cons.inj hyphen
        exact absurd starts (by decide)
      · intro other plus
        obtain ⟨rfl, _⟩ := List.cons.inj plus
        exact absurd starts (by decide)

theorem read?_text : read? written.text = some written.decimal := by
  have ends : written.EndsAt [] := by
    intro next head
    contradiction
  have split := splitSign_text wellFormed []
  have scanned := Numeral.scan_body_append wellFormed ends
  rw [List.append_nil] at split
  simp only [read?, split, scanned]
  rw [if_pos wellFormed.hasDigit]

/-- An exponent behind a numeral moves its point. -/
theorem read?_text_exponent
    (width : Nat)
    (exponent : Int) :
    read? (written.text ++ 'e' :: exponentText width exponent) =
      some { written.decimal with
        exponent := written.decimal.exponent + exponent } := by
  have ends : written.EndsAt ('e' :: exponentText width exponent) := by
    intro next head
    obtain rfl := Option.some.inj head
    exact ⟨rfl, fun _ => by decide⟩
  have split := splitSign_text wellFormed ('e' :: exponentText width exponent)
  have scanned := Numeral.scan_body_append wellFormed ends
  simp only [read?, split, scanned]
  rw [if_pos wellFormed.hasDigit, readInteger?_exponentText]
  rfl

end Numeral

end Keypad.Decimal
