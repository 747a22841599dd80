/-!
Decimal digits of every script.

Unicode 14 lists its decimal digits in runs of ten that count up from a zero.

Owns: the zeros of the runs, and the ASCII digit for a digit of any script.
-/

namespace Keypad.Text

/-- The code points of the zeros, in increasing order. -/
def digitZeros : List Nat := [
  0x30, 0x660, 0x6f0, 0x7c0, 0x966, 0x9e6, 0xa66, 0xae6, 0xb66, 0xbe6, 0xc66,
  0xce6, 0xd66, 0xde6, 0xe50, 0xed0, 0xf20, 0x1040, 0x1090, 0x17e0, 0x1810,
  0x1946, 0x19d0, 0x1a80, 0x1a90, 0x1b50, 0x1bb0, 0x1c40, 0x1c50, 0xa620,
  0xa8d0, 0xa900, 0xa9d0, 0xa9f0, 0xaa50, 0xabf0, 0xff10, 0x104a0, 0x10d30,
  0x11066, 0x110f0, 0x11136, 0x111d0, 0x112f0, 0x11450, 0x114d0, 0x11650,
  0x116c0, 0x11730, 0x118e0, 0x11950, 0x11c50, 0x11d50, 0x11da0, 0x16a60,
  0x16ac0, 0x16b50, 0x1d7ce, 0x1d7d8, 0x1d7e2, 0x1d7ec, 0x1d7f6, 0x1e140,
  0x1e2f0, 0x1e950, 0x1fbf0]

/-- The ASCII digit of the same value, for a decimal digit of any script. -/
def asciiDigit? (character : Char) : Option Char :=
  let code := character.toNat
  (digitZeros.find? fun first => first ≤ code && code < first + 10).map
    fun first => Nat.digitChar (code - first)

/-- An ASCII digit is its own ASCII digit. -/
theorem asciiDigit?_of_isDigit
    {character : Char}
    (digit : character.isDigit = true) :
    asciiDigit? character = some character := by
  have bounds : 0x30 ≤ character.toNat ∧ character.toNat ≤ 0x39 := by
    simp only [Char.isDigit, Bool.and_eq_true, decide_eq_true_eq,
      UInt32.le_iff_toNat_le] at digit
    exact digit
  have written : ∀ offset < 10,
      Nat.digitChar offset = Char.ofNat (0x30 + offset) := by
    decide
  obtain ⟨offset, small, code⟩ :
      ∃ offset < 10, character.toNat = 0x30 + offset :=
    ⟨character.toNat - 0x30, by omega, by omega⟩
  have inFirstRun : 0x30 ≤ character.toNat ∧ character.toNat < 0x30 + 10 := by
    omega
  have recovered : Char.ofNat character.toNat = character :=
    Char.ofNat_toNat character
  simp only [asciiDigit?, digitZeros, List.find?_cons, inFirstRun,
    Bool.and_self, decide_true, Option.map_some, Option.some.injEq]
  rw [code, Nat.add_sub_cancel_left, written offset small, ← code, recovered]

end Keypad.Text
