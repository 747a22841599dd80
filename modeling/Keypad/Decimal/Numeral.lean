import Keypad.Decimal.Basic

/-!
Numerals: the written form of unsigned or negative decimals without exponent.

A numeral has digits before a point and, when there is a point, digits behind
it; either side may be empty, and only a numeral with a digit somewhere has a
value.  Scanning takes the longest numeral at the start of a text, so the text
splits into the numeral's own characters and a rest that cannot extend it.

Owns: the type of numerals, their text and value, and the scan.

Main statements: `scan_split` (the scan loses nothing), `scan_rest_stops` (the
rest cannot extend the numeral), `scan_digits` (only digits are taken).
-/

namespace Keypad

/-- A written decimal without exponent.  `fraction` is absent when there is no
point, and may be empty behind one. -/
structure Numeral where
  negative : Bool
  whole : Text
  fraction : Option Text
deriving DecidableEq, Repr

namespace Numeral

def decimals (numeral : Numeral) : Text :=
  numeral.fraction.getD []

def fractionText (numeral : Numeral) : Text :=
  match numeral.fraction with
  | none => []
  | some behind => '.' :: behind

def body (numeral : Numeral) : Text :=
  numeral.whole ++ numeral.fractionText

def text (numeral : Numeral) : Text :=
  if numeral.negative then '-' :: numeral.body else numeral.body

/-- A numeral has a value when it has a digit on either side of the point. -/
def HasDigit (numeral : Numeral) : Prop :=
  numeral.whole ≠ [] ∨ numeral.decimals ≠ []

instance (numeral : Numeral) : Decidable numeral.HasDigit := by
  unfold HasDigit
  infer_instance

/-- Digits only, on both sides of the point, and at least one of them. -/
structure WellFormed (numeral : Numeral) : Prop where
  wholeDigits : ∀ character ∈ numeral.whole, character.isDigit = true
  decimalDigits : ∀ character ∈ numeral.decimals, character.isDigit = true
  hasDigit : numeral.HasDigit

def decimal (numeral : Numeral) : Decimal where
  negative := numeral.negative
  coefficient := Decimal.ofDigits (numeral.whole ++ numeral.decimals)
  exponent := -(numeral.decimals.length : Int)

def number (numeral : Numeral) : Binary64 :=
  Binary64.ofDecimal numeral.decimal

/-- The longest numeral at the start of a text, with a sign read before, and
the rest of the text.  A second point is left to the rest. -/
def scan (negative : Bool) (text : Text) : Numeral × Text :=
  let whole := text.takeWhile Char.isDigit
  match text.dropWhile Char.isDigit with
  | '.' :: behind =>
      (⟨negative, whole, some (behind.takeWhile Char.isDigit)⟩,
        behind.dropWhile Char.isDigit)
  | rest => (⟨negative, whole, none⟩, rest)

/-! ## Laws of the scan -/

/-- The scanned numeral and the rest make up the text. -/
theorem scan_split (negative : Bool) (text : Text) :
    (scan negative text).1.body ++ (scan negative text).2 = text := by
  have whole := List.takeWhile_append_dropWhile (p := Char.isDigit) (l := text)
  unfold scan
  split
  · rename_i behind pointed
    rw [pointed] at whole
    have behindSplit :=
      List.takeWhile_append_dropWhile (p := Char.isDigit) (l := behind)
    simp only [body, fractionText, List.append_assoc, List.cons_append]
    rw [behindSplit, whole]
  · simp [body, fractionText]

@[simp] theorem scan_negative (negative : Bool) (text : Text) :
    (scan negative text).1.negative = negative := by
  unfold scan
  split <;> rfl

/-- A scan takes nothing but digits and a point. -/
theorem scan_digits (negative : Bool) (text : Text) :
    (∀ character ∈ (scan negative text).1.whole, character.isDigit = true) ∧
      ∀ character ∈ (scan negative text).1.decimals,
        character.isDigit = true := by
  have taken (source : Text) :
      ∀ character ∈ source.takeWhile Char.isDigit,
        character.isDigit = true :=
    List.all_eq_true.mp List.all_takeWhile
  unfold scan
  split
  · exact ⟨taken text, taken _⟩
  · exact ⟨taken text, by simp [decimals]⟩

/-- The rest is no longer than the text. -/
theorem scan_rest_length_le (negative : Bool) (text : Text) :
    (scan negative text).2.length ≤ text.length := by
  have split := congrArg List.length (scan_split negative text)
  rw [List.length_append] at split
  omega

/-- A text that starts with a digit or a point is shortened by the scan. -/
theorem scan_rest_length_lt
    (negative : Bool)
    {first : Char}
    (rest : Text)
    (starts : first.isDigit = true ∨ first = '.') :
    (scan negative (first :: rest)).2.length < (first :: rest).length := by
  have split := congrArg List.length (scan_split negative (first :: rest))
  rw [List.length_append] at split
  have nonempty : (scan negative (first :: rest)).1.body ≠ [] := by
    unfold scan
    rcases starts with digit | rfl
    · split <;> simp [body, digit]
    · have notDigit : Char.isDigit '.' = false := rfl
      simp [body, fractionText, notDigit]
  have positive := List.length_pos_iff.mpr nonempty
  omega

/-- The rest does not start with a digit, nor with a point unless the numeral
has one already. -/
theorem scan_rest_stops
    (negative : Bool)
    (text : Text)
    {next : Char}
    {after : Text}
    (rest : (scan negative text).2 = next :: after) :
    next.isDigit = false ∧
      ((scan negative text).1.fraction = none → next ≠ '.') := by
  have stops (source : Text)
      (dropped : source.dropWhile Char.isDigit = next :: after) :
      next.isDigit = false := by
    have failing := List.head_dropWhile_not Char.isDigit
      (l := source) (by simp [dropped])
    simpa [dropped] using failing
  unfold scan at rest ⊢
  split at rest
  · rename_i behind pointed
    exact ⟨stops behind rest, by simp⟩
  · rename_i unpointed
    refine ⟨stops text rest, ?_⟩
    intro _ point
    subst point
    exact unpointed after rest

end Numeral

end Keypad
