import Keypad.Proofs.Entry.WellKept

/-!
Typing digits and operators.

A digit may follow any entry.  An operator may follow a number, except that the
empty keypad takes none but the minus.  What typed keys lead to is a fold that
leaves the entry in front of them alone, unless it starts on an empty keypad.

Owns:
- which of these keys are admitted;
- the entry after several keys, with and without an empty keypad at the start.

Main statements: `admits_symbol_iff`, `type?_digits`, `foldl_append_normalForm`.
-/

namespace Keypad.Entry

/-! ## Admitted keys -/

theorem any_clash_of_isNumberKey
    (entry : Text)
    {key : Char}
    (number : isNumberKey key = true) :
    (Text.lastVisible? entry).any (clash · key) = false := by
  cases Text.lastVisible? entry with
  | none => rfl
  | some last => exact neverClashes_of_isNumberKey number last

private theorem admits_of_isDigit
    (entry : Text)
    {key : Char}
    (digit : key.isDigit = true) :
    admits entry key = true := by
  have number := isNumberKey_of_isDigit digit
  have noClash := any_clash_of_isNumberKey entry number
  have noPoint : key ≠ '.' := by
    rintro rfl
    contradiction
  simp [admits, isKey, number, accepts, refuses, noClash,
    isSymbol_of_isNumberKey number, noPoint]

/-- Behind a number every operator may follow, unless the number is the zero of
an empty keypad. -/
theorem admits_symbol_iff
    {entry : Text}
    {last : Char}
    (visible : Text.lastVisible? entry = some last)
    (number : isNumberKey last = true)
    (op : Operator) :
    admits entry op.symbol = true ↔ entry ≠ initial ∨ op = .sub := by
  have noClash : clash last op.symbol = false := by
    rw [clash, isSymbol_of_isNumberKey number]
    cases op <;> rfl
  have noPoint : op.symbol ≠ '.' := by
    cases op <;> decide
  have minus : op.symbol = '-' ↔ op = .sub := by
    cases op <;> decide
  simp [admits, isKey, accepts, refuses, visible, noClash, noPoint, minus]

/-! ## Several keys -/

theorem type?_cons (entry : Text) (key : Char) (later : Text) :
    type? entry (key :: later) =
      if admits entry key = true then type? (append entry key) later else none := by
  unfold type?
  rw [List.foldlM_cons]
  split <;> rfl

theorem type?_digits
    {digits : Text}
    (entry : Text)
    (allDigits : ∀ character ∈ digits, character.isDigit = true) :
    type? entry digits = some (digits.foldl append entry) := by
  induction digits generalizing entry with
  | nil => rfl
  | cons digit later inductionHypothesis =>
      have admitted := admits_of_isDigit entry (allDigits digit (by simp))
      rw [type?_cons, if_pos admitted, List.foldl_cons]
      apply inductionHypothesis
      intro character member
      exact allDigits character (List.mem_cons_of_mem digit member)

/-- Behind anything but an empty keypad, what is typed stays as it is. -/
theorem foldl_append_of_ne_initial
    {entry : Text}
    (nonempty : entry ≠ [])
    (typedOn : entry ≠ initial)
    (keys : Text) :
    keys.foldl append entry = entry ++ keys := by
  induction keys generalizing entry with
  | nil => simp
  | cons key later inductionHypothesis =>
      have first : append entry key = entry ++ [key] := by
        rw [append, if_neg]
        rintro ⟨isInitial, _⟩
        exact typedOn isInitial
      have longer : entry ++ [key] ≠ initial := by
        intro isInitial
        have length := congrArg List.length isInitial
        rw [List.length_append] at length
        exact nonempty (List.length_eq_zero_iff.mp (Nat.succ.inj length))
      rw [List.foldl_cons, first, inductionHypothesis (by simp) longer]
      simp

theorem type?_operator_digits
    {entry digits : Text}
    {op : Operator}
    (admitted : admits entry op.symbol = true)
    (allDigits : ∀ character ∈ digits, character.isDigit = true) :
    type? entry (op.symbol :: digits) = some (entry ++ op.symbol :: digits) := by
  have appended : append entry op.symbol = entry ++ [op.symbol] := by
    rw [append, if_neg]
    rintro ⟨_, number⟩
    cases op <;> contradiction
  have typedOn : entry ++ [op.symbol] ≠ initial := by
    intro isInitial
    have last := congrArg List.getLast? isInitial
    rw [List.getLast?_concat] at last
    cases op <;> contradiction
  rw [type?_cons, if_pos admitted, appended, type?_digits _ allDigits,
    foldl_append_of_ne_initial (by simp) typedOn, List.append_assoc]
  rfl

/-- A further key leads from one normal form to the next. -/
theorem append_normalForm (typed : Text) (key : Char) :
    append (normalForm typed) key = normalForm (typed ++ [key]) := by
  unfold normalForm
  simp only [List.dropWhile_append]
  cases kept : typed.dropWhile (· = '0') with
  | nil =>
      -- Nothing but zeros was typed, so the keypad is still empty.
      by_cases number : isNumberKey key = true
      · by_cases zero : key = '0'
        · simp [append, initial, zero, isNumberKey]
        · simp [append, initial, zero, number]
      · have notZero : key ≠ '0' := by
          rintro rfl
          contradiction
        simp [append, initial, number, notZero]
  | cons first rest =>
      have notZero : first ≠ '0' := by
        have failing := List.head_dropWhile_not (· = '0') (l := typed) (by simp [kept])
        simpa [kept] using failing
      by_cases number : isNumberKey first = true
      · simp [append, initial, number, notZero]
      · simp [append, initial, number]

theorem foldl_append_normalForm (typed keys : Text) :
    keys.foldl append (normalForm typed) = normalForm (typed ++ keys) := by
  induction keys generalizing typed with
  | nil => simp
  | cons key later inductionHypothesis =>
      rw [List.foldl_cons, append_normalForm, inductionHypothesis]
      simp

end Keypad.Entry
