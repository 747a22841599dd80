import Keypad.Proofs.Calculator.EntryKept
import Keypad.Proofs.Entry.Typing

/-!
Which points a calculator refuses.

A point is refused when the stretch behind the last separator has one already.
The percent sign is no separator.  So a number keeps a second point out, and so
does a point that stands, without a separator, in front of a percent sign before
the number.

Owns:
- the number that is being typed, and what stands before it;
- the operations of typing by hand, and the entries that they lead to;
- the points that are refused in these entries.

Main statement: `Calculator.accepts_point_iff`.
-/

namespace Keypad

namespace Entry

/-- The number that is being typed: the digits and points at the end. -/
def typedNumber (entry : Text) : Text :=
  (entry.reverse.takeWhile isNumberKey).reverse

private theorem isNumberKey_of_mem_typedNumber
    {entry : Text}
    {character : Char}
    (member : character ∈ typedNumber entry) :
    isNumberKey character = true :=
  List.all_eq_true.mp List.all_takeWhile character (List.mem_reverse.mp member)

/-- In front of the number there is nothing, or it ends in something else. -/
theorem eq_append_typedNumber (entry : Text) :
    ∃ front, entry = front ++ typedNumber entry ∧
      ∀ before last, front = before ++ [last] → isNumberKey last = false := by
  refine ⟨Text.trimEnd isNumberKey entry,
    (Text.trimEnd_append_takeWhile isNumberKey entry).symm, ?_⟩
  intro before last split
  have dropped : entry.reverse.dropWhile isNumberKey = last :: before.reverse := by
    rw [← List.reverse_reverse (List.dropWhile _ _), ← Text.trimEnd, split,
      List.reverse_append]
    rfl
  have failing := List.head_dropWhile_not isNumberKey
    (l := entry.reverse) (by simp [dropped])
  simpa [dropped] using failing

private theorem isSeparator_or_percent_of_isKey
    {character : Char}
    (key : isKey character = true)
    (noNumber : isNumberKey character = false) :
    isSeparator character = true ∨ character = '%' := by
  simp only [isKey, noNumber, Bool.false_or, Bool.or_eq_true, decide_eq_true_eq] at key
  rcases key with (operator | rfl) | rfl
  · obtain ⟨op, rfl⟩ := Operator.isSymbol_iff.mp operator
    cases op <;> decide
  · decide
  · decide

private theorem trailingNumber_concat_separator
    (front : Text)
    {separator : Char}
    (separates : isSeparator separator = true) :
    trailingNumber (front ++ [separator]) = [] := by
  simp [trailingNumber, separates]

private theorem accepts_point_eq_false_iff (entry : Text) :
    accepts entry '.' = false ↔ '.' ∈ trailingNumber entry := by
  have number : isNumberKey '.' = true := by decide
  have noClash := any_clash_of_isNumberKey entry number
  have notSymbol : Operator.isSymbol '.' = false := by decide
  simp [accepts, refuses, noClash, notSymbol]

/-- In an entry of keys a point is refused for one of two reasons: the number
being typed has a point, or it stands behind a percent sign, with a point before
that and no separator in between. -/
theorem accepts_point_of_keys
    {entry : Text}
    (keys : ∀ character ∈ entry, isKey character = true) :
    accepts entry '.' = false ↔
      '.' ∈ typedNumber entry ∨
        ∃ before, entry = before ++ '%' :: typedNumber entry ∧
          '.' ∈ trailingNumber before := by
  have free (character : Char) (member : character ∈ typedNumber entry) :
      isSeparator character = false :=
    isSeparator_of_isNumberKey (isNumberKey_of_mem_typedNumber member)
  have behindPercent (character : Char) (member : character ∈ '%' :: typedNumber entry) :
      isSeparator character = false := by
    rcases List.mem_cons.mp member with rfl | inNumber
    · decide
    · exact free character inNumber
  rw [accepts_point_eq_false_iff]
  obtain ⟨front, split, noNumber⟩ := eq_append_typedNumber entry
  have trailing : trailingNumber entry = trailingNumber front ++ typedNumber entry := by
    rw [← trailingNumber_append front free, ← split]
  constructor
  · intro point
    rw [trailing] at point
    rcases List.mem_append.mp point with inFront | inNumber
    · rcases List.eq_nil_or_concat' front with rfl | ⟨before, last, rfl⟩
      · contradiction
      · have isKey : isKey last = true := keys last (by rw [split]; simp)
        rcases isSeparator_or_percent_of_isKey isKey (noNumber before last rfl) with
          separates | rfl
        · rw [trailingNumber_concat_separator before separates] at inFront
          contradiction
        · have noSeparator : ∀ character ∈ ['%'], isSeparator character = false := by
            simp [isSeparator]
          rw [trailingNumber_append before noSeparator] at inFront
          refine .inr ⟨before, by simpa using split, ?_⟩
          simpa using inFront
    · exact .inl inNumber
  · rintro (inNumber | ⟨before, behind, earlier⟩)
    · rw [trailing]
      exact List.mem_append_right _ inNumber
    · rw [behind, trailingNumber_append before behindPercent]
      exact List.mem_append_left _ earlier

/-- Edits of an empty keypad leave keys only. -/
theorem isKey_of_edits
    {entry : Text}
    {character : Char}
    (edits : Relation.ReflTransGen Edit initial entry)
    (member : character ∈ entry) :
    isKey character = true := by
  rcases (WellKept.initial.edits edits).characters character member with key | rfl
  · exact key
  · have letter := (mantissa_edits edits member).1
    contradiction

end Entry

def Operation.isTyping : Operation → Bool
  | .submit _ => true
  | .backspace => true
  | .clear => true
  | .parentheses => true
  | _ => false

namespace Calculator

open Relation (ReflTransGen)

private theorem after_typing_edits
    {operation : Operation}
    (calculator : Calculator)
    (isTyping : operation.isTyping = true) :
    ReflTransGen Entry.Edit calculator.entry (calculator.after operation).entry := by
  cases operation with
  | submit text => exact submit_edits calculator text
  | backspace =>
      have erased := backspace_entry calculator
      exact erased ▸ .single (.erase calculator.entry)
  | clear => exact .single (.clear calculator.entry)
  | parentheses =>
      have typed := parentheses_entry calculator
      exact typed ▸ .single (.parenthesis calculator.entry)
  | _ => contradiction

private theorem edits_of_typing
    {start calculator : Calculator}
    (reached : Reaches (·.isTyping = true) start calculator) :
    ReflTransGen Entry.Edit start.entry calculator.entry := by
  induction reached with
  | refl => exact .refl
  | step _ isTyping inductionHypothesis =>
      exact inductionHypothesis.trans (after_typing_edits _ isTyping)

/-- In an entry that was typed by hand, a point is refused exactly when the
number being typed has one, or when that number stands behind a percent sign
with a point before it and no separator in between. -/
theorem accepts_point_iff
    {precision : Int}
    {debouncer : Option (Debouncer Unit)}
    {calculator : Calculator}
    (reached : Reaches (·.isTyping = true) (new precision debouncer) calculator) :
    Entry.accepts calculator.entry '.' = false ↔
      '.' ∈ Entry.typedNumber calculator.entry ∨
        ∃ before,
          calculator.entry = before ++ '%' :: Entry.typedNumber calculator.entry ∧
            '.' ∈ Entry.trailingNumber before :=
  Entry.accepts_point_of_keys fun _ => Entry.isKey_of_edits (edits_of_typing reached)

/-- The second point of a sum of two fractions, the first of them in a group. -/
theorem accepts_point_iff_sum :
    let calculator := (new 12 none).afterAll
      [.submit ['2'], .parentheses, .submit ['.'], .submit ['5'], .submit ['+'],
        .submit ['1']]
    Reaches (·.isTyping = true) (new 12 none) calculator ∧
      calculator.entry = "2*(.5+1".toList ∧
      Entry.typedNumber calculator.entry = "1".toList ∧
      Entry.accepts calculator.entry '.' = true := by
  intro calculator
  have reached : Reaches (·.isTyping = true) (new 12 none) calculator := by
    apply Reaches.refl.afterAll
    simp [Operation.isTyping]
  have entry : calculator.entry = "2*(.5+1".toList := by decide +kernel
  refine ⟨reached, entry, by rw [entry]; decide, ?_⟩
  have refused := accepts_point_iff reached
  rw [← Bool.not_eq_false, refused, entry]
  rintro (inNumber | ⟨before, behind, _⟩)
  · contradiction
  · have percent : '%' ∈ "2*(.5+1".toList := by
      rw [behind]
      simp
    contradiction

/-- A remainder by a fraction cannot be typed when its dividend is one. -/
theorem point_refused_behind_percent :
    let calculator := (new 12 none).afterAll
      [.submit ['1'], .submit ['.'], .submit ['5'], .submit ['%'], .submit ['2']]
    Reaches (·.isTyping = true) (new 12 none) calculator ∧
      calculator.entry = "1.5%2".toList ∧
      Entry.accepts calculator.entry '.' = false ∧
      '.' ∉ Entry.typedNumber calculator.entry := by
  intro calculator
  have reached : Reaches (·.isTyping = true) (new 12 none) calculator := by
    apply Reaches.refl.afterAll
    simp [Operation.isTyping]
  have entry : calculator.entry = "1.5%2".toList := by decide +kernel
  exact ⟨reached, entry, by rw [entry]; decide, by rw [entry]; decide⟩

end Calculator

end Keypad
