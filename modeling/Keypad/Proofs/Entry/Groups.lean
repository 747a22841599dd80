import Keypad.Proofs.Entry.Result
import Keypad.Proofs.Faults

/-!
The groups of an entry.

The parenthesis key decides by the numbers of opened and closed groups and by the
last character alone.  That is enough: it closes only where a group is open, and
what is erased from the end takes no opening parenthesis away from a closing one.

Owns:
- what keeps an entry from closing more groups than it has opened;
- what the parenthesis key types behind an operand;
- what that means for reading the entry.

Main statements: `NeverUnderflows.parenthesis`, `compute_ne_unmatchedClosing`.
-/

namespace Keypad

namespace Entry

/-! ## Entries whose groups are never closed too often -/

private theorem neverUnderflows_of_no_closing
    {entry : Text}
    (noClosing : ')' ∉ entry) :
    NeverUnderflows entry := by
  rintro front back rfl
  have none : closings front = 0 :=
    List.count_eq_zero.mpr fun member => noClosing (List.mem_append_left back member)
  rw [none]
  exact Nat.zero_le (openings front)

theorem neverUnderflows_initial : NeverUnderflows initial :=
  neverUnderflows_of_no_closing (by decide)

/-- One more character closes at most one group, and only if it closes one does a
group have to be open. -/
theorem NeverUnderflows.concat
    {entry : Text}
    {key : Char}
    (never : NeverUnderflows entry)
    (room : key = ')' → closings entry < openings entry) :
    NeverUnderflows (entry ++ [key]) := by
  intro front back split
  rcases List.eq_nil_or_concat' back with rfl | ⟨back, last, rfl⟩
  · rw [List.append_nil] at split
    rw [← split, closings_append, openings_append]
    by_cases closes : key = ')'
    · have isOpen := room closes
      have one : closings [key] ≤ 1 := List.count_le_length
      omega
    · have none : closings [key] = 0 :=
        List.count_eq_zero.mpr (by simpa using Ne.symm closes)
      have before := never entry [] (by simp)
      omega
  · rw [← List.append_assoc] at split
    obtain ⟨rfl, _⟩ := List.append_inj' split rfl
    exact never front back rfl

theorem NeverUnderflows.append
    {entry : Text}
    {key : Char}
    (never : NeverUnderflows entry)
    (noClosing : key ≠ ')') :
    NeverUnderflows (Entry.append entry key) := by
  unfold Entry.append
  split
  · apply neverUnderflows_of_no_closing
    simpa using Ne.symm noClosing
  · exact never.concat fun closes => absurd closes noClosing

theorem NeverUnderflows.eraseLast
    {entry : Text}
    (never : NeverUnderflows entry) :
    NeverUnderflows (Entry.eraseLast entry) := by
  unfold Entry.eraseLast
  split
  · exact neverUnderflows_initial
  · rename_i long
    have nonempty : entry ≠ [] := by
      rintro rfl
      exact long (Nat.zero_le 1)
    rw [← List.dropLast_append_getLast nonempty] at never
    exact never.of_append

/-- The parenthesis key closes a group only where one is open. -/
theorem NeverUnderflows.parenthesis
    {entry : Text}
    (never : NeverUnderflows entry) :
    NeverUnderflows (entry ++ parenthesisKeys entry) := by
  unfold parenthesisKeys
  split
  · rename_i closes
    exact never.concat fun _ => closes.1
  · split
    · have multiplied : NeverUnderflows (entry ++ ['*']) :=
        never.concat fun closes => absurd closes (by decide)
      have opened : NeverUnderflows (entry ++ ['*'] ++ ['(']) :=
        multiplied.concat fun closes => absurd closes (by decide)
      rwa [List.append_assoc] at opened
    · exact never.concat fun closes => absurd closes (by decide)

/-- A result has no groups. -/
theorem neverUnderflows_of_format
    {precision : Int}
    {number : Binary64}
    {text : Text}
    (finite : number.isFinite = true)
    (written : NumberFormat.format precision number = .ok text) :
    NeverUnderflows text := by
  apply neverUnderflows_of_no_closing
  intro member
  rcases WellKept.mem_of_format finite written member with key | sign | sign | letter
  · contradiction
  · contradiction
  · contradiction
  · contradiction

/-! ## The parenthesis key behind an operand -/

/-- Behind an operand the parenthesis key closes a group as long as one is open, and
then opens a factor. -/
theorem parenthesisKeys_of_operand
    {entry : Text}
    {last : Char}
    (ends : entry.getLast? = some last)
    (operand : isNumberKey last = true ∨ last = ')') :
    parenthesisKeys entry =
      if closings entry < openings entry then [')'] else ['*', '('] := by
  have visible : Text.lastVisible? entry = some last := by
    obtain ⟨front, rfl⟩ := List.getLast?_eq_some_iff.mp ends
    apply Text.lastVisible?_append_singleton
    rcases operand with number | rfl
    · exact isBlank_of_isKey (by simp [isKey, number])
    · decide
  have notOperator : Operator.isSymbol last = false := by
    rcases operand with number | rfl
    · exact isSymbol_of_isNumberKey number
    · decide
  have notOpening : last ≠ '(' := by
    rintro rfl
    rcases operand with number | closing
    · contradiction
    · contradiction
  unfold parenthesisKeys
  simp [endsInOperator, endsInNumber, endsIn, visible, notOperator, notOpening, operand]

/-- Closing groups behind an operand leaves an operand at the end. -/
theorem operand_append_closings
    {entry : Text}
    {last : Char}
    (ends : entry.getLast? = some last)
    (operand : isNumberKey last = true ∨ last = ')')
    (groups : Nat) :
    ∃ other, (entry ++ List.replicate groups ')').getLast? = some other ∧
      (isNumberKey other = true ∨ other = ')') := by
  cases groups with
  | zero => exact ⟨last, by simpa using ends, operand⟩
  | succ groups =>
      rw [List.replicate_succ', ← List.append_assoc]
      exact ⟨')', List.getLast?_concat, .inr rfl⟩

theorem openings_append_closings (entry : Text) (groups : Nat) :
    openings (entry ++ List.replicate groups ')') = openings entry := by
  simp [openings, List.count_replicate]

theorem closings_append_closings (entry : Text) (groups : Nat) :
    closings (entry ++ List.replicate groups ')') = closings entry + groups := by
  simp [closings]

end Entry

/-! ## Reading the groups -/

/-- What the first tokens are read from is read alone as these tokens. -/
theorem Token.ofText_front
    {source : Text}
    {front back : List Token}
    (read : Token.ofText source = .ok (front ++ back)) :
    ∃ sourceFront sourceBack, source = sourceFront ++ sourceBack ∧
      Token.ofText sourceFront = .ok front := by
  obtain ⟨lexemes, spelled, admissible, split⟩ := Token.ofText_eq_ok_iff_spells.mp read
  obtain ⟨before, after, rfl, isFront, _⟩ := List.map_eq_append_iff.mp split
  rw [Lexeme.Spells, Lexeme.spelling_append, Text.squeeze,
    List.filter_eq_append_iff] at spelled
  obtain ⟨plainFront, plainBack, isPlain, visibleFront, _⟩ := spelled
  obtain ⟨sourceFront, sourceBack, rfl, rfl, _⟩ := List.map_eq_append_iff.mp isPlain
  refine ⟨sourceFront, sourceBack, rfl, ?_⟩
  exact Token.ofText_eq_ok_iff_spells.mpr
    ⟨before, visibleFront, admissible.of_append, isFront⟩

private theorem Token.neverUnderflows_of_ofText
    {source : Text}
    {tokens : List Token}
    (never : Entry.NeverUnderflows source)
    (read : Token.ofText source = .ok tokens) :
    Nesting.NeverUnderflows tokens := by
  rintro front back rfl
  obtain ⟨sourceFront, sourceBack, split, readFront⟩ := Token.ofText_front read
  obtain ⟨opened, closed⟩ := Token.parentheses_of_ofText readFront
  rw [← opened, ← closed]
  exact never sourceFront sourceBack split

/-- No closing parenthesis of such an entry is without a group. -/
theorem compute_ne_unmatchedClosing
    {text : Text}
    (never : Entry.NeverUnderflows text) :
    compute text ≠ .error .unmatchedClosing := by
  intro failed
  obtain ⟨tokens, read, unordered⟩ := reorder_of_compute_mismatched failed rfl
  have neverTokens := Token.neverUnderflows_of_ofText never read
  have named := Yard.not_strangeOperator_of_known (Token.isKnown_of_ofText read)
  rcases Yard.reorder_outcome named with
    ⟨⟨output, reordered⟩, _⟩ | ⟨_, underflows⟩ | ⟨failedOpening, _⟩
  · rw [unordered] at reordered
    contradiction
  · exact underflows neverTokens
  · rw [unordered] at failedOpening
    contradiction

end Keypad
