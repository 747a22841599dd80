import Keypad.Entry.Form
import Mathlib.Data.List.Chain
import Mathlib.Logic.Relation

/-!
The shape that every edit keeps an entry in.

An entry starts like a number, holds keys and the letter of an exponent, and
neither has clashing neighbours nor two points in a stretch without separators.

Owns:
- the shape, and what one more character may do to it;
- the edits of an entry, each of which keeps the shape;
- what edits leave of an exponent, which none of them writes.

Does not own: the entries that a result puts in place.
-/

namespace Keypad.Entry

/-- What is true of every entry that edits and results lead to. -/
structure WellKept (entry : Text) : Prop where
  starts : ∃ first rest, entry = first :: rest ∧
    (isNumberKey first = true ∨ first = '-')
  characters : ∀ character ∈ entry, isKey character = true ∨ character = 'e'
  clashFree : ClashFree entry
  singlePointed : SinglePointed entry

/-! ## Neighbours -/

theorem clashFree_iff_isChain {entry : Text} :
    ClashFree entry ↔
      entry.IsChain fun before after => clash before after = false := by
  rw [List.isChain_iff_forall_rel_of_append_cons_cons]
  constructor
  · intro clashFree before after front back split
    exact clashFree front before after back split
  · intro related front before after back split
    exact related split

theorem ClashFree.concat
    {front : Text}
    {last key : Char}
    (clashFree : ClashFree (front ++ [last]))
    (noClash : clash last key = false) :
    ClashFree (front ++ [last] ++ [key]) := by
  rw [clashFree_iff_isChain] at clashFree ⊢
  rw [List.append_assoc, List.singleton_append, List.isChain_append_cons_cons]
  exact ⟨clashFree, noClash, .singleton key⟩

/-- A character that may stand behind any other. -/
def NeverClashes (character : Char) : Prop :=
  ∀ before, clash before character = false

theorem isNumberKey_of_isDigit
    {character : Char}
    (digit : character.isDigit = true) :
    isNumberKey character = true := by
  rw [isNumberKey, digit, Bool.true_or]

theorem isSymbol_of_isNumberKey
    {character : Char}
    (number : isNumberKey character = true) :
    Operator.isSymbol character = false := by
  rw [← Bool.not_eq_true]
  intro symbol
  obtain ⟨op, rfl⟩ := Operator.isSymbol_iff.mp symbol
  cases op <;> contradiction

theorem neverClashes_of_isNumberKey
    {character : Char}
    (number : isNumberKey character = true) :
    NeverClashes character := by
  have notOpening : character ≠ '(' := by
    rintro rfl
    contradiction
  have notClosing : character ≠ ')' := by
    rintro rfl
    contradiction
  intro before
  simp [clash, isSymbol_of_isNumberKey number, notOpening, notClosing]

theorem clashFree_of_neverClashes
    (first : Char)
    {rest : Text}
    (neverClashes : ∀ character ∈ rest, NeverClashes character) :
    ClashFree (first :: rest) := by
  rw [clashFree_iff_isChain]
  induction rest generalizing first with
  | nil => exact .singleton first
  | cons next rest inductionHypothesis =>
      have fits : clash first next = false := neverClashes next (by simp) first
      refine .cons_cons fits (inductionHypothesis next ?_)
      intro character member
      exact neverClashes character (List.mem_cons_of_mem next member)

/-! ## Points -/

theorem singlePointed_of_count
    {entry : Text}
    (count : entry.count '.' ≤ 1) :
    SinglePointed entry := by
  rintro front stretch back rfl _
  rw [List.count_append, List.count_append] at count
  omega

theorem trailingNumber_append
    {stretch : Text}
    (front : Text)
    (free : ∀ character ∈ stretch, isSeparator character = false) :
    trailingNumber (front ++ stretch) = trailingNumber front ++ stretch := by
  have taken : ∀ character ∈ stretch.reverse, (!isSeparator character) = true := by
    intro character member
    rw [free character (List.mem_reverse.mp member)]
    rfl
  unfold trailingNumber
  rw [List.reverse_append, List.takeWhile_append_of_pos taken,
    List.reverse_append, List.reverse_reverse]

theorem SinglePointed.concat
    {entry : Text}
    {key : Char}
    (singlePointed : SinglePointed entry)
    (pointFree : key = '.' → '.' ∉ trailingNumber entry) :
    SinglePointed (entry ++ [key]) := by
  intro front stretch back split free
  -- Either the stretch reaches up to the new character, or it was there before.
  rcases List.eq_nil_or_concat' back with rfl | ⟨back, last, rfl⟩
  · rw [List.append_nil] at split
    rcases List.eq_nil_or_concat' stretch with rfl | ⟨stretch, last, rfl⟩
    · simp
    · rw [← List.append_assoc] at split
      obtain ⟨rfl, same⟩ := List.append_inj' split rfl
      obtain rfl : key = last := by simpa using same
      have stretchFree : ∀ character ∈ stretch, isSeparator character = false :=
        fun character member => free character (List.mem_append_left _ member)
      rw [List.count_append]
      by_cases point : key = '.'
      · have absent := pointFree point
        rw [trailingNumber_append front stretchFree, List.mem_append, not_or] at absent
        rw [List.count_eq_zero.mpr absent.2, point]
        decide
      · have earlier := singlePointed front stretch [] (by simp) stretchFree
        rw [List.count_singleton, if_neg (by simpa using point)]
        exact earlier
  · rw [← List.append_assoc] at split
    obtain ⟨rfl, _⟩ := List.append_inj' split rfl
    exact singlePointed front stretch back rfl free

/-! ## One more character -/

theorem exists_lastVisible
    {entry : Text}
    (nonempty : entry ≠ [])
    (visible : ∀ character ∈ entry, Text.isBlank character = false) :
    ∃ front last, entry = front ++ [last] ∧
      Text.lastVisible? entry = some last := by
  obtain ⟨front, last, rfl⟩ := (List.eq_nil_or_concat' entry).resolve_left nonempty
  exact ⟨front, last, rfl, Text.lastVisible?_append_singleton front (visible last (by simp))⟩

namespace WellKept

theorem of_numberKey
    {key : Char}
    (number : isNumberKey key = true) :
    WellKept [key] where
  starts := ⟨key, [], rfl, .inl number⟩
  characters := by
    intro character member
    rw [List.mem_singleton.mp member]
    exact .inl (by simp [isKey, number])
  clashFree := clashFree_iff_isChain.mpr (.singleton key)
  singlePointed := singlePointed_of_count List.count_le_length

theorem initial : WellKept Entry.initial :=
  of_numberKey (by decide)

theorem isBlank_eq_false
    {entry : Text}
    {character : Char}
    (kept : WellKept entry)
    (member : character ∈ entry) :
    Text.isBlank character = false := by
  rcases kept.characters character member with key | rfl
  · exact isBlank_of_isKey key
  · decide

/-- The last visible character of a well-kept entry is its last. -/
theorem last
    {entry : Text}
    (kept : WellKept entry) :
    ∃ front last, entry = front ++ [last] ∧
      Text.lastVisible? entry = some last := by
  obtain ⟨first, rest, starts, _⟩ := kept.starts
  exact exists_lastVisible (by simp [starts]) fun _ => kept.isBlank_eq_false

private theorem concat
    {front : Text}
    {last key : Char}
    (kept : WellKept (front ++ [last]))
    (isKey : isKey key = true)
    (noClash : clash last key = false)
    (pointFree : key = '.' → '.' ∉ trailingNumber (front ++ [last])) :
    WellKept (front ++ [last] ++ [key]) where
  starts := by
    obtain ⟨first, rest, split, starts⟩ := kept.starts
    exact ⟨first, rest ++ [key], by rw [split, List.cons_append], starts⟩
  characters := by
    intro character member
    rcases List.mem_append.mp member with inEntry | isLast
    · exact kept.characters character inEntry
    · rw [List.mem_singleton.mp isLast]
      exact .inl isKey
  clashFree := kept.clashFree.concat noClash
  singlePointed := kept.singlePointed.concat pointFree

private theorem append
    {entry : Text}
    {key : Char}
    (kept : WellKept entry)
    (admitted : admits entry key = true) :
    WellKept (Entry.append entry key) := by
  simp only [admits, accepts, Bool.and_eq_true, Bool.not_eq_true'] at admitted
  obtain ⟨isKey, notRefused⟩ := admitted
  obtain ⟨front, last, rfl, visible⟩ := kept.last
  simp only [refuses, visible, Option.any_some, Bool.or_eq_false_iff] at notRefused
  obtain ⟨⟨noClash, _⟩, onePoint⟩ := notRefused
  unfold Entry.append
  split
  · rename_i replaces
    exact of_numberKey replaces.2
  · apply kept.concat isKey noClash
    intro point
    rw [point] at onePoint
    simpa using onePoint

private theorem eraseLast
    {entry : Text}
    (kept : WellKept entry) :
    WellKept (Entry.eraseLast entry) := by
  unfold Entry.eraseLast
  split
  · exact initial
  · rename_i long
    obtain ⟨front, last, rfl, _⟩ := kept.last
    rw [List.dropLast_concat]
    obtain ⟨first, rest, split, starts⟩ := kept.starts
    cases front with
    | nil => exact absurd (Nat.le_refl 1) long
    | cons head tail =>
        obtain ⟨rfl, _⟩ := List.cons.inj split
        exact {
          starts := ⟨head, tail, rfl, starts⟩
          characters := fun character member =>
            kept.characters character (List.mem_append_left _ member)
          clashFree := kept.clashFree.of_append
          singlePointed := kept.singlePointed.of_append }

/-- The parenthesis key closes behind an operand, and opens elsewhere, with an
operator in between where an operand stands before. -/
theorem parenthesis
    {entry : Text}
    (kept : WellKept entry) :
    WellKept (entry ++ parenthesisKeys entry) := by
  obtain ⟨front, last, rfl, visible⟩ := kept.last
  have noPoint {key : Char} (different : key ≠ '.') (entry : Text) :
      key = '.' → '.' ∉ trailingNumber entry :=
    fun same => absurd same different
  unfold parenthesisKeys
  split
  · rename_i closes
    obtain ⟨_, notOperator, notOpening⟩ := closes
    simp only [endsInOperator, endsIn, visible, Option.any_some, Bool.not_eq_true,
      decide_eq_true_eq, Option.some.injEq] at notOperator notOpening
    apply kept.concat (by decide) _ (noPoint (by decide) _)
    simp [clash, notOperator, notOpening]
  · split
    · rename_i operand
      simp only [endsInNumber, endsIn, visible, Option.any_some, decide_eq_true_eq,
        Option.some.injEq] at operand
      have notOperator : Operator.isSymbol last = false := by
        rcases operand with number | rfl
        · exact isSymbol_of_isNumberKey number
        · decide
      have multiplied : WellKept (front ++ [last] ++ ['*']) := by
        apply kept.concat (by decide) _ (noPoint (by decide) _)
        simp [clash, notOperator]
      have opened : WellKept (front ++ [last] ++ ['*'] ++ ['(']) :=
        multiplied.concat (by decide) (by decide) (noPoint (by decide) _)
      rwa [List.append_assoc] at opened
    · rename_i notOperand
      simp only [endsInNumber, visible, Option.any_some, not_or,
        Bool.not_eq_true] at notOperand
      apply kept.concat (by decide) _ (noPoint (by decide) _)
      have notSymbol : Operator.isSymbol '(' = false := by decide
      simp [clash, notOperand.1, notSymbol]

end WellKept

/-! ## Edits -/

inductive Edit : Text → Text → Prop where
  | type {entry : Text} {key : Char} (admitted : admits entry key = true) :
      Edit entry (append entry key)
  | erase (entry : Text) : Edit entry (eraseLast entry)
  | parenthesis (entry : Text) : Edit entry (entry ++ parenthesisKeys entry)
  | clear (entry : Text) : Edit entry initial

private theorem WellKept.edit
    {entry next : Text}
    (kept : WellKept entry)
    (edit : Edit entry next) :
    WellKept next := by
  cases edit with
  | type admitted => exact kept.append admitted
  | erase => exact kept.eraseLast
  | parenthesis => exact kept.parenthesis
  | clear => exact .initial

theorem WellKept.edits
    {entry next : Text}
    (kept : WellKept entry)
    (edits : Relation.ReflTransGen Edit entry next) :
    WellKept next := by
  induction edits with
  | refl => exact kept
  | tail _ edit inductionHypothesis => exact inductionHypothesis.edit edit

/-! ## The letter of an exponent -/

def mantissa (entry : Text) : Text :=
  entry.takeWhile (· ≠ 'e')

private theorem mantissa_append
    {front : Text}
    (back : Text)
    (letter : 'e' ∈ front) :
    mantissa (front ++ back) = mantissa front := by
  induction front with
  | nil => contradiction
  | cons first rest inductionHypothesis =>
      unfold mantissa at inductionHypothesis ⊢
      rw [List.cons_append, List.takeWhile_cons, List.takeWhile_cons]
      by_cases isLetter : first = 'e'
      · simp [isLetter]
      · have inRest : 'e' ∈ rest :=
          (List.mem_cons.mp letter).resolve_left (Ne.symm isLetter)
        rw [inductionHypothesis inRest]

private theorem mantissa_append_of_keys
    {front back : Text}
    (keys : ∀ key ∈ back, isKey key = true)
    (letter : 'e' ∈ front ++ back) :
    'e' ∈ front ∧ mantissa (front ++ back) = mantissa front := by
  have noKey : 'e' ∉ back := by
    intro member
    have key := keys 'e' member
    contradiction
  have inFront : 'e' ∈ front :=
    (List.mem_append.mp letter).resolve_right noKey
  exact ⟨inFront, mantissa_append back inFront⟩

private theorem isKey_of_mem_parenthesisKeys
    {entry : Text}
    {key : Char}
    (member : key ∈ parenthesisKeys entry) :
    isKey key = true := by
  have typed : key = '(' ∨ key = ')' ∨ key = '*' := by
    unfold parenthesisKeys at member
    split at member
    · simp_all
    · split at member
      · simp only [List.mem_cons, List.not_mem_nil, or_false] at member
        exact member.elim (fun times => .inr (.inr times)) .inl
      · simp_all
  rcases typed with rfl | rfl | rfl <;> decide

/-- No edit writes an exponent: where one is left, it was there before, behind
the same mantissa. -/
theorem Edit.mantissa
    {entry next : Text}
    (edit : Edit entry next)
    (letter : 'e' ∈ next) :
    'e' ∈ entry ∧ mantissa next = mantissa entry := by
  have initialPlain : 'e' ∉ initial := by decide
  cases edit with
  | @type key admitted =>
      have typed : isKey key = true := (Bool.and_eq_true_iff.mp admitted).1
      have keys : ∀ other ∈ [key], isKey other = true := by
        intro other member
        rw [List.mem_singleton.mp member]
        exact typed
      unfold append at letter ⊢
      split at letter
      · have key := keys 'e' letter
        contradiction
      · rename_i appended
        rw [if_neg appended]
        exact mantissa_append_of_keys keys letter
  | erase =>
      unfold eraseLast at letter ⊢
      split at letter
      · contradiction
      · rename_i long
        rw [if_neg long]
        refine ⟨List.dropLast_subset entry letter, ?_⟩
        have nonempty : entry ≠ [] := by
          rintro rfl
          exact long (Nat.zero_le 1)
        rw [← mantissa_append [entry.getLast nonempty] letter,
          List.dropLast_append_getLast]
  | parenthesis =>
      exact mantissa_append_of_keys (fun _ => isKey_of_mem_parenthesisKeys) letter
  | clear => contradiction

theorem mantissa_edits
    {entry next : Text}
    (edits : Relation.ReflTransGen Edit entry next)
    (letter : 'e' ∈ next) :
    'e' ∈ entry ∧ mantissa next = mantissa entry := by
  induction edits with
  | refl => exact ⟨letter, rfl⟩
  | tail _ edit inductionHypothesis =>
      obtain ⟨between, same⟩ := edit.mantissa letter
      obtain ⟨before, earlier⟩ := inductionHypothesis between
      exact ⟨before, same.trans earlier⟩

end Keypad.Entry
