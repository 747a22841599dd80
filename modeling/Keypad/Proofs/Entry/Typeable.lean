import Keypad.Proofs.Entry.Typing

/-!
Which keys can be typed one after another on an empty keypad.

Every rule of typing is about the entry that the keys so far have led to and one
more key, and each has a condition on the whole entry that one more key keeps
exactly when the rule lets the key follow.  So the keys can be judged by the
entry that they lead to.

Owns:
- what admits a key, rule by rule;
- one more character in an entry, condition by condition;
- the keys that can be typed, and their entry.

Main statements: `typeable_concat`, `type?_eq_some_iff`.
-/

namespace Keypad.Entry

private theorem admits_iff
    {entry : Text}
    {last key : Char}
    (visible : Text.lastVisible? entry = some last) :
    admits entry key = true ↔
      isKey key = true ∧ clash last key = false ∧
        (key = '.' → '.' ∉ trailingNumber entry) ∧
        (entry = initial → Operator.isSymbol key = true → key = '-') := by
  simp only [admits, accepts, refuses, visible, Option.any_some, Bool.and_eq_true,
    Bool.not_eq_true', Bool.or_eq_false_iff, Bool.and_eq_false_imp, decide_eq_true_eq,
    decide_eq_false_iff_not, List.contains_eq_mem, ne_eq, Decidable.not_not, and_imp]
  constructor
  · rintro ⟨isKey, ⟨noClash, keeps⟩, onePoint⟩
    exact ⟨isKey, noClash, onePoint, keeps⟩
  · rintro ⟨isKey, noClash, onePoint, keeps⟩
    exact ⟨isKey, ⟨noClash, keeps⟩, onePoint⟩

/-! ## One more character -/

private theorem clashFree_concat_iff (front : Text) (last key : Char) :
    ClashFree (front ++ [last] ++ [key]) ↔
      ClashFree (front ++ [last]) ∧ clash last key = false := by
  constructor
  · intro clashFree
    exact ⟨clashFree.of_append, clashFree front last key [] (by simp)⟩
  · rintro ⟨clashFree, noClash⟩
    exact clashFree.concat noClash

private theorem isSeparator_of_mem_trailingNumber
    {entry : Text}
    {character : Char}
    (member : character ∈ trailingNumber entry) :
    isSeparator character = false := by
  have free := List.all_eq_true.mp List.all_takeWhile character (List.mem_reverse.mp member)
  simpa using free

private theorem singlePointed_concat_iff (entry : Text) (key : Char) :
    SinglePointed (entry ++ [key]) ↔
      SinglePointed entry ∧ (key = '.' → '.' ∉ trailingNumber entry) := by
  constructor
  · intro singlePointed
    refine ⟨singlePointed.of_append, ?_⟩
    rintro rfl point
    have split := Text.trimEnd_append_takeWhile (fun character => !isSeparator character) entry
    have points := singlePointed (Text.trimEnd (fun character => !isSeparator character) entry)
      (trailingNumber entry ++ ['.']) []
      (by rw [List.append_nil, ← List.append_assoc, trailingNumber, split])
      (by
        intro character member
        rcases List.mem_append.mp member with earlier | isPoint
        · exact isSeparator_of_mem_trailingNumber earlier
        · rw [List.mem_singleton.mp isPoint]
          decide)
    have earlier := List.count_pos_iff.mpr point
    rw [List.count_append, List.count_singleton_self] at points
    omega
  · rintro ⟨singlePointed, pointFree⟩
    exact singlePointed.concat pointFree

private theorem keepsInitial_concat_iff
    {entry : Text}
    (nonempty : entry ≠ [])
    (key : Char) :
    KeepsInitial (entry ++ [key]) ↔
      KeepsInitial entry ∧
        (entry = initial → Operator.isSymbol key = true → key = '-') := by
  -- Only an entry of one character can have its second one typed.
  match entry with
  | [] => contradiction
  | [first] =>
      have none : KeepsInitial [first] := by
        rintro second rest impossible
        simp at impossible
      rw [and_iff_right none]
      constructor
      · intro keepsInitial isInitial
        obtain rfl : first = '0' := List.head_eq_of_cons_eq isInitial
        exact keepsInitial key [] rfl
      · rintro keeps second rest split
        obtain ⟨rfl, behind⟩ := List.cons.inj split
        obtain ⟨rfl, _⟩ := List.cons.inj behind
        exact keeps rfl
  | first :: second :: rest =>
      simp [KeepsInitial, initial]

/-! ## The keys that can be typed -/

private theorem mem_normalForm
    {typed : Text}
    {character : Char}
    (member : character ∈ normalForm typed) :
    character = '0' ∨ character ∈ typed := by
  have kept (inRest : character ∈ typed.dropWhile (· = '0')) : character ∈ typed :=
    List.dropWhile_subset _ inRest
  simp only [normalForm] at member
  split at member
  · exact .inr (kept member)
  · exact (List.mem_cons.mp member).imp_right kept

private theorem isKey_of_mem_normalForm
    {typed : Text}
    {character : Char}
    (keys : ∀ key ∈ typed, isKey key = true)
    (member : character ∈ normalForm typed) :
    isKey character = true := by
  rcases mem_normalForm member with rfl | inTyped
  · decide
  · exact keys character inTyped

private theorem starts_normalForm (typed : Text) :
    ∃ first rest, normalForm typed = first :: rest ∧ isNumberKey first = true := by
  cases kept : typed.dropWhile (· = '0') with
  | nil => exact ⟨'0', [], by simp [normalForm, kept], rfl⟩
  | cons first rest =>
      cases number : isNumberKey first with
      | true => exact ⟨first, rest, by simp [normalForm, kept, number], number⟩
      | false => exact ⟨'0', first :: rest, by simp [normalForm, kept, number], rfl⟩

theorem Typeable.wellKept
    {typed : Text}
    (typeable : Typeable typed) :
    WellKept (normalForm typed) where
  starts := by
    obtain ⟨first, rest, starts, number⟩ := starts_normalForm typed
    exact ⟨first, rest, starts, .inl number⟩
  characters := fun _ member => .inl (isKey_of_mem_normalForm typeable.keys member)
  clashFree := typeable.clashFree
  singlePointed := typeable.singlePointed

/-- An entry of one character breaks no rule. -/
theorem typeable_of_normalForm_singleton
    {typed : Text}
    {only : Char}
    (keys : ∀ key ∈ typed, isKey key = true)
    (single : normalForm typed = [only]) :
    Typeable typed where
  keys := keys
  clashFree := by
    rw [single, clashFree_iff_isChain]
    exact .singleton only
  singlePointed := by
    rw [single]
    exact singlePointed_of_count List.count_le_length
  keepsInitial := by
    rw [single]
    intro key rest impossible
    simp at impossible

theorem typeable_nil : Typeable [] :=
  typeable_of_normalForm_singleton (by simp) normalForm_nil

/-- One more key can be typed exactly when the entry so far admits it. -/
theorem typeable_concat {typed : Text} {key : Char} :
    Typeable (typed ++ [key]) ↔
      Typeable typed ∧ admits (normalForm typed) key = true := by
  have concatKeys : (∀ other ∈ typed ++ [key], isKey other = true) ↔
      (∀ other ∈ typed, isKey other = true) ∧ isKey key = true := by
    simp [or_imp, forall_and]
  by_cases keys : ∀ other ∈ typed, isKey other = true
  · obtain ⟨front, last, ends, visible⟩ :=
      exists_lastVisible (normalForm_ne_nil typed) fun character member =>
        isBlank_of_isKey (isKey_of_mem_normalForm keys member)
    rw [admits_iff visible]
    have next := append_normalForm typed key
    unfold append at next
    split at next
    · -- The key takes the place of the zero of an empty keypad.
      rename_i replaces
      obtain ⟨isInitial, number⟩ := replaces
      have isKey : isKey key = true := by simp [isKey, number]
      refine iff_of_true ?_ ⟨typeable_of_normalForm_singleton keys isInitial, isKey,
        neverClashes_of_isNumberKey number last, ?_, ?_⟩
      · exact typeable_of_normalForm_singleton (concatKeys.mpr ⟨keys, isKey⟩) next.symm
      · intro _
        rw [isInitial]
        decide
      · intro _ symbol
        rw [isSymbol_of_isNumberKey number] at symbol
        contradiction
    · have clashes := clashFree_concat_iff front last key
      rw [← ends, next] at clashes
      have points := singlePointed_concat_iff (normalForm typed) key
      have starts := keepsInitial_concat_iff (normalForm_ne_nil typed) key
      rw [next] at points starts
      constructor
      · rintro ⟨allKeys, clashFree, singlePointed, keepsInitial⟩
        rw [clashes] at clashFree
        rw [points] at singlePointed
        rw [starts] at keepsInitial
        exact ⟨⟨keys, clashFree.1, singlePointed.1, keepsInitial.1⟩,
          (concatKeys.mp allKeys).2, clashFree.2, singlePointed.2, keepsInitial.2⟩
      · rintro ⟨⟨_, clashFree, singlePointed, keepsInitial⟩, isKey, noClash, onePoint, keeps⟩
        exact ⟨concatKeys.mpr ⟨keys, isKey⟩, clashes.mpr ⟨clashFree, noClash⟩,
          points.mpr ⟨singlePointed, onePoint⟩, starts.mpr ⟨keepsInitial, keeps⟩⟩
  · exact iff_of_false (fun longer => keys (concatKeys.mp longer.keys).1)
      fun typeable => keys typeable.1.keys

theorem Typeable.of_append
    {front back : Text}
    (typeable : Typeable (front ++ back)) :
    Typeable front := by
  induction back using List.reverseRecOn with
  | nil => simpa using typeable
  | append_singleton back key inductionHypothesis =>
      rw [← List.append_assoc] at typeable
      exact inductionHypothesis (typeable_concat.mp typeable).1

/-- Keys can be typed exactly when the entry that they lead to breaks no rule. -/
theorem type?_eq_some_iff {typed entry : Text} :
    type? initial typed = some entry ↔ Typeable typed ∧ entry = normalForm typed := by
  induction typed using List.reverseRecOn generalizing entry with
  | nil =>
      rw [type?_nil, normalForm_nil, Option.some.injEq, eq_comm]
      exact (and_iff_right typeable_nil).symm
  | append_singleton typed key inductionHypothesis =>
      rw [type?_append, Option.bind_eq_some_iff]
      simp only [inductionHypothesis, type?_cons, type?_nil, typeable_concat,
        ← append_normalForm]
      constructor
      · rintro ⟨between, ⟨typeable, rfl⟩, typing⟩
        split at typing
        · rename_i admitted
          exact ⟨⟨typeable, admitted⟩, (Option.some.inj typing).symm⟩
        · contradiction
      · rintro ⟨⟨typeable, admitted⟩, rfl⟩
        exact ⟨normalForm typed, ⟨typeable, rfl⟩, if_pos admitted⟩

end Keypad.Entry
