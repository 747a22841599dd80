import Keypad.Entry

/-!
The entries that typing produces, described as a whole.

Typing decides key by key, on an entry that changes its start when the zero of
an empty keypad is replaced.  The result can be described without that history.

Owns:
- the entry that a sequence of keys leads to, in closed form;
- the conditions on an entry's neighbouring characters, on its points and on its
  groups;
- the sequences of keys that can be typed.
-/

namespace Keypad.Entry

/-- The entry that typed keys lead to: leading zeros vanish, and one comes back
in front of anything that is no number. -/
def normalForm (typed : Text) : Text :=
  let rest := typed.dropWhile (· = '0')
  if rest.head?.any isNumberKey then rest else '0' :: rest

def ClashFree (entry : Text) : Prop :=
  ∀ front before after back,
    entry = front ++ before :: after :: back → clash before after = false

/-- No stretch without separators has more than one point. -/
def SinglePointed (entry : Text) : Prop :=
  ∀ front stretch back,
    entry = front ++ stretch ++ back →
      (∀ character ∈ stretch, isSeparator character = false) →
        stretch.count '.' ≤ 1

/-- At no point of the entry have more groups been closed than opened. -/
def NeverUnderflows (entry : Text) : Prop :=
  ∀ front back, entry = front ++ back → closings front ≤ openings front

/-- The entry does not apply an operator other than the minus to the zero of an
empty keypad. -/
def KeepsInitial (entry : Text) : Prop :=
  ∀ key rest,
    entry = '0' :: key :: rest → Operator.isSymbol key = true → key = '-'

/-- The keys that can be typed one after another on an empty keypad. -/
structure Typeable (typed : Text) : Prop where
  keys : ∀ character ∈ typed, isKey character = true
  clashFree : ClashFree (normalForm typed)
  singlePointed : SinglePointed (normalForm typed)
  keepsInitial : KeepsInitial (normalForm typed)

/-- A part of an entry without clashes has none. -/
theorem ClashFree.of_append
    {front back : Text}
    (clashFree : ClashFree (front ++ back)) :
    ClashFree front := by
  intro before left right after split
  apply clashFree before left right (after ++ back)
  simp [split]

/-- A part of an entry with single points has single points. -/
theorem SinglePointed.of_append
    {front back : Text}
    (singlePointed : SinglePointed (front ++ back)) :
    SinglePointed front := by
  intro before stretch after split free
  apply singlePointed before stretch (after ++ back) _ free
  simp [split]

/-- A part of an entry whose groups are never closed too often has none that are. -/
theorem NeverUnderflows.of_append
    {front back : Text}
    (never : NeverUnderflows (front ++ back)) :
    NeverUnderflows front := by
  intro before after split
  apply never before (after ++ back)
  simp [split]

/-- An empty keypad shows the zero. -/
theorem normalForm_nil : normalForm [] = initial :=
  rfl

/-- The normal form is never empty. -/
theorem normalForm_ne_nil (typed : Text) : normalForm typed ≠ [] := by
  simp only [normalForm]
  split
  · rename_i starts
    intro empty
    simp [empty] at starts
  · simp

end Keypad.Entry
