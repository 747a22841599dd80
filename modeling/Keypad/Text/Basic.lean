/-!
Texts as lists of characters.

Owns:
- the type of texts;
- removing characters of a class from their ends;
- classes of characters that are given by ranges of code points.
-/

namespace Keypad

/-- Text is handled one character at a time. -/
abbrev Text :=
  List Char

namespace Text

def trimEnd (drops : Char → Bool) (text : Text) : Text :=
  (text.reverse.dropWhile drops).reverse

def trimBy (drops : Char → Bool) (text : Text) : Text :=
  trimEnd drops (text.dropWhile drops)

/-- A character whose code point is in one of the ranges, the ends included. -/
def inRanges (ranges : List (Nat × Nat)) (character : Char) : Bool :=
  ranges.any fun range =>
    range.1 ≤ character.toNat && character.toNat ≤ range.2

/-- A text is what trimming leaves of it, and what was trimmed behind that. -/
theorem trimEnd_append_takeWhile
    (drops : Char → Bool)
    (text : Text) :
    trimEnd drops text ++ (text.reverse.takeWhile drops).reverse = text := by
  rw [trimEnd, ← List.reverse_append, List.takeWhile_append_dropWhile,
    List.reverse_reverse]

/-- What is trimmed is of the class, and the rest was there before. -/
theorem trimEnd_append
    (drops : Char → Bool)
    (text : Text) :
    ∃ trimmed : Text,
      trimEnd drops text ++ trimmed = text ∧
        ∀ character ∈ trimmed, drops character = true := by
  refine ⟨(text.reverse.takeWhile drops).reverse,
    trimEnd_append_takeWhile drops text, ?_⟩
  intro character member
  exact List.all_eq_true.mp List.all_takeWhile character
    (List.mem_reverse.mp member)

/-- A text that ends in another character is not trimmed. -/
theorem trimEnd_concat
    {drops : Char → Bool}
    (text : Text)
    {last : Char}
    (keeps : drops last = false) :
    trimEnd drops (text ++ [last]) = text ++ [last] := by
  simp [trimEnd, keeps]

/-- A text without characters of the class is not trimmed. -/
theorem trimBy_of_none
    {drops : Char → Bool}
    {text : Text}
    (keeps : ∀ character ∈ text, drops character = false) :
    trimBy drops text = text := by
  have front : text.dropWhile drops = text := by
    cases text with
    | nil => rfl
    | cons first rest => simp [keeps first (by simp)]
  have back : text.reverse.dropWhile drops = text.reverse := by
    cases reversed : text.reverse with
    | nil => rfl
    | cons last rest =>
        have member : last ∈ text := by
          rw [← List.mem_reverse, reversed]
          simp
        simp [keeps last member]
  rw [trimBy, front, trimEnd, back, List.reverse_reverse]

/-- Ranges that leave out an interval hold none of its characters. -/
theorem inRanges_eq_false
    {ranges : List (Nat × Nat)}
    {first last : Nat}
    {character : Char}
    (outside : ∀ range ∈ ranges, range.2 < first ∨ last ≤ range.1)
    (fromFirst : first ≤ character.toNat)
    (beforeLast : character.toNat < last) :
    inRanges ranges character = false := by
  simp only [inRanges, List.any_eq_false, Bool.and_eq_true, decide_eq_true_eq,
    not_and]
  intro range member
  have apart := outside range member
  omega

end Text

end Keypad
