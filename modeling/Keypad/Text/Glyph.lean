import Keypad.Text.Basic

/-!
Display glyphs of the operators.

Three operators are shown with a glyph of their own: the asterisk as a
multiplication sign, the slash as a division sign and the hyphen as a minus
sign.  Both spellings are accepted as input.

Owns: the glyph of a character and the character of a glyph, over texts.

Main statements: `plain_pretty` (a text without glyphs is recovered from its
display form), `plain_plain`, `plain_eq_iff` (names without such characters).
-/

namespace Keypad.Text

/-- The display glyph of an operator character; other characters are shown as
they are. -/
def glyph : Char → Char
  | '*' => '×'
  | '/' => '÷'
  | '-' => '−'
  | character => character

def unglyph : Char → Char
  | '×' => '*'
  | '÷' => '/'
  | '−' => '-'
  | character => character

def pretty (text : Text) : Text :=
  text.map glyph

def plain (text : Text) : Text :=
  text.map unglyph

def IsGlyph (character : Char) : Prop :=
  character = '×' ∨ character = '÷' ∨ character = '−'

instance (character : Char) : Decidable (IsGlyph character) := by
  unfold IsGlyph
  infer_instance

/-! ## Laws -/

theorem unglyph_of_not_isGlyph
    {character : Char}
    (notGlyph : ¬ IsGlyph character) :
    unglyph character = character := by
  simp only [IsGlyph, not_or] at notGlyph
  unfold unglyph
  split <;> simp_all

/-- The display form of a character stands for that character, glyphs included. -/
theorem unglyph_glyph (character : Char) :
    unglyph (glyph character) = unglyph character := by
  unfold glyph
  split <;> rfl

/-- No replaced character is a glyph again. -/
theorem not_isGlyph_unglyph (character : Char) :
    ¬ IsGlyph (unglyph character) := by
  unfold unglyph
  split
  · decide
  · decide
  · decide
  · simp_all [IsGlyph]

/-- A character that has no glyph and is none stands for itself alone. -/
theorem unglyph_eq_iff
    {character : Char}
    (noGlyph : glyph character = character)
    (notGlyph : ¬ IsGlyph character)
    (other : Char) :
    unglyph other = character ↔ other = character := by
  constructor
  · intro stands
    subst stands
    unfold unglyph at noGlyph ⊢
    split at noGlyph
    · contradiction
    · contradiction
    · contradiction
    · rfl
  · rintro rfl
    exact unglyph_of_not_isGlyph notGlyph

theorem plain_of_no_glyph
    {text : Text}
    (noGlyph : ∀ character ∈ text, ¬ IsGlyph character) :
    plain text = text := by
  unfold plain
  conv => rhs; rw [← List.map_id text]
  exact List.map_congr_left fun character member =>
    unglyph_of_not_isGlyph (noGlyph character member)

/-- A name that is shown and read as it is has no other spelling. -/
theorem plain_eq_iff
    {text name : Text}
    (shown : pretty name = name)
    (read : plain name = name) :
    plain text = name ↔ text = name := by
  induction name generalizing text with
  | nil => exact List.map_eq_nil_iff
  | cons character later inductionHypothesis =>
      obtain ⟨noGlyph, shownLater⟩ := List.cons.inj shown
      obtain ⟨stands, readLater⟩ := List.cons.inj read
      have notGlyph : ¬ IsGlyph character := stands ▸ not_isGlyph_unglyph character
      cases text with
      | nil => simp [plain]
      | cons first rest =>
          show unglyph first :: plain rest = character :: later ↔ _
          rw [List.cons.injEq, List.cons.injEq, unglyph_eq_iff noGlyph notGlyph,
            inductionHypothesis shownLater readLater]

/-- Replacing glyphs in a display form is replacing them in the text. -/
theorem plain_pretty (text : Text) : plain (pretty text) = plain text := by
  simp [plain, pretty, unglyph_glyph]

@[simp] theorem plain_plain (text : Text) :
    plain (plain text) = plain text := by
  apply plain_of_no_glyph
  intro character member
  obtain ⟨before, _, rfl⟩ := List.mem_map.mp member
  exact not_isGlyph_unglyph before

@[simp] theorem plain_append (front back : Text) :
    plain (front ++ back) = plain front ++ plain back := by
  simp [plain]

end Keypad.Text
