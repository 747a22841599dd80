import Keypad.Postorder.Nesting
import Keypad.Proofs.Entry.Reading

/-!
The texts that spell lexemes.

A spelling holds keys only, so blanks and glyphs put into it can be told from
its own characters, and the parentheses in it are those of its lexemes.

Owns:
- the texts that a spelling turns into by blanks and glyphs;
- the parentheses of a text that can be read.

Main statements: `Token.ofText_spelled`, `Token.parentheses_of_ofText`.
-/

namespace Keypad

namespace Text

/-- The source is the text with blanks put in anywhere and with glyphs in place
of some of its characters. -/
inductive Decorates : Text → Text → Prop where
  | nil : Decorates [] []
  | blank {source text : Text} {space : Char}
      (isBlank : isBlank space = true)
      (decorates : Decorates source text) :
      Decorates (space :: source) text
  | same {source text : Text} (character : Char)
      (decorates : Decorates source text) :
      Decorates (character :: source) (character :: text)
  | glyph {source text : Text} (character : Char)
      (decorates : Decorates source text) :
      Decorates (glyph character :: source) (character :: text)

private theorem Decorates.refl (text : Text) : Decorates text text := by
  induction text with
  | nil => exact .nil
  | cons character rest inductionHypothesis =>
      exact .same character inductionHypothesis

private theorem unglyph_of_isBlank
    {character : Char}
    (blank : isBlank character = true) :
    unglyph character = character := by
  apply unglyph_of_not_isGlyph
  rintro (rfl | rfl | rfl)
  · contradiction
  · contradiction
  · contradiction

private theorem squeeze_cons_of_visible
    {character : Char}
    (rest : Text)
    (visible : isBlank character = false) :
    squeeze (character :: rest) = character :: squeeze rest :=
  List.filter_cons_of_pos (by simp [visible])

/-- What was put into a text of visible characters can be taken out again. -/
theorem Decorates.squeeze_plain
    {source text : Text}
    (decorates : Decorates source text)
    (visible : ∀ character ∈ text,
      isBlank character = false ∧ unglyph character = character) :
    squeeze (plain source) = text := by
  induction decorates with
  | nil => rfl
  | @blank source text space blank _ inductionHypothesis =>
      have dropped : squeeze (space :: plain source) = squeeze (plain source) :=
        List.filter_cons_of_neg (by simp [blank])
      rw [plain, List.map_cons, unglyph_of_isBlank blank, ← plain, dropped]
      exact inductionHypothesis visible
  | @same source text character _ inductionHypothesis =>
      obtain ⟨isVisible, noGlyph⟩ := visible character (by simp)
      rw [plain, List.map_cons, noGlyph, ← plain,
        squeeze_cons_of_visible _ isVisible,
        inductionHypothesis fun other member =>
          visible other (List.mem_cons_of_mem character member)]
  | @glyph source text character _ inductionHypothesis =>
      obtain ⟨isVisible, noGlyph⟩ := visible character (by simp)
      rw [plain, List.map_cons, unglyph_glyph, noGlyph, ← plain,
        squeeze_cons_of_visible _ isVisible,
        inductionHypothesis fun other member =>
          visible other (List.mem_cons_of_mem character member)]

/-- A visible character that no glyph stands for is as frequent as it was. -/
theorem count_squeeze_plain
    {character : Char}
    (text : Text)
    (visible : isBlank character = false)
    (noGlyph : ∀ other, unglyph other = character ↔ other = character) :
    (squeeze (plain text)).count character = text.count character := by
  have counted (other : Char) :
      (unglyph other == character) = (other == character) := by
    rw [Bool.eq_iff_iff, beq_iff_eq, beq_iff_eq]
    exact noGlyph other
  rw [squeeze, List.count_filter (by simp [visible]), plain,
    List.count_eq_countP, List.countP_map, List.count_eq_countP]
  apply List.countP_congr
  intro other _
  rw [Function.comp, counted]

end Text

namespace Lexeme

/-! ## Characters of a spelling -/

theorem isKey_of_mem_spelling
    {previous : Option Lexeme}
    {lexemes : List Lexeme}
    {character : Char}
    (admissible : AdmissibleAfter previous lexemes)
    (member : character ∈ spelling lexemes) :
    Entry.isKey character = true := by
  induction lexemes generalizing previous with
  | nil => contradiction
  | cons lexeme later inductionHypothesis =>
      rw [spelling_cons, List.mem_append] at member
      rcases member with inText | inLater
      · cases lexeme with
        | numeral written => exact Numeral.isKey_of_mem_text admissible.1.1 inText
        | operator op =>
            rw [List.mem_singleton.mp inText]
            simp [Entry.isKey]
        | opening =>
            rw [List.mem_singleton.mp inText]
            decide
        | closing =>
            rw [List.mem_singleton.mp inText]
            decide
      · exact inductionHypothesis admissible.2 inLater

private theorem spells_of_decorates
    {source : Text}
    {lexemes : List Lexeme}
    (admissible : Admissible lexemes)
    (decorates : Text.Decorates source (spelling lexemes)) :
    Spells source lexemes := by
  apply decorates.squeeze_plain
  intro character member
  have key := isKey_of_mem_spelling admissible member
  exact ⟨Entry.isBlank_of_isKey key,
    Text.unglyph_of_not_isGlyph (Entry.not_isGlyph_of_isKey key)⟩

theorem spells_spelling
    {lexemes : List Lexeme}
    (admissible : Admissible lexemes) :
    Spells (spelling lexemes) lexemes :=
  spells_of_decorates admissible (.refl (spelling lexemes))

/-! ## Parentheses -/

private theorem count_numeral_text
    {written : Numeral}
    {character : Char}
    (wellFormed : written.WellFormed)
    (notNumber : Entry.isNumberKey character = false)
    (notSign : character ≠ '-') :
    written.text.count character = 0 := by
  apply List.count_eq_zero.mpr
  intro member
  rcases Numeral.mem_text wellFormed member with number | sign
  · rw [number] at notNumber
    contradiction
  · exact notSign sign

private theorem parentheses_spelling
    {previous : Option Lexeme}
    {lexemes : List Lexeme}
    (admissible : AdmissibleAfter previous lexemes) :
    Entry.openings (spelling lexemes) = Nesting.openings (lexemes.map token) ∧
      Entry.closings (spelling lexemes) = Nesting.closings (lexemes.map token) := by
  induction lexemes generalizing previous with
  | nil => exact ⟨rfl, rfl⟩
  | cons lexeme later inductionHypothesis =>
      obtain ⟨opened, closed⟩ := inductionHypothesis admissible.2
      have inText : lexeme.text.count '(' = Nesting.openings [lexeme.token] ∧
          lexeme.text.count ')' = Nesting.closings [lexeme.token] := by
        cases lexeme with
        | numeral written =>
            have wellFormed := admissible.1.1
            exact ⟨count_numeral_text wellFormed (by decide) (by decide),
              count_numeral_text wellFormed (by decide) (by decide)⟩
        | operator op => cases op <;> decide
        | opening => decide
        | closing => decide
      have split : (lexeme :: later).map token = [lexeme.token] ++ later.map token :=
        rfl
      rw [split, Nesting.openings_append, Nesting.closings_append, ← inText.1,
        ← inText.2, ← opened, ← closed]
      exact ⟨List.count_append, List.count_append⟩

end Lexeme

/-- A text that can be read has the parentheses of its tokens. -/
theorem Token.parentheses_of_ofText
    {source : Text}
    {tokens : List Token}
    (read : Token.ofText source = .ok tokens) :
    Entry.openings source = Nesting.openings tokens ∧
      Entry.closings source = Nesting.closings tokens := by
  obtain ⟨lexemes, spelled, admissible, rfl⟩ :=
    Token.ofText_eq_ok_iff_spells.mp read
  rw [Lexeme.Spells] at spelled
  have opened := Text.count_squeeze_plain source
    (show Text.isBlank '(' = false by decide)
    (Text.unglyph_eq_iff (by decide) (by decide))
  have closed := Text.count_squeeze_plain source
    (show Text.isBlank ')' = false by decide)
    (Text.unglyph_eq_iff (by decide) (by decide))
  rw [spelled] at opened closed
  obtain ⟨openings, closings⟩ := Lexeme.parentheses_spelling admissible
  exact ⟨opened.symm.trans openings, closed.symm.trans closings⟩

/-- However an admissible list of lexemes is written, with blanks anywhere and
with glyphs, its tokens are read; and a text that is read spells exactly one
admissible list, whose tokens are the answer. -/
theorem Token.ofText_spelled (source : Text) :
    (∀ lexemes, Lexeme.Admissible lexemes →
        Text.Decorates source (Lexeme.spelling lexemes) →
          Token.ofText source = .ok (lexemes.map Lexeme.token)) ∧
      ∀ tokens, Token.ofText source = .ok tokens →
        (∃! lexemes, Lexeme.Admissible lexemes ∧ Lexeme.Spells source lexemes) ∧
          ∀ lexemes, Lexeme.Admissible lexemes → Lexeme.Spells source lexemes →
            lexemes.map Lexeme.token = tokens := by
  constructor
  · intro lexemes admissible decorates
    have spells := Lexeme.spells_of_decorates admissible decorates
    exact Token.ofText_eq_ok_iff_spells.mpr ⟨lexemes, spells, admissible, rfl⟩
  · intro tokens read
    obtain ⟨found, scanned, rfl⟩ := Token.ofText_eq_ok_iff.mp read
    obtain ⟨spelled, admissible⟩ := Lexeme.ofText_eq_ok_iff.mp scanned
    have unique : ∀ other, Lexeme.Admissible other → Lexeme.Spells source other →
        other = found := by
      intro other otherAdmissible otherSpelled
      have otherScanned := Lexeme.ofText_eq_ok_iff.mpr ⟨otherSpelled, otherAdmissible⟩
      rw [scanned] at otherScanned
      exact (Except.ok.inj otherScanned).symm
    refine ⟨⟨found, ⟨admissible, spelled⟩, ?_⟩, ?_⟩
    · intro other both
      exact unique other both.1 both.2
    · intro other otherAdmissible otherSpelled
      rw [unique other otherAdmissible otherSpelled]

/-- Two numerals side by side, the first of them with its sign as a glyph. -/
theorem Token.ofText_spelled_points :
    let first : Numeral := ⟨true, [], some ['5']⟩
    let second : Numeral := ⟨false, [], some ['2']⟩
    let lexemes : List Lexeme := [.numeral first, .numeral second]
    let source : Text := "−.5 .2".toList
    Lexeme.Admissible lexemes ∧
      Text.Decorates source (Lexeme.spelling lexemes) ∧
      Token.ofText source = .ok [.number first.number, .number second.number] ∧
      ∃! lexemes, Lexeme.Admissible lexemes ∧ Lexeme.Spells source lexemes := by
  intro first second lexemes source
  have firstFormed : first.WellFormed :=
    ⟨List.all_eq_true.mp rfl, List.all_eq_true.mp rfl, by decide⟩
  have secondFormed : second.WellFormed :=
    ⟨List.all_eq_true.mp rfl, List.all_eq_true.mp rfl, by decide⟩
  have admissible : Lexeme.Admissible lexemes :=
    ⟨⟨firstFormed, fun _ => rfl, trivial⟩,
      ⟨secondFormed, by decide, ⟨rfl, rfl⟩⟩, trivial⟩
  have decorates : Text.Decorates source (Lexeme.spelling lexemes) :=
    .glyph '-' (.same '.' (.same '5' (.blank (by decide)
      (.same '.' (.same '2' .nil)))))
  have read := (Token.ofText_spelled source).1 lexemes admissible decorates
  exact ⟨admissible, decorates, read, ((Token.ofText_spelled source).2 _ read).1⟩

end Keypad
