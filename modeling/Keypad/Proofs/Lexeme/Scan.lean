import Keypad.Lexeme.Admissible
import Keypad.Proofs.Outcome
import Keypad.Rendering

/-!
What a scan answers.

A scan succeeds on the spellings of admissible lists and on no other text, and
it answers the list.

Owns: the two directions of that law, for a scan that starts behind any lexeme.

Does not own: where a failing scan stops.
-/

namespace Keypad

namespace Numeral

/-- The numeral does not go on in the text behind it. -/
def EndsAt (written : Numeral) (behind : Text) : Prop :=
  ∀ next, behind.head? = some next →
    next.isDigit = false ∧ (written.fraction = none → next ≠ '.')

/-- Digits are taken up to what is no digit. -/
theorem takeWhile_isDigit_append
    {digits behind : Text}
    (allDigits : ∀ character ∈ digits, character.isDigit = true)
    (stops : ∀ next, behind.head? = some next → next.isDigit = false) :
    (digits ++ behind).takeWhile Char.isDigit = digits ∧
      (digits ++ behind).dropWhile Char.isDigit = behind := by
  rw [List.takeWhile_append_of_pos allDigits,
    List.dropWhile_append_of_pos allDigits]
  cases behind with
  | nil => simp
  | cons next after => simp [stops next rfl]

theorem scan_body_append
    {written : Numeral}
    {behind : Text}
    (wellFormed : written.WellFormed)
    (ends : written.EndsAt behind) :
    scan written.negative (written.body ++ behind) = (written, behind) := by
  obtain ⟨negative, whole, fraction⟩ := written
  have notDigit : Char.isDigit '.' = false := rfl
  cases fraction with
  | none =>
      have taken := takeWhile_isDigit_append wellFormed.wholeDigits
        fun next head => (ends next head).1
      simp only [body, fractionText, List.append_nil, scan, taken.1, taken.2]
      split
      · rename_i after
        exact absurd rfl ((ends '.' rfl).2 rfl)
      · rfl
  | some fractional =>
      have taken := takeWhile_isDigit_append wellFormed.decimalDigits
        fun next head => (ends next head).1
      simp only [decimals, Option.getD] at taken
      have front : (whole ++ '.' :: (fractional ++ behind)).takeWhile Char.isDigit =
            whole ∧
          (whole ++ '.' :: (fractional ++ behind)).dropWhile Char.isDigit =
            '.' :: (fractional ++ behind) :=
        takeWhile_isDigit_append wellFormed.wholeDigits
          fun next head => Option.some.inj head ▸ notDigit
      simp only [body, fractionText, List.append_assoc, List.cons_append, scan,
        front.1, front.2, taken.1, taken.2]

/-- An unsigned numeral with a digit starts with a digit or a point. -/
theorem body_head
    {written : Numeral}
    (wellFormed : written.WellFormed) :
    ∃ first rest, written.body = first :: rest ∧
      (first.isDigit = true ∨ first = '.') := by
  obtain ⟨negative, whole, fraction⟩ := written
  cases whole with
  | cons first rest =>
      exact ⟨first, rest ++ fractionText _, rfl,
        .inl (wellFormed.wholeDigits first (by simp))⟩
  | nil =>
      cases fraction with
      | some behind => exact ⟨'.', behind, rfl, .inr rfl⟩
      | none =>
          have noDigit := wellFormed.hasDigit
          simp [HasDigit, decimals] at noDigit

private theorem scan_endsAt (negative : Bool) (text : Text) :
    (scan negative text).1.EndsAt (scan negative text).2 := by
  intro next head
  obtain ⟨after, behind⟩ : ∃ after, (scan negative text).2 = next :: after := by
    cases rest : (scan negative text).2 with
    | nil => simp [rest] at head
    | cons first after =>
        rw [rest] at head
        exact ⟨after, by rw [Option.some.inj head]⟩
  exact scan_rest_stops negative text behind

end Numeral

namespace Lexeme

@[simp] theorem spelling_nil : spelling [] = [] :=
  rfl

@[simp] theorem spelling_cons (lexeme : Lexeme) (later : List Lexeme) :
    spelling (lexeme :: later) = lexeme.text ++ spelling later :=
  rfl

@[simp] theorem signMayFollow_none : signMayFollow none = true :=
  rfl

@[simp] theorem signMayFollow_some (lexeme : Lexeme) :
    signMayFollow (some lexeme) = lexeme.allowsSign :=
  rfl

def lastOf (previous : Option Lexeme) (lexemes : List Lexeme) : Option Lexeme :=
  lexemes.getLast?.or previous

@[simp] theorem lastOf_nil (previous : Option Lexeme) : lastOf previous [] = previous :=
  rfl

@[simp] theorem lastOf_cons
    (previous : Option Lexeme)
    (lexeme : Lexeme)
    (later : List Lexeme) :
    lastOf previous (lexeme :: later) = lastOf (some lexeme) later := by
  rw [lastOf, lastOf, List.getLast?_cons]
  cases later.getLast? <;> rfl

/-- The text does not go on with a numeral that was read before it. -/
def CutAfter (previous : Option Lexeme) (text : Text) : Prop :=
  ∀ written, previous = some (.numeral written) → written.EndsAt text

theorem cutAfter_none (text : Text) : CutAfter none text := by
  intro written same
  contradiction

private theorem cutAfter_nil (previous : Option Lexeme) : CutAfter previous [] := by
  intro written _ next head
  contradiction

theorem admissibleAfter_append
    {previous : Option Lexeme}
    {front back : List Lexeme} :
    AdmissibleAfter previous (front ++ back) ↔
      AdmissibleAfter previous front ∧ AdmissibleAfter (lastOf previous front) back := by
  induction front generalizing previous with
  | nil => simp [AdmissibleAfter]
  | cons lexeme front inductionHypothesis =>
      rw [List.cons_append, admissibleAfter_cons, admissibleAfter_cons, lastOf_cons,
        inductionHypothesis, and_assoc]

/-! ## Numerals and single characters -/

theorem symbol_not_number (op : Operator) :
    op.symbol.isDigit = false ∧ op.symbol ≠ '.' := by
  cases op <;> decide

private theorem numeral?_text_append
    {signAllowed : Bool}
    {written : Numeral}
    {behind : Text}
    (wellFormed : written.WellFormed)
    (signed : written.negative = true → signAllowed = true)
    (ends : written.EndsAt behind) :
    numeral? signAllowed (written.text ++ behind) = some (written, behind) := by
  have scanned := Numeral.scan_body_append wellFormed ends
  cases sign : written.negative with
  | true =>
      have notDigit : Char.isDigit '-' = false := rfl
      rw [sign] at scanned
      simp [Numeral.text, sign, numeral?, notDigit, signed sign, scanned]
  | false =>
      obtain ⟨first, rest, body, starts⟩ := Numeral.body_head wellFormed
      rw [sign, body] at scanned
      rw [Numeral.text, sign, if_neg Bool.false_ne_true, body, List.cons_append,
        numeral?, if_pos starts, ← List.cons_append, scanned]

/-- A numeral that is found is spelled at the start of the text, with a sign
only where one is allowed, and it does not go on behind. -/
theorem numeral?_eq_some
    {signAllowed : Bool}
    {text behind : Text}
    {written : Numeral}
    (found : numeral? signAllowed text = some (written, behind)) :
    text = written.text ++ behind ∧
      (written.negative = true → signAllowed = true) ∧
      (written.HasDigit → written.WellFormed) ∧
      written.EndsAt behind := by
  have ofScan (negative : Bool) (source : Text)
      (scanned : Numeral.scan negative source = (written, behind)) :
      written.negative = negative ∧ written.body ++ behind = source ∧
        (written.HasDigit → written.WellFormed) ∧ written.EndsAt behind := by
    have sign := Numeral.scan_negative negative source
    have split := Numeral.scan_split negative source
    have digits := Numeral.scan_digits negative source
    have ends := Numeral.scan_endsAt negative source
    rw [scanned] at sign split digits ends
    exact ⟨sign, split, fun hasDigit => ⟨digits.1, digits.2, hasDigit⟩, ends⟩
  unfold numeral? at found
  split at found
  · contradiction
  · rename_i first rest
    split at found
    · obtain ⟨sign, split, wellFormed, ends⟩ :=
        ofScan false (first :: rest) (Option.some.inj found)
      refine ⟨?_, by simp [sign], wellFormed, ends⟩
      rw [Numeral.text, sign, if_neg Bool.false_ne_true, split]
    · split at found
      · rename_i signed
        obtain ⟨sign, split, wellFormed, ends⟩ :=
          ofScan true rest (Option.some.inj found)
        refine ⟨?_, fun _ => signed.2, wellFormed, ends⟩
        rw [Numeral.text, sign, if_pos rfl, List.cons_append, split, signed.1]
      · contradiction

theorem numeral?_eq_none
    {signAllowed : Bool}
    {first : Char}
    {rest : Text}
    (absent : numeral? signAllowed (first :: rest) = none) :
    first.isDigit = false ∧ first ≠ '.' ∧ (first = '-' → signAllowed = false) := by
  simp only [numeral?] at absent
  split at absent
  · contradiction
  · rename_i noNumber
    split at absent
    · contradiction
    · rename_i noSign
      rw [not_or] at noNumber
      exact ⟨by simpa using noNumber.1, noNumber.2, by simpa using noSign⟩

theorem numeral?_of_not_number
    {signAllowed : Bool}
    {first : Char}
    (rest : Text)
    (notNumber : first.isDigit = false ∧ first ≠ '.')
    (unsigned : first = '-' → signAllowed = false) :
    numeral? signAllowed (first :: rest) = none := by
  simp only [numeral?]
  rw [if_neg (by simp [notNumber]), if_neg (by simp_all)]

private theorem ofChar?_eq_some
    {character : Char}
    {lexeme : Lexeme}
    (found : ofChar? character = some lexeme) :
    lexeme.text = [character] ∧ ∀ written, lexeme ≠ .numeral written := by
  unfold ofChar? at found
  split at found
  · rename_i isOpening
    cases Option.some.inj found
    exact ⟨by rw [isOpening]; rfl, by simp⟩
  · split at found
    · rename_i isClosing
      cases Option.some.inj found
      exact ⟨by rw [isClosing]; rfl, by simp⟩
    · obtain ⟨op, symbol, rfl⟩ := Option.map_eq_some_iff.mp found
      have written := Operator.ofSymbol?_eq_some_iff.mp symbol
      exact ⟨by simp [text, written], by simp⟩

private theorem ofChar?_symbol (op : Operator) :
    ofChar? op.symbol = some (.operator op) := by
  cases op <;> rfl

/-! ## Admissible lists are found -/

/-- Of two numerals side by side both have a point, and the second starts with
its own. -/
theorem MayFollow.second_point
    {first second : Numeral}
    (follows : MayFollow (some (.numeral first)) (.numeral second)) :
    first.fraction.isSome = true ∧ second.negative = false ∧
      ∃ behind, second.body = '.' :: behind := by
  obtain ⟨wellFormed, sign, pointed, noWhole⟩ := follows
  have unsigned : second.negative = false := by
    simpa [allowsSign] using sign
  refine ⟨pointed, unsigned, ?_⟩
  rcases wellFormed.hasDigit with hasWhole | hasDecimals
  · exact absurd noWhole hasWhole
  · cases fraction : second.fraction with
    | none => simp [Numeral.decimals, fraction] at hasDecimals
    | some behind =>
        exact ⟨behind, by simp [Numeral.body, noWhole, Numeral.fractionText, fraction]⟩

/-- What may follow a numeral does not go on with it. -/
theorem AdmissibleAfter.endsAt_append
    {written : Numeral}
    {later : List Lexeme}
    {rest : Text}
    (admissible : AdmissibleAfter (some (.numeral written)) later)
    (cut : CutAfter (lastOf (some (.numeral written)) later) rest) :
    written.EndsAt (spelling later ++ rest) := by
  cases later with
  | nil => exact cut written rfl
  | cons lexeme following =>
      cases lexeme with
      | numeral next =>
          obtain ⟨pointed, unsigned, behind, body⟩ := MayFollow.second_point admissible.1
          intro character head
          have point : character = '.' := by
            simpa [text, Numeral.text, unsigned, body, eq_comm] using head
          rw [point]
          refine ⟨rfl, fun none => ?_⟩
          simp [none] at pointed
      | operator op =>
          intro character head
          have symbol : op.symbol = character := by simpa [text] using head
          rw [← symbol]
          exact ⟨(symbol_not_number op).1, fun _ => (symbol_not_number op).2⟩
      | opening =>
          intro character head
          have parenthesis : '(' = character := by simpa [text] using head
          exact parenthesis ▸ ⟨rfl, fun _ => by decide⟩
      | closing =>
          intro character head
          have parenthesis : ')' = character := by simpa [text] using head
          exact parenthesis ▸ ⟨rfl, fun _ => by decide⟩

theorem AdmissibleAfter.endsAt
    {written : Numeral}
    {later : List Lexeme}
    (admissible : AdmissibleAfter (some (.numeral written)) later) :
    written.EndsAt (spelling later) := by
  simpa using admissible.endsAt_append (cutAfter_nil _)

/-- A character that may stand here as a lexeme of its own starts no numeral. -/
theorem MayFollow.scan_character
    {previous : Option Lexeme}
    {lexeme : Lexeme}
    (mayFollow : MayFollow previous lexeme)
    (notNumeral : ∀ written, lexeme ≠ .numeral written)
    (position : Nat)
    (behind : Text) :
    scan position (signMayFollow previous) (lexeme.text ++ behind) =
      scan (position + lexeme.text.length) lexeme.allowsSign behind >>= fun later =>
        .ok (lexeme :: later) := by
  cases lexeme with
  | numeral written => exact absurd rfl (notNumeral written)
  | operator op =>
      have noNumeral :
          numeral? (signMayFollow previous) (op.symbol :: behind) = none := by
        apply numeral?_of_not_number _ (symbol_not_number op)
        intro hyphen
        have isSub : op = .sub := by
          cases op <;> simp_all [Operator.symbol]
        simpa using mayFollow isSub
      show scan position _ (op.symbol :: behind) = _
      rw [scan_of_char position behind noNumeral, ofChar?_symbol]
      rfl
  | opening =>
      exact scan_of_char position behind
        (numeral?_of_not_number _ ⟨rfl, by decide⟩ (by simp))
  | closing =>
      exact scan_of_char position behind
        (numeral?_of_not_number _ ⟨rfl, by decide⟩ (by simp))

/-- A scan reads an admissible list, and goes on behind it. -/
theorem scan_spelling_append
    {previous : Option Lexeme}
    {lexemes : List Lexeme}
    {rest : Text}
    (admissible : AdmissibleAfter previous lexemes)
    (cut : CutAfter (lastOf previous lexemes) rest)
    (position : Nat) :
    scan position (signMayFollow previous) (spelling lexemes ++ rest) =
      scan (position + (spelling lexemes).length)
          (signMayFollow (lastOf previous lexemes)) rest >>= fun later =>
        .ok (lexemes ++ later) := by
  induction lexemes generalizing previous position with
  | nil =>
      show scan position (signMayFollow previous) rest = _
      rw [spelling_nil, List.length_nil, Nat.add_zero, lastOf_nil]
      cases scan position (signMayFollow previous) rest <;> rfl
  | cons lexeme later inductionHypothesis =>
      obtain ⟨mayFollow, laterAdmissible⟩ := admissible
      rw [lastOf_cons] at cut ⊢
      have scanned := inductionHypothesis laterAdmissible cut
        (position + lexeme.text.length)
      have first : scan position (signMayFollow previous)
            (lexeme.text ++ (spelling later ++ rest)) =
          scan (position + lexeme.text.length) (signMayFollow (some lexeme))
              (spelling later ++ rest) >>= fun later => .ok (lexeme :: later) := by
        cases lexeme with
        | numeral written =>
            obtain ⟨wellFormed, sign, _⟩ := mayFollow
            have found := numeral?_text_append wellFormed sign
              (laterAdmissible.endsAt_append cut)
            rw [text, scan_of_numeral position found, if_pos wellFormed.hasDigit]
            rfl
        | _ => exact mayFollow.scan_character (by simp) position _
      rw [spelling_cons, List.append_assoc, first, scanned, List.length_append,
        Nat.add_assoc]
      cases scan _ (signMayFollow (lastOf (some lexeme) later)) rest <;> rfl

/-- A scan of the spelling of an admissible list answers the list. -/
theorem scan_spelling
    {previous : Option Lexeme}
    {lexemes : List Lexeme}
    (admissible : AdmissibleAfter previous lexemes)
    (position : Nat) :
    scan position (signMayFollow previous) (spelling lexemes) = .ok lexemes := by
  have scanned := scan_spelling_append admissible (cutAfter_nil _) position
  rw [List.append_nil, scan_nil] at scanned
  rw [scanned]
  exact congrArg Except.ok (List.append_nil lexemes)

/-! ## What is found is admissible -/

/-- The three ways in which a scan succeeds: nothing is left, a numeral stands at
the start, or a character that is a lexeme of its own. -/
theorem scan_eq_ok
    {position : Nat}
    {signAllowed : Bool}
    {text : Text}
    {lexemes : List Lexeme}
    (scanned : scan position signAllowed text = .ok lexemes) :
    (text = [] ∧ lexemes = []) ∨
      (∃ written behind later,
        numeral? signAllowed text = some (written, behind) ∧ written.HasDigit ∧
          scan (position + written.text.length) false behind = .ok later ∧
          lexemes = .numeral written :: later) ∨
      ∃ character behind lexeme later,
        text = character :: behind ∧
          numeral? signAllowed text = none ∧
          ofChar? character = some lexeme ∧
          scan (position + 1) lexeme.allowsSign behind = .ok later ∧
          lexemes = lexeme :: later := by
  cases found : numeral? signAllowed text with
  | some split =>
      obtain ⟨written, behind⟩ := split
      rw [scan_of_numeral position found] at scanned
      split at scanned
      · rename_i hasDigit
        obtain ⟨later, rest, answered⟩ := ok_of_bind scanned
        exact .inr (.inl ⟨written, behind, later, rfl, hasDigit, rest,
          (Except.ok.inj answered).symm⟩)
      · contradiction
  | none =>
      cases text with
      | nil =>
          rw [scan_nil] at scanned
          exact .inl ⟨rfl, (Except.ok.inj scanned).symm⟩
      | cons character behind =>
          rw [scan_of_char position behind found] at scanned
          split at scanned
          · rename_i lexeme isLexeme
            obtain ⟨later, rest, answered⟩ := ok_of_bind scanned
            exact .inr (.inr ⟨character, behind, lexeme, later, rfl, rfl,
              isLexeme, rest, (Except.ok.inj answered).symm⟩)
          · contradiction

private theorem splitsAfter_of_cutAfter
    {previous : Option Lexeme}
    {written : Numeral}
    {behind : Text}
    (cut : CutAfter previous (written.text ++ behind))
    (wellFormed : written.WellFormed)
    (sign : written.negative = true → signMayFollow previous = true) :
    splitsAfter previous written := by
  unfold splitsAfter
  split
  · rename_i first
    have unsigned : written.negative = false := by simpa [allowsSign] using sign
    obtain ⟨next, rest, body, starts⟩ := Numeral.body_head wellFormed
    have ends := cut first rfl next (by simp [Numeral.text, unsigned, body])
    have point : next = '.' := by
      rcases starts with digit | point
      · simp [ends.1] at digit
      · exact point
    constructor
    · cases fraction : first.fraction with
      | none => exact absurd point (ends.2 fraction)
      | some decimals => rfl
    · cases whole : written.whole with
      | nil => rfl
      | cons digit more =>
          have isDigit := wellFormed.wholeDigits digit (by simp [whole])
          rw [Numeral.body, whole, List.cons_append] at body
          rw [(List.cons.inj body).1, ends.1] at isDigit
          contradiction
  · trivial

/-- A numeral that is found where the text goes on with no other may stand there. -/
theorem mayFollow_of_numeral?
    {previous : Option Lexeme}
    {text behind : Text}
    {written : Numeral}
    (cut : CutAfter previous text)
    (found : numeral? (signMayFollow previous) text = some (written, behind))
    (hasDigit : written.HasDigit) :
    text = written.text ++ behind ∧ MayFollow previous (.numeral written) ∧
      CutAfter (some (.numeral written)) behind := by
  obtain ⟨rfl, sign, digits, ends⟩ := numeral?_eq_some found
  have wellFormed := digits hasDigit
  refine ⟨rfl, ⟨wellFormed, sign, splitsAfter_of_cutAfter cut wellFormed sign⟩, ?_⟩
  intro _ same
  cases same
  exact ends

/-- A character that is found to be a lexeme of its own may stand there. -/
theorem mayFollow_of_ofChar?
    {previous : Option Lexeme}
    {first : Char}
    {behind : Text}
    {lexeme : Lexeme}
    (noNumeral : numeral? (signMayFollow previous) (first :: behind) = none)
    (isLexeme : ofChar? first = some lexeme) :
    lexeme.text = [first] ∧ MayFollow previous lexeme ∧
      CutAfter (some lexeme) behind := by
  obtain ⟨written, notNumeral⟩ := ofChar?_eq_some isLexeme
  refine ⟨written, ?_, fun numeral same =>
    absurd (Option.some.inj same) (notNumeral numeral)⟩
  cases lexeme with
  | numeral numeral => exact absurd rfl (notNumeral numeral)
  | opening => trivial
  | closing => trivial
  | operator op =>
      rintro rfl
      have hyphen : '-' = first := (List.cons.inj written).1
      have unsigned := (numeral?_eq_none noNumeral).2.2 hyphen.symm
      simp [unsigned]

/-- What a scan answers is admissible, and the text is its spelling. -/
theorem scan_sound
    {position : Nat}
    {previous : Option Lexeme}
    {text : Text}
    {lexemes : List Lexeme}
    (cut : CutAfter previous text)
    (scanned : scan position (signMayFollow previous) text = .ok lexemes) :
    spelling lexemes = text ∧ AdmissibleAfter previous lexemes := by
  induction lexemes generalizing position previous text with
  | nil =>
      rcases scan_eq_ok scanned with ⟨rfl, _⟩ | numeral | character
      · exact ⟨rfl, trivial⟩
      · obtain ⟨_, _, _, _, _, _, impossible⟩ := numeral
        contradiction
      · obtain ⟨_, _, _, _, _, _, _, _, impossible⟩ := character
        contradiction
  | cons lexeme later inductionHypothesis =>
      rcases scan_eq_ok scanned with ⟨_, impossible⟩ | numeral | character
      · contradiction
      · obtain ⟨written, behind, _, found, hasDigit, rest, equal⟩ := numeral
        obtain ⟨rfl, rfl⟩ := List.cons.inj equal
        obtain ⟨rfl, mayFollow, nextCut⟩ := mayFollow_of_numeral? cut found hasDigit
        obtain ⟨spelled, admissible⟩ := inductionHypothesis nextCut rest
        exact ⟨by rw [spelling_cons, spelled]; rfl, mayFollow, admissible⟩
      · obtain ⟨first, behind, _, _, rfl, noNumeral, isLexeme, rest, equal⟩ :=
          character
        obtain ⟨rfl, rfl⟩ := List.cons.inj equal
        obtain ⟨written, mayFollow, nextCut⟩ := mayFollow_of_ofChar? noNumeral isLexeme
        obtain ⟨spelled, admissible⟩ := inductionHypothesis nextCut rest
        exact ⟨by rw [spelling_cons, spelled, written]; rfl, mayFollow, admissible⟩

/-! ## Texts -/

/-- The lexemes of a text are the one admissible list that it spells. -/
theorem ofText_eq_ok_iff {source : Text} {lexemes : List Lexeme} :
    ofText source = .ok lexemes ↔
      Spells source lexemes ∧ Admissible lexemes := by
  constructor
  · intro scanned
    obtain ⟨spelled, admissible⟩ := scan_sound (cutAfter_none _) scanned
    exact ⟨spelled.symm, admissible⟩
  · rintro ⟨spelled, admissible⟩
    rw [ofText, spelled]
    exact scan_spelling admissible 0

end Lexeme

theorem Token.ofText_eq_ok_iff {source : Text} {tokens : List Token} :
    Token.ofText source = .ok tokens ↔
      ∃ lexemes, Lexeme.ofText source = .ok lexemes ∧
        lexemes.map Lexeme.token = tokens := by
  cases scanned : Lexeme.ofText source with
  | error fault => simp [Token.ofText, scanned, bind, Except.bind]
  | ok lexemes => simp [Token.ofText, scanned, bind, Except.bind, pure, Except.pure]

/-- A text has no strange tokens. -/
theorem Token.isKnown_of_ofText
    {source : Text}
    {tokens : List Token}
    (read : Token.ofText source = .ok tokens) :
    ∀ token ∈ tokens, token.isKnown = true := by
  obtain ⟨lexemes, _, rfl⟩ := Token.ofText_eq_ok_iff.mp read
  intro token member
  obtain ⟨lexeme, _, rfl⟩ := List.mem_map.mp member
  cases lexeme <;> rfl

/-- The tokens of a text are those of an admissible list that it spells. -/
theorem Token.ofText_eq_ok_iff_spells {source : Text} {tokens : List Token} :
    Token.ofText source = .ok tokens ↔
      ∃ lexemes, Lexeme.Spells source lexemes ∧ Lexeme.Admissible lexemes ∧
        lexemes.map Lexeme.token = tokens := by
  simp only [Token.ofText_eq_ok_iff, Lexeme.ofText_eq_ok_iff, and_assoc]

theorem Token.ofText_eq_error_iff {source : Text} {fault : Fault} :
    Token.ofText source = .error fault ↔ Lexeme.ofText source = .error fault := by
  cases scanned : Lexeme.ofText source with
  | error other => simp [Token.ofText, scanned, bind, Except.bind]
  | ok lexemes => simp [Token.ofText, scanned, bind, Except.bind, pure, Except.pure]

end Keypad
