import Keypad.Lexeme.Offence
import Keypad.Proofs.Lexeme.Spelling
import Mathlib.Data.List.Basic

/-!
Which offence of a text is reported.

A scan reads lexemes up to the place where it stops.  No literal without a digit
starts in what it has read, and no character there is strange; and where it stops
there is an offence of the one kind or the other.  So the leftmost offence is the
one that is reported.

Owns:
- the place of a sign and of a point, told from lexemes and from characters;
- that what is read is free of offences, and that what stops a scan is one;
- the fault of a text in terms of its offences.

Main statement: `Token.ofText_leftmost`.
-/

namespace Keypad

namespace Numeral

variable {written : Numeral} {inner outer : Text}

private theorem hyphen_not_mem_body (wellFormed : written.WellFormed) : '-' ∉ written.body := by
  intro member
  have number := isNumberKey_of_mem_body wellFormed member
  contradiction

/-- A hyphen in a numeral is its sign. -/
private theorem eq_body_of_sign
    (wellFormed : written.WellFormed)
    (split : written.text = inner ++ '-' :: outer) :
    inner = [] ∧ outer = written.body := by
  have notInBody := hyphen_not_mem_body wellFormed
  unfold text at split
  split at split
  · rw [← List.nil_append ('-' :: written.body)] at split
    obtain ⟨isInner, _, isOuter⟩ :=
      (List.append_cons_inj_of_notMem List.not_mem_nil notInBody).mp split
    exact ⟨isInner.symm, isOuter.symm⟩
  · exact absurd (by simp [split]) notInBody

def signText (written : Numeral) : Text :=
  if written.negative then ['-'] else []

private theorem text_eq (written : Numeral) :
    written.text = written.signText ++ written.whole ++ written.fractionText := by
  unfold text body signText
  split <;> simp

/-- The point in a numeral stands between its digits. -/
private theorem eq_whole_of_point
    (wellFormed : written.WellFormed)
    (split : written.text = inner ++ '.' :: outer) :
    inner = written.signText ++ written.whole ∧ written.fraction = some outer := by
  have notInWhole : '.' ∉ written.whole := by
    intro member
    have digit := wellFormed.wholeDigits '.' member
    contradiction
  have notInSign : '.' ∉ written.signText := by
    unfold signText
    split <;> simp
  have notInFront : '.' ∉ written.signText ++ written.whole := by
    simp [notInSign, notInWhole]
  rw [text_eq] at split
  cases fraction : written.fraction with
  | none =>
      rw [fractionText, fraction, List.append_nil] at split
      exact absurd (by simp [split]) notInFront
  | some decimals =>
      have notInDecimals : '.' ∉ decimals := by
        intro member
        have digit := wellFormed.decimalDigits '.' (by simpa [Numeral.decimals, fraction])
        contradiction
      rw [fractionText, fraction] at split
      obtain ⟨isInner, _, isOuter⟩ :=
        (List.append_cons_inj_of_notMem notInFront notInDecimals).mp split
      exact ⟨isInner.symm, congrArg some isOuter⟩

/-- A point without a digit in front of it has one behind it. -/
private theorem digit_of_noWhole
    (wellFormed : written.WellFormed)
    (noWhole : written.whole = [])
    (fraction : written.fraction = some outer) :
    ∃ digit more, outer = digit :: more ∧ digit.isDigit = true := by
  have hasDecimals := wellFormed.hasDigit.resolve_left (not_not.mpr noWhole)
  have digits := wellFormed.decimalDigits
  rw [Numeral.decimals, fraction, Option.getD_some] at hasDecimals digits
  obtain ⟨digit, more, rfl⟩ := List.exists_cons_of_ne_nil hasDecimals
  exact ⟨digit, more, rfl, digits digit List.mem_cons_self⟩

/-- A point at the start of a numeral has no digit in front of it. -/
private theorem noWhole_of_body_point
    (wellFormed : written.WellFormed)
    (starts : written.body = '.' :: outer) :
    written.whole = [] ∧ written.fraction = some outer := by
  have noWhole : written.whole = [] := by
    cases whole : written.whole with
    | nil => rfl
    | cons first rest =>
        rw [body, whole] at starts
        have digit := wellFormed.wholeDigits first (by simp [whole])
        rw [(List.cons.inj starts).1] at digit
        contradiction
  rw [body, noWhole, List.nil_append, fractionText] at starts
  cases fraction : written.fraction with
  | none =>
      rw [fraction] at starts
      contradiction
  | some decimals =>
      rw [fraction] at starts
      exact ⟨noWhole, congrArg some (List.cons.inj starts).2⟩

end Numeral

namespace Lexeme

/-! ## The characters before a place -/

@[simp] theorem lastOf_concat
    (previous : Option Lexeme)
    (earlier : List Lexeme)
    (lexeme : Lexeme) :
    lastOf previous (earlier ++ [lexeme]) = some lexeme := by
  simp [lastOf]

/-- A lexeme that is no numeral is one character, which says what the lexeme does. -/
theorem text_of_not_numeral
    {lexeme : Lexeme}
    (notNumeral : ∀ written, lexeme ≠ .numeral written) :
    ∃ character, lexeme.text = [character] ∧ character.isDigit = false ∧
      character ≠ '.' ∧ (character = '-' → lexeme = .operator .sub) ∧
      lexeme.allowsSign = (Operator.isSymbol character || character = '(') := by
  cases lexeme with
  | numeral written => exact absurd rfl (notNumeral written)
  | operator op =>
      refine ⟨op.symbol, rfl, (symbol_not_number op).1, (symbol_not_number op).2, ?_, ?_⟩
      · cases op <;> simp [Operator.symbol]
      · simp [allowsSign]
  | opening => exact ⟨'(', rfl, by decide⟩
  | closing => exact ⟨')', rfl, by decide⟩

private theorem last_of_not_numeral
    {lexeme : Lexeme}
    {inner : Text}
    {last : Char}
    (notNumeral : ∀ written, lexeme ≠ .numeral written)
    (isText : lexeme.text = inner ++ [last]) :
    inner = [] ∧ last.isDigit = false ∧ last ≠ '.' ∧
      (last = '-' → lexeme = .operator .sub) ∧
      lexeme.allowsSign = (Operator.isSymbol last || last = '(') := by
  obtain ⟨character, single, facts⟩ := text_of_not_numeral notNumeral
  have texts : [] ++ [character] = inner ++ [last] := single.symm.trans isText
  obtain ⟨rfl, same⟩ := List.append_inj' texts rfl
  cases same
  exact ⟨rfl, facts⟩

private theorem MayFollow.text_concat
    {previous : Option Lexeme}
    {lexeme : Lexeme}
    (follows : MayFollow previous lexeme) :
    ∃ inner last, lexeme.text = inner ++ [last] := by
  apply (List.eq_nil_or_concat' lexeme.text).resolve_left
  cases lexeme with
  | numeral written =>
      intro nothing
      obtain ⟨first, rest, body, _⟩ := Numeral.body_head follows.1
      rw [text, Numeral.text, body] at nothing
      split at nothing <;> contradiction
  | _ => simp [text]

/-- A last character comes from the last lexeme. -/
theorem last_of_spelling
    {lexemes : List Lexeme}
    {front : Text}
    {last : Char}
    (admissible : Admissible lexemes)
    (split : spelling lexemes = front ++ [last]) :
    ∃ earlier lexeme inner, lexemes = earlier ++ [lexeme] ∧
      lexeme.text = inner ++ [last] ∧ front = spelling earlier ++ inner := by
  rcases List.eq_nil_or_concat' lexemes with rfl | ⟨earlier, lexeme, rfl⟩
  · simp at split
  · obtain ⟨inner, other, isText⟩ :=
      (admissibleAfter_append.mp admissible).2.1.text_concat
    rw [spelling_append, spelling_cons, spelling_nil, List.append_nil, isText,
      ← List.append_assoc] at split
    obtain ⟨rfl, same⟩ := List.append_inj' split rfl
    cases same
    exact ⟨earlier, lexeme, inner, rfl, isText, rfl⟩

/-- The place of a sign can be told from the character before it. -/
theorem signStandsBehind_spelling
    {lexemes : List Lexeme}
    (admissible : Admissible lexemes) :
    signStandsBehind (spelling lexemes) = signMayFollow (lastOf none lexemes) := by
  rcases List.eq_nil_or_concat' lexemes with rfl | ⟨earlier, lexeme, rfl⟩
  · rfl
  have follows := (admissibleAfter_append.mp admissible).2.1
  obtain ⟨inner, last, isText⟩ := follows.text_concat
  rw [spelling_append, spelling_cons, spelling_nil, List.append_nil, isText,
    ← List.append_assoc, signStandsBehind_concat, lastOf_concat, signMayFollow_some]
  by_cases isNumeral : ∃ written, lexeme = .numeral written
  · obtain ⟨written, rfl⟩ := isNumeral
    have number := Numeral.isNumberKey_of_last follows.1 isText
    have notOpening : last ≠ '(' := by
      rintro rfl
      contradiction
    simp [Entry.isSymbol_of_isNumberKey number, notOpening, allowsSign]
  · obtain ⟨_, _, _, _, allows⟩ :=
      last_of_not_numeral (not_exists.mp isNumeral) isText
    exact allows.symm

/-! ## No offence in what is read -/

/-- A position in a spelling is in one of its lexemes. -/
private theorem exists_lexeme_of_lt
    {lexemes : List Lexeme}
    {rest before after : Text}
    (split : spelling lexemes ++ rest = before ++ after)
    (inside : before.length < (spelling lexemes).length) :
    ∃ front lexeme back inner outer, lexemes = front ++ lexeme :: back ∧
      lexeme.text = inner ++ outer ∧ outer ≠ [] ∧ before = spelling front ++ inner ∧
      after = outer ++ (spelling back ++ rest) := by
  induction lexemes generalizing before with
  | nil => simp at inside
  | cons lexeme later inductionHypothesis =>
      rw [spelling_cons, List.append_assoc] at split
      rw [spelling_cons, List.length_append] at inside
      by_cases within : before.length < lexeme.text.length
      · rcases List.append_eq_append_iff.mp split with
          ⟨further, rfl, _⟩ | ⟨outer, isText, isAfter⟩
        · rw [List.length_append] at within
          omega
        · refine ⟨[], lexeme, later, before, outer, rfl, isText, ?_, rfl, isAfter⟩
          rintro rfl
          rw [isText, List.append_nil] at within
          omega
      · obtain ⟨further, rfl⟩ : lexeme.text <+: before :=
          List.prefix_of_prefix_length_le (List.prefix_append _ _)
            (split.symm ▸ List.prefix_append before after) (Nat.le_of_not_lt within)
        rw [List.append_assoc, List.append_cancel_left_eq] at split
        rw [List.length_append] at inside
        obtain ⟨front, found, back, inner, outer, rfl, isText, nonempty, rfl, rfl⟩ :=
          inductionHypothesis split (by omega)
        refine ⟨lexeme :: front, found, back, inner, outer, rfl, isText, nonempty, ?_, rfl⟩
        rw [spelling_cons, List.append_assoc]

/-- What stands in front of the last digits can be told from them. -/
private theorem eq_concat_point
    {front whole before digits : Text}
    (wholeDigits : ∀ digit ∈ whole, digit.isDigit = true)
    (allDigits : ∀ digit ∈ digits, digit.isDigit = true)
    (noDigit : ∀ earlier last, front = earlier ++ [last] → last.isDigit = false)
    (split : front ++ whole = before ++ '.' :: digits) :
    front = before ++ ['.'] := by
  have trimmed (text : Text) (all : ∀ digit ∈ text, digit.isDigit = true) :
      Text.trimEnd Char.isDigit text = [] := by
    rw [Text.trimEnd, List.reverse_eq_nil_iff, List.dropWhile_eq_nil_iff]
    exact fun digit member => all digit (List.mem_reverse.mp member)
  have behind : Text.trimEnd Char.isDigit (front ++ whole) = before ++ ['.'] := by
    rw [split, Text.trimEnd_append_cons (by decide), trimmed digits allDigits]
  rw [← behind]
  rcases List.eq_nil_or_concat' front with rfl | ⟨earlier, last, rfl⟩
  · exact (trimmed whole wholeDigits).symm
  · rw [List.append_assoc, List.singleton_append,
      Text.trimEnd_append_cons (noDigit earlier last rfl), trimmed whole wholeDigits]

/-- No literal without a digit starts at a lexeme of one character. -/
theorem Malformed.not_single
    {lexeme : Lexeme}
    {front : List Lexeme}
    {literal behind after : Text}
    {character : Char}
    (admissible : Admissible front)
    (follows : MayFollow (lastOf none front) lexeme)
    (malformed : Malformed (spelling front) literal behind)
    (starts : literal ++ behind = character :: after)
    (notPoint : character ≠ '.')
    (sub : character = '-' → lexeme = .operator .sub) :
    False := by
  have unsigned : character = '-' → signStandsBehind (spelling front) = false := by
    intro hyphen
    obtain rfl := sub hyphen
    rw [signStandsBehind_spelling admissible]
    simpa using follows rfl
  cases malformed with
  | sign signed =>
      rw [unsigned (List.cons.inj starts).1.symm] at signed
      contradiction
  | point => exact notPoint (List.cons.inj starts).1.symm
  | signedPoint signed =>
      rw [unsigned (List.cons.inj starts).1.symm] at signed
      contradiction

/-- A numeral that starts with a digit stands behind no other one. -/
private theorem last_before_numeral
    {written : Numeral}
    {front : List Lexeme}
    {earlier : Text}
    {last : Char}
    (admissible : Admissible front)
    (follows : MayFollow (lastOf none front) (.numeral written))
    (hasWhole : written.whole ≠ [])
    (ends : spelling front = earlier ++ [last]) :
    last.isDigit = false ∧ last ≠ '.' := by
  obtain ⟨others, lexeme, inner, rfl, isText, _⟩ := last_of_spelling admissible ends
  rw [lastOf_concat] at follows
  have notNumeral : ∀ written, lexeme ≠ .numeral written := by
    rintro first rfl
    exact hasWhole follows.2.2.2
  obtain ⟨_, notDigit, notPoint, _⟩ := last_of_not_numeral notNumeral isText
  exact ⟨notDigit, notPoint⟩

/-- A point in a numeral goes on with its digits or has some behind it. -/
theorem not_pointStarts
    {written : Numeral}
    {front : List Lexeme}
    (admissible : Admissible front)
    (follows : MayFollow (lastOf none front) (.numeral written))
    (hasWhole : written.whole ≠ []) :
    ¬ PointStarts (spelling front ++ (written.signText ++ written.whole)) := by
  have wholeDigits := follows.1.wholeDigits
  intro starts
  cases starts with
  | alone noNumber =>
      obtain ⟨inner, last, whole⟩ := (List.eq_nil_or_concat' _).resolve_left hasWhole
      have isDigit := wholeDigits last (by simp [whole])
      have notDigit := (noNumber (spelling front ++ (written.signText ++ inner)) last
        (by simp [whole])).1
      rw [notDigit] at isDigit
      contradiction
  | @second before digits split allDigits =>
      rw [← List.append_assoc] at split
      by_cases negative : written.negative = true
      · rw [Numeral.signText, if_pos negative] at split
        have noDigit : ∀ earlier last, spelling front ++ ['-'] = earlier ++ [last] →
            last.isDigit = false := by
          intro earlier last same
          cases (List.append_inj' same rfl).2
          rfl
        have same := eq_concat_point wholeDigits allDigits noDigit split
        cases (List.append_inj' same rfl).2
      · rw [Numeral.signText, if_neg negative, List.append_nil] at split
        have same := eq_concat_point wholeDigits allDigits
          (fun _ _ ends => (last_before_numeral admissible follows hasWhole ends).1) split
        exact (last_before_numeral admissible follows hasWhole same).2 rfl

/-- No literal without a digit starts in a numeral. -/
theorem Malformed.not_in_numeral
    {written : Numeral}
    {front : List Lexeme}
    {inner outer literal behind after : Text}
    (admissible : Admissible front)
    (follows : MayFollow (lastOf none front) (.numeral written))
    (isText : written.text = inner ++ outer)
    (nonempty : outer ≠ [])
    (malformed : Malformed (spelling front ++ inner) literal behind)
    (starts : literal ++ behind = outer ++ after) :
    False := by
  obtain ⟨first, rest, rfl⟩ := List.exists_cons_of_ne_nil nonempty
  have wellFormed : written.WellFormed := follows.1
  cases malformed with
  | sign _ ends =>
      obtain ⟨rfl, rfl⟩ := List.cons.inj starts
      obtain ⟨_, isBody⟩ := Numeral.eq_body_of_sign wellFormed isText
      obtain ⟨next, more, body, isNumber⟩ := Numeral.body_head wellFormed
      obtain ⟨notDigit, notPoint⟩ := ends next (by simp [isBody, body])
      rcases isNumber with digit | point
      · rw [notDigit] at digit
        contradiction
      · exact notPoint point
  | signedPoint _ ends =>
      obtain ⟨rfl, pointed⟩ := List.cons.inj starts
      obtain ⟨_, isBody⟩ := Numeral.eq_body_of_sign wellFormed isText
      obtain ⟨next, more, body, _⟩ := Numeral.body_head wellFormed
      rw [isBody, body] at pointed
      obtain ⟨rfl, rfl⟩ := List.cons.inj pointed
      obtain ⟨noWhole, fraction⟩ := Numeral.noWhole_of_body_point wellFormed body
      obtain ⟨digit, further, rfl, isDigit⟩ :=
        Numeral.digit_of_noWhole wellFormed noWhole fraction
      rw [ends digit rfl] at isDigit
      contradiction
  | point pointStarts ends =>
      obtain ⟨rfl, rfl⟩ := List.cons.inj starts
      obtain ⟨rfl, fraction⟩ := Numeral.eq_whole_of_point wellFormed isText
      by_cases noWhole : written.whole = []
      · obtain ⟨digit, more, rfl, isDigit⟩ :=
          Numeral.digit_of_noWhole wellFormed noWhole fraction
        rw [ends digit rfl] at isDigit
        contradiction
      · exact not_pointStarts admissible follows noWhole pointStarts

/-- No literal without a digit starts in what is read. -/
private theorem length_le_of_malformedAt
    {lexemes : List Lexeme}
    {rest literal : Text}
    {position : Nat}
    (admissible : Admissible lexemes)
    (malformed : MalformedAt (spelling lexemes ++ rest) position literal) :
    (spelling lexemes).length ≤ position := by
  by_contra inside
  obtain ⟨before, behind, split, rfl, malformed⟩ := malformed
  rw [List.append_assoc] at split
  obtain ⟨front, lexeme, back, inner, outer, rfl, isText, nonempty, rfl, starts⟩ :=
    exists_lexeme_of_lt split (Nat.lt_of_not_le inside)
  obtain ⟨frontAdmissible, follows, _⟩ := admissibleAfter_append.mp admissible
  by_cases isNumeral : ∃ written, lexeme = .numeral written
  · obtain ⟨written, rfl⟩ := isNumeral
    exact malformed.not_in_numeral frontAdmissible follows isText nonempty starts
  · obtain ⟨character, single, _, notPoint, sub, _⟩ :=
      text_of_not_numeral (not_exists.mp isNumeral)
    rw [single] at isText
    obtain ⟨rfl, rfl⟩ : inner = [] ∧ outer = [character] := by
      rcases List.append_eq_singleton_iff.mp isText.symm with empty | ⟨_, empty⟩
      · exact empty
      · exact absurd empty nonempty
    rw [List.append_nil] at malformed
    exact malformed.not_single frontAdmissible follows starts notPoint sub

/-! ## The offence that stops a scan -/

/-- A point that is not read with what stands before it starts a literal. -/
theorem pointStarts_of_cut
    {lexemes : List Lexeme}
    {behind : Text}
    (admissible : Admissible lexemes)
    (cut : CutAfter (lastOf none lexemes) ('.' :: behind)) :
    PointStarts (spelling lexemes) := by
  by_cases isNumeral : ∃ earlier written, lexemes = earlier ++ [.numeral written]
  · obtain ⟨earlier, written, rfl⟩ := isNumeral
    have wellFormed : written.WellFormed := (admissibleAfter_append.mp admissible).2.1.1
    rw [lastOf_concat] at cut
    have ends := cut written rfl '.' rfl
    cases fraction : written.fraction with
    | none => exact absurd rfl (ends.2 fraction)
    | some decimals =>
        have digits := wellFormed.decimalDigits
        rw [Numeral.decimals, fraction, Option.getD_some] at digits
        have split : spelling (earlier ++ [.numeral written]) =
            spelling earlier ++ (written.signText ++ written.whole) ++ '.' :: decimals := by
          simp [text, Numeral.text_eq, Numeral.fractionText, fraction]
        exact .second split digits
  · refine .alone fun front last split => ?_
    obtain ⟨earlier, lexeme, inner, rfl, isText, rfl⟩ := last_of_spelling admissible split
    obtain ⟨earlierAdmissible, follows, _⟩ := admissibleAfter_append.mp admissible
    have notNumeral : ∀ written, lexeme ≠ .numeral written := by
      rintro written rfl
      exact isNumeral ⟨earlier, written, rfl⟩
    obtain ⟨rfl, notDigit, _, sub, _⟩ := last_of_not_numeral notNumeral isText
    refine ⟨notDigit, fun hyphen => ?_⟩
    obtain rfl := sub hyphen
    rw [List.append_nil, signStandsBehind_spelling earlierAdmissible]
    simpa using follows rfl

/-- Where a scan finds a numeral without a digit, a malformed literal stands. -/
theorem malformed_of_numeral?
    {lexemes : List Lexeme}
    {rest behind : Text}
    {written : Numeral}
    (admissible : Admissible lexemes)
    (cut : CutAfter (lastOf none lexemes) rest)
    (found : numeral? (signMayFollow (lastOf none lexemes)) rest = some (written, behind))
    (noDigit : ¬ written.HasDigit) :
    rest = written.text ++ behind ∧
      Malformed (spelling lexemes) written.text behind := by
  have shorter := numeral?_rest_length found
  obtain ⟨rfl, sign, _, ends⟩ := numeral?_eq_some found
  refine ⟨rfl, ?_⟩
  rw [← signStandsBehind_spelling admissible] at sign
  obtain ⟨negative, whole, fraction⟩ := written
  simp only [Numeral.HasDigit, Numeral.decimals, not_or, not_not] at noDigit
  obtain ⟨rfl, noDecimals⟩ := noDigit
  cases fraction with
  | none =>
      cases negative with
      | true => exact .sign (sign rfl) fun next head => ⟨(ends next head).1, (ends next head).2 rfl⟩
      | false => simp [Numeral.text, Numeral.body, Numeral.fractionText] at shorter
  | some decimals =>
      obtain rfl : decimals = [] := noDecimals
      have noDigitBehind : ∀ next, behind.head? = some next → next.isDigit = false :=
        fun next head => (ends next head).1
      cases negative with
      | true => exact .signedPoint (sign rfl) noDigitBehind
      | false => exact .point (pointStarts_of_cut admissible cut) noDigitBehind

/-- What is read has no offence, whatever stands behind it. -/
theorem freeBefore_spelling
    {lexemes : List Lexeme}
    (admissible : Admissible lexemes)
    (rest : Text) :
    FreeBefore (spelling lexemes ++ rest) (spelling lexemes).length := by
  rintro position before (⟨character, found, strange⟩ | ⟨literal, malformed⟩)
  · rw [List.getElem?_append_left before] at found
    rw [isKey_of_mem_spelling admissible (List.mem_of_getElem? found)] at strange
    contradiction
  · exact Nat.not_lt.mpr (length_le_of_malformedAt admissible malformed) before

namespace Breaks

variable {text rest : Text} {lexemes : List Lexeme} {fault : Fault}

private theorem freeBefore
    (breaks : Breaks text lexemes rest fault) :
    FreeBefore text (spelling lexemes).length :=
  breaks.split ▸ freeBefore_spelling breaks.admissible rest

/-- Where a text cannot be read on there is the offence that the fault names. -/
theorem offence
    (breaks : Breaks text lexemes rest fault) :
    (∃ character, fault = .invalidCharacter character (spelling lexemes).length ∧
        StrangeAt text (spelling lexemes).length character) ∨
      ∃ literal, fault = .invalidNumber literal (spelling lexemes).length ∧
        MalformedAt text (spelling lexemes).length literal := by
  obtain ⟨rfl, admissible, cut, stops⟩ := breaks
  cases stops with
  | @character first behind noNumeral noLexeme =>
      have notNumber := numeral?_eq_none noNumeral
      refine .inl ⟨first, rfl, by simp, ?_⟩
      exact ofChar?_of_key ⟨notNumber.1, notNumber.2.1⟩ noLexeme
  | @numeral _ behind written found noDigit =>
      obtain ⟨rfl, malformed⟩ := malformed_of_numeral? admissible cut found noDigit
      exact .inr ⟨_, rfl, spelling lexemes, behind, (List.append_assoc _ _ _).symm, rfl,
        malformed⟩

private theorem offends
    (breaks : Breaks text lexemes rest fault) :
    Offends text (spelling lexemes).length := by
  rcases breaks.offence with ⟨character, _, strange⟩ | ⟨literal, _, malformed⟩
  · exact .inl ⟨character, strange⟩
  · exact .inr ⟨literal, malformed⟩

private theorem of_invalidCharacter
    {character : Char}
    {position : Nat}
    (breaks : Breaks text lexemes rest (.invalidCharacter character position)) :
    (spelling lexemes).length = position ∧ StrangeAt text position character := by
  rcases breaks.offence with ⟨_, same, strange⟩ | ⟨_, same, _⟩
  · cases same
    exact ⟨rfl, strange⟩
  · contradiction

private theorem of_invalidNumber
    {literal : Text}
    {position : Nat}
    (breaks : Breaks text lexemes rest (.invalidNumber literal position)) :
    (spelling lexemes).length = position ∧ MalformedAt text position literal := by
  rcases breaks.offence with ⟨_, same, _⟩ | ⟨_, same, malformed⟩
  · contradiction
  · cases same
    exact ⟨rfl, malformed⟩

/-- What is read before a fault can be read alone. -/
private theorem read_before
    (breaks : Breaks text lexemes rest fault) :
    Token.ofText (text.take (spelling lexemes).length) =
      .ok (lexemes.map Lexeme.token) := by
  rw [breaks.split, List.take_left]
  exact Token.ofText_eq_ok_iff_spells.mpr
    ⟨lexemes, spells_spelling breaks.admissible, breaks.admissible, rfl⟩

/-- What stands behind a strange character does not matter. -/
private theorem of_prefix
    {other : Text}
    {character : Char}
    {position : Nat}
    (breaks : Breaks text lexemes rest (.invalidCharacter character position))
    (starts : text.take (position + 1) <+: other) :
    ∃ behind, Breaks other lexemes behind (.invalidCharacter character position) := by
  obtain ⟨rfl, admissible, cut, stops⟩ := breaks
  cases stops with
  | @character first behind noNumeral noLexeme =>
      obtain ⟨further, rfl⟩ := starts
      obtain ⟨notDigit, notPoint, unsigned⟩ := numeral?_eq_none noNumeral
      refine ⟨character :: further, ?_, admissible, ?_, ?_⟩
      · rw [List.take_length_add_append]
        simp
      · exact fun written last next head => cut written last next (by simpa using head)
      · exact .character
          (numeral?_of_not_number further ⟨notDigit, notPoint⟩ unsigned) noLexeme

end Breaks

end Lexeme

private theorem Token.ofText_eq_error_iff_breaks {source : Text} {fault : Fault} :
    Token.ofText source = .error fault ↔
      ∃ lexemes rest,
        Lexeme.Breaks (Text.squeeze (Text.plain source)) lexemes rest fault :=
  Token.ofText_eq_error_iff.trans Lexeme.ofText_eq_error_iff

/-- The leftmost offence of a text is the place where it cannot be read on. -/
theorem Lexeme.breaks_of_offends
    {source : Text}
    {position : Nat}
    (offends : Offends (Text.squeeze (Text.plain source)) position)
    (free : FreeBefore (Text.squeeze (Text.plain source)) position) :
    ∃ lexemes rest fault, Token.ofText source = .error fault ∧
      Breaks (Text.squeeze (Text.plain source)) lexemes rest fault ∧
      (spelling lexemes).length = position := by
  cases read : Token.ofText source with
  | ok tokens =>
      obtain ⟨lexemes, spelled, admissible, _⟩ := Token.ofText_eq_ok_iff_spells.mp read
      have allFree := freeBefore_spelling admissible []
      rw [List.append_nil, ← spelled] at allFree
      exact absurd offends.lt_length (Nat.not_lt.mpr (allFree.le offends))
  | error fault =>
      obtain ⟨lexemes, rest, breaks⟩ := Token.ofText_eq_error_iff_breaks.mp read
      exact ⟨lexemes, rest, fault, rfl, breaks,
        Nat.le_antisymm (breaks.freeBefore.le offends) (free.le breaks.offends)⟩

/-- A strange character is reported where no offence is before it. -/
theorem Token.ofText_eq_invalidCharacter_iff
    {source : Text}
    {character : Char}
    {position : Nat} :
    Token.ofText source = .error (.invalidCharacter character position) ↔
      Lexeme.StrangeAt (Text.squeeze (Text.plain source)) position character ∧
        Lexeme.FreeBefore (Text.squeeze (Text.plain source)) position := by
  constructor
  · intro failed
    obtain ⟨lexemes, rest, breaks⟩ := Token.ofText_eq_error_iff_breaks.mp failed
    obtain ⟨rfl, strange⟩ := breaks.of_invalidCharacter
    exact ⟨strange, breaks.freeBefore⟩
  · rintro ⟨strange, free⟩
    obtain ⟨lexemes, rest, fault, failed, breaks, rfl⟩ :=
      Lexeme.breaks_of_offends (.inl ⟨character, strange⟩) free
    rcases breaks.offence with ⟨other, rfl, otherStrange⟩ | ⟨literal, _, malformed⟩
    · obtain rfl : character = other :=
        Option.some.inj (strange.1.symm.trans otherStrange.1)
      exact failed
    · exact absurd strange (malformed.not_strangeAt character)

/-- A literal without a digit is reported where no offence is before it. -/
theorem Token.ofText_eq_invalidNumber_iff
    {source literal : Text}
    {position : Nat} :
    Token.ofText source = .error (.invalidNumber literal position) ↔
      Lexeme.MalformedAt (Text.squeeze (Text.plain source)) position literal ∧
        Lexeme.FreeBefore (Text.squeeze (Text.plain source)) position := by
  constructor
  · intro failed
    obtain ⟨lexemes, rest, breaks⟩ := Token.ofText_eq_error_iff_breaks.mp failed
    obtain ⟨rfl, malformed⟩ := breaks.of_invalidNumber
    exact ⟨malformed, breaks.freeBefore⟩
  · rintro ⟨malformed, free⟩
    obtain ⟨lexemes, rest, fault, failed, breaks, rfl⟩ :=
      Lexeme.breaks_of_offends (.inr ⟨literal, malformed⟩) free
    rcases breaks.offence with ⟨character, _, strange⟩ | ⟨other, rfl, otherMalformed⟩
    · exact absurd strange (malformed.not_strangeAt character)
    · obtain rfl := malformed.unique otherMalformed
      exact failed

/-- What stands before a reported place can be read. -/
theorem Token.ofText_take_reported
    {source : Text}
    {position : Nat}
    (reported :
      (∃ character, Token.ofText source = .error (.invalidCharacter character position)) ∨
        ∃ literal, Token.ofText source = .error (.invalidNumber literal position)) :
    ∃ tokens,
      Token.ofText ((Text.squeeze (Text.plain source)).take position) = .ok tokens := by
  rcases reported with ⟨character, failed⟩ | ⟨literal, failed⟩
  · obtain ⟨lexemes, rest, breaks⟩ := Token.ofText_eq_error_iff_breaks.mp failed
    obtain ⟨rfl, _⟩ := breaks.of_invalidCharacter
    exact ⟨_, breaks.read_before⟩
  · obtain ⟨lexemes, rest, breaks⟩ := Token.ofText_eq_error_iff_breaks.mp failed
    obtain ⟨rfl, _⟩ := breaks.of_invalidNumber
    exact ⟨_, breaks.read_before⟩

/-- The leftmost offence of a text is reported.  A strange character is reported where
no offence is before it, and so is a literal without a digit.  What stands before the
reported place can be read; and a text that is the same up to a reported character, that
one included, has the same fault. -/
theorem Token.ofText_leftmost (source : Text) :
    let text := Text.squeeze (Text.plain source)
    (∀ character position,
        Token.ofText source = .error (.invalidCharacter character position) ↔
          Lexeme.StrangeAt text position character ∧ Lexeme.FreeBefore text position) ∧
      (∀ literal position,
        Token.ofText source = .error (.invalidNumber literal position) ↔
          Lexeme.MalformedAt text position literal ∧ Lexeme.FreeBefore text position) ∧
      (∀ position,
        (∃ character, Token.ofText source = .error (.invalidCharacter character position)) ∨
            (∃ literal, Token.ofText source = .error (.invalidNumber literal position)) →
          ∃ tokens, Token.ofText (text.take position) = .ok tokens) ∧
      ∀ character position,
        Token.ofText source = .error (.invalidCharacter character position) →
          ∀ other, text.take (position + 1) <+: Text.squeeze (Text.plain other) →
            Token.ofText other = .error (.invalidCharacter character position) := by
  intro text
  refine ⟨fun _ _ => Token.ofText_eq_invalidCharacter_iff,
    fun _ _ => Token.ofText_eq_invalidNumber_iff,
    fun _ => Token.ofText_take_reported, ?sameFront⟩
  case sameFront =>
    intro character position failed other starts
    obtain ⟨lexemes, rest, breaks⟩ := Token.ofText_eq_error_iff_breaks.mp failed
    obtain ⟨behind, otherBreaks⟩ := breaks.of_prefix starts
    exact Token.ofText_eq_error_iff_breaks.mpr ⟨lexemes, behind, otherBreaks⟩

/-- The dollar sign stands behind a number with an operator and a second number whose
only digit is behind its point; what is wrong behind it does not matter. -/
theorem Token.ofText_leftmost_dollar :
    let source : Text := "1.5 −.5$−".toList
    let other : Text := "1.5-.5$ ..".toList
    let text := Text.squeeze (Text.plain source)
    Lexeme.StrangeAt text 6 '$' ∧ Lexeme.FreeBefore text 6 ∧
      Token.ofText source = .error (.invalidCharacter '$' 6) ∧
      (∃ tokens, Token.ofText (text.take 6) = .ok tokens) ∧
      text.take 7 <+: Text.squeeze (Text.plain other) ∧
      Token.ofText other = .error (.invalidCharacter '$' 6) := by
  intro source other text
  have failed : Token.ofText source = .error (.invalidCharacter '$' 6) := by
    decide +kernel
  have starts : text.take 7 <+: Text.squeeze (Text.plain other) := by decide
  obtain ⟨strange_iff, _, read, same⟩ := Token.ofText_leftmost source
  obtain ⟨strange, free⟩ := (strange_iff '$' 6).mp failed
  exact ⟨strange, free, failed, read 6 (.inl ⟨'$', failed⟩), starts,
    same '$' 6 failed other starts⟩

end Keypad
