import Keypad.CommandLine.Commands
import Keypad.Proofs.Calculator.Debounced
import Keypad.Proofs.Calculator.Keystrokes
import Keypad.Proofs.Entry.Typeable

/-!
Checking whether an expression can be typed.

A check types the visible characters of an expression, and it judges them as a
calculator does that they are submitted to.  Both judgements have a closed form:
the entry that the characters lead to, however it came about, breaks no rule.

Owns:
- the first visible character that cannot be typed;
- a check of a text, piece by piece;
- the verdict of a check next to that of a session.

Main statement: `check_judges_typing`.
-/

namespace Keypad

namespace Text

private theorem squeeze_concat_of_blank
    {text : Text}
    {character : Char}
    (blank : isBlank character = true) :
    squeeze (text ++ [character]) = squeeze text := by
  simp [squeeze, blank]

private theorem squeeze_concat_of_visible
    {text : Text}
    {character : Char}
    (visible : isBlank character = false) :
    squeeze (text ++ [character]) = squeeze text ++ [character] := by
  simp [squeeze, visible]

private theorem mem_of_mem_squeeze
    {text : Text}
    {character : Char}
    (member : character ∈ squeeze text) :
    character ∈ text :=
  List.mem_of_mem_filter member

private theorem plain_of_mem_plain
    {part text : Text}
    (inPlain : ∀ character ∈ part, character ∈ plain text) :
    plain part = part := by
  apply plain_of_no_glyph
  intro character member
  obtain ⟨before, _, rfl⟩ := List.mem_map.mp (inPlain character member)
  exact not_isGlyph_unglyph before

end Text

namespace Entry

/-- The visible characters of a text can be typed, or there is a first one that
cannot. -/
private theorem typeable_or_refused (text : Text) :
    Typeable (Text.squeeze text) ∨
      ∃ front key back, text = front ++ key :: back ∧ Text.isBlank key = false ∧
        Typeable (Text.squeeze front) ∧
        admits (normalForm (Text.squeeze front)) key = false := by
  induction text using List.reverseRecOn with
  | nil => exact .inl typeable_nil
  | append_singleton text character inductionHypothesis =>
      rcases inductionHypothesis with typeable | ⟨front, key, back, rfl, visible, refused⟩
      · cases blank : Text.isBlank character with
        | true =>
            rw [Text.squeeze_concat_of_blank blank]
            exact .inl typeable
        | false =>
            rw [Text.squeeze_concat_of_visible blank, typeable_concat]
            cases admitted : admits (normalForm (Text.squeeze text)) character with
            | true => exact .inl ⟨typeable, rfl⟩
            | false => exact .inr ⟨text, character, [], rfl, blank, typeable, admitted⟩
      · exact .inr ⟨front, key, back ++ [character], by simp, visible, refused⟩

private theorem not_typeable_of_refused
    {front back : Text}
    {key : Char}
    (visible : Text.isBlank key = false)
    (refused : admits (normalForm (Text.squeeze front)) key = false) :
    ¬ Typeable (Text.squeeze (front ++ key :: back)) := by
  intro whole
  have parts : Text.squeeze (front ++ key :: back) =
      Text.squeeze front ++ [key] ++ Text.squeeze back := by
    rw [← Text.squeeze_concat_of_visible visible, ← Text.squeeze_append]
    simp
  rw [parts] at whole
  have admitted := (typeable_concat.mp whole.of_append).2
  rw [refused] at admitted
  contradiction

end Entry

namespace CommandLine

open Calculator Entry

/-- The check is given up over a precision that no result can be written with. -/
def Abandons (expression : Text) (precision : Int) : Prop :=
  ¬ Usable precision ∧ ∃ fault, runCheck expression precision = .stopped fault

private theorem typeVisible_nil (position : Nat) (calculator : Calculator) :
    typeVisible position calculator [] = .accepted calculator :=
  rfl

private theorem typeVisible_cons
    (position : Nat)
    (calculator : Calculator)
    (character : Char)
    (rest : Text) :
    typeVisible position calculator (character :: rest) =
      if Text.isBlank character then
        typeVisible (position + 1) calculator rest
      else if admits calculator.entry character then
        match (calculator.submit [character]).outcome with
        | .ok _ =>
            typeVisible (position + 1) (calculator.after (.submit [character])) rest
        | .error fault => .stopped fault
      else
        .refused character position calculator.entry := by
  rfl

/-- A text is typed after another where that was accepted. -/
theorem typeVisible_append
    (position : Nat)
    (calculator : Calculator)
    (front back : Text) :
    typeVisible position calculator (front ++ back) =
      match typeVisible position calculator front with
      | .accepted between => typeVisible (position + front.length) between back
      | other => other := by
  induction front generalizing position calculator with
  | nil => rfl
  | cons character front inductionHypothesis =>
      have further : position + (character :: front).length =
          position + 1 + front.length := by
        rw [List.length_cons]
        omega
      rw [further]
      rw [List.cons_append, typeVisible_cons, typeVisible_cons]
      split
      · exact inductionHypothesis (position + 1) calculator
      · split
        · split
          · exact inductionHypothesis (position + 1) _
          · rfl
        · rfl

private theorem not_usable_of_submit
    {calculator : Calculator}
    {text : Text}
    {fault : PrecisionFault}
    (failed : (calculator.submit text).outcome = .error fault) :
    ¬ Usable calculator.precision := by
  intro usable
  unfold submit at failed
  split at failed
  · rename_i key _
    split at failed
    · unfold edited at failed
      split at failed
      · have kept : Usable (calculator.withEntry (append calculator.entry key)).precision :=
          usable
        obtain ⟨display, answered⟩ := preview_answers kept
        rw [answered] at failed
        contradiction
      · contradiction
    · contradiction
  · contradiction

section Typing

variable {precision : Int} {text : Text}

/-- Visible characters that can be typed are accepted, unless a preview stops
the typing. -/
theorem typeVisible_of_typeable
    (precision : Int)
    (typeable : Typeable (Text.squeeze text)) :
    (∃ final, typeVisible 0 (new precision none) text = .accepted final ∧
        final.entry = normalForm (Text.squeeze text) ∧
        final.precision = precision) ∨
      ¬ Usable precision ∧
        ∃ fault, typeVisible 0 (new precision none) text = .stopped fault := by
  induction text using List.reverseRecOn with
  | nil => exact .inl ⟨_, rfl, rfl, rfl⟩
  | append_singleton text character inductionHypothesis =>
      rw [typeVisible_append]
      cases blank : Text.isBlank character with
      | true =>
          rw [Text.squeeze_concat_of_blank blank] at typeable ⊢
          rcases inductionHypothesis typeable with
            ⟨final, accepted, kept⟩ | ⟨unusable, fault, stopped⟩
          · refine .inl ⟨final, ?_, kept⟩
            simp [accepted, typeVisible_cons, typeVisible_nil, blank]
          · exact .inr ⟨unusable, fault, by rw [stopped]⟩
      | false =>
          rw [Text.squeeze_concat_of_visible blank] at typeable ⊢
          obtain ⟨typedBefore, admitted⟩ := typeable_concat.mp typeable
          rcases inductionHypothesis typedBefore with
            ⟨between, accepted, entry, precision⟩ | ⟨unusable, fault, stopped⟩
          · rw [← entry] at admitted
            obtain ⟨nextEntry, nextPrecision⟩ := after_keystroke admitted
            simp only [accepted, typeVisible_cons, blank, Bool.false_eq_true, ↓reduceIte, admitted]
            cases outcome : (between.submit [character]).outcome with
            | ok display =>
                exact .inl ⟨between.after (.submit [character]), rfl,
                  by rw [nextEntry, entry, append_normalForm],
                  nextPrecision.trans precision⟩
            | error fault =>
                have unusable := not_usable_of_submit outcome
                rw [precision] at unusable
                exact .inr ⟨unusable, fault, rfl⟩
          · exact .inr ⟨unusable, fault, by rw [stopped]⟩

/-- The first visible character that cannot be typed is refused, unless a preview
stops the typing before. -/
private theorem typeVisible_of_refused
    {key : Char}
    (precision : Int)
    (visible : Text.isBlank key = false)
    (typeable : Typeable (Text.squeeze text))
    (refused : admits (normalForm (Text.squeeze text)) key = false)
    (back : Text) :
    typeVisible 0 (new precision none) (text ++ key :: back) =
        .refused key text.length (normalForm (Text.squeeze text)) ∨
      ¬ Usable precision ∧
        ∃ fault, typeVisible 0 (new precision none) (text ++ key :: back) =
          .stopped fault := by
  rw [typeVisible_append]
  rcases typeVisible_of_typeable precision typeable with
    ⟨between, accepted, entry, _⟩ | ⟨unusable, fault, stopped⟩
  · left
    rw [← entry] at refused ⊢
    simp [accepted, typeVisible_cons, visible, refused]
  · exact .inr ⟨unusable, fault, by rw [stopped]⟩

/-- What is accepted can be typed, and leads to its normal form. -/
theorem typeVisible_eq_accepted
    {final : Calculator}
    (accepted : typeVisible 0 (new precision none) text = .accepted final) :
    Typeable (Text.squeeze text) ∧ final.entry = normalForm (Text.squeeze text) := by
  rcases typeable_or_refused text with
    typeable | ⟨front, key, back, rfl, visible, typeable, refused⟩
  · rcases typeVisible_of_typeable precision typeable with
      ⟨other, otherAccepted, entry, _⟩ | ⟨_, fault, stopped⟩
    · rw [accepted] at otherAccepted
      cases otherAccepted
      exact ⟨typeable, entry⟩
    · rw [accepted] at stopped
      contradiction
  · rcases typeVisible_of_refused precision visible typeable refused back with
      isRefused | ⟨_, fault, stopped⟩
    · rw [accepted] at isRefused
      contradiction
    · rw [accepted] at stopped
      contradiction

end Typing

/-! ## The verdict of a check -/

section Verdict

variable {expression : Text}

private theorem runCheck_of_typeable
    (precision : Int)
    (typeable : Typeable (Text.squeeze (Text.plain expression))) :
    runCheck expression precision =
        .finished 0
          ["OK ".toList ++
            Text.pretty (normalForm (Text.squeeze (Text.plain expression)))] ∨
      Abandons expression precision := by
  rcases typeVisible_of_typeable precision typeable with
    ⟨final, accepted, entry, _⟩ | ⟨unusable, fault, stopped⟩
  · left
    rw [runCheck, accepted, ← entry]
    rfl
  · exact .inr ⟨unusable, fault, by rw [runCheck, stopped]⟩

private theorem runCheck_of_refused
    {front back : Text}
    {key : Char}
    (precision : Int)
    (split : Text.plain expression = front ++ key :: back)
    (visible : Text.isBlank key = false)
    (typeable : Typeable (Text.squeeze front))
    (refused : admits (normalForm (Text.squeeze front)) key = false) :
    runCheck expression precision =
        .finished 1
          [("Refused " ++ Fault.shown [key] ++ " at " ++
            Fault.counted front.length ++ " after " ++
            Fault.shown (normalForm (Text.squeeze front))).toList] ∨
      Abandons expression precision := by
  rcases typeVisible_of_refused precision visible typeable refused back with
    isRefused | ⟨unusable, fault, stopped⟩
  · left
    rw [runCheck, split, isRefused]
  · exact .inr ⟨unusable, fault, by rw [runCheck, split, stopped]⟩

end Verdict

/-! ## The verdict of a session -/

/-- Keys without glyphs are accepted by a new calculator exactly when they can be
typed, and they lead to their normal form. -/
theorem acceptsAll_new_iff
    {keys : Text}
    (plain : Text.plain keys = keys)
    (precision : Int)
    (debouncer : Option (Debouncer Unit)) :
    (new precision debouncer).AcceptsAll keys ↔ Typeable keys := by
  rw [acceptsAll_iff plain]
  show (∃ typed, type? initial keys = some typed) ↔ _
  simp only [type?_eq_some_iff, exists_and_left, exists_eq, and_true]

private theorem entry_of_typeable
    {keys : Text}
    (typeable : Typeable keys)
    (precision : Int)
    (debouncer : Option (Debouncer Unit)) :
    ((new precision debouncer).afterAll (Operation.keystrokes keys)).entry =
      normalForm keys := by
  have typing : type? (new precision debouncer).entry keys = some (normalForm keys) :=
    type?_eq_some_iff.mpr ⟨typeable, rfl⟩
  exact (afterAll_keystrokes typing).1

/-- After keys that can be typed, a key that the entry does not admit is
rejected. -/
theorem rejects_of_typeable
    {keys : Text}
    {key : Char}
    (typeable : Typeable keys)
    (plain : Text.plain [key] = [key])
    (refused : admits (normalForm keys) key = false)
    (precision : Int)
    (debouncer : Option (Debouncer Unit)) :
    (((new precision debouncer).afterAll (Operation.keystrokes keys)).submit [key]).Rejects := by
  rw [submit_rejects_iff, (List.cons.inj plain).1,
    entry_of_typeable typeable precision debouncer]
  exact refused

/-- A check accepts an expression exactly when its visible characters, glyphs
replaced, can be typed, and a new calculator accepts these one by one in the same
case; both then have their normal form as the entry.  Otherwise the check names
the first of them that the calculator rejects, its position in the expression
and the entry so far.  Only an unusable precision can end a check before that. -/
theorem check_judges_typing
    (expression : Text)
    (precision : Int)
    (debouncer : Option (Debouncer Unit)) :
    let typed := Text.squeeze (Text.plain expression)
    let calculator := new precision debouncer
    (Typeable typed →
        calculator.AcceptsAll typed ∧
          (calculator.afterAll (Operation.keystrokes typed)).entry = normalForm typed ∧
          (runCheck expression precision =
              .finished 0 ["OK ".toList ++ Text.pretty (normalForm typed)] ∨
            Abandons expression precision)) ∧
      (¬ Typeable typed →
        ¬ calculator.AcceptsAll typed ∧
          ∃ front key back,
            Text.plain expression = front ++ key :: back ∧
              Text.isBlank key = false ∧
              calculator.AcceptsAll (Text.squeeze front) ∧
              ((calculator.afterAll
                (Operation.keystrokes (Text.squeeze front))).submit [key]).Rejects ∧
              (runCheck expression precision =
                  .finished 1
                    [("Refused " ++ Fault.shown [key] ++ " at " ++
                      Fault.counted front.length ++ " after " ++
                      Fault.shown (normalForm (Text.squeeze front))).toList] ∨
                Abandons expression precision)) := by
  intro typed calculator
  have accepts : calculator.AcceptsAll typed ↔ Typeable typed :=
    acceptsAll_new_iff (Text.plain_of_mem_plain fun _ => Text.mem_of_mem_squeeze)
      precision debouncer
  rw [accepts]
  rcases typeable_or_refused (Text.plain expression) with
    typeable | ⟨front, key, back, split, visible, typeable, refused⟩
  · refine ⟨fun _ => ⟨typeable, entry_of_typeable typeable precision debouncer, ?_⟩,
      fun notTypeable => absurd typeable notTypeable⟩
    exact runCheck_of_typeable precision typeable
  · have notTypeable : ¬ Typeable typed := by
      show ¬ Typeable (Text.squeeze (Text.plain expression))
      rw [split]
      exact not_typeable_of_refused visible refused
    have inFront : ∀ character ∈ Text.squeeze front, character ∈ Text.plain expression := by
      intro character member
      rw [split]
      exact List.mem_append_left _ (Text.mem_of_mem_squeeze member)
    have isThere : ∀ character ∈ [key], character ∈ Text.plain expression := by
      intro character member
      rw [List.mem_singleton.mp member, split]
      simp
    refine ⟨fun whole => absurd whole notTypeable, fun _ => ⟨notTypeable, front, key, back,
      split, visible, ?_, ?_, ?_⟩⟩
    · exact (acceptsAll_new_iff (Text.plain_of_mem_plain inFront) precision debouncer).mpr
        typeable
    · exact rejects_of_typeable typeable (Text.plain_of_mem_plain isThere) refused
        precision debouncer
    · exact runCheck_of_refused precision split visible typeable refused

/-- The zeros in front vanish, and the position counts them. -/
example : runCheck "00.5 ×(2".toList 12 = .finished 0 ["OK .5×(2".toList] ∧
    runCheck "0 2 ××3".toList 12 =
      .finished 1 ["Refused '*' at 5 after '2*'".toList] := by
  decide +kernel

end CommandLine

end Keypad
