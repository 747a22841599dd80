import Keypad.Proofs.Binary64.Indeterminate
import Keypad.Proofs.Faults
import Keypad.Proofs.Settings.Literal

/-!
A computation on primitives that refuse.

The primitives of a computation are total: a quotient by zero is an infinity, and
every numeral has a number.  Primitives may also be partial.  Then a reader refuses
the texts that are no numbers, a division refuses the divisor zero, and where there is
no remainder none is given.  A computation that has to get past such primitives stops
nowhere else, for each stage has made sure of what the next one asks for.

Owns:
- the primitives that refuse, and a computation on them;
- its agreement with the computation on total primitives, stage by stage.

Main statement: `compute_bounded`.
-/

namespace Keypad

inductive Refusal where
  | unreadable (literal : Text)
  | zeroDivisor (dividend : Binary64)
  | noRemainder (dividend divisor : Binary64)
deriving DecidableEq

/-- Why a checked computation stops: over the expression, or in a primitive. -/
inductive Stop where
  | fault (fault : Fault)
  | refusal (refusal : Refusal)
deriving DecidableEq

namespace Checked

/-! ## Primitives -/

def readNumber (literal : Text) : Except Stop Binary64 :=
  (Settings.readNumber literal).mapError fun _ => .refusal (.unreadable literal)

def divide (left right : Binary64) : Except Stop Binary64 :=
  if right.isZero then .error (.refusal (.zeroDivisor left)) else .ok (left.div right)

/-- NaN comes out only where NaN went in. -/
def remainder (left right : Binary64) : Except Stop Binary64 :=
  if left.rem right = .nan ∧ left ≠ .nan ∧ right ≠ .nan then
    .error (.refusal (.noRemainder left right))
  else
    .ok (left.rem right)

example : remainder (.infinite true) Binary64.zero =
    .error (.refusal (.noRemainder (.infinite true) Binary64.zero)) := by
  decide +kernel

example : readNumber "-.".toList = .error (.refusal (.unreadable "-.".toList)) := by
  decide +kernel

/-! ## The computation -/

/-- An operator applied to two numbers.  A zero divisor is a fault before it gets to
the division, and no remainder is asked for where there is none. -/
def apply (op : Operator) (left right : Binary64) : Except Stop Binary64 :=
  match op with
  | .div => if right.isZero then .error (.fault .divisionByZero) else divide left right
  | .rem => if right.isZero || left.isInfinite then .ok .nan else remainder left right
  | _ => .ok (op.result left right)

def scan (position : Nat) (signAllowed : Bool) (text : Text) :
    Except Stop (List Token) :=
  match _found : Lexeme.numeral? signAllowed text with
  | some (written, rest) =>
      if written.HasDigit then do
        let value ← readNumber written.text
        let later ← scan (position + written.text.length) false rest
        return .number value :: later
      else
        throw (.fault (.invalidNumber written.text position))
  | none =>
      match text with
      | [] => return []
      | first :: rest =>
          match Lexeme.ofChar? first with
          | some lexeme => do
              let later ← scan (position + 1) lexeme.allowsSign rest
              return lexeme.token :: later
          | none => throw (.fault (.invalidCharacter first position))
termination_by text.length
decreasing_by
  · exact Lexeme.numeral?_rest_length _found
  · simp

def step (stack : Machine.Stack) (token : Token) : Except Stop Machine.Stack :=
  match token, stack with
  | .operator op, right :: left :: below => do
      let value ← apply op left right
      return value :: below
  | token, stack => (Machine.step stack token).mapError .fault

def run (stack : Machine.Stack) (tokens : List Token) : Except Stop Machine.Stack :=
  tokens.foldlM step stack

def compute (text : Text) : Except Stop Binary64 := do
  let tokens ← scan 0 true (Text.squeeze (Text.plain text))
  let postfixed ← (Yard.reorder tokens).mapError .fault
  let stack ← run [] postfixed
  (Machine.conclude stack).mapError .fault

/-! ## One step of the scan -/

private theorem scan_of_numeral
    (position : Nat)
    {signAllowed : Bool}
    {text rest : Text}
    {written : Numeral}
    (found : Lexeme.numeral? signAllowed text = some (written, rest)) :
    scan position signAllowed text =
      if written.HasDigit then
        readNumber written.text >>= fun value =>
          scan (position + written.text.length) false rest >>= fun later =>
            .ok (.number value :: later)
      else
        .error (.fault (.invalidNumber written.text position)) := by
  rw [scan]
  split
  · rename_i found'
    rw [found] at found'
    cases found'
    rfl
  · simp_all

private theorem scan_of_char
    (position : Nat)
    {signAllowed : Bool}
    {first : Char}
    (rest : Text)
    (noNumeral : Lexeme.numeral? signAllowed (first :: rest) = none) :
    scan position signAllowed (first :: rest) =
      match Lexeme.ofChar? first with
      | some lexeme =>
          scan (position + 1) lexeme.allowsSign rest >>= fun later =>
            .ok (lexeme.token :: later)
      | none => .error (.fault (.invalidCharacter first position)) := by
  rw [scan]
  split
  · simp_all
  · rfl

/-! ## Agreement -/

private theorem mapError_bind
    {First Second Failure Other : Type}
    (relabel : Failure → Other)
    (first : Except Failure First)
    (next : First → Except Failure Second) :
    (first >>= next).mapError relabel =
      first.mapError relabel >>= fun value => (next value).mapError relabel := by
  cases first <;> rfl

private theorem readNumber_text
    {written : Numeral}
    (wellFormed : written.WellFormed) :
    readNumber written.text = .ok written.number := by
  rw [readNumber, Settings.readNumber_text wellFormed]
  rfl

private theorem apply_eq (op : Operator) (left right : Binary64) :
    apply op left right = (applyOperator op left right).mapError .fault := by
  cases op with
  | div =>
      cases zero : right.isZero with
      | true => simp [apply, applyOperator, Operator.result?, zero, Except.mapError]
      | false =>
          simp [apply, applyOperator, Operator.result?, zero, Except.mapError, divide]
          rfl
  | rem =>
      show (if right.isZero || left.isInfinite then .ok .nan else remainder left right) =
        .ok (left.rem right)
      have isNaN := Binary64.rem_eq_nan_iff left right
      split
      · rename_i guarded
        rw [Bool.or_eq_true, or_comm] at guarded
        rw [isNaN.mpr (.inr (.inr guarded))]
      · rename_i unguarded
        rw [Bool.or_eq_true, or_comm] at unguarded
        rw [remainder, if_neg]
        rintro ⟨invalid, leftNumber, rightNumber⟩
        rcases isNaN.mp invalid with leftNaN | rightNaN | guarded
        · exact leftNumber leftNaN
        · exact rightNumber rightNaN
        · exact unguarded guarded
  | _ => rfl

private theorem scan_eq (position : Nat) (signAllowed : Bool) (text : Text) :
    scan position signAllowed text =
      ((Lexeme.scan position signAllowed text).map (List.map Lexeme.token)).mapError
        .fault := by
  induction position, signAllowed, text using Lexeme.scan.induct with
  | case1 position signAllowed text written rest found hasDigit inductionHypothesis =>
      rw [Lexeme.scan_of_numeral position found, if_pos hasDigit,
        scan_of_numeral position found, if_pos hasDigit,
        readNumber_text ((Lexeme.numeral?_eq_some found).2.2.1 hasDigit),
        inductionHypothesis]
      cases Lexeme.scan (position + written.text.length) false rest <;> rfl
  | case2 position signAllowed text written rest found noDigit =>
      rw [Lexeme.scan_of_numeral position found, if_neg noDigit,
        scan_of_numeral position found, if_neg noDigit]
      rfl
  | case3 position signAllowed noNumeral =>
      rw [Lexeme.scan_nil, scan]
      rfl
  | case4 position signAllowed first rest noNumeral lexeme isLexeme inductionHypothesis =>
      rw [Lexeme.scan_of_char position rest noNumeral, isLexeme,
        scan_of_char position rest noNumeral, isLexeme]
      simp only [inductionHypothesis]
      cases Lexeme.scan (position + 1) lexeme.allowsSign rest <;> rfl
  | case5 position signAllowed first rest noNumeral noLexeme =>
      rw [Lexeme.scan_of_char position rest noNumeral, noLexeme,
        scan_of_char position rest noNumeral, noLexeme]
      rfl

private theorem step_eq (stack : Machine.Stack) (token : Token) :
    step stack token = (Machine.step stack token).mapError .fault := by
  unfold step
  split
  · rename_i op right left below
    rw [apply_eq, Machine.step, mapError_bind]
    rfl
  · rfl

private theorem run_eq (stack : Machine.Stack) (tokens : List Token) :
    run stack tokens = (Machine.run stack tokens).mapError .fault := by
  induction tokens generalizing stack with
  | nil => rfl
  | cons token later inductionHypothesis =>
      rw [Machine.run_cons, mapError_bind, ← step_eq]
      simp only [← inductionHypothesis]
      rfl

private theorem compute_eq (text : Text) :
    compute text = (Keypad.compute text).mapError .fault := by
  rw [compute, scan_eq, Keypad.compute, mapError_bind, Token.ofText, Lexeme.ofText]
  cases Lexeme.scan 0 true (Text.squeeze (Text.plain text)) with
  | error fault => rfl
  | ok lexemes =>
      show ((Yard.reorder (lexemes.map Lexeme.token)).mapError .fault >>= fun postfixed =>
          run [] postfixed >>= fun stack => (Machine.conclude stack).mapError .fault) =
        (computeTokens (lexemes.map Lexeme.token)).mapError .fault
      simp only [computeTokens, mapError_bind, run_eq, Machine.evaluate]

end Checked

/-- The computation of a text never comes to a primitive that refuses.  It has a
finite result, which is no negative zero, or a fault of a reported kind; no parenthesis
gets as far as the evaluation. -/
theorem compute_bounded (text : Text) :
    Checked.compute text = (compute text).mapError .fault ∧
      ((∃ value, compute text = .ok value ∧ value.isFinite = true ∧
          value ≠ Binary64.signedZero true) ∨
        ∃ fault, compute text = .error fault ∧ fault.kind ∈ FaultKind.reported ∧
          ∀ symbol, fault ≠ .unexpectedParenthesis symbol) := by
  refine ⟨Checked.compute_eq text, ?_⟩
  cases computed : compute text with
  | ok value =>
      obtain ⟨_, _, _, _, evaluated⟩ := compute_eq_ok computed
      obtain ⟨last, _, _, rfl⟩ := Machine.evaluate_eq_ok evaluated
      exact .inl ⟨_, rfl, isFinite_of_compute computed, last.unsignZero_ne_negativeZero⟩
  | error fault => exact .inr ⟨fault, rfl, compute_eq_error computed⟩

end Keypad
