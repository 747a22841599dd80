import Keypad.Proofs.Computation
import Keypad.Proofs.Lexeme.Stop
import Keypad.Proofs.Postorder.Mismatch

/-!
The faults of a computation, stage by stage.

Each stage can rely on the one before it.  A text that is read has only numbers,
operators and the two parentheses; reordering them leaves no parenthesis; and what is
left makes an evaluation fail over operands, divisors and results alone.

Owns:
- the faults of each stage on what the stage before it hands over, and the faults
  that a text can have;
- the stage that a mismatch of parentheses comes from, and its message.

Main statements: `compute_eq_error`, `reorder_of_compute_mismatched`.
-/

namespace Keypad

/-! ## Messages -/

namespace Fault

def Starts (message front : String) : Prop :=
  front.toList <+: message.toList

private theorem starts_append (front back : String) : Starts (front ++ back) front := by
  rw [Starts, String.toList_append]
  exact List.prefix_append front.toList back.toList

private theorem Starts.append
    {message front : String}
    (starts : Starts message front)
    (back : String) :
    Starts (message ++ back) front :=
  starts.trans (starts_append message back)

private theorem Starts.ne
    {message front other : String}
    (starts : Starts message front)
    (differs : ¬ front.toList <+: other.toList) :
    message ≠ other := by
  rintro rfl
  exact differs starts

/-- A quoted text starts with its mark. -/
theorem shown_ne_of_first
    {text : String}
    {first : Char}
    {rest : Text}
    (starts : text.toList = first :: rest)
    (noMark : first ≠ Text.quotationMark ∧ first ≠ Text.apostrophe)
    (quoted : Text) :
    shown quoted ≠ text := by
  rintro rfl
  rw [shown, String.toList_ofList, Text.quoted] at starts
  obtain ⟨isMark, _⟩ := List.cons.inj starts
  unfold Text.enclosingMark at isMark
  split at isMark
  · exact noMark.1 isMark.symm
  · exact noMark.2 isMark.symm

private theorem eq_unmatchedClosing_of_detail
    {fault : Fault}
    (isDetail : fault.detail = "Unmatched ')'") :
    fault = .unmatchedClosing := by
  cases fault with
  | unmatchedClosing => rfl
  | unmatchedOpening => exact absurd isDetail (by decide)
  | divisionByZero => exact absurd isDetail (by decide)
  | invalidCharacter character position =>
      exact absurd isDetail
        ((((starts_append "Invalid character " _).append _).append _).ne (by decide))
  | invalidNumber literal position =>
      exact absurd isDetail
        ((((starts_append "Invalid number " _).append _).append _).ne (by decide))
  | unexpectedParenthesis symbol =>
      exact absurd isDetail
        (((starts_append "Unexpected " _).append _).ne (by decide))
  | missingOperand symbol =>
      exact absurd isDetail
        ((starts_append "Missing operand for " _).ne (by decide))
  | leftover count =>
      exact absurd isDetail
        (((starts_append "Expected one value, " _).append _).ne (by decide))
  | invalidResult value =>
      exact absurd isDetail
        ((starts_append "Invalid result " _).ne (by decide))
  | unknownOperator symbol =>
      exact absurd isDetail (shown_ne_of_first rfl (by decide) symbol)

/-- Only a closing parenthesis without a group is reported with its message. -/
theorem eq_unmatchedClosing_of_message
    {fault : Fault}
    (isMessage : fault.message = "Unmatched ')'") :
    fault = .unmatchedClosing := by
  have notStandard : fault.kind.standardMessage ≠ "Unmatched ')'" := by
    cases fault.kind <;> decide
  unfold message FaultKind.messageFor at isMessage
  split at isMessage
  · exact absurd isMessage notStandard
  · exact eq_unmatchedClosing_of_detail isMessage

end Fault

/-! ## Reading -/

private theorem Token.ofText_eq_error
    {text : Text}
    {fault : Fault}
    (failed : Token.ofText text = .error fault) :
    (∃ literal position, fault = .invalidNumber literal position) ∨
      ∃ character position, fault = .invalidCharacter character position := by
  rw [Token.ofText_eq_error_iff, Lexeme.ofText_eq_error_iff] at failed
  obtain ⟨_, _, breaks⟩ := failed
  cases breaks.stops with
  | numeral => exact .inl ⟨_, _, rfl⟩
  | character => exact .inr ⟨_, _, rfl⟩

/-! ## Reordering -/

namespace Yard

theorem not_strangeOperator_of_known
    {tokens : List Token}
    (known : ∀ token ∈ tokens, token.isKnown = true) :
    ∀ token ∈ tokens, ∀ symbol, token ≠ .strangeOperator symbol := by
  rintro token member symbol rfl
  have isKnown := known _ member
  contradiction

private theorem reorder_eq_error
    {tokens : List Token}
    {fault : Fault}
    (known : ∀ token ∈ tokens, token.isKnown = true)
    (failed : reorder tokens = .error fault) :
    fault = .unmatchedClosing ∨ fault = .unmatchedOpening := by
  rcases reorder_outcome (not_strangeOperator_of_known known) with
    ⟨⟨output, reordered⟩, _⟩ | ⟨closing, _⟩ | ⟨opening, _⟩
  · rw [failed] at reordered
    contradiction
  · exact .inl (Except.error.inj (failed.symm.trans closing))
  · exact .inr (Except.error.inj (failed.symm.trans opening))

/-- What is reordered has only numbers and operators left. -/
theorem isNumber_or_isOperator_of_reorder
    {tokens output : List Token}
    (known : ∀ token ∈ tokens, token.isKnown = true)
    (reordered : reorder tokens = .ok output) :
    ∀ token ∈ output, token.isNumber = true ∨ token.isOperator = true := by
  intro token member
  have kept := (reorder_perm reordered).mem_iff.mp member
  rw [List.mem_filter] at kept
  have isKnown := known token kept.1
  cases token with
  | number value => exact .inl rfl
  | operator op => exact .inr rfl
  | opening => exact absurd kept.2 (by decide)
  | closing => exact absurd kept.2 (by decide)
  | strangeOperator symbol => contradiction
  | strangeParenthesis symbol => contradiction

end Yard

/-! ## Evaluating -/

private theorem applyOperator_eq_error
    {op : Operator}
    {left right : Binary64}
    {fault : Fault}
    (failed : applyOperator op left right = .error fault) :
    fault = .divisionByZero := by
  unfold applyOperator at failed
  split at failed
  · contradiction
  · exact (Except.error.inj failed).symm

namespace Machine

/-- What is wrong with an operator in a list of numbers and operators. -/
def FailsOperator (fault : Fault) : Prop :=
  fault = .divisionByZero ∨ ∃ op : Operator, fault = .missingOperand [op.symbol]

private theorem step_eq_error
    {stack : Stack}
    {token : Token}
    {fault : Fault}
    (isKind : token.isNumber = true ∨ token.isOperator = true)
    (failed : step stack token = .error fault) :
    FailsOperator fault := by
  cases token with
  | number value => contradiction
  | operator op =>
      rcases stack with _ | ⟨right, _ | ⟨left, below⟩⟩
      · exact .inr ⟨op, (Except.error.inj failed).symm⟩
      · exact .inr ⟨op, (Except.error.inj failed).symm⟩
      · rcases error_of_bind failed with applied | ⟨value, _, pushed⟩
        · exact .inl (applyOperator_eq_error applied)
        · contradiction
  | _ => simp [Token.isNumber, Token.isOperator] at isKind

private theorem run_eq_error
    {stack : Stack}
    {tokens : List Token}
    {fault : Fault}
    (allKinds : ∀ token ∈ tokens, token.isNumber = true ∨ token.isOperator = true)
    (failed : run stack tokens = .error fault) :
    FailsOperator fault := by
  induction tokens generalizing stack with
  | nil => contradiction
  | cons token later inductionHypothesis =>
      rw [run_cons] at failed
      rcases error_of_bind failed with stepFailed | ⟨next, _, laterFailed⟩
      · exact step_eq_error (allKinds token (by simp)) stepFailed
      · exact inductionHypothesis
          (fun each member => allKinds each (List.mem_cons_of_mem token member))
          laterFailed

private theorem conclude_eq_error
    {stack : Stack}
    {fault : Fault}
    (failed : conclude stack = .error fault) :
    (∃ value, fault = .invalidResult value) ∨ ∃ count, fault = .leftover count := by
  unfold conclude at failed
  split at failed
  · rename_i value
    unfold reportValue at failed
    split at failed
    · contradiction
    · exact .inl ⟨value, (Except.error.inj failed).symm⟩
  · exact .inr ⟨stack.length, (Except.error.inj failed).symm⟩

end Machine

/-! ## All stages -/

namespace FaultKind

def reported : List FaultKind :=
  [.invalidCharacter, .invalidNumber, .mismatchedParentheses, .invalidExpression,
    .divisionByZero, .invalidResult]

end FaultKind

/-- A text without a result has a fault of a reported kind, and no parenthesis gets
as far as the evaluation. -/
theorem compute_eq_error
    {text : Text}
    {fault : Fault}
    (failed : compute text = .error fault) :
    fault.kind ∈ FaultKind.reported ∧
      ∀ symbol, fault ≠ .unexpectedParenthesis symbol := by
  rcases error_of_bind failed with unread | ⟨tokens, read, tokensFailed⟩
  · rcases Token.ofText_eq_error unread with ⟨_, _, rfl⟩ | ⟨_, _, rfl⟩ <;>
      simp [Fault.kind, FaultKind.reported]
  have known := Token.isKnown_of_ofText read
  rcases error_of_bind tokensFailed with unordered | ⟨postfixed, reordered, evaluated⟩
  · rcases Yard.reorder_eq_error known unordered with rfl | rfl <;>
      simp [Fault.kind, FaultKind.reported]
  have kinds := Yard.isNumber_or_isOperator_of_reorder known reordered
  rcases error_of_bind evaluated with runFailed | ⟨stack, _, concluded⟩
  · rcases Machine.run_eq_error kinds runFailed with rfl | ⟨_, rfl⟩ <;>
      simp [Fault.kind, FaultKind.reported]
  · rcases Machine.conclude_eq_error concluded with ⟨_, rfl⟩ | ⟨_, rfl⟩ <;>
      simp [Fault.kind, FaultKind.reported]

/-- A mismatch of parentheses comes from the reordering. -/
theorem reorder_of_compute_mismatched
    {text : Text}
    {fault : Fault}
    (failed : compute text = .error fault)
    (mismatched : fault.kind = .mismatchedParentheses) :
    ∃ tokens, Token.ofText text = .ok tokens ∧
      Yard.reorder tokens = .error fault := by
  rcases error_of_bind failed with unread | ⟨tokens, read, tokensFailed⟩
  · rcases Token.ofText_eq_error unread with ⟨_, _, rfl⟩ | ⟨_, _, rfl⟩ <;>
      contradiction
  refine ⟨tokens, read, ?_⟩
  have known := Token.isKnown_of_ofText read
  rcases error_of_bind tokensFailed with unordered | ⟨postfixed, reordered, evaluated⟩
  · exact unordered
  have kinds := Yard.isNumber_or_isOperator_of_reorder known reordered
  rcases error_of_bind evaluated with runFailed | ⟨stack, _, concluded⟩
  · rcases Machine.run_eq_error kinds runFailed with rfl | ⟨_, rfl⟩ <;>
      contradiction
  · rcases Machine.conclude_eq_error concluded with ⟨_, rfl⟩ | ⟨_, rfl⟩ <;>
      contradiction

end Keypad
