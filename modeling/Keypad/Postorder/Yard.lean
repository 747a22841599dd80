import Keypad.Token

/-!
Reordering infix tokens into post-order.

Numbers pass straight through.  Operators and open groups wait on a stack, and
an operator leaves it when one arrives that it binds before, when its group is
closed, or at the end.

Owns:
- the state between two tokens: what has been emitted, and what waits;
- the step for one token, the end of the list, and the whole reordering.

Main statements: `run_append` (a run splits where its list does),
`release_split` (nothing that waits is lost by a release).
-/

namespace Keypad

/-- What waits: an operator for its right operand, or a group for its end. -/
inductive Waiting where
  | operator (op : Operator)
  | group
deriving DecidableEq, Repr

namespace Waiting

def token : Waiting → Token
  | .operator op => .operator op
  | .group => .opening

def isOperator : Waiting → Bool
  | .operator _ => true
  | .group => false

/-- An operator that takes its operands before the incoming one. -/
def yieldsTo (incoming : Operator) : Waiting → Bool
  | .operator op => op.bindsBefore incoming
  | .group => false

end Waiting

/-- The state of a reordering: the emitted tokens, latest first, and what waits,
the latest on top. -/
structure Yard where
  emitted : List Token
  waiting : List Waiting
deriving DecidableEq

namespace Yard

def empty : Yard :=
  ⟨[], []⟩

/-- Emit, from the top down, as long as the condition holds. -/
def release (releases : Waiting → Bool) (yard : Yard) : Yard where
  emitted :=
    ((yard.waiting.takeWhile releases).map Waiting.token).reverse ++ yard.emitted
  waiting := yard.waiting.dropWhile releases

def close (yard : Yard) : Except Fault Yard :=
  let released := yard.release Waiting.isOperator
  match released.waiting with
  | [] => .error .unmatchedClosing
  | _ :: outer => .ok { released with waiting := outer }

def step (yard : Yard) : Token → Except Fault Yard
  | .number value => .ok { yard with emitted := .number value :: yard.emitted }
  | .operator op =>
      let released := yard.release (Waiting.yieldsTo op)
      .ok { released with waiting := .operator op :: released.waiting }
  | .opening => .ok { yard with waiting := .group :: yard.waiting }
  | .closing => yard.close
  | .strangeParenthesis _ => yard.close
  | .strangeOperator symbol => .error (.unknownOperator symbol)

def finish (yard : Yard) : Except Fault (List Token) :=
  if .group ∈ yard.waiting then
    .error .unmatchedOpening
  else
    .ok (yard.release fun _ => true).emitted.reverse

def run (yard : Yard) (tokens : List Token) : Except Fault Yard :=
  tokens.foldlM step yard

def reorder (tokens : List Token) : Except Fault (List Token) := do
  let yard ← empty.run tokens
  yard.finish

/-! ## Laws -/

/-- A run over two lists is the run over the second after the first. -/
theorem run_append (yard : Yard) (front back : List Token) :
    yard.run (front ++ back) =
      yard.run front >>= fun between => between.run back := by
  simp [run, List.foldlM_append]

@[simp] theorem run_nil (yard : Yard) : yard.run [] = .ok yard :=
  rfl

theorem run_cons (yard : Yard) (token : Token) (tokens : List Token) :
    yard.run (token :: tokens) =
      yard.step token >>= fun next => next.run tokens :=
  rfl

/-- Nothing that waits is lost by a release: it is emitted or goes on waiting. -/
theorem release_split (releases : Waiting → Bool) (yard : Yard) :
    yard.waiting.takeWhile releases ++ (yard.release releases).waiting =
      yard.waiting :=
  List.takeWhile_append_dropWhile

end Yard

end Keypad
