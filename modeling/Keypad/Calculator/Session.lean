import Keypad.Calculator.Basic

/-!
Sessions: calculators under lists of operations.

Owns:
- the operations of a session, and what each of them does and answers;
- runs over lists of operations, which go on after a failed one;
- the states that a new calculator can reach.
-/

namespace Keypad

inductive Operation where
  | submit (text : Text)
  | backspace
  | clear
  | finalize
  | parentheses
  | preview
  | display
  | press (key : Text)
  | poll
  | flush
  | cancel
  | setClock (reading : Binary64)
  | setEntry (entry : Text)
  | setPrecision (precision : Int)
deriving DecidableEq

/-- What an operation answers: nothing, displays, or whether a preview ran. -/
inductive Answer where
  | none
  | display (display : Display)
  | displays (displays : List Display)
  | ran (whether : Bool)
deriving DecidableEq, Repr

namespace Effect

def map {First Second : Type} (f : First → Second) (effect : Effect First) :
    Effect Second where
  calculator := effect.calculator
  notices := effect.notices
  outcome := effect.outcome.map f

end Effect

namespace Calculator

/-- The effect of a change that answers nothing and notes nothing. -/
def quietly (calculator : Calculator) : Effect Answer where
  calculator := calculator
  notices := []
  outcome := .ok .none

def perform (calculator : Calculator) : Operation → Effect Answer
  | .submit text => (calculator.submit text).map .display
  | .backspace => calculator.backspace.map .display
  | .clear => calculator.clear.map .display
  | .finalize => calculator.finalize.map .display
  | .parentheses => calculator.parentheses.map .display
  | .preview => calculator.preview.map .display
  | .display => (calculator.reached []).map .display
  | .press key => (calculator.press key).map .displays
  | .poll => calculator.poll.map .ran
  | .flush => calculator.flush.map .ran
  | .cancel => calculator.withoutPending.quietly
  | .setClock reading => (calculator.withClock reading).quietly
  | .setEntry entry => (calculator.withEntry entry).quietly
  | .setPrecision precision => { calculator with precision := precision }.quietly

def after (calculator : Calculator) (operation : Operation) : Calculator :=
  (calculator.perform operation).calculator

def afterAll (calculator : Calculator) (operations : List Operation) :
    Calculator :=
  operations.foldl after calculator

def run (calculator : Calculator) : List Operation → List (Effect Answer)
  | [] => []
  | operation :: later =>
      let effect := calculator.perform operation
      effect :: run effect.calculator later

/-- A state that a calculator reaches by operations of a given class. -/
inductive Reaches (allowed : Operation → Prop) (start : Calculator) :
    Calculator → Prop where
  | refl : Reaches allowed start start
  | step {between : Calculator} {operation : Operation}
      (reached : Reaches allowed start between)
      (isAllowed : allowed operation) :
      Reaches allowed start (between.after operation)

/-! ## Laws -/

theorem afterAll_append (calculator : Calculator)
    (front back : List Operation) :
    calculator.afterAll (front ++ back) =
      (calculator.afterAll front).afterAll back := by
  simp [afterAll]

/-- Allowed operations lead from reachable states to reachable states. -/
theorem Reaches.afterAll
    {allowed : Operation → Prop}
    {start between : Calculator}
    (reached : Reaches allowed start between)
    (operations : List Operation)
    (allAllowed : ∀ operation ∈ operations, allowed operation) :
    Reaches allowed start (between.afterAll operations) := by
  induction operations generalizing between with
  | nil => exact reached
  | cons operation later inductionHypothesis =>
      exact inductionHypothesis
        (.step reached (allAllowed operation (by simp)))
        fun member inLater => allAllowed member (by simp [inLater])

/-- The states that can be reached are those after lists of allowed
operations. -/
theorem reaches_iff {allowed : Operation → Prop} {start final : Calculator} :
    Reaches allowed start final ↔
      ∃ operations : List Operation,
        (∀ operation ∈ operations, allowed operation) ∧
          start.afterAll operations = final := by
  constructor
  · intro reached
    induction reached with
    | refl => exact ⟨[], by simp, rfl⟩
    | @step between operation _ isAllowed inductionHypothesis =>
        obtain ⟨operations, allAllowed, rfl⟩ := inductionHypothesis
        refine ⟨operations ++ [operation], ?_, by simp [afterAll]⟩
        intro member inList
        rcases List.mem_append.mp inList with early | last
        · exact allAllowed member early
        · simpa [List.mem_singleton.mp last] using isAllowed
  · rintro ⟨operations, allAllowed, rfl⟩
    exact Reaches.refl.afterAll operations allAllowed

end Calculator

end Keypad
