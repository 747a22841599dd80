import Keypad.Computation
import Keypad.Proofs.Lexeme.Scan
import Keypad.Proofs.Tree.Outcome

/-!
Computing a tree that was written down.

However a tree is written, the scan finds the lexemes that it was written with,
the yard puts them into the tree's post-order, and the machine evaluates that as
the tree is evaluated.

Owns: one law for each of the three stages, over every way to write a tree.

Main statement: `compute_of_renders`.
-/

namespace Keypad

namespace Renders

/-- What is written starts where a sign may stand and ends in an operand, so it
is admissible before anything that may follow an operand. -/
theorem admissibleAfter
    {tree : Tree Numeral}
    {tightness : Nat}
    {lexemes later : List Lexeme}
    {previous : Option Lexeme}
    (renders : Renders tree tightness lexemes)
    (signed : Lexeme.signMayFollow previous = true)
    (laterAdmissible :
      ∀ last, Lexeme.allowsSign last = false →
        Lexeme.AdmissibleAfter (some last) later) :
    Lexeme.AdmissibleAfter previous (lexemes ++ later) := by
  induction renders generalizing previous later with
  | @leaf numeral wellFormed =>
      refine ⟨⟨wellFormed, fun _ => signed, ?_⟩, laterAdmissible _ rfl⟩
      unfold Lexeme.splitsAfter
      split
      · simp [Lexeme.allowsSign] at signed
      · trivial
  | group _ inductionHypothesis =>
      rw [List.append_assoc]
      refine ⟨trivial, inductionHypothesis rfl ?_⟩
      intro last _
      exact ⟨trivial, laterAdmissible .closing rfl⟩
  | node _ _ _ _ leftHypothesis rightHypothesis =>
      rw [List.append_assoc]
      apply leftHypothesis signed
      intro last endsOperand
      refine ⟨fun _ => ?_, rightHypothesis rfl laterAdmissible⟩
      simp [endsOperand]

theorem admissible
    {tree : Tree Numeral}
    {tightness : Nat}
    {lexemes : List Lexeme}
    (renders : Renders tree tightness lexemes) :
    Lexeme.Admissible lexemes := by
  rw [← List.append_nil lexemes]
  exact renders.admissibleAfter rfl fun _ _ => trivial

end Renders

namespace Yard

private theorem release_append
    (releases : Waiting → Bool)
    (emitted : List Token)
    (pending : List Operator)
    {waiting : List Waiting}
    (leave : ∀ op ∈ pending, releases (.operator op) = true)
    (stays : ∀ item, waiting.head? = some item → releases item = false) :
    release releases ⟨emitted, pending.map .operator ++ waiting⟩ =
      ⟨(pending.map Token.operator).reverse ++ emitted, waiting⟩ := by
  have allLeave :
      ∀ item ∈ pending.map Waiting.operator, releases item = true := by
    intro item member
    obtain ⟨op, isPending, rfl⟩ := List.mem_map.mp member
    exact leave op isPending
  have stop : waiting.takeWhile releases = [] ∧
      waiting.dropWhile releases = waiting := by
    cases waiting with
    | nil => simp
    | cons item below => simp [stays item rfl]
  unfold release
  rw [List.takeWhile_append_of_pos allLeave,
    List.dropWhile_append_of_pos allLeave, stop.1, stop.2, List.append_nil,
    List.map_map]
  rfl

/-- An operator on top of what waits binds weaker than the given tightness, so
it leaves alone what holds together as tight. -/
def TopBelow (tightness : Nat) (waiting : List Waiting) : Prop :=
  ∀ op, waiting.head? = some (.operator op) → op.precedence < tightness

private theorem TopBelow.stays
    {op : Operator}
    {tightness : Nat}
    {waiting : List Waiting}
    (below : TopBelow tightness waiting)
    (loose : tightness ≤ op.precedence) :
    ∀ item, waiting.head? = some item → item.yieldsTo op = false := by
  intro item head
  cases item with
  | group => rfl
  | operator top =>
      have weaker := below top head
      rw [Waiting.yieldsTo, ← Bool.not_eq_true, Operator.bindsBefore_iff]
      omega

/-- After the lexemes of a tree, operators of the tree may go on waiting, all of
them at least as tight as the whole; once they are emitted, the tree's
post-order has been emitted. -/
theorem run_of_renders
    {tree : Tree Numeral}
    {tightness : Nat}
    {lexemes : List Lexeme}
    {waiting : List Waiting}
    (renders : Renders tree tightness lexemes)
    (below : TopBelow tightness waiting)
    (emitted : List Token) :
    ∃ (pending : List Operator) (next : List Token),
      run ⟨emitted, waiting⟩ (lexemes.map Lexeme.token) =
          .ok ⟨next, pending.map .operator ++ waiting⟩ ∧
        (∀ op ∈ pending, tightness ≤ op.precedence) ∧
        (pending.map Token.operator).reverse ++ next =
          (tree.map Numeral.number).postorder.reverse ++ emitted := by
  induction renders generalizing waiting emitted with
  | @leaf numeral _ =>
      exact ⟨[], .number numeral.number :: emitted, rfl, by simp, rfl⟩
  | @group tree tightness lexemes _ inductionHypothesis =>
      have groupBelow : TopBelow tightness (.group :: waiting) := by
        intro op head
        simp at head
      obtain ⟨pending, next, ran, _, order⟩ :=
        inductionHypothesis groupBelow emitted
      have groupStays :
          ∀ item, (Waiting.group :: waiting).head? = some item →
            item.isOperator = false := by
        intro item head
        rw [← Option.some.inj head]
        rfl
      have released := release_append Waiting.isOperator next pending
        (fun _ _ => rfl) groupStays
      refine ⟨[], (pending.map Token.operator).reverse ++ next, ?_, by simp, order⟩
      rw [List.map_append, List.map_cons, List.cons_append, run_cons]
      show run ⟨emitted, .group :: waiting⟩ (lexemes.map Lexeme.token ++ _) = _
      rw [run_append, ran]
      show (close _ >>= fun closed => closed.run []) = _
      rw [close, released]
      rfl
  | @node op left right leftTightness rightTightness leftLexemes rightLexemes _
      leftHolds _ rightHolds leftHypothesis rightHypothesis =>
      have leftBelow : TopBelow leftTightness waiting :=
        fun top head => Nat.lt_of_lt_of_le (below top head) leftHolds
      obtain ⟨leftPending, leftNext, leftRan, leftTight, leftOrder⟩ :=
        leftHypothesis leftBelow emitted
      have released := release_append (Waiting.yieldsTo op) leftNext leftPending
        (fun item member => (Operator.bindsBefore_iff item op).mpr
          (Nat.le_trans leftHolds (leftTight item member)))
        (below.stays (Nat.le_refl op.precedence))
      have opBelow : TopBelow rightTightness (.operator op :: waiting) := by
        intro top head
        have same : op = top := by simpa using head
        rw [← same]
        exact rightHolds
      obtain ⟨rightPending, rightNext, rightRan, rightTight, rightOrder⟩ :=
        rightHypothesis opBelow
          ((leftPending.map Token.operator).reverse ++ leftNext)
      refine ⟨rightPending ++ [op], rightNext, ?_, ?_, ?_⟩
      · rw [List.map_append, run_append, leftRan]
        show (run _ (.operator op :: rightLexemes.map Lexeme.token)) = _
        rw [run_cons, step, released]
        show run ⟨_, .operator op :: waiting⟩ _ = _
        rw [rightRan, List.map_append, List.append_assoc]
        rfl
      · intro item member
        rcases List.mem_append.mp member with inRight | isOp
        · have tight := rightTight item inRight
          omega
        · have same := List.mem_singleton.mp isOp
          exact Nat.le_of_eq (by rw [same])
      · rw [List.map_append, List.reverse_append, List.append_assoc, rightOrder,
          leftOrder]
        simp [Tree.map, Tree.postorder]

theorem reorder_of_renders
    {tree : Tree Numeral}
    {tightness : Nat}
    {lexemes : List Lexeme}
    (renders : Renders tree tightness lexemes) :
    reorder (lexemes.map Lexeme.token) =
      .ok (tree.map Numeral.number).postorder := by
  have nothingBelow : TopBelow tightness [] := by
    intro op head
    simp at head
  obtain ⟨pending, next, ran, _, order⟩ := run_of_renders renders nothingBelow []
  have nothingStays :
      ∀ item, ([] : List Waiting).head? = some item → true = false := by
    simp
  have released := release_append (fun _ => true) next pending
    (fun _ _ => rfl) nothingStays
  rw [reorder, empty, ran]
  show finish _ = _
  rw [finish, if_neg (by simp), released, order]
  simp

end Yard

/-- A text that spells a rendering of a tree computes to the tree's result. -/
theorem compute_of_renders
    {tree : Tree Numeral}
    {tightness : Nat}
    {lexemes : List Lexeme}
    {source : Text}
    (renders : Renders tree tightness lexemes)
    (spells : Lexeme.Spells source lexemes) :
    compute source =
      if (tree.map Numeral.number).dividesByZero then .error .divisionByZero
      else if (tree.map Numeral.number).plainValue.isFinite then
        .ok (tree.map Numeral.number).plainValue.unsignZero
      else .error (.invalidResult (tree.map Numeral.number).plainValue) := by
  have scanned : Lexeme.ofText source = .ok lexemes :=
    Lexeme.ofText_eq_ok_iff.mpr ⟨spells, renders.admissible⟩
  have tokens : Token.ofText source = .ok (lexemes.map Lexeme.token) :=
    Token.ofText_eq_ok_iff.mpr ⟨lexemes, scanned, rfl⟩
  rw [compute, tokens]
  show (Yard.reorder _ >>= Machine.evaluate) = _
  rw [Yard.reorder_of_renders renders]
  show Machine.evaluate _ = _
  rw [Machine.evaluate_postorder, Tree.result_eq]

theorem compute_of_renders_nested :
    let one : Numeral := ⟨true, ['1'], none⟩
    let half : Numeral := ⟨false, [], some ['5']⟩
    let three : Numeral := ⟨false, ['3'], some []⟩
    let tree : Tree Numeral := .node .sub (.leaf one) (.node .mul (.leaf half) (.leaf three))
    let lexemes : List Lexeme :=
      [.numeral one, .operator .sub, .numeral half, .operator .mul, .opening,
        .numeral three, .closing]
    let source : Text := "−1 − .5×( 3.)".toList
    Renders tree Operator.sub.precedence lexemes ∧ Lexeme.Spells source lexemes ∧
      compute source = .ok (Numeral.number ⟨true, ['2'], some ['5']⟩) := by
  intro one half three tree lexemes source
  have oneWell : one.WellFormed :=
    ⟨List.all_eq_true.mp rfl, List.all_eq_true.mp rfl, by decide⟩
  have halfWell : half.WellFormed :=
    ⟨List.all_eq_true.mp rfl, List.all_eq_true.mp rfl, by decide⟩
  have threeWell : three.WellFormed :=
    ⟨List.all_eq_true.mp rfl, List.all_eq_true.mp rfl, by decide⟩
  have product :
      Renders (.node .mul (.leaf half) (.leaf three)) Operator.mul.precedence
        ([.numeral half] ++ .operator .mul :: (.opening :: [.numeral three] ++ [.closing])) :=
    .node (.leaf halfWell) (by decide) (.group (.leaf threeWell)) (by decide)
  have renders : Renders tree Operator.sub.precedence lexemes :=
    .node (.leaf oneWell) (by decide) product (by decide)
  have spells : Lexeme.Spells source lexemes := by decide
  have quiet : (tree.map Numeral.number).dividesByZero = false := by decide +kernel
  have finite : (tree.map Numeral.number).plainValue.isFinite = true := by
    decide +kernel
  have value : (tree.map Numeral.number).plainValue.unsignZero =
      Numeral.number ⟨true, ['2'], some ['5']⟩ := by
    decide +kernel
  refine ⟨renders, spells, ?_⟩
  rw [compute_of_renders renders spells, quiet, if_neg Bool.false_ne_true,
    if_pos finite, value]

end Keypad
