import Keypad.Decimal.Numeral
import Keypad.Proofs.Postorder.Conservation

/-!
Where the tokens of a reordered list come from.

Each token in a yard has a place in the list that is read.  Operators wait and
numbers do not: whatever is emitted when a number is read has an earlier place, so
that a number stays behind everything that stood before it and was emitted.

Owns:
- a yard whose tokens know their places;
- that it goes through the same states as the yard without places;
- the order of the places in what is emitted.

Main statement: `reorder_places`.

Does not own: which operators an operator makes leave.
-/

namespace Keypad

/-- A yard whose tokens and groups know their places in the list. -/
structure Ledger where
  emitted : List (Token × ℕ)
  waiting : List (Waiting × ℕ)

namespace Ledger

def yard (ledger : Ledger) : Yard :=
  ⟨ledger.emitted.map Prod.fst, ledger.waiting.map Prod.fst⟩

def placedToken (item : Waiting × ℕ) : Token × ℕ :=
  (item.1.token, item.2)

def held (ledger : Ledger) : List (Token × ℕ) :=
  ledger.emitted ++
    (ledger.waiting.filter fun item => item.1.isOperator).map placedToken

def Ordered (ledger : Ledger) : Prop :=
  ledger.emitted.Pairwise fun later earlier =>
    later.1.isNumber = true → earlier.2 < later.2

def release (releases : Waiting → Bool) (ledger : Ledger) : Ledger where
  emitted :=
    ((ledger.waiting.takeWhile fun item => releases item.1).map placedToken).reverse ++
      ledger.emitted
  waiting := ledger.waiting.dropWhile fun item => releases item.1

private theorem yard_release (releases : Waiting → Bool) (ledger : Ledger) :
    (ledger.release releases).yard = ledger.yard.release releases := by
  simp [yard, release, Yard.release, List.takeWhile_map, List.dropWhile_map,
    Function.comp_def, placedToken]

/-! ## One token -/

section Release

variable {releases : Waiting → Bool}

private theorem held_release
    (operatorsOnly : ∀ item, releases item = true → item.isOperator = true)
    (ledger : Ledger) :
    (ledger.release releases).held.Perm ledger.held := by
  have kept :
      (ledger.waiting.takeWhile fun item => releases item.1).filter
          (fun item => item.1.isOperator) =
        ledger.waiting.takeWhile fun item => releases item.1 := by
    rw [List.filter_eq_self]
    intro item member
    exact operatorsOnly item.1 (List.all_eq_true.mp List.all_takeWhile item member)
  have split := congrArg (List.filter fun item => item.1.isOperator)
    (List.takeWhile_append_dropWhile
      (p := fun item : Waiting × ℕ => releases item.1) (l := ledger.waiting))
  rw [List.filter_append, kept] at split
  rw [held, held, ← split, List.map_append, ← List.append_assoc]
  apply List.Perm.append_right
  exact List.perm_append_comm.trans (List.Perm.append_left _ (List.reverse_perm _))

/-- Operators may be emitted at any time. -/
theorem Ordered.release
    {ledger : Ledger}
    (ordered : ledger.Ordered)
    (operatorsOnly : ∀ item, releases item = true → item.isOperator = true) :
    (ledger.release releases).Ordered := by
  have noNumber : ∀ each ∈
      ((ledger.waiting.takeWhile fun item => releases item.1).map placedToken).reverse,
      each.1.isNumber = false := by
    intro each member
    obtain ⟨item, taken, rfl⟩ := List.mem_map.mp (List.mem_reverse.mp member)
    have isOperator := operatorsOnly item.1
      (List.all_eq_true.mp List.all_takeWhile item taken)
    obtain ⟨waiting, place⟩ := item
    cases waiting with
    | operator op => rfl
    | group => contradiction
  refine List.pairwise_append.mpr ⟨?_, ordered, ?_⟩
  · apply List.pairwise_of_forall_mem_list
    intro later member earlier _ isNumber
    rw [noNumber later member] at isNumber
    contradiction
  · intro later member earlier _ isNumber
    rw [noNumber later member] at isNumber
    contradiction

end Release

/-- A step of the yard, with the place of the token that is read: nothing is lost, no
place is changed, and the order is kept. -/
theorem step_places
    {ledger : Ledger}
    {next : Yard}
    {token : Token}
    {place : ℕ}
    (stepped : ledger.yard.step token = .ok next)
    (ordered : ledger.Ordered)
    (earlier : ∀ each ∈ ledger.held, each.2 < place) :
    ∃ after : Ledger, after.yard = next ∧ after.Ordered ∧
      after.held.Perm
        ([(token, place)].filter (fun each => !each.1.isParenthesis) ++ ledger.held) := by
  rcases Yard.step_eq_ok stepped with number | operator | opening | closing
  · obtain ⟨value, rfl, rfl⟩ := number
    refine ⟨⟨(.number value, place) :: ledger.emitted, ledger.waiting⟩, rfl, ?_, .refl _⟩
    refine List.pairwise_cons.mpr ⟨fun each member _ => ?_, ordered⟩
    exact earlier each (List.mem_append_left _ member)
  · obtain ⟨op, rfl, rfl⟩ := operator
    have operatorsOnly := Yard.yieldsTo_operator op
    let released := ledger.release (Waiting.yieldsTo op)
    refine ⟨⟨released.emitted, (.operator op, place) :: released.waiting⟩, ?_,
      ordered.release operatorsOnly, ?_⟩
    · rw [← yard_release]
      rfl
    · exact List.perm_middle.trans
        ((held_release operatorsOnly ledger).cons (Token.operator op, place))
  · obtain ⟨rfl, rfl⟩ := opening
    exact ⟨⟨ledger.emitted, (.group, place) :: ledger.waiting⟩, rfl, ordered, .refl _⟩
  · obtain ⟨closes, outer, waiting, rfl⟩ := closing
    have operatorsOnly : ∀ item : Waiting, item.isOperator = true → item.isOperator = true :=
      fun _ isOperator => isOperator
    have isParenthesis : token.isParenthesis = true := by
      simp only [Nesting.closes, Bool.and_eq_true] at closes
      exact closes.1
    let released := ledger.release Waiting.isOperator
    rw [← yard_release] at waiting ⊢
    obtain ⟨⟨_, opened⟩, rest, isWaiting, rfl, rfl⟩ := List.map_eq_cons_iff.mp waiting
    refine ⟨⟨released.emitted, rest⟩, rfl, ordered.release operatorsOnly, ?_⟩
    have kept := held_release operatorsOnly ledger
    rw [held, isWaiting] at kept
    rw [List.filter_cons_of_neg (by simp [isParenthesis]), List.filter_nil,
      List.nil_append]
    exact kept

/-! ## Lists of tokens -/

private theorem run_places
    {ledger : Ledger}
    {next : Yard}
    {tokens : List Token}
    (place : ℕ)
    (ran : ledger.yard.run tokens = .ok next)
    (ordered : ledger.Ordered)
    (earlier : ∀ each ∈ ledger.held, each.2 < place) :
    ∃ after : Ledger, after.yard = next ∧ after.Ordered ∧
      after.held.Perm
        ((tokens.zipIdx place).filter (fun each => !each.1.isParenthesis) ++
          ledger.held) := by
  induction tokens generalizing ledger place with
  | nil =>
      cases ran
      exact ⟨ledger, rfl, ordered, .refl _⟩
  | cons token later inductionHypothesis =>
      rw [Yard.run_cons] at ran
      obtain ⟨between, stepped, ranLater⟩ := ok_of_bind ran
      obtain ⟨middle, rfl, middleOrdered, first⟩ := step_places stepped ordered earlier
      have middleEarlier : ∀ each ∈ middle.held, each.2 < place + 1 := by
        intro each member
        rcases List.mem_append.mp (first.mem_iff.mp member) with read | before
        · rw [List.mem_singleton.mp (List.mem_filter.mp read).1]
          exact Nat.lt_succ_self place
        · exact Nat.lt_succ_of_lt (earlier each before)
      obtain ⟨after, isNext, afterOrdered, rest⟩ :=
        inductionHypothesis (place + 1) ranLater middleOrdered middleEarlier
      refine ⟨after, isNext, afterOrdered, ?_⟩
      rw [List.zipIdx_cons, ← List.singleton_append, List.filter_append,
        List.append_assoc]
      apply rest.trans
      apply (List.Perm.append_left _ first).trans
      rw [← List.append_assoc, ← List.append_assoc]
      exact List.Perm.append_right _ List.perm_append_comm

end Ledger

/-- Numbers that are ordered by their places are those of the list, in its order. -/
private theorem numbers_of_places
    {tokens : List Token}
    {placed : List (Token × ℕ)}
    (kept : placed.Perm (tokens.zipIdx.filter fun each => !each.1.isParenthesis))
    (ordered : placed.Pairwise fun first second =>
      second.1.isNumber = true → first.2 < second.2) :
    (placed.map Prod.fst).filter Token.isNumber = tokens.filter Token.isNumber := by
  have sorted : (placed.filter (Token.isNumber ∘ Prod.fst)).Pairwise
      fun first second => first.2 < second.2 := by
    apply (ordered.filter _).imp_of_mem
    intro first second _ member before
    exact before (List.mem_filter.mp member).2
  have sortedTokens : (tokens.zipIdx.filter (Token.isNumber ∘ Prod.fst)).Pairwise
      fun first second => first.2 < second.2 := by
    apply List.Pairwise.filter
    rw [← List.pairwise_map (f := Prod.snd), List.zipIdx_map_snd]
    exact List.pairwise_lt_range' 1
  have noParenthesis (each : Token × ℕ) :
      (Token.isNumber each.1 && !each.1.isParenthesis) = Token.isNumber each.1 := by
    cases each.1 <;> rfl
  have numbers := kept.filter (Token.isNumber ∘ Prod.fst)
  simp only [List.filter_filter, Function.comp_apply, noParenthesis] at numbers
  have same := List.Perm.eq_of_pairwise
    (fun first second _ _ before after => absurd before (Nat.lt_asymm after))
    sorted sortedTokens numbers
  rw [List.filter_map, same, ← List.filter_map, List.zipIdx_map_fst]

namespace Yard

/-- A reordered list holds what the list holds but for the parentheses.  The numbers
keep their order, and whatever stands before a number stood before it in the list: no
operator overtakes a number. -/
theorem reorder_places
    {tokens output : List Token}
    (reordered : reorder tokens = .ok output) :
    output.Perm (tokens.filter fun each => !each.isParenthesis) ∧
      output.filter Token.isNumber = tokens.filter Token.isNumber ∧
      ∃ placed : List (Token × ℕ),
        placed.map Prod.fst = output ∧
          placed.Perm (tokens.zipIdx.filter fun each => !each.1.isParenthesis) ∧
          placed.Pairwise fun first second =>
            second.1.isNumber = true → first.2 < second.2 := by
  obtain ⟨yard, ran, finished⟩ := ok_of_bind reordered
  have fromNothing : (Ledger.mk [] []).yard.run tokens = .ok yard := ran
  obtain ⟨ledger, rfl, ordered, kept⟩ :=
    Ledger.run_places 0 fromNothing .nil (by simp [Ledger.held])
  have operatorsOnly : ∀ item : Waiting, item.isOperator = true → item.isOperator = true :=
    fun _ isOperator => isOperator
  have released := release_of_finish finished
  rw [← Ledger.yard_release] at released
  obtain ⟨emitted, nothing⟩ := Yard.mk.inj released
  have all := Ledger.held_release operatorsOnly ledger
  have allOrdered := ordered.release operatorsOnly
  generalize ledger.release Waiting.isOperator = last at *
  have isOutput : last.emitted.reverse.map Prod.fst = output := by
    rw [List.map_reverse, emitted, List.reverse_reverse]
  have places :
      last.emitted.reverse.Perm
        (tokens.zipIdx.filter fun each => !each.1.isParenthesis) := by
    rw [Ledger.held, List.map_eq_nil_iff.mp nothing] at all
    apply (List.reverse_perm _).trans
    simpa [Ledger.held] using all.trans kept
  have inOrder := List.pairwise_reverse.mpr allOrdered
  refine ⟨reorder_perm reordered, ?_, last.emitted.reverse, isOutput, places, inOrder⟩
  rw [← isOutput]
  exact numbers_of_places places inOrder

/-- Two equal operators and a group: the addition in the group is emitted first, and
each keeps its distance to the numbers before it. -/
theorem reorder_places_sums :
    let one : Binary64 := Numeral.number ⟨false, ['1'], none⟩
    let tokens : List Token :=
      [.number .zero, .operator .add, .opening, .number one, .operator .add,
        .number .zero, .closing]
    let output : List Token :=
      [.number .zero, .number one, .number .zero, .operator .add, .operator .add]
    reorder tokens = .ok output ∧
      output.filter Token.isNumber = [.number .zero, .number one, .number .zero] ∧
      ∃ placed : List (Token × ℕ),
        placed.map Prod.fst = output ∧
          placed.Perm (tokens.zipIdx.filter fun each => !each.1.isParenthesis) ∧
          placed.Pairwise fun first second =>
            second.1.isNumber = true → first.2 < second.2 := by
  intro one tokens output
  have reordered : reorder tokens = .ok output := rfl
  obtain ⟨_, numbers, placed⟩ := reorder_places reordered
  exact ⟨reordered, numbers, placed⟩

end Yard

end Keypad
