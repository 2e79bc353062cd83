import Descent.Proofs.Recursion.Slots

/-! The loop of a run meets the recursion at every nonterminal.

A frame goes through the elements of its production, and through its productions, as the
recursion does. The induction is on the room that is left on the stack.
-/

set_option autoImplicit false

namespace Descent

namespace Machine

section Frames

variable {machine : Machine} {tokens : List Token} {goal : String} {state : State}
  {base frame : Frame} {below : List Frame}

theorem sequence_meets {index : Nat} {production : Production} {rest : List Element}
    (cursor : Spot tokens)
    (standing : machine.Standing tokens goal state) (here : state.cursor = cursor)
    (stack : state.stack = frame :: below) (alike : Alike base frame)
    (chosen : frame.production = some index)
    (selected : machine.current? frame = some production)
    (left : production.drop frame.element = rest) (unjudged : frame.progressed = none)
    (supports : machine.Supports tokens goal base below) :
    machine.Meets tokens goal state base.start
      (fun trees after => machine.Complete base below (frame.children ++ trees) after)
      (fun after => ∃ failed, after.stack = failed :: below ∧ Alike base failed ∧
        failed.production = some index)
      (Recursion.sequence (machine.descend tokens (path (base :: below))) rest cursor) := by
  induction rest generalizing state frame cursor with
  | nil =>
    exact .derived standing rfl here rfl ⟨frame, production, stack, alike, selected,
      List.drop_eq_nil_iff.mp left, (List.append_nil _).symm⟩
  | cons element rest ih =>
    have found : production[frame.element]? = some element := by
      have first : (production.drop frame.element)[0]? = production[frame.element + 0]? :=
        List.getElem?_drop
      rw [left] at first
      exact first.symm
    have after_slot : production.drop (frame.element + 1) = rest := by
      rw [← List.tail_drop, left, List.tail_cons]
    have slot : machine.element? frame = some element :=
      Option.bind_eq_some_iff.mpr ⟨production, selected, found⟩
    have same : path (frame :: below) = path (base :: below) := by
      simp only [path, List.map_cons, alike.symbol]
    have first := slot_meets cursor standing here stack slot unjudged (supports.alike alike)
    have order : base.start ≤ cursor.val := by
      rw [← alike.start, ← here]
      exact (standing.top_poised stack).behind
    rw [same] at first
    refine (first.settle order ?_).follow ?_
    · intro after standing ending there result top
      -- Lost at an element: the frame can be retried only if it has consumed nothing.
      rcases Nat.lt_or_eq_of_le order with committed | unmoved
      · have gone := standing.backtrack_committed top (by rw [alike.start, there]; exact committed)
        exact .hopeless (ending.trans (afterwards_false gone)) there result committed
      · exact .lost standing ending there result unmoved.symm ⟨frame, top, alike, chosen⟩
    · intro trees stop after standing there shape
      have rest_meets := ih stop standing there shape
        ⟨alike.symbol, alike.marker, alike.start, alike.origin⟩ chosen selected after_slot rfl
      apply rest_meets.follow
      intro more last finished standing there complete
      rw [List.append_assoc] at complete
      exact .derived standing rfl there rfl complete

theorem choice_meets {index : Nat} {others : List Production} (cursor : Spot tokens)
    (standing : machine.Standing tokens goal state) (here : state.cursor = cursor)
    (stack : state.stack = frame.select index :: below) (alike : Alike base frame)
    (begun : base.start = cursor) (listed : index < (machine.table base.symbol).length)
    (left : (machine.table base.symbol).drop index = others)
    (supports : machine.Supports tokens goal base below) :
    machine.Meets tokens goal state cursor (machine.Complete base below)
      (machine.Exhausted base below)
      (Recursion.choice (machine.descend tokens (path (base :: below))) others cursor) := by
  induction others generalizing state frame index with
  | nil => exact absurd (List.drop_eq_nil_iff.mp left) (Nat.not_le_of_lt listed)
  | cons production others ih =>
    have next : (machine.table base.symbol).drop (index + 1) = others := by
      rw [← List.tail_drop, left, List.tail_cons]
    have selected : machine.current? (frame.select index) = some production := by
      show (machine.table frame.symbol)[index]? = some production
      have first : ((machine.table base.symbol).drop index)[0]? =
          (machine.table base.symbol)[index + 0]? := List.getElem?_drop
      rw [alike.symbol]
      rw [left] at first
      exact first.symm
    have first := sequence_meets cursor standing here stack (alike.trans (.select frame index)) rfl
      selected rfl rfl supports
    rw [begun] at first
    apply first.otherwise (Nat.le_refl _)
    intro after standing ending there result stuck
    -- The frame is on top again, with the production that was lost, and takes the next.
    obtain ⟨failed, top, same, chosen⟩ := stuck
    have still : failed.start = after.cursor := same.start.trans (begun.trans there.symm)
    have later : failed.nextProduction = index + 1 := by
      unfold Frame.nextProduction
      rw [chosen]
    by_cases more : index + 1 < (machine.table base.symbol).length
    · have listed : failed.nextProduction < (machine.table failed.symbol).length := by
        rw [later, same.symbol]
        exact more
      have retried := standing.backtrack_retry top still listed
      have turned := standing.turn (.select top still listed (.inr rfl))
      rw [later] at retried turned
      exact (ih turned there rfl same more next).before
        (ending.trans (afterwards_true retried)) result
    · have spent := Nat.le_of_not_lt more
      rw [List.drop_eq_nil_iff.mpr spent] at next
      rw [← next]
      exact .lost standing ending there result rfl ⟨failed, top, same, later ▸ spent⟩

theorem foremost_eq (unselected : base.production = none) (token : Option Token) :
    machine.foremost base.symbol token =
      (machine.predicted? (machine.table base.symbol) token base).getD 0 := by
  unfold foremost predicted?
  rw [unselected]
  cases token with
  | none => rfl
  | some token => rfl

/-- A frame that was just pushed selects the production that the recursion begins with,
by itself or after a backtrack. -/
theorem begin_meets (standing : machine.Standing tokens goal state)
    (stack : state.stack = base :: below) (unselected : base.production = none) :
    ∃ index after, machine.foremost base.symbol tokens[state.cursor]? = index ∧
      index < (machine.table base.symbol).length ∧ machine.Standing tokens goal after ∧
      machine.ending state = machine.ending after ∧ after.cursor = state.cursor ∧
      after.result = state.result ∧ after.stack = base.select index :: below := by
  have filled : state.stack ≠ [] := by
    rw [stack]
    nofun
  have still := (standing.top_poised stack).unmoved unselected
  rw [foremost_eq unselected]
  cases predicted : machine.predicted? (machine.table base.symbol) tokens[state.cursor]? base with
  | some index =>
    obtain ⟨_, listed⟩ := predicted?_eq_some predicted
    exact ⟨index, state.select base below index, rfl, listed,
      standing.turn (.select stack still listed (.inl predicted)),
      ending_congr filled nofun (standing.step_predicted stack predicted listed), rfl, rfl, rfl⟩
  | none =>
    -- The step fails, and the backtrack finds that no production has been tried.
    have first : base.nextProduction = 0 := by
      unfold Frame.nextProduction
      rw [unselected]
    have listed : base.nextProduction < (machine.table base.symbol).length := by
      rw [first]
      exact List.length_pos_iff.mpr (table_ne_nil (standing.top_upright stack).known)
    have failed := standing.step_unselected stack unselected predicted
    have turned := standing.turn (.fail stack (.unselected unselected predicted))
    obtain ⟨failure, recorded⟩ := fail_eq state state.symbols (machine.expectations base.symbol)
    rw [recorded] at failed turned
    have retried := turned.backtrack_retry stack still listed
    exact ⟨_, _, first.symm, listed, turned.turn (.select stack still listed (.inr rfl)),
      (ending_stuck failed).trans (afterwards_true retried), rfl, rfl, rfl⟩

end Frames

/-- Whatever lies below, a frame goes through what the recursion goes through. -/
theorem descends {machine : Machine} {tokens : List Token} {goal : String} (below : List Frame) :
    machine.Descends tokens goal below := by
  induction room : machine.maxDepth - below.length using Nat.strongRecOn generalizing below with
  | ind room ih =>
    intro state symbol origin cursor standing here stack
    have depth := standing.depth
    rw [stack, List.length_cons] at depth
    -- One more frame on the stack leaves less room above it.
    have supports : machine.Supports tokens goal (fresh symbol origin cursor below) below :=
      fun room parent _ => ih _ (by rw [List.length_cons]; omega) (parent :: below) rfl
    obtain ⟨index, after, foremost, listed, begun, ending, there, result, top⟩ :=
      begin_meets standing stack rfl
    have productions := choice_meets cursor begun (there.trans here) top (.refl _) rfl listed rfl
      supports
    have shallow : ¬ machine.maxDepth ≤ (path below).length := by
      unfold path
      rw [List.length_reverse, List.length_map]
      omega
    have deeper : path (fresh symbol origin cursor below :: below) = path below ++ [symbol] := by
      simp only [path, List.map_cons, List.reverse_cons, fresh]
    rw [deeper] at productions
    rw [here] at foremost
    rw [descend, if_neg shallow]
    refine Meets.before ending result (Meets.follow (foremost ▸ productions) ?_)
    intro children stop finished standing there complete
    exact .derived standing rfl there rfl ⟨children, by rw [there], complete⟩

end Machine

end Descent
