import Mathlib
import Descent.Proofs.Lookahead

/-! What is on record, as a sum over all that went wrong.

The machine keeps one failure only. It is the latest of the setbacks, which is also the furthest,
with all that was expected at its place.
-/

set_option autoImplicit false

namespace Descent

/-- The failure is the latest setback, no other is further on, and it has what was expected by all
that are as far. -/
structure Failure.Sums (failure : Failure) (setbacks : List Setback) : Prop where
  latest : ∃ last, setbacks.head? = some last ∧ failure.position = last.cursor ∧
    failure.symbols = last.symbols
  furthest : ∀ setback ∈ setbacks, setback.cursor ≤ failure.position
  expected : ∀ expectation, expectation ∈ failure.expected ↔
    ∃ setback ∈ setbacks, setback.cursor = failure.position ∧ expectation ∈ setback.expected

theorem Failure.Sums.texts {failure : Failure} {setbacks : List Setback}
    (sums : failure.Sums setbacks) (text : String) : text ∈ failure.expectedTexts ↔
      ∃ setback ∈ setbacks, setback.cursor = failure.position ∧
        ∃ expectation ∈ setback.expected, expectation.display = text := by
  rw [mem_expectedTexts]
  constructor
  · rintro ⟨expectation, member, display⟩
    obtain ⟨setback, among, here, wanted⟩ := (sums.expected expectation).mp member
    exact ⟨setback, among, here, expectation, wanted, display⟩
  · rintro ⟨setback, among, here, expectation, wanted, display⟩
    exact ⟨expectation, (sums.expected expectation).mpr ⟨setback, among, here, wanted⟩, display⟩

namespace Machine

/-- What is on record for the setbacks, and that the cursor has not gone back since. -/
structure Recorded (setbacks : List Setback) (state : State) : Prop where
  behind : state.Behind
  nothing : state.failure = none ↔ setbacks = []
  sums : ∀ failure, state.failure = some failure → failure.Sums setbacks

section Recorded

variable {machine : Machine} {state : State} {earlier : List Setback} {failure : Failure}
  {cursor : Nat} {symbols : List String} {expected : List Expectation} {before after : Ledger}

/-- A setback that is further on than all before makes them forgotten. -/
theorem sums_further (behind : ∀ other ∈ earlier, other.cursor < cursor) :
    Failure.Sums ⟨cursor, symbols, expected.eraseDups⟩ (⟨cursor, symbols, expected⟩ :: earlier) where
  latest := ⟨_, rfl, rfl, rfl⟩
  furthest := List.forall_mem_cons.mpr ⟨Nat.le_refl _, fun other member => (behind other member).le⟩
  expected expectation := by
    rw [List.mem_eraseDups]
    constructor
    · exact fun member => ⟨_, List.mem_cons_self, rfl, member⟩
    · rintro ⟨other, among, here, member⟩
      rcases List.mem_cons.mp among with rfl | among
      · exact member
      · exact absurd here (behind other among).ne

theorem sums_joined (sums : failure.Sums earlier) (here : failure.position = cursor) :
    Failure.Sums { failure with
      symbols := symbols
      expected := failure.expected ++ expected.eraseDups.filter (· ∉ failure.expected) }
      (⟨cursor, symbols, expected⟩ :: earlier) where
  latest := ⟨_, rfl, here, rfl⟩
  furthest := List.forall_mem_cons.mpr ⟨here.ge, sums.furthest⟩
  expected expectation := by
    have joined : expectation ∈ failure.expected ++
        expected.eraseDups.filter (· ∉ failure.expected) ↔
          expectation ∈ failure.expected ∨ expectation ∈ expected := by
      by_cases held : expectation ∈ failure.expected <;> simp [held]
    rw [joined, sums.expected]
    constructor
    · rintro (⟨other, among, far, member⟩ | member)
      · exact ⟨other, List.mem_cons_of_mem _ among, far, member⟩
      · exact ⟨_, List.mem_cons_self, here.symm, member⟩
    · rintro ⟨other, among, far, member⟩
      rcases List.mem_cons.mp among with rfl | among
      · exact .inr member
      · exact .inl ⟨other, among, far, member⟩

/-- A failure at the cursor is recorded, for it is as far as any before. -/
theorem Recorded.fail (recorded : Recorded earlier state) (symbols : List String)
    (expected : List Expectation) :
    Recorded (⟨state.cursor, symbols, expected⟩ :: earlier) (state.fail symbols expected) := by
  obtain ⟨behind, nothing, sums⟩ := recorded
  obtain ⟨failure, same, position, _⟩ := behind.fail symbols expected
  have found : (state.fail symbols expected).failure = some failure := by rw [same]
  refine ⟨?_, by simp [found], ?_⟩
  · rw [same]
    rintro _ ⟨⟩
    exact position.le
  · rw [found]
    rintro _ ⟨⟩
    unfold State.fail at found
    dsimp only at found
    cases old : state.failure with
    | none =>
      obtain rfl := nothing.mp old
      rw [old] at found
      cases found
      exact sums_further nofun
    | some last =>
      have before := sums last old
      rw [old] at found
      dsimp only at found
      rcases Nat.lt_or_eq_of_le (behind last old) with further | here
      · rw [if_pos further] at found
        cases found
        exact sums_further fun other member => (before.furthest other member).trans_lt further
      · rw [if_neg (Nat.not_lt_of_le here.ge), if_pos here] at found
        cases found
        exact sums_joined before here

theorem Edit.recorded (edit : machine.Edit before after)
    (recorded : Recorded before.setbacks before.state) : Recorded after.setbacks after.state := by
  cases edit with
  | fail symbols expected => exact recorded.fail symbols expected
  | shift =>
    obtain ⟨behind, nothing, sums⟩ := recorded
    exact ⟨fun failure found => Nat.le_succ_of_le (behind failure found), nothing, sums⟩
  | _ => exact ⟨recorded.behind, recorded.nothing, recorded.sums⟩

theorem Change.recorded (change : machine.Change before after)
    (recorded : Recorded before.setbacks before.state) : Recorded after.setbacks after.state := by
  cases change with
  | edit edit => exact edit.recorded recorded
  | finish => exact ⟨recorded.behind, recorded.nothing, recorded.sums⟩

theorem recorded_nil (failure : state.failure = none) : Recorded [] state := by
  refine ⟨?_, by simp [failure], ?_⟩
  · intro recorded found
    cases failure.symm.trans found
  · intro recorded found
    cases failure.symm.trans found

/-- Every operation records its setbacks, and new tokens come with none. -/
theorem recorded_after (machine : Machine) (history : List Operation) :
    Recorded (machine.setbacks history) (machine.after history) := by
  obtain ⟨_, recorded⟩ := machine.history_keep (P := fun ledger =>
    Recorded ledger.setbacks ledger.state) (recorded_nil rfl) (fun _ => recorded_nil rfl)
    Change.recorded history
  exact recorded

theorem recorded_ending (machine : Machine) (unrecorded : state.failure = none) :
    Recorded (machine.loopSetbacks state) (machine.ending state).2 := by
  have recorded : Recorded (machine.loopSetbacks state ++ []) (machine.ending state).2 :=
    (machine.ending_changes ⟨state, [], [], false⟩).keep
      (P := fun ledger => Recorded ledger.setbacks ledger.state) Change.recorded
      (recorded_nil unrecorded)
  rwa [List.append_nil] at recorded

end Recorded

section Failure

variable {machine : Machine}

theorem derive_unknown {goal : String} (unknown : ¬machine.Knows goal) (tokens : List Token) :
    ∃ fault, (machine.derive goal tokens).result = .error fault := by
  rcases Nat.eq_zero_or_pos machine.maxDepth with full | room
  · obtain ⟨exceeded, broken⟩ : ∃ exceeded, (machine.derive goal tokens).result =
        .error (.depthExceeded exceeded) := derive_full full
    exact ⟨_, broken⟩
  · have filled : (entered (.initial tokens) goal .goal []).stack ≠ [] := nofun
    have installed : (entered (.initial tokens) goal .goal []).tokens = some tokens := rfl
    have stepped : Gives (machine.step (entered (.initial tokens) goal .goal [])) _ _ :=
      step_unknown rfl unknown
    obtain ⟨result, _⟩ := machine.run_ending installed
    rw [ending_fault filled stepped] at result
    rw [derive_room room]
    exact ⟨_, result⟩

theorem room_of_rejected {goal : String} {tokens : List Token}
    (rejected : (machine.derive goal tokens).result = .ok false) : 0 < machine.maxDepth := by
  by_contra full
  obtain ⟨exceeded, broken⟩ : ∃ exceeded, (machine.derive goal tokens).result =
    .error (.depthExceeded exceeded) := derive_full (Nat.eq_zero_of_not_pos full)
  cases broken.symm.trans rejected

/-- A goal that is not accepted leaves a failure on record, about the place where the run stopped. -/
theorem derive_rejected {goal : String} {tokens : List Token}
    (rejected : (machine.derive goal tokens).result = .ok false) :
    ∃ failure, (machine.derive goal tokens).after.failure = some failure ∧
      failure.position = (machine.derive goal tokens).after.cursor := by
  by_cases known : machine.Knows goal
  · cases derive_finished known (room_of_rejected rejected) tokens with
    | accepted result => cases result.symm.trans rejected
    | leftover _ _ _ recorded position => exact ⟨_, recorded, position⟩
    | stopped _ _ _ _ cursor recorded names => exact ⟨_, recorded, names.position.trans cursor.symm⟩
    | deep result => cases result.symm.trans rejected
  · obtain ⟨fault, broken⟩ := derive_unknown known tokens
    cases broken.symm.trans rejected

/-- Whatever was done to the machine since its tokens were installed, there is a failure on record
exactly if something went wrong. It is the latest setback, none is further on, and what it
expects is what was expected by all that are as far. A goal that is not accepted always has one,
about the place where the run stopped. -/
theorem failure_exact (machine : Machine) (history : List Operation) :
    ((machine.after history).failure = none ↔ machine.setbacks history = []) ∧
    (∀ failure, (machine.after history).failure = some failure →
      failure.Sums (machine.setbacks history) ∧
        ∀ text, text ∈ failure.expectedTexts ↔
          ∃ setback ∈ machine.setbacks history, setback.cursor = failure.position ∧
            ∃ expectation ∈ setback.expected, expectation.display = text) ∧
    ∀ goal tokens, 0 < machine.maxDepth →
      (machine.run (machine.after [.pushGoal goal, .install tokens])).result = .ok false →
        ∃ failure, (machine.after [.run, .pushGoal goal, .install tokens]).failure = some failure ∧
          failure.position = (machine.after [.run, .pushGoal goal, .install tokens]).cursor := by
  obtain ⟨_, nothing, sums⟩ := machine.recorded_after history
  refine ⟨nothing, fun failure found => ⟨sums failure found, (sums failure found).texts⟩, ?_⟩
  intro goal tokens room rejected
  have same : machine.derive goal tokens = machine.run (machine.after [.pushGoal goal, .install tokens]) :=
    derive_run room
  rw [← same] at rejected
  obtain ⟨failure, recorded, position⟩ := derive_rejected rejected
  rw [same] at recorded position
  exact ⟨failure, recorded, position⟩

/-- One open bracket is lost at the end, and so is a second goal there. -/
theorem failure_exact_open :
    let machine := Brackets.machine 3
    let history : List Operation :=
      [.run, .pushGoal "S", .install (Brackets.tokens ["a"])]
    let opening := Expectation.terminal (.lexeme "a")
    let closing := Expectation.terminal (.lexeme "b")
    machine.setbacks (.step :: .pushGoal "S" :: history) =
        [⟨1, ["S"], [opening]⟩, ⟨1, ["S"], [closing]⟩, ⟨1, ["S", "S"], [opening]⟩,
          ⟨1, ["S", "S"], [opening]⟩] ∧
      (machine.run (machine.after [.pushGoal "S", .install (Brackets.tokens ["a"])])).result =
        .ok false ∧
      (∃ failure, (machine.after history).failure = some failure ∧
        failure.position = (machine.after history).cursor) ∧
      ∃ failure, (machine.after (.step :: .pushGoal "S" :: history)).failure = some failure ∧
        failure.Sums (machine.setbacks (.step :: .pushGoal "S" :: history)) := by
  intro machine history opening closing
  have rejected : (machine.run (machine.after
      [.pushGoal "S", .install (Brackets.tokens ["a"])])).result = .ok false := by cbv
  have held := failure_exact machine (.step :: .pushGoal "S" :: history)
  refine ⟨by cbv, rejected, held.2.2 "S" _ (by decide) rejected, ?_⟩
  exact ⟨⟨1, ["S"], [opening, closing]⟩, by cbv, (held.2.1 _ (by cbv)).1⟩

end Failure

end Machine

end Descent
