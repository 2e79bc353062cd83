import Mathlib
import Descent.Proofs.Goals
import Descent.Proofs.Setbacks

/-! Nothing goes back.

The cursor only goes forward until new tokens are installed, so that whatever was written down
with it is in order: where the frames of the stack begin, where productions were selected, and
where the failure is. This holds of all operations in any order, and of frames that no grammar
would call for. What they have in common is that each is made of a few edits of the state.
-/

set_option autoImplicit false

namespace Descent

namespace Machine

/-- What was written down with the cursor is in order, the latest first, and nothing is beyond the
cursor. The stack fits, and its frames have productions that there are. -/
structure Sorted (machine : Machine) (state : State) : Prop where
  fits : state.stack.length ≤ machine.maxDepth
  starts : (state.cursor :: state.stack.map Frame.start).Pairwise (· ≥ ·)
  choices : (state.cursor :: state.trace.map Choice.cursor).Pairwise (· ≥ ·)
  listed : ∀ frame ∈ state.stack, ∀ production, frame.production = some production →
    production < (machine.table frame.symbol).length
  unread : state.tokens = none → state.cursor = 0

/-- A state in order, with its cursor among the tokens and its failure not beyond the cursor. -/
structure Ordered (machine : Machine) (state : State) : Prop extends machine.Sorted state where
  inside : state.Inside
  behind : state.Behind

section Sorted

variable {machine : Machine} {state : State} {before after : Ledger} {frame : Frame}
  {below : List Frame} {cursor : Nat} {places : List Nat}

theorem pairwise_again (sorted : (cursor :: places).Pairwise (· ≥ ·)) :
    (cursor :: cursor :: places).Pairwise (· ≥ ·) :=
  List.pairwise_cons_cons_iff_of_trans.mpr ⟨Nat.le_refl _, sorted⟩

theorem pairwise_further {next : Nat} (le : cursor ≤ next)
    (sorted : (cursor :: places).Pairwise (· ≥ ·)) : (next :: places).Pairwise (· ≥ ·) := by
  obtain ⟨head, tail⟩ := List.pairwise_cons.mp sorted
  exact List.pairwise_cons.mpr ⟨fun place member => (head place member).trans le, tail⟩

theorem Sorted.drop (sorted : machine.Sorted state) (stack : state.stack = frame :: below)
    {markers : List Marker} {result : Option Tree} :
    machine.Sorted { state with stack := below, markers := markers, result := result } := by
  obtain ⟨fits, starts, choices, listed, unread⟩ := sorted
  rw [stack] at fits starts listed
  have shorter : List.Sublist (state.cursor :: below.map Frame.start)
      (state.cursor :: (frame :: below).map Frame.start) :=
    (List.sublist_cons_self _ _).cons_cons _
  exact ⟨Nat.le_of_succ_le fits, starts.sublist shorter, choices,
    (List.forall_mem_cons.mp listed).2, unread⟩

/-- Nothing that is written down at one edit comes before what was written down earlier. -/
theorem Edit.sorted (edit : machine.Edit before after) (sorted : machine.Sorted before.state) :
    machine.Sorted after.state := by
  obtain ⟨fits, starts, choices, listed, unread⟩ := id sorted
  cases edit with
  | fail symbols expected =>
    obtain ⟨failure, same⟩ := fail_eq before.state symbols expected
    rw [same]
    exact ⟨fits, starts, choices, listed, unread⟩
  | hold stack alike kept =>
    rw [stack] at fits starts listed
    obtain ⟨top, others⟩ := List.forall_mem_cons.mp listed
    refine ⟨fits, ?_, choices, List.forall_mem_cons.mpr ⟨?_, others⟩, unread⟩
    · rw [List.map_cons, alike.start]
      exact starts
    · rw [kept, alike.symbol]
      exact top
  | select stack chosen =>
    rw [stack] at fits starts listed
    obtain ⟨_, others⟩ := List.forall_mem_cons.mp listed
    refine ⟨fits, starts, pairwise_again choices, List.forall_mem_cons.mpr ⟨?_, others⟩, unread⟩
    rintro _ ⟨⟩
    exact chosen
  | shift stack installed there =>
    rw [stack] at fits starts listed
    obtain ⟨top, others⟩ := List.forall_mem_cons.mp listed
    exact ⟨fits, pairwise_further (Nat.le_succ _) starts, pairwise_further (Nat.le_succ _) choices,
      List.forall_mem_cons.mpr ⟨top, others⟩, fun none => nomatch none.symm.trans installed⟩
  | push origin free room =>
    refine ⟨room, pairwise_again starts, choices, List.forall_mem_cons.mpr ⟨?_, listed⟩, unread⟩
    rintro _ ⟨⟩
  | pop stack | drop stack | miss stack => exact sorted.drop stack

theorem Change.sorted (change : machine.Change before after)
    (sorted : machine.Sorted before.state) : machine.Sorted after.state := by
  cases change with
  | edit edit => exact edit.sorted sorted
  | finish alone => exact sorted.drop alone

theorem sorted_empty {state : State} (stack : state.stack = []) (trace : state.trace = [])
    (cursor : state.cursor = 0) : machine.Sorted state := by
  refine ⟨by simp [stack], ?_, ?_, by simp [stack], fun _ => cursor⟩
  · rw [stack]
    exact List.pairwise_singleton _ _
  · rw [trace]
    exact List.pairwise_singleton _ _

end Sorted

theorem sorted_after (machine : Machine) (history : List Operation) :
    machine.Sorted (machine.after history) := by
  obtain ⟨_, sorted⟩ := machine.history_keep (P := fun ledger => machine.Sorted ledger.state)
    (sorted_empty rfl rfl rfl) (fun _ => sorted_empty rfl rfl rfl) Change.sorted history
  exact sorted

/-- Whatever was done to the machine, the stack fits and begins in order up to the cursor, the trace
is in order up to the cursor, and neither the failure is beyond the cursor nor the cursor
beyond the tokens. Until new tokens are installed the cursor never goes back. -/
theorem history_ordered (machine : Machine) (history : List Operation) :
    machine.Ordered (machine.after history) ∧
      ∀ later, (∀ operation ∈ later, ∀ tokens, operation ≠ .install tokens) →
        (machine.after history).cursor ≤ (machine.after (later ++ history)).cursor := by
  refine ⟨⟨machine.sorted_after history, machine.inside_after history,
    (machine.recorded_after history).behind⟩, fun later resumes => ?_⟩
  induction later with
  | nil => exact Nat.le_refl _
  | cons operation later ih =>
    obtain ⟨next, others⟩ := List.forall_mem_cons.mp resumes
    exact (ih others).trans (machine.operate_changes ⟨_, [], [], false⟩ next).forward

/-- A bracket is opened, a frame that no rule calls for is pushed behind it, and a step of that frame
breaks off. -/
theorem history_ordered_astray :
    let machine := Brackets.machine 2
    let history : List Operation := [.pushGoal "S", .install (Brackets.tokens ["a", "b"])]
    let later : List Operation := [.step, .push "T" .again, .step]
    (machine.step (machine.after (.push "T" .again :: .step :: history))).result =
        .error (.unknownSymbol ⟨"T", "brackets"⟩) ∧
      (machine.after (later ++ history)).stack.map Frame.start = [1, 0] ∧
      (∀ operation ∈ later, ∀ tokens, operation ≠ .install tokens) ∧
      machine.Ordered (machine.after (later ++ history)) ∧
      (machine.after history).cursor ≤ (machine.after (later ++ history)).cursor := by
  intro machine history later
  have resumes : ∀ operation ∈ later, ∀ tokens, operation ≠ .install tokens := by
    simp [later]
  exact ⟨by cbv, by cbv, resumes, (history_ordered machine (later ++ history)).1,
    (history_ordered machine history).2 later resumes⟩

end Machine

end Descent
