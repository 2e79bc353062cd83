import Mathlib
import Descent.Proofs.Brackets
import Descent.Proofs.Stack.Reached

/-! What a backtrack decides.

It goes back to the highest frame that has something else to do, provided that no token was
consumed since that frame began. The frames above it go, with their markers, and the frames
below it stay as they are.
-/

set_option autoImplicit false

namespace Descent

def State.markersWithout (state : State) (frames : List Frame) : List Marker :=
  state.markers.filter fun marker => marker ∉ frames.map Frame.marker

namespace Machine

/-- The frame has another production to try, or its parent can do without it. -/
def Open (machine : Machine) (frame : Frame) : Prop :=
  frame.nextProduction < (machine.table frame.symbol).length ∨ frame.origin.tentative = true

/-- The frame under some others has something else to do, and neither it nor any of those has
consumed a token. -/
structure Resumable (machine : Machine) (state : State) (above : List Frame) (frame : Frame)
    (below : List Frame) : Prop where
  stack : state.stack = above ++ frame :: below
  open_ : machine.Open frame
  unmoved : ∀ other ∈ above ++ [frame], other.start = state.cursor

/-- No frame higher on the stack is resumable. -/
structure Nearest (machine : Machine) (state : State) (above : List Frame) (frame : Frame)
    (below : List Frame) : Prop extends machine.Resumable state above frame below where
  highest : ∀ {higher other lower}, machine.Resumable state higher other lower →
    lower.length ≤ below.length

/-- What is left when the machine goes back to the frame: its next production is selected, or
it has none and is given up, and the parent of a repetition passes its slot. -/
inductive Resumes (machine : Machine) (state : State) (above : List Frame) (frame : Frame) :
    List Frame → State → Prop where
  | retried {below : List Frame}
      (more : frame.nextProduction < (machine.table frame.symbol).length) :
      Resumes machine state above frame below
        { state with
          stack := frame.select frame.nextProduction :: below
          markers := state.markersWithout above
          trace := ⟨frame.symbol, frame.nextProduction, state.cursor⟩ :: state.trace }
  | omitted {below : List Frame}
      (spent : (machine.table frame.symbol).length ≤ frame.nextProduction)
      (origin : frame.origin = .optional) :
      Resumes machine state above frame below
        { state with stack := below, markers := state.markersWithout (above ++ [frame]) }
  | unrepeated {parent : Frame} {below : List Frame}
      (spent : (machine.table frame.symbol).length ≤ frame.nextProduction)
      (origin : frame.origin = .again) :
      Resumes machine state above frame (parent :: below)
        { state with
          stack := parent.advance :: below
          markers := state.markersWithout (above ++ [frame]) }

section Resumption

variable {machine : Machine} {tokens : List Token} {goal : String} {state : State}
  {above below rest : List Frame} {frame : Frame}

theorem Resumable.cons {under : List Frame} (stack : state.stack = frame :: under)
    (unmoved : frame.start = state.cursor) {other : Frame}
    (resumable : machine.Resumable (popped state frame under) above other below) :
    machine.Resumable state (frame :: above) other below := by
  obtain ⟨split, open_, still⟩ := resumable
  refine ⟨stack.trans (congrArg (frame :: ·) split), open_, ?_⟩
  exact List.forall_mem_cons.mpr ⟨unmoved, still⟩

theorem Resumable.exists_nearest (resumable : machine.Resumable state above frame below) :
    ∃ above frame below, machine.Nearest state above frame below := by
  induction height : above.length using Nat.strong_induction_on generalizing above frame below with
  | _ height ih =>
    subst height
    by_cases highest : ∀ {higher other lower}, machine.Resumable state higher other lower →
        lower.length ≤ below.length
    · exact ⟨_, _, _, resumable, highest⟩
    · push Not at highest
      obtain ⟨higher, other, lower, better, longer⟩ := highest
      have split := congrArg List.length (resumable.stack.symm.trans better.stack)
      simp only [List.length_append, List.length_cons] at split
      exact ih higher.length (by omega) better rfl

/-- The frames above the highest that is resumable have nothing else to do. -/
theorem Nearest.closed (nearest : machine.Nearest state above frame below) :
    ∀ other ∈ above, ¬machine.Open other := by
  intro other member open_
  obtain ⟨higher, lower, rfl⟩ := List.append_of_mem member
  have resumable : machine.Resumable state higher other (lower ++ frame :: below) := by
    refine ⟨by rw [nearest.stack, List.append_assoc, List.cons_append], open_, ?_⟩
    intro held among
    refine nearest.unmoved held ?_
    simp only [List.mem_append, List.mem_cons] at among ⊢
    tauto
  have short := nearest.highest resumable
  simp only [List.length_append, List.length_cons] at short
  omega

theorem Standing.markers_nodup (standing : machine.Standing tokens goal state) :
    (state.stack.map Frame.marker).Nodup := by
  have keyed := standing.tower.keyed
  generalize state.stack = stack at keyed
  induction stack with
  | nil => exact .nil
  | cons top below ih =>
    refine List.nodup_cons.mpr ⟨fun member => ?_, ih keyed.2⟩
    obtain ⟨held, inStack, same⟩ := List.mem_map.mp member
    have short := keyed.2.context_length_lt held inStack
    rw [same, keyed.1, List.length_map] at short
    exact Nat.lt_irrefl _ short

theorem Standing.markersWithout_eq (standing : machine.Standing tokens goal state)
    (stack : state.stack = above ++ rest) :
    state.markersWithout above = rest.map Frame.marker := by
  have distinct := standing.markers_nodup
  rw [stack, List.map_append, List.nodup_append] at distinct
  obtain ⟨_, _, apart⟩ := distinct
  have gone : (above.map Frame.marker).filter (fun marker => marker ∉ above.map Frame.marker) =
      [] := List.filter_eq_nil_iff.mpr fun marker dropped => by simpa using dropped
  have kept : (rest.map Frame.marker).filter (fun marker => marker ∉ above.map Frame.marker) =
      rest.map Frame.marker :=
    List.filter_eq_self.mpr fun marker left =>
      decide_eq_true fun dropped => apart marker dropped marker left rfl
  unfold State.markersWithout
  rw [standing.markers, stack, List.map_append, List.filter_append, gone, kept, List.nil_append]

theorem Standing.backtrack_shut (standing : machine.Standing tokens goal state)
    (stack : state.stack = frame :: below) (shut : ¬machine.Open frame) :
    Gives (machine.backtrack state) (machine.backtrack (popped state frame below)).result
      (machine.backtrack (popped state frame below)).after :=
  standing.backtrack_below stack (.inr ⟨Nat.le_of_not_lt fun more => shut (.inl more),
    Bool.eq_false_iff.mpr fun tentative => shut (.inr tentative)⟩)

theorem Standing.backtrack_through (standing : machine.Standing tokens goal state)
    (stack : state.stack = above ++ rest) (closed : ∀ frame ∈ above, ¬machine.Open frame) :
    let dropped := { state with stack := rest, markers := rest.map Frame.marker }
    machine.Standing tokens goal dropped ∧
      Gives (machine.backtrack state) (machine.backtrack dropped).result
        (machine.backtrack dropped).after := by
  induction above generalizing state with
  | nil =>
    have same : state = { state with stack := rest, markers := rest.map Frame.marker } := by
      rw [List.nil_append] at stack
      rw [← stack, ← standing.markers]
    rw [← same]
    exact ⟨standing, .self _⟩
  | cons top above ih =>
    obtain ⟨shut, others⟩ := List.forall_mem_cons.mp closed
    have under := standing.backtrack_shut stack shut
    obtain ⟨stands, gives⟩ := ih (standing.pop stack) rfl others
    exact ⟨stands, under.1.trans gives.1, under.2.trans gives.2⟩

/-- The machine goes back to the highest frame that is resumable. -/
theorem Standing.backtrack_nearest (standing : machine.Standing tokens goal state)
    (nearest : machine.Nearest state above frame below) :
    ∃ after, machine.Resumes state above frame below after ∧
      Gives (machine.backtrack state) (.ok true) after := by
  obtain ⟨stands, through⟩ := standing.backtrack_through nearest.stack nearest.closed
  have unmoved : frame.start = state.cursor := nearest.unmoved frame (by simp)
  have under := standing.markersWithout_eq nearest.stack
  have without := standing.markersWithout_eq
    (nearest.stack.trans (List.append_cons above frame below))
  by_cases more : frame.nextProduction < (machine.table frame.symbol).length
  · obtain ⟨result, after⟩ := stands.backtrack_retry rfl unmoved more
    refine ⟨_, .retried more, through.1.trans result, through.2.trans (after.trans ?_)⟩
    rw [under]
    rfl
  · have spent := Nat.le_of_not_lt more
    have tentative := nearest.open_.resolve_left more
    have erased := stands.markers_erase rfl
    cases origin : frame.origin with
    | goal | expand =>
      rw [origin] at tentative
      cases tentative
    | optional =>
      obtain ⟨result, after⟩ := stands.backtrack_absent rfl unmoved spent origin
      refine ⟨_, .omitted spent origin, through.1.trans result, through.2.trans (after.trans ?_)⟩
      unfold popped
      rw [erased, without]
    | again =>
      -- The frame at the bottom is the goal, so that a repetition has a parent.
      cases below with
      | nil =>
        cases stands.top_tower rfl with
        | base _ _ goal =>
          rw [origin] at goal
          cases goal
      | cons parent below =>
        obtain ⟨result, after⟩ := stands.backtrack_unrepeated rfl unmoved spent origin
        refine ⟨_, .unrepeated spent origin, through.1.trans result,
          through.2.trans (after.trans ?_)⟩
        unfold popped
        rw [erased, without]

theorem Standing.backtrack_lost (standing : machine.Standing tokens goal state)
    (hopeless : ∀ above frame below, ¬machine.Resumable state above frame below) :
    Gives (machine.backtrack state) (.ok false) { state with stack := [], markers := [] } := by
  induction stack : state.stack generalizing state with
  | nil =>
    obtain ⟨result, after⟩ := machine.backtrack_empty stack
    have markers : state.markers = [] := by rw [standing.markers, stack, List.map_nil]
    exact ⟨result, after.trans (by rw [← stack, ← markers])⟩
  | cons frame below ih =>
    rcases Nat.lt_or_eq_of_le (standing.top_poised stack).behind with committed | unmoved
    · exact standing.backtrack_committed stack committed
    · have shut : ¬machine.Open frame := fun open_ =>
        hopeless [] frame below ⟨stack, open_, List.forall_mem_singleton.mpr unmoved⟩
      have under := standing.backtrack_shut stack shut
      have emptied := ih (standing.pop stack)
        (fun above other lower resumable => hopeless _ _ _ (resumable.cons stack unmoved)) rfl
      exact ⟨under.1.trans emptied.1, under.2.trans emptied.2⟩

/-- A backtrack goes back to the highest frame that has something else to do and above which,
as in itself, no token was consumed. Without such a frame it empties the stack. -/
theorem reached_backtrack (known : machine.Knows goal)
    (reached : machine.Reached tokens goal state) :
    (∀ {above frame below}, machine.Nearest state above frame below →
      ∃ after, machine.Resumes state above frame below after ∧
        Gives (machine.backtrack state) (.ok true) after) ∧
    ((¬∃ above frame below, machine.Nearest state above frame below) →
      Gives (machine.backtrack state) (.ok false)
        { state with stack := [], markers := state.markersWithout state.stack }) := by
  have standing := reached.standing known
  refine ⟨standing.backtrack_nearest, fun none => ?_⟩
  rw [standing.markersWithout_eq (List.append_nil state.stack).symm, List.map_nil]
  exact standing.backtrack_lost fun _ _ _ resumable => none resumable.exists_nearest

end Resumption

end Machine

/-! Detours have two ways that begin differently: `S` is a `T` and a "c", or an "a", and `T` is
a "b" or a "d".
-/

namespace Detours

def location : Location := ⟨"detours", 1⟩

def terminal (text : String) : Terminal := .of (.lexeme text) none location

def outer : NonTerminal := ⟨0, "S", location⟩

def inner : NonTerminal := ⟨1, "T", location⟩

def rules : List Definition :=
  [⟨outer, [[.required (.nonTerminal inner), .required (.terminal (terminal "c"))],
      [.required (.terminal (terminal "a"))]], by decide⟩,
    ⟨inner, [[.required (.terminal (terminal "b"))], [.required (.terminal (terminal "d"))]],
      by decide⟩]

def grammar : Grammar where
  name := "detours"
  start := outer
  rules := rules
  openings := OpeningTable.ofRules rules
  start_mem := by decide
  closed := by
    intro rule member called mentioned
    simp only [rules, List.mem_cons, List.not_mem_nil, or_false] at member
    rcases member with rfl | rfl <;> revert called <;> decide
  names_distinct := by decide
  openings_eq := rfl

def machine (depth : Nat) : Machine := ⟨grammar, depth⟩

theorem known (depth : Nat) : (machine depth).Knows "S" := ⟨_, List.mem_cons_self, rfl⟩

def astray : State :=
  let machine := machine 2
  let goal := (machine.pushGoal "S" (.initial (Brackets.tokens ["x"]))).after
  let inside := (machine.step (machine.backtrack (machine.step goal).after).after).after
  let again := (machine.backtrack (machine.step inside).after).after
  (machine.step (machine.backtrack (machine.step again).after).after).after

theorem astray_reached : (machine 2).Reached (Brackets.tokens ["x"]) "S" astray :=
  .step (.backtrack (.step (.backtrack (.step (.step (.backtrack (.step .goal)))))))

def outermost : Frame := Machine.fresh "S" .goal 0 []

def innermost : Frame := Machine.fresh "T" .expand 0 [outermost]

end Detours

open Detours in
/-- The `T` goes, and the `S` is tried the other way. After that there is nothing left to try. -/
theorem Machine.reached_backtrack_detours :
    (Detours.machine 2).Nearest astray [innermost.select 1] (outermost.select 0) [] ∧
      (∃ after, (Detours.machine 2).Resumes astray [innermost.select 1] (outermost.select 0) []
          after ∧ Gives ((Detours.machine 2).backtrack astray) (.ok true) after) ∧
      let lost := ((Detours.machine 2).step ((Detours.machine 2).backtrack astray).after).after
      (¬∃ above frame below, (Detours.machine 2).Nearest lost above frame below) ∧
        Gives ((Detours.machine 2).backtrack lost) (.ok false)
          { lost with stack := [], markers := lost.markersWithout lost.stack } := by
  have stack : astray.stack = [innermost.select 1, outermost.select 0] := by cbv
  have lost : ((Detours.machine 2).step ((Detours.machine 2).backtrack astray).after).after.stack =
      [outermost.select 1] := by cbv
  have nearest : (Detours.machine 2).Nearest astray [innermost.select 1] (outermost.select 0)
      [] := by
    refine ⟨⟨stack, .inl (by decide), ?_⟩, ?_⟩
    · have cursor : astray.cursor = 0 := by cbv
      rw [cursor]
      decide
    · intro higher held lower resumable
      have split := stack.symm.trans resumable.stack
      cases higher with
      | nil =>
        cases split
        exact absurd resumable.open_ (by unfold Open; decide)
      | cons top higher =>
        have short := congrArg List.length split
        simp only [List.length_append, List.length_cons, List.length_nil] at short ⊢
        omega
  have none : ¬∃ above frame below, (Detours.machine 2).Nearest
      ((Detours.machine 2).step ((Detours.machine 2).backtrack astray).after).after above frame
      below := by
    rintro ⟨above, frame, below, found⟩
    have member : frame ∈ [outermost.select 1] := by
      rw [← lost, found.stack]
      exact List.mem_append_right _ List.mem_cons_self
    rw [List.mem_singleton.mp member] at found
    exact absurd found.open_ (by unfold Open; decide)
  exact ⟨nearest, (reached_backtrack (known 2) astray_reached).1 nearest, none,
    (reached_backtrack (known 2) astray_reached.backtrack.step).2 none⟩

end Descent
