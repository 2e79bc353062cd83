import Mathlib
import Descent.Proofs.Bare
import Descent.Proofs.Growth
import Descent.Proofs.Reshaping

/-! Productions that are tried one by one.

A frame that has consumed nothing is given one production after the other. As long as the cursor
stays, what the machine does for it is made of turns, and nothing but what is on record is left of
the productions that failed.
-/

set_option autoImplicit false

namespace Descent

namespace Machine

/-- The frame at this height, counted from the bottom of the stack, works on the production. -/
def Holds (height production : Nat) (state : State) : Prop :=
  state.stack.reverse[height]?.bind Frame.production = some production

instance {height production : Nat} {state : State} : Decidable (Holds height production state) :=
  inferInstanceAs (Decidable (_ = _))

def trial (machine : Machine) (state : State) (frame : Frame) (below : List Frame)
    (production count : Nat) : Phase :=
  machine.tick^[count] (.stepping (state.select frame below production))

/-- The production takes the next token by itself: the cursor moves while the frame works on
the production. -/
def Takes (machine : Machine) (state : State) (frame : Frame) (below : List Frame)
    (production : Nat) : Prop :=
  ∃ count,
    (∀ earlier ≤ count,
      Holds below.length production (machine.trial state frame below production earlier).state) ∧
    state.cursor < (machine.trial state frame below production count).state.cursor

/-! Ticks are turns as long as the frame on top has not moved. -/

section Turns

variable {machine : Machine} {tokens : List Token} {goal : String} {state : State}
  {frame held : Frame} {below : List Frame} {phase : Phase}

theorem Tower.start_le {stack : List Frame} (tower : machine.Tower goal stack)
    (head : stack.head? = some frame) (member : held ∈ stack) : held.start ≤ frame.start := by
  induction tower generalizing frame with
  | empty => cases member
  | base =>
    cases head
    rw [List.mem_singleton.mp member]
  | push _ _ _ _ order _ ih =>
    cases head
    rcases List.mem_cons.mp member with rfl | lower
    · exact Nat.le_refl _
    · exact (ih rfl lower).trans order

theorem Standing.pass_retry (standing : machine.Standing tokens goal state)
    (stack : state.stack = frame :: below) (unmoved : frame.start = state.cursor)
    (more : frame.nextProduction < (machine.table frame.symbol).length) :
    machine.pass state = .stepping (state.select frame below frame.nextProduction) := by
  unfold pass
  rw [stack]
  simp only [productionsOf_eq (standing.top_upright stack).known, unmoved, Nat.lt_irrefl,
    decide_false, true_and, if_pos more]

theorem Standing.pass_turns (standing : machine.Standing tokens goal state)
    (stack : state.stack = frame :: below) (unmoved : frame.start = state.cursor) :
    machine.Turns tokens state (machine.pass state).state := by
  rcases machine.pass_backtrack state with decided | ⟨top, rest, filled, _, passed, _⟩
  · rw [decided, resumed_state]
    exact standing.backtrack_turns.1
  · obtain ⟨rfl, rfl⟩ := List.cons.inj (filled.symm.trans stack)
    by_cases more : top.nextProduction < (machine.table top.symbol).length
    · rw [standing.pass_retry stack unmoved more] at passed
      cases passed
    · have needed : top.origin.tentative = false := by
        refine Bool.eq_false_iff.mpr fun tentative => ?_
        have held := standing.marker_mem stack
        unfold Machine.pass Machine.pop at passed
        rw [stack] at passed
        simp only [productionsOf_eq (standing.top_upright stack).known, unmoved, Nat.lt_irrefl,
          decide_false, true_and, if_neg more, if_pos held, Outcome.done, tentative, and_self,
          if_true] at passed
        split at passed <;> cases passed
      rw [passed]
      exact .single (.drop stack unmoved (Nat.le_of_not_lt more) needed)

theorem Standing.tick_turns (standing : machine.Standing tokens goal phase.state)
    (unmoved : ∀ top, phase.state.stack.head? = some top → top.start = phase.state.cursor) :
    machine.Turns tokens phase.state (machine.tick phase).state := by
  cases phase with
  | stopped result state => exact .refl
  | stepping state =>
    change machine.Standing tokens goal state at standing
    show machine.Turns tokens state _
    cases stack : state.stack with
    | nil =>
      have stays : machine.tick (.stepping state) = .stopped (.ok ()) state := by
        simp only [tick, stack, List.isEmpty_nil, if_true]
      rw [stays]
      exact .refl
    | cons top rest =>
      have turns := (standing.step_turns stack).1
      unfold tick
      dsimp only
      split
      · exact .refl
      · split <;> exact turns
  | backtracking state =>
    change machine.Standing tokens goal state at standing
    show machine.Turns tokens state (machine.pass state).state
    cases stack : state.stack with
    | nil =>
      have stays : machine.pass state = .stopped (.ok ()) state := by
        unfold pass
        rw [stack]
      rw [stays]
      exact .refl
    | cons top rest => exact standing.pass_turns stack (unmoved top (congrArg List.head? stack))

end Turns

/-! A frame on its way from production to production. -/

structure Lawful (machine : Machine) (tokens : List Token) (goal : String) (state : State) :
    Prop where
  standing : machine.Standing tokens goal state
  growing : machine.Growing tokens goal state
  covering : Covering tokens state

structure Pushed (machine : Machine) (tokens : List Token) (goal : String) (state : State)
    (frame : Frame) (below : List Frame) : Prop extends machine.Lawful tokens goal state where
  stack : state.stack = frame :: below
  unselected : frame.production = none

def Keeps (frame : Frame) (below : List Frame) (production : Nat) (state : State) : Prop :=
  ∃ above held, state.stack = above ++ held :: below ∧ Alike frame held ∧
    held.production = some production

structure Tried (machine : Machine) (tokens : List Token) (goal : String) (frame : Frame)
    (below : List Frame) (production : Nat) (state : State) : Prop
    extends machine.Lawful tokens goal state where
  keeps : Keeps frame below production state

section Lawful

variable {machine : Machine} {tokens : List Token} {goal : String} {state other : State}
  {frame : Frame} {below : List Frame} {production : Nat}

theorem Reached.lawful (known : machine.Knows goal) (reached : machine.Reached tokens goal state) :
    machine.Lawful tokens goal state :=
  ⟨reached.standing known, reached.growing known, reached.covering known⟩

theorem Lawful.turns (lawful : machine.Lawful tokens goal state)
    (turns : machine.Turns tokens state other) : machine.Lawful tokens goal other where
  standing := lawful.standing.turns turns
  growing := lawful.standing.along turns Growing.turn lawful.growing
  covering := lawful.standing.along turns Covering.turn lawful.covering

theorem Lawful.select (lawful : machine.Lawful tokens goal state)
    (stack : state.stack = frame :: below) (unmoved : frame.start = state.cursor)
    (listed : production < (machine.table frame.symbol).length) :
    machine.Lawful tokens goal (state.select frame below production) where
  standing := lawful.standing.select stack listed
  growing := lawful.growing.select lawful.standing stack listed
  covering := lawful.covering.select stack unmoved

end Lawful

section Keeps

variable {machine : Machine} {tokens : List Token} {goal : String} {state : State}
  {frame held : Frame} {below : List Frame} {production other height : Nat} {phase : Phase}

theorem Holds.lt_length (holds : Holds height production state) : height < state.stack.length := by
  obtain ⟨_, found, _⟩ := Option.bind_eq_some_iff.mp holds
  have inside := (List.getElem?_eq_some_iff.mp found).1
  rwa [List.length_reverse] at inside

theorem Holds.unique (holds : Holds height production state) (also : Holds height other state) :
    production = other := Option.some.inj (holds.symm.trans also)

theorem Keeps.holds (keeps : Keeps frame below production state) :
    Holds below.length production state := by
  obtain ⟨above, held, stack, _, selected⟩ := keeps
  unfold Holds
  rw [stack, List.reverse_append, List.reverse_cons, List.append_assoc,
    List.getElem?_append_right (by simp)]
  simpa using selected

theorem Keeps.exists_mem (keeps : Keeps frame below production state) :
    ∃ held ∈ state.stack, Alike frame held ∧ held.production = some production := by
  obtain ⟨above, held, stack, kept⟩ := keeps
  refine ⟨held, ?_, kept⟩
  rw [stack]
  exact List.mem_append_right _ List.mem_cons_self

/-- The frame goes, or keeps the production, or a backtrack comes to it that has consumed
nothing and selects the next. -/
theorem Keeps.tick (machine : Machine) (keeps : Keeps frame below production phase.state) :
    (machine.tick phase).state.stack.length ≤ below.length ∨
      Keeps frame below production (machine.tick phase).state ∨
      ∃ state held, phase = .backtracking state ∧ state.stack = held :: below ∧
        Alike frame held ∧ state.cursor ≤ frame.start ∧
        production + 1 < (machine.table frame.symbol).length ∧
        machine.tick phase = .stepping (state.select held below (production + 1)) := by
  obtain ⟨above, held, split, alike, selected⟩ := keeps
  rcases machine.tick_reshapes phase with
    reshaped | ⟨state, top, rest, rfl, stack, unmoved, more, ticked⟩
  · refine (reshaped.under split).imp_right fun ⟨higher, later, after, sequel⟩ => .inl ?_
    exact ⟨higher, later, after, alike.trans sequel.toAlike,
      (sequel.kept (by rw [selected]; nofun)).trans selected⟩
  · right
    cases above with
    | nil =>
      obtain ⟨rfl, rfl⟩ := List.cons.inj (stack.symm.trans split)
      have next : top.nextProduction = production + 1 := by
        unfold Frame.nextProduction
        rw [selected]
      rw [next] at more ticked
      rw [alike.symbol] at more
      rw [alike.start] at unmoved
      exact .inr ⟨state, top, rfl, stack, alike, unmoved, more, ticked⟩
    | cons first above =>
      obtain ⟨rfl, rfl⟩ := List.cons.inj (stack.symm.trans split)
      rw [ticked]
      exact .inl ⟨_ :: above, held, rfl, alike, selected⟩

theorem Keeps.tick_moved (machine : Machine) (keeps : Keeps frame below production phase.state)
    (moved : frame.start < phase.state.cursor) :
    (machine.tick phase).state.stack.length ≤ below.length ∨
      Keeps frame below production (machine.tick phase).state := by
  refine (keeps.tick machine).imp_right fun further => further.resolve_right ?_
  rintro ⟨state, _, rfl, _, _, unmoved, _⟩
  exact absurd moved (Nat.not_lt_of_le unmoved)

end Keeps

section Trials

variable {machine : Machine} {tokens : List Token} {goal : String} {state : State}
  {frame : Frame} {below : List Frame} {production count : Nat} {phase : Phase}

theorem trial_succ (machine : Machine) (state : State) (frame : Frame) (below : List Frame)
    (production count : Nat) :
    machine.trial state frame below production (count + 1) =
      machine.tick (machine.trial state frame below production count) :=
  Function.iterate_succ_apply' _ _ _

theorem Pushed.unmoved (pushed : machine.Pushed tokens goal state frame below) :
    frame.start = state.cursor :=
  (pushed.standing.top_poised pushed.stack).unmoved pushed.unselected

theorem Pushed.tried (pushed : machine.Pushed tokens goal state frame below)
    (listed : production < (machine.table frame.symbol).length) :
    machine.Tried tokens goal frame below production (state.select frame below production) :=
  ⟨pushed.select pushed.stack pushed.unmoved listed,
    [], _, rfl, .select frame production, rfl⟩

theorem Pushed.select_bare (pushed : machine.Pushed tokens goal state frame below)
    {other : State} {held : Frame} (lawful : machine.Lawful tokens goal other)
    (stack : other.stack = held :: below) (alike : Alike frame held)
    (unmoved : other.cursor = state.cursor) (production : Nat) :
    (other.select held below production).bare = (state.select frame below production).bare := by
  have markers : other.markers = state.markers := by
    rw [lawful.standing.markers, pushed.standing.markers, stack, pushed.stack, List.map_cons,
      List.map_cons, alike.marker]
  show State.mk other.tokens other.cursor (held.select production :: below) other.markers []
      other.result none =
    ⟨state.tokens, state.cursor, frame.select production :: below, state.markers, [], state.result,
      none⟩
  rw [lawful.standing.installed, pushed.standing.installed, unmoved, markers,
    lawful.covering.pending stack, pushed.covering.pending pushed.stack, alike.select_eq]

theorem Tried.tick (pushed : machine.Pushed tokens goal state frame below)
    (tried : machine.Tried tokens goal frame below production phase.state)
    (unmoved : phase.state.cursor = state.cursor) :
    (machine.tick phase).state.stack.length ≤ below.length ∨
      machine.Tried tokens goal frame below production (machine.tick phase).state ∨
      production + 1 < (machine.table frame.symbol).length ∧
        (machine.tick phase).bare =
          (machine.trial state frame below (production + 1) 0).bare := by
  obtain ⟨lawful, keeps⟩ := tried
  have standing := lawful.standing
  have still : ∀ top, phase.state.stack.head? = some top → top.start = phase.state.cursor := by
    -- No frame above starts before it, so that none of them has moved either.
    obtain ⟨held, member, alike, _⟩ := keeps.exists_mem
    intro top head
    have order := standing.tower.start_le head member
    rw [alike.start, pushed.unmoved, ← unmoved] at order
    exact Nat.le_antisymm (standing.top top head).behind order
  have turns := standing.tick_turns still
  refine (keeps.tick machine).imp_right fun further => further.imp (fun kept => ?_) ?_
  · exact ⟨lawful.turns turns, kept⟩
  · rintro ⟨other, held, rfl, stack, alike, _, more, ticked⟩
    refine ⟨more, ?_⟩
    rw [ticked]
    exact congrArg Phase.stepping
      (pushed.select_bare lawful stack alike unmoved (production + 1))

structure Trying (machine : Machine) (tokens : List Token) (goal : String) (state : State)
    (frame : Frame) (below : List Frame) (production count : Nat) : Prop where
  tried : machine.Tried tokens goal frame below production
    (machine.trial state frame below production count).state
  holds : ∀ earlier ≤ count,
    Holds below.length production (machine.trial state frame below production earlier).state
  unmoved : (machine.trial state frame below production count).state.cursor = state.cursor

inductive Trying.Next (machine : Machine) (tokens : List Token) (goal : String) (state : State)
    (frame : Frame) (below : List Frame) (production count : Nat) : Prop where
  | gone (short : (machine.trial state frame below production (count + 1)).state.stack.length ≤
      below.length)
  | goes (trying : machine.Trying tokens goal state frame below production (count + 1))
  | moves (takes : machine.Takes state frame below production)
      (tried : machine.Tried tokens goal frame below production
        (machine.trial state frame below production (count + 1)).state)
      (moved : state.cursor <
        (machine.trial state frame below production (count + 1)).state.cursor)
  | fails (fails : ¬machine.Takes state frame below production)
      (more : production + 1 < (machine.table frame.symbol).length)
      (same : (machine.trial state frame below production (count + 1)).bare =
        (machine.trial state frame below (production + 1) 0).bare)

theorem Pushed.trying (pushed : machine.Pushed tokens goal state frame below)
    (listed : production < (machine.table frame.symbol).length) :
    machine.Trying tokens goal state frame below production 0 where
  tried := pushed.tried listed
  holds := fun earlier before => by
    rw [Nat.le_zero.mp before]
    exact (pushed.tried listed).keeps.holds
  unmoved := rfl

theorem Phase.state_bare (phase : Phase) : phase.bare.state = phase.state.bare := by
  cases phase <;> rfl

theorem state_alike {twin : Phase} (same : phase.bare = twin.bare) :
    phase.state.stack = twin.state.stack ∧ phase.state.cursor = twin.state.cursor := by
  have left : phase.state.bare = twin.state.bare := by
    rw [← Phase.state_bare, same, Phase.state_bare]
  exact ⟨State.stack_of_bare left, State.cursor_of_bare left⟩

theorem Trying.not_takes (trying : machine.Trying tokens goal state frame below production count)
    (lost : ¬Holds below.length production
      (machine.trial state frame below production (count + 1)).state) :
    ¬machine.Takes state frame below production := by
  rintro ⟨ticks, holds, moved⟩
  rcases Nat.lt_or_ge count ticks with later | soon
  · exact lost (holds (count + 1) later)
  · have kept := machine.ticks_cursor (.stepping (state.select frame below production)) soon
    exact absurd moved (Nat.not_lt_of_le (kept.trans trying.unmoved.le))

/-- The frame goes, the trial goes on, a token is consumed, or the production is no use and the
next is tried. -/
theorem Trying.tick (pushed : machine.Pushed tokens goal state frame below)
    (trying : machine.Trying tokens goal state frame below production count) :
    Trying.Next machine tokens goal state frame below production count := by
  have ticked := trying.tried.tick pushed trying.unmoved
  rw [← trial_succ] at ticked
  rcases ticked with short | tried | ⟨more, same⟩
  · exact .gone short
  · have holds : ∀ earlier ≤ count + 1,
        Holds below.length production
          (machine.trial state frame below production earlier).state := by
      intro earlier before
      rcases Nat.le_succ_iff.mp before with before | rfl
      · exact trying.holds earlier before
      · exact tried.keeps.holds
    have forward := machine.ticks_cursor (.stepping (state.select frame below production))
      (Nat.zero_le (count + 1))
    rcases Nat.lt_or_eq_of_le forward with moved | unmoved
    · exact .moves ⟨count + 1, holds, moved⟩ tried moved
    · exact .goes ⟨tried, holds, unmoved.symm⟩
  · refine .fails (trying.not_takes fun holds => ?_) more same
    have next := (pushed.trying more).tried.keeps.holds
    unfold Holds at holds next
    rw [(state_alike same).1] at holds
    exact absurd (Option.some.inj (holds.symm.trans next)) (Nat.ne_of_lt (Nat.lt_succ_self _))

theorem Takes.tried (pushed : machine.Pushed tokens goal state frame below)
    (listed : production < (machine.table frame.symbol).length)
    (takes : machine.Takes state frame below production) :
    ∃ after, machine.Tried tokens goal frame below production after ∧
      state.cursor < after.cursor := by
  obtain ⟨count, holds, moved⟩ := takes
  -- Tick by tick up to the first that moves the cursor. After it nothing is claimed.
  have along : ∀ ticks ≤ count, machine.Trying tokens goal state frame below production ticks ∨
      ∃ after, machine.Tried tokens goal frame below production after ∧
        state.cursor < after.cursor := by
    intro ticks
    induction ticks with
    | zero => exact fun _ => .inl (pushed.trying listed)
    | succ ticks ih =>
      intro within
      refine (ih (Nat.le_of_succ_le within)).elim (fun trying => ?_) .inr
      cases trying.tick pushed with
      | gone short => exact absurd (holds _ within).lt_length (Nat.not_lt_of_le short)
      | goes trying => exact .inl trying
      | moves _ tried moved => exact .inr ⟨_, tried, moved⟩
      | fails fails => exact absurd ⟨count, holds, moved⟩ fails
  refine (along count (Nat.le_refl _)).resolve_left fun trying => ?_
  exact absurd moved (Nat.not_lt_of_le trying.unmoved.le)

end Trials

end Machine

end Descent
