import Mathlib
import Descent.Proofs.Acceptance
import Descent.Proofs.Depth
import Descent.Proofs.Recursion.Idle
import Descent.Proofs.Reshaping

/-! Which goal an answer is about.

A run answers by the result and by the cursor, and both outlive a goal. Only the frame at the
bottom of the stack has its tree become the result, and only if it finishes a production. If it
is abandoned, the result is what it was before, so that the answer may be about an earlier goal.
-/

set_option autoImplicit false

namespace Descent

/-! One letter: `S` is an `a`, and there is nothing else. -/

namespace Letter

def location : Location := ⟨"letter", 1⟩

def letter : Terminal := .of (.lexeme "a") none location

def symbol : NonTerminal := ⟨0, "S", location⟩

def rules : List Definition := [⟨symbol, [[.required (.terminal letter)]], by decide⟩]

def grammar : Grammar where
  name := "letter"
  start := symbol
  rules := rules
  openings := OpeningTable.ofRules rules
  start_mem := by decide
  closed := by
    intro rule member called mentioned
    simp only [rules, List.mem_singleton] at member
    subst member
    revert called
    decide
  names_distinct := by decide
  openings_eq := rfl

def machine : Machine := ⟨grammar, 3⟩

def twice : List Machine.Operation :=
  [.pushGoal "S", .run, .pushGoal "S", .install (Brackets.tokens ["a"])]

end Letter

/-- The cursor is at a token, or after the last. -/
def State.Inside (state : State) : Prop :=
  ∀ tokens, state.tokens = some tokens → state.cursor ≤ tokens.length

namespace Machine

/-- What a run from a state makes of the frame at the bottom: it finishes a production, alone on
the stack, and its tree is this one. -/
inductive Completes (machine : Machine) (state : State) (frame : Frame) : Tree → Prop where
  | finish {time : Nat} {last : State} {held : Frame}
      (reached : machine.tick^[time] (.stepping state) = .stepping last)
      (alone : last.stack = [held]) (alike : Alike frame held) (through : machine.Through held)
      (stepped : machine.tick (.stepping last) = .stepping (finished last held)) :
      Completes machine state frame
        (.branch held.symbol held.start last.cursor held.children)

inductive Credit (machine : Machine) (state : State) (tree : Tree) : Prop where
  | completed {frame : Frame} (bottom : state.stack.getLast? = some frame)
      (completes : machine.Completes state frame tree)
  | left (earlier : state.result = some tree)
      (abandoned : ∀ frame, state.stack.getLast? = some frame →
        ∀ other, ¬machine.Completes state frame other)

/-- The tokens stay, and the cursor does not leave them. -/
structure Kept (before after : State) : Prop where
  tokens : after.tokens = before.tokens
  inside : before.Inside → after.Inside

/-- The result stays as well. -/
structure Quiet (before after : State) : Prop extends Kept before after where
  result : after.result = before.result

section Quiet

variable {machine : Machine} {before middle after : State} {state : State}

theorem Kept.trans (left : Kept before middle) (right : Kept middle after) : Kept before after :=
  ⟨right.tokens.trans left.tokens, right.inside ∘ left.inside⟩

theorem Kept.of_same (tokens : after.tokens = before.tokens) (cursor : after.cursor = before.cursor) :
    Kept before after := by
  refine ⟨tokens, fun inside others installed => ?_⟩
  rw [cursor]
  exact inside others (tokens.symm.trans installed)

theorem Quiet.trans (left : Quiet before middle) (right : Quiet middle after) :
    Quiet before after := ⟨left.toKept.trans right.toKept, right.result.trans left.result⟩

theorem Quiet.refl (state : State) : Quiet state state := ⟨.of_same rfl rfl, rfl⟩

/-- Only a shift moves the cursor, and its token is there. -/
theorem Edit.quiet {before after : Ledger} (edit : machine.Edit before after) :
    Quiet before.state after.state := by
  cases edit with
  | fail symbols expected =>
    obtain ⟨failure, same⟩ := fail_eq before.state symbols expected
    rw [same]
    exact ⟨.of_same rfl rfl, rfl⟩
  | shift stack installed there =>
    refine ⟨⟨rfl, fun _ others same => ?_⟩, rfl⟩
    cases installed.symm.trans same
    exact (List.getElem?_eq_some_iff.mp there).1
  | _ => exact ⟨.of_same rfl rfl, rfl⟩

theorem Edits.quiet {before after : Ledger} (edits : machine.Edits before after) :
    Quiet before.state after.state :=
  edits.keep (P := fun ledger => Quiet before.state ledger.state)
    (fun edit quiet => quiet.trans edit.quiet) (.refl _)

theorem Change.kept {before after : Ledger} (change : machine.Change before after) :
    Kept before.state after.state := by
  cases change with
  | edit edit => exact edit.quiet.toKept
  | finish => exact .of_same rfl rfl

theorem Changes.kept {before after : Ledger} (changes : machine.Changes before after) :
    Kept before.state after.state :=
  changes.keep (P := fun ledger => Kept before.state ledger.state)
    (fun change kept => kept.trans change.kept) (.of_same rfl rfl)

theorem tick_quiet (machine : Machine) (phase : Phase) :
    Quiet phase.state (machine.tick phase).state ∨
      ∃ last frame, phase = .stepping last ∧ last.stack = [frame] ∧ machine.Through frame ∧
        machine.tick phase = .stepping (finished last frame) := by
  refine (machine.tick_edits phase).imp_left ?_
  rintro ⟨after, edits, same⟩
  rw [← same]
  exact edits.quiet

theorem step_kept (machine : Machine) (state : State) : Kept state (machine.step state).after :=
  (machine.step_changes ⟨state, [], [], false⟩).kept

theorem backtrack_kept (machine : Machine) (state : State) :
    Kept state (machine.backtrack state).after :=
  (machine.backtrack_edits ⟨state, [], [], false⟩).changes.kept

theorem round_kept (machine : Machine) (state : State) : Kept state (machine.round state).after :=
  (machine.round_changes ⟨state, [], [], false⟩).kept

theorem run_kept (machine : Machine) (state : State) : Kept state (machine.run state).after :=
  (machine.run_changes ⟨state, [], [], false⟩).kept

/-- Whatever is done to a machine, its cursor does not leave the tokens. -/
theorem inside_after (machine : Machine) (history : List Operation) :
    (machine.after history).Inside := by
  obtain ⟨_, inside⟩ := machine.history_keep (P := fun ledger => ledger.state.Inside)
    (fun _ installed => nomatch installed) (fun _ _ _ => Nat.zero_le _)
    (fun change => change.kept.inside) history
  exact inside

end Quiet

section Run

variable {machine : Machine} {tokens : List Token} {state after : State} {frame : Frame}
  {phase : Phase} {tree : Tree}

theorem tick_bottom (bottom : phase.state.stack.getLast? = some frame) :
    (machine.tick phase).state.stack = [] ∨
      ∃ held, (machine.tick phase).state.stack.getLast? = some held ∧ Alike frame held := by
  obtain ⟨above, split⟩ := List.getLast?_eq_some_iff.mp bottom
  rcases machine.tick_reshapes phase with
    reshaped | ⟨state, first, below, rfl, stack, _, _, selects⟩
  · rcases reshaped.under split with gone | ⟨higher, later, after, sequel⟩
    · exact .inl (List.eq_nil_of_length_eq_zero (Nat.le_zero.mp gone))
    · rw [after]
      exact .inr ⟨later, List.getLast?_concat, sequel.toAlike⟩
  · right
    have filled : first :: below = above ++ [frame] := stack.symm.trans split
    rw [selects]
    cases above with
    | nil =>
      cases filled
      exact ⟨_, rfl, .select frame _⟩
    | cons top rest =>
      cases filled
      exact ⟨frame, List.getLast?_concat (l := first.select _ :: rest), .refl frame⟩

theorem tick_emptied (emptied : phase.state.stack = []) :
    (machine.tick phase).state.stack = [] ∧ Quiet phase.state (machine.tick phase).state := by
  constructor
  · rcases machine.tick_reshapes phase with reshaped | ⟨state, first, below, rfl, stack, _⟩
    · rw [emptied] at reshaped
      generalize (machine.tick phase).state.stack = stack at reshaped
      cases reshaped
      rfl
    · cases emptied.symm.trans stack
  · rcases machine.tick_quiet phase with quiet | ⟨last, first, rfl, alone, _⟩
    · exact quiet
    · cases emptied.symm.trans alone

/-- A run either has the frame at the bottom still, or has emptied the stack. The result is what it
was before, unless the frame has finished. -/
inductive Underway (machine : Machine) (state : State) (frame : Frame) (now : State) : Prop where
  | on {held : Frame} (bottom : now.stack.getLast? = some held) (alike : Alike frame held)
      (quiet : Quiet state now)
  | lost (emptied : now.stack = []) (quiet : Quiet state now)
  | derived {tree : Tree} (emptied : now.stack = []) (completes : machine.Completes state frame tree)
      (result : now.result = some tree)

theorem ticks_underway (bottom : state.stack.getLast? = some frame) (time : Nat) :
    machine.Underway state frame (machine.tick^[time] (.stepping state)).state := by
  induction time with
  | zero => exact .on bottom (.refl frame) (.refl state)
  | succ time ih =>
    rw [Function.iterate_succ_apply']
    cases ih with
    | @on held there alike quiet =>
      rcases machine.tick_quiet (machine.tick^[time] (.stepping state)) with
        next | ⟨last, top, same, alone, through, next⟩
      · rcases tick_bottom there with emptied | ⟨later, still, sequel⟩
        · exact .lost emptied (quiet.trans next)
        · exact .on still (alike.trans sequel) (quiet.trans next)
      · rw [same] at there
        obtain rfl : top = held := by simpa [Phase.state, alone] using there
        refine .derived ?_ (.finish same alone alike through (same ▸ next)) ?_
        · rw [next]
          rfl
        · rw [next]
          rfl
    | lost emptied quiet =>
      obtain ⟨still, next⟩ := tick_emptied emptied
      exact .lost still (quiet.trans next)
    | derived emptied completes result =>
      obtain ⟨still, next⟩ := tick_emptied emptied
      exact .derived still completes (next.result.trans result)

theorem ending_underway (bottom : state.stack.getLast? = some frame) :
    machine.Underway state frame (machine.ending state).2 := by
  obtain ⟨time, stopped⟩ := machine.ticks_ending state
  have underway := machine.ticks_underway bottom time
  rwa [stopped] at underway

/-- A run that finishes the frame at the bottom ends there, with its tree. -/
theorem Completes.ending (completes : machine.Completes state frame tree) :
    (machine.ending state).1 = .ok () ∧ (machine.ending state).2.result = some tree ∧
      Node.IsBranch frame.symbol tree ∧ tree.start = frame.start ∧
      tree.stop = (machine.ending state).2.cursor := by
  cases completes with
  | @finish time last held reached alone alike through stepped =>
    obtain ⟨count, stopped⟩ := machine.ticks_ending state
    have ended : machine.tick^[time + 1 + 1] (.stepping state) =
        .stopped (.ok ()) (finished last held) := by
      rw [Function.iterate_succ_apply', Function.iterate_succ_apply', reached, stepped]
      rfl
    obtain ⟨answer, final⟩ := stops_once stopped ended
    rw [answer, final]
    exact ⟨rfl, rfl, ⟨_, _, _, by rw [alike.symbol]⟩, alike.start, rfl⟩

theorem run_succeeds (installed : state.tokens = some tokens)
    (accepted : (machine.run state).result = .ok true) :
    ∃ tree, machine.ending state = (.ok (), (machine.run state).after) ∧
      (machine.run state).after.result = some tree ∧
      tokens.length ≤ (machine.run state).after.cursor := by
  obtain ⟨tree, derived, beyond⟩ := run_accepted installed accepted
  refine ⟨tree, ?_, derived, beyond⟩
  obtain ⟨result, after⟩ := machine.run_ending installed
  rw [accepted] at result
  rw [after]
  rcases ended : machine.ending state with ⟨fault | _, final⟩
  · rw [ended] at result
    cases result
  · rw [ended] at result
    dsimp only [verdict] at result ⊢
    cases found : final.result with
    | none =>
      rw [found] at result
      cases result
    | some other =>
      rw [found] at result
      dsimp only at result ⊢
      split at result
      · cases result
      · rename_i none
        rw [if_neg none]
        rfl

theorem run_credit (installed : state.tokens = some tokens)
    (accepted : (machine.run state).result = .ok true) :
    ∃ tree, (machine.run state).after.result = some tree ∧ machine.Credit state tree := by
  obtain ⟨tree, ended, derived, _⟩ := run_succeeds installed accepted
  refine ⟨tree, derived, ?_⟩
  by_cases completed : ∃ frame, state.stack.getLast? = some frame ∧
      ∃ other, machine.Completes state frame other
  · obtain ⟨frame, bottom, other, completes⟩ := completed
    obtain ⟨_, result, _⟩ := completes.ending
    rw [ended] at result
    cases derived.symm.trans result
    exact .completed bottom completes
  · have abandoned : ∀ frame, state.stack.getLast? = some frame →
        ∀ other, ¬machine.Completes state frame other := by simpa using completed
    refine .left ?_ abandoned
    cases bottom : state.stack.getLast? with
    | none =>
      have nothing : machine.ending state = _ := ending_empty (List.getLast?_eq_none_iff.mp bottom)
      have same : (machine.run state).after = state := congrArg Prod.snd (ended.symm.trans nothing)
      rwa [same] at derived
    | some frame =>
      have underway := machine.ending_underway bottom
      rw [ended] at underway
      cases underway with
      | on _ _ quiet | lost _ quiet => exact quiet.result.symm.trans derived
      | derived _ completes => exact absurd completes (abandoned frame bottom _)

theorem pushGoal_alone (machine : Machine) (goal : String) {state : State} (stack : state.stack = []) :
    (machine.pushGoal goal state).after = state ∨
      (machine.pushGoal goal state).after = entered state goal .goal [] := by
  unfold pushGoal push
  split
  · exact .inl rfl
  · dsimp only
    split
    · exact .inl rfl
    · split
      · exact .inl rfl
      · right
        unfold State.marker
        rw [stack]
        rfl

theorem run_goal {goal : String} (installed : state.tokens = some tokens) (inside : state.Inside)
    (stack : state.stack = []) (underived : state.result = none)
    (accepted : (machine.run (machine.pushGoal goal state).after).result = .ok true) :
    ∃ tree, (machine.run (machine.pushGoal goal state).after).after.result = some tree ∧
      machine.Completes (machine.pushGoal goal state).after (fresh goal .goal state.cursor []) tree ∧
      Node.IsBranch goal tree ∧ tree.start = state.cursor ∧ tree.stop = tokens.length := by
  rcases machine.pushGoal_alone goal stack with refused | pushed
  · rw [refused] at accepted
    obtain ⟨tree, _, ⟨bottom, _⟩ | ⟨earlier, _⟩⟩ := run_credit installed accepted
    · rw [stack] at bottom
      cases bottom
    · cases underived.symm.trans earlier
  · rw [pushed] at accepted ⊢
    have filled : (entered state goal .goal []).tokens = some tokens := installed
    obtain ⟨tree, derived, ⟨bottom, completes⟩ | ⟨earlier, _⟩⟩ := run_credit filled accepted
    · cases bottom
      obtain ⟨_, _, branch, start, stop⟩ := completes.ending
      obtain ⟨_, ended, _, beyond⟩ := run_succeeds filled accepted
      have kept := machine.run_kept (entered state goal .goal [])
      have within := kept.inside inside tokens (kept.tokens.trans filled)
      rw [ended] at stop
      exact ⟨tree, derived, completes, branch, start, stop.trans (within.antisymm beyond)⟩
    · cases underived.symm.trans earlier

/-- Whatever was done before, a run that succeeds has consumed all tokens, and its result is the tree
of the frame at the bottom of the stack if that was finished, and else one from before. If
nothing had been derived when the goal was pushed on an empty stack, it is the tree of the goal. -/
theorem run_credits (machine : Machine) (history : List Operation) {tokens : List Token}
    (installed : (machine.after history).tokens = some tokens)
    (accepted : (machine.run (machine.after history)).result = .ok true) :
    (machine.run (machine.after history)).after.cursor = tokens.length ∧
    (∃ tree, (machine.run (machine.after history)).after.result = some tree ∧
      machine.Credit (machine.after history) tree) ∧
    ∀ goal earlier, history = .pushGoal goal :: earlier →
      (machine.after earlier).stack = [] → (machine.after earlier).result = none →
        ∃ tree, (machine.run (machine.after history)).after.result = some tree ∧
          machine.Completes (machine.after history)
            (fresh goal .goal (machine.after earlier).cursor []) tree ∧
          Node.IsBranch goal tree ∧ tree.start = (machine.after earlier).cursor ∧
          tree.stop = tokens.length := by
  refine ⟨?_, run_credit installed accepted, ?_⟩
  · obtain ⟨_, _, _, beyond⟩ := run_succeeds installed accepted
    have kept := machine.run_kept (machine.after history)
    exact (kept.inside (machine.inside_after history) tokens (kept.tokens.trans installed)).antisymm
      beyond
  · rintro goal earlier rfl stack underived
    have before : (machine.after earlier).tokens = some tokens := by
      rcases machine.pushGoal_alone goal stack with refused | pushed
      · exact (congrArg State.tokens refused).symm.trans installed
      · exact (congrArg State.tokens pushed).symm.trans installed
    exact run_goal before (machine.inside_after earlier) stack underived accepted

/-- The first of two goals is derived. The second is not, and the run succeeds with what is left. -/
theorem run_credits_twice :
    let before := Letter.twice.tail.tail
    (Letter.machine.after Letter.twice).tokens = some (Brackets.tokens ["a"]) ∧
      (Letter.machine.run (Letter.machine.after Letter.twice)).result = .ok true ∧
      (∃ tree, (Letter.machine.run (Letter.machine.after Letter.twice)).after.result = some tree ∧
        Letter.machine.Credit (Letter.machine.after Letter.twice) tree) ∧
      ∃ tree, (Letter.machine.run (Letter.machine.after before)).after.result = some tree ∧
        Letter.machine.Completes (Letter.machine.after before) (fresh "S" .goal 0 []) tree := by
  intro before
  have installed : (Letter.machine.after Letter.twice).tokens = some (Brackets.tokens ["a"]) := by cbv
  have accepted : (Letter.machine.run (Letter.machine.after Letter.twice)).result = .ok true := by cbv
  have first : (Letter.machine.run (Letter.machine.after before)).result = .ok true := by cbv
  obtain ⟨tree, derived, completes, _⟩ :=
    (run_credits Letter.machine before rfl first).2.2 "S" _ rfl rfl rfl
  exact ⟨installed, accepted, (run_credits Letter.machine _ installed accepted).2.1, tree, derived,
    completes⟩

/-- A run answers that the goal was derived though it was abandoned. -/
theorem run_miscredits :
    (Letter.machine.after Letter.twice).stack = [fresh "S" .goal 1 []] ∧
      (Letter.machine.run (Letter.machine.after Letter.twice)).result = .ok true ∧
      ∀ tree, ¬Letter.machine.Completes (Letter.machine.after Letter.twice)
        (fresh "S" .goal 1 []) tree := by
  refine ⟨by cbv, by cbv, fun tree completes => ?_⟩
  obtain ⟨_, result, _, start, _⟩ := completes.ending
  have left : (Letter.machine.ending (Letter.machine.after Letter.twice)).2.result =
      some (.branch "S" 0 1 [.leaf "WORD" "a" 0 1]) := by cbv
  cases left.symm.trans result
  cases start

end Run

end Machine

end Descent
