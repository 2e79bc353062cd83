import Descent.Proofs.Stack.Reached

/-! Trees and stacks cover the tokens without gap or overlap.

The children of a frame reach from its start to the start of the frame above it, those
of the top frame to the cursor. So the tree of a goal covers all tokens up to the cursor.
-/

set_option autoImplicit false

namespace Descent

/-- Trees side by side, from one position to another. -/
def Tiles : Nat → List Tree → Nat → Prop
  | start, [], stop => start = stop
  | start, tree :: rest, stop => tree.start = start ∧ Tiles tree.stop rest stop

/-- Every leaf is a token at its place, every branch is covered by its children. -/
inductive Tiled (tokens : List Token) : Tree → Prop where
  | leaf {token : Token} {position : Nat} (there : tokens[position]? = some token) :
      Tiled tokens (.leaf token.kind token.lexeme position (position + 1))
  | branch {name : String} {start stop : Nat} {children : List Tree}
      (tiles : Tiles start children stop) (tiled : ∀ child ∈ children, Tiled tokens child) :
      Tiled tokens (.branch name start stop children)

theorem tiles_append {start stop : Nat} {front back : List Tree} :
    Tiles start (front ++ back) stop ↔
      ∃ middle, Tiles start front middle ∧ Tiles middle back stop := by
  induction front generalizing start with
  | nil => simp [Tiles]
  | cons tree rest ih => simp [Tiles, ih, and_assoc]

theorem tiles_singleton {tree : Tree} : Tiles tree.start [tree] tree.stop := ⟨rfl, rfl⟩

theorem Tiles.le {start stop : Nat} {trees : List Tree} (tiles : Tiles start trees stop)
    (forward : ∀ tree ∈ trees, tree.start ≤ tree.stop) : start ≤ stop := by
  induction trees generalizing start with
  | nil => exact Nat.le_of_eq tiles
  | cons tree rest ih =>
    obtain ⟨rfl, tiles⟩ := tiles
    exact Nat.le_trans (forward tree List.mem_cons_self)
      (ih tiles fun later member => forward later (List.mem_cons_of_mem _ member))

theorem Tiled.le {tokens : List Token} {tree : Tree} (tiled : Tiled tokens tree) :
    tree.start ≤ tree.stop := by
  induction tiled with
  | leaf => exact Nat.le_succ _
  | branch tiles _ ih => exact tiles.le ih

namespace Machine

/-- The children of each frame reach up to the frame above it. -/
def Covered (tokens : List Token) : Nat → List Frame → Prop
  | _, [] => True
  | reach, frame :: below =>
    Tiles frame.start frame.children reach ∧ (∀ child ∈ frame.children, Tiled tokens child) ∧
      Covered tokens frame.start below

/-- What is built so far covers the tokens before the cursor. -/
structure Covering (tokens : List Token) (state : State) : Prop where
  stack : Covered tokens state.cursor state.stack
  result : ∀ tree, state.result = some tree → state.stack = [] ∧ Tiled tokens tree ∧
    tree.start = 0 ∧ tree.stop = state.cursor

variable {machine : Machine} {tokens : List Token} {goal : String} {before after : State}

theorem covered_adopt {frame parent : Frame} {below : List Frame} {cursor : Nat}
    (covered : Covered tokens cursor (frame :: parent :: below)) (behind : frame.start ≤ cursor) :
    Covered tokens cursor (adopt cursor frame parent :: below) := by
  obtain ⟨tiles, tiled, parentTiles, parentTiled, rest⟩ := covered
  have tree : Tiled tokens (.branch frame.symbol frame.start cursor frame.children) :=
    .branch tiles tiled
  -- Only a repetition that consumed nothing leaves no tree, and it covers nothing.
  by_cases grows : decide (frame.start < cursor) = true ∨ frame.origin ≠ .again
  · have children : (adopt cursor frame parent).children =
        parent.children ++ [.branch frame.symbol frame.start cursor frame.children] :=
      if_pos grows
    refine ⟨?_, ?_, rest⟩
    · rw [children]
      exact tiles_append.mpr ⟨frame.start, parentTiles, tiles_singleton⟩
    · intro child member
      rw [children, List.mem_append, List.mem_singleton] at member
      rcases member with old | rfl
      · exact parentTiled child old
      · exact tree
  · have children : (adopt cursor frame parent).children = parent.children := if_neg grows
    have still : frame.start = cursor := by
      simp only [decide_eq_true_eq, not_or] at grows
      omega
    refine ⟨?_, ?_, rest⟩
    · rw [children]
      exact still ▸ parentTiles
    · rw [children]
      exact parentTiled

/-- A goal is complete only when its frame is gone. -/
theorem Covering.pending (covering : Covering tokens before) {frame : Frame} {below : List Frame}
    (stack : before.stack = frame :: below) : before.result = none := by
  refine Option.eq_none_iff_forall_ne_some.mpr fun tree found => ?_
  have emptied := (covering.result tree found).1
  rw [stack] at emptied
  cases emptied

theorem Covering.select (covering : Covering tokens before) {frame : Frame} {below : List Frame}
    {production : Nat} (stack : before.stack = frame :: below)
    (unmoved : frame.start = before.cursor) :
    Covering tokens (before.select frame below production) := by
  have covered := covering.stack
  rw [stack] at covered
  refine ⟨⟨unmoved, nofun, covered.2.2⟩, fun tree found => ?_⟩
  cases (covering.pending stack).symm.trans found

theorem Covering.turn (standing : machine.Standing tokens goal before)
    (turn : machine.Turn tokens before after) (covering : Covering tokens before) :
    Covering tokens after := by
  have covered := covering.stack
  have pending {frame : Frame} {below : List Frame} (stack : before.stack = frame :: below)
      (tree : Tree) : before.result ≠ some tree := by
    rw [covering.pending stack]
    exact nofun
  cases turn with
  | select stack unmoved => exact covering.select stack unmoved
  | @shift frame below token terminal stack there =>
    rw [stack] at covered
    obtain ⟨tiles, tiled, rest⟩ := covered
    refine ⟨⟨?_, ?_, rest⟩, fun tree found => absurd found (pending stack tree)⟩
    · exact tiles_append.mpr ⟨before.cursor, tiles, rfl, rfl⟩
    · intro child member
      rcases List.mem_append.mp member with old | new
      · exact tiled child old
      · rw [List.mem_singleton] at new
        exact new ▸ .leaf there
  | close stack | skip stack | overflow stack | overflowOptional stack =>
    rw [stack] at covered
    exact ⟨covered, fun tree found => absurd found (pending stack tree)⟩
  | enter stack | attempt stack =>
    rw [stack] at covered
    exact ⟨⟨rfl, nofun, covered⟩, fun tree found => absurd found (pending stack tree)⟩
  | finish stack =>
    rw [stack] at covered
    obtain ⟨tiles, tiled, _⟩ := covered
    refine ⟨trivial, fun tree found => ?_⟩
    cases found
    refine ⟨rfl, .branch tiles tiled, ?_, rfl⟩
    cases standing.top_tower stack with
    | base _ _ _ start => exact start
  | adopt stack =>
    rw [stack] at covered
    exact ⟨covered_adopt covered (standing.top_poised stack).behind,
      fun tree found => absurd found (pending stack tree)⟩
  | drop stack unmoved | omitted stack unmoved | unrepeated stack unmoved =>
    rw [stack] at covered
    obtain ⟨_, _, rest⟩ := covered
    exact ⟨unmoved ▸ rest, fun tree found => absurd found (pending stack tree)⟩
  | collapse stack =>
    exact ⟨trivial, fun tree found => absurd found (pending stack tree)⟩
  | fail | leftover =>
    obtain ⟨failure, same⟩ := fail_eq before _ _
    rw [same]
    exact ⟨covering.stack, covering.result⟩

theorem covering_goal : Covering tokens (machine.pushGoal goal (.initial tokens)).after :=
  pushGoal_cases (fun _ => ⟨trivial, nofun⟩) fun _ => ⟨⟨rfl, nofun, trivial⟩, nofun⟩

theorem Reached.covering {state : State} (known : machine.Knows goal)
    (reached : machine.Reached tokens goal state) : Covering tokens state :=
  reached.invariant known covering_goal Covering.turn

end Machine

end Descent
