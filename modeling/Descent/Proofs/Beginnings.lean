import Mathlib
import Descent.Proofs.Brackets
import Descent.Proofs.Growth
import Descent.Proofs.Opening.Productions

/-! What is built begins as its nonterminal can begin.

Openings are found from the grammar alone, while the machine repeats slots and passes over
optional ones. Still the first token of a tree or of a frame is one that the nonterminal can
begin with, and a tree without tokens is one of a nonterminal that is nullable.
-/

set_option autoImplicit false

namespace Descent

structure Opening.Covers (opening : Opening) (tokens : List Token) (start stop : Nat) : Prop where
  empty : start = stop → opening.nullable = true
  begins : start ≠ stop →
    ∃ token, tokens[start]? = some token ∧ opening.first.accepts token = true

/-- Every branch covers no token and has a nullable nonterminal, or has a token that the
nonterminal could start with. -/
inductive Opened (grammar : Grammar) (tokens : List Token) : Tree → Prop where
  | leaf {kind lexeme : String} {start stop : Nat} :
      Opened grammar tokens (.leaf kind lexeme start stop)
  | branch {name : String} {start stop : Nat} {children : List Tree}
      (empty : start = stop → grammar.nullable name = .ok true)
      (begins : start ≠ stop → ∃ token, tokens[start]? = some token ∧
        grammar.couldStartWith name token = .ok true)
      (inner : ∀ child ∈ children, Opened grammar tokens child) :
      Opened grammar tokens (.branch name start stop children)

namespace Grammar

/-- The elements can begin with the token, after some that need none. -/
def Begins (grammar : Grammar) (token : Token) (elements : List Element) : Prop :=
  ∃ front element rest, elements = front ++ element :: rest ∧ grammar.Vanishes front ∧
    (grammar.openings.ofElement element).first.accepts token = true

end Grammar

section Trees

variable {grammar : Grammar} {tokens : List Token} {name : String} {start stop : Nat}

theorem Grammar.Begins.accepts {elements : List Element} {token : Token}
    (begins : grammar.Begins token elements) (listed : grammar.Lists name elements) :
    (grammar.opening name).first.accepts token = true := by
  obtain ⟨front, element, rest, rfl, vanishes, accepted⟩ := begins
  exact accepts_of_vanishes listed vanishes accepted

theorem Grammar.Begins.append {elements : List Element} {token : Token}
    (begins : grammar.Begins token elements) (more : List Element) :
    grammar.Begins token (elements ++ more) := by
  obtain ⟨front, element, rest, rfl, vanishes, accepted⟩ := begins
  exact ⟨front, element, rest ++ more, by simp, vanishes, accepted⟩

theorem Opened.covers {children : List Tree}
    (opened : Opened grammar tokens (.branch name start stop children)) :
    (grammar.opening name).Covers tokens start stop := by
  cases opened with
  | branch empty begins _ =>
    refine ⟨fun same => (Grammar.nullable_eq_ok.mp (empty same)).2, fun apart => ?_⟩
    obtain ⟨token, there, could⟩ := begins apart
    exact ⟨token, there, (Grammar.couldStartWith_eq_ok.mp could).2⟩

theorem Opening.Covers.opened {children : List Tree} (known : grammar.Knows name)
    (covers : (grammar.opening name).Covers tokens start stop)
    (inner : ∀ child ∈ children, Opened grammar tokens child) :
    Opened grammar tokens (.branch name start stop children) := by
  refine .branch (fun same => ?_) (fun apart => ?_) inner
  · exact Grammar.nullable_eq_ok.mpr ⟨known, covers.empty same⟩
  · obtain ⟨token, there, accepted⟩ := covers.begins apart
    exact ⟨token, there, Grammar.couldStartWith_eq_ok.mpr ⟨known, accepted⟩⟩

theorem Suits.covers {element : Element} {group : List Tree} (suits : Suits tokens element group)
    (tiles : Tiles start group stop) (opened : ∀ tree ∈ group, Opened grammar tokens tree) :
    (grammar.openings.ofElement element).Covers tokens start stop := by
  have leaf {terminal : Terminal} {position : Nat} {token : Token}
      (there : tokens[position]? = some token) (accepted : terminal.accepts token = true)
      (same : group = [.leaf token.kind token.lexeme position (position + 1)]) :
      start ≠ stop ∧ ∃ token, tokens[start]? = some token ∧
        (TerminalSet.single terminal).accepts token = true := by
    subst same
    obtain ⟨rfl, rfl⟩ := tiles
    exact ⟨Nat.ne_of_lt (Nat.lt_succ_self _), token, there, by simpa using accepted⟩
  have nothing (empty : group = []) : start = stop := by
    subst empty
    exact tiles
  rcases element with (terminal | symbol) | (_ | terminal | symbol)
  · obtain ⟨position, token, there, accepted, same⟩ := suits
    obtain ⟨apart, begins⟩ := leaf there accepted same
    exact ⟨fun same => absurd same apart, fun _ => begins⟩
  · obtain ⟨filled, branches, several⟩ := suits
    obtain ⟨tree, rest, rfl⟩ := List.exists_cons_of_ne_nil filled
    obtain ⟨_, _, _, rfl⟩ := branches tree List.mem_cons_self
    have covers := (opened _ List.mem_cons_self).covers
    obtain ⟨rfl, tiles⟩ := tiles
    cases rest with
    | nil =>
      cases tiles
      exact covers
    | cons next rest =>
      -- Trees of a repetition are never empty, so that the first of them has a token.
      have moved := several (by simp)
      have first := moved _ List.mem_cons_self
      have reach := tiles.le fun tree member => (moved tree (List.mem_cons_of_mem _ member)).le
      exact ⟨fun same => absurd same (Nat.ne_of_lt (Nat.lt_of_lt_of_le first reach)),
        fun _ => covers.begins (Nat.ne_of_lt first)⟩
  · exact ⟨fun _ => rfl, fun apart => absurd (nothing suits) apart⟩
  · refine ⟨fun _ => rfl, fun apart => ?_⟩
    rcases suits with empty | ⟨position, token, there, accepted, same⟩
    · exact absurd (nothing empty) apart
    · exact (leaf there accepted same).2
  · refine ⟨fun _ => rfl, fun apart => ?_⟩
    rcases suits with empty | ⟨tree, rfl, _, _, _, rfl⟩
    · exact absurd (nothing empty) apart
    · obtain ⟨rfl, rfl⟩ := tiles
      exact (opened _ (List.mem_singleton_self _)).covers.begins apart

theorem covers_of_suits {elements : List Element} {groups : List (List Tree)}
    (suits : List.Forall₂ (Suits tokens) elements groups)
    (tiles : Tiles start groups.flatten stop)
    (forward : ∀ tree ∈ groups.flatten, tree.start ≤ tree.stop)
    (opened : ∀ tree ∈ groups.flatten, Opened grammar tokens tree) :
    (start = stop → grammar.Vanishes elements) ∧
      (start ≠ stop → ∃ token, tokens[start]? = some token ∧ grammar.Begins token elements) := by
  -- Along the elements, up to the first whose group has a token.
  induction suits generalizing start with
  | nil => exact ⟨fun _ => nofun, fun apart => absurd tiles apart⟩
  | @cons element group elements groups suit _ ih =>
    rw [List.flatten_cons] at tiles forward opened
    obtain ⟨middle, front, back⟩ := tiles_append.mp tiles
    obtain ⟨ahead, later⟩ := List.forall_mem_append.mp forward
    obtain ⟨own, others⟩ := List.forall_mem_append.mp opened
    have covers := suit.covers front own
    obtain ⟨vanishes, begins⟩ := ih back later others
    constructor
    · rintro rfl
      have same : start = middle := Nat.le_antisymm (front.le ahead) (back.le later)
      exact Grammar.vanishes_cons.mpr ⟨covers.empty same, vanishes same.symm⟩
    · intro apart
      by_cases same : start = middle
      · subst same
        obtain ⟨token, there, before, other, rest, rfl, skipped, accepted⟩ := begins apart
        exact ⟨token, there, element :: before, other, rest, rfl,
          Grammar.vanishes_cons.mpr ⟨covers.empty rfl, skipped⟩, accepted⟩
      · obtain ⟨token, there, accepted⟩ := covers.begins same
        exact ⟨token, there, [], element, elements, rfl, nofun, accepted⟩

/-- A derivation tree begins as its nonterminal can begin, and so does every tree in it. -/
theorem Derivation.opened {tree : Tree} (derivation : Derivation grammar tokens tree)
    (tiled : Tiled tokens tree) : Opened grammar tokens tree := by
  induction derivation with
  | leaf => exact .leaf
  | branch listed suits _ ih =>
    cases tiled with
    | branch tiles tiled =>
      have inner := fun child member => ih child member (tiled child member)
      obtain ⟨vanishes, begins⟩ :=
        covers_of_suits suits tiles (fun child member => (tiled child member).le) inner
      refine Opening.Covers.opened (Grammar.knows_of_lists listed) ⟨fun same => ?_, fun apart => ?_⟩
        inner
      · exact Grammar.nullable_iff_vanishes.mpr ⟨_, listed, vanishes same⟩
      · obtain ⟨token, there, begins⟩ := begins apart
        exact ⟨token, there, begins.accepts listed⟩

end Trees

namespace Machine

/-- If the frame has moved, its nonterminal can begin with the token where it began. -/
def Led (machine : Machine) (tokens : List Token) (cursor : Nat) (frame : Frame) : Prop :=
  frame.start < cursor → ∃ token, tokens[frame.start]? = some token ∧
    (machine.grammar.opening frame.symbol).first.accepts token = true

/-- If the frame has moved, its production can begin with the token where it began. -/
def Started (machine : Machine) (tokens : List Token) (cursor : Nat) (frame : Frame) : Prop :=
  frame.start < cursor → ∃ production token, machine.current? frame = some production ∧
    tokens[frame.start]? = some token ∧ machine.grammar.Begins token production

def Bears (machine : Machine) (tokens : List Token) (frame : Frame) : Prop :=
  ∀ child ∈ frame.children, child.start ≤ child.stop ∧ Opened machine.grammar tokens child

section Frames

variable {machine : Machine} {tokens : List Token} {goal : String} {frame parent child : Frame}
  {passed reach cursor : Nat}

theorem Started.led (started : machine.Started tokens cursor frame) :
    machine.Led tokens cursor frame := by
  intro moved
  obtain ⟨production, token, current, there, begins⟩ := started moved
  exact ⟨token, there, begins.accepts (lists_of_mem_table (current?_mem current))⟩

theorem Grown.covers (grown : machine.Grown tokens frame passed [])
    (tiles : Tiles frame.start frame.children reach) (bears : machine.Bears tokens frame) :
    ∃ production, machine.current? frame = some production ∧
      (frame.start = reach → machine.grammar.Vanishes (production.take passed)) ∧
      (frame.start ≠ reach → ∃ token, tokens[frame.start]? = some token ∧
        machine.grammar.Begins token production) := by
  obtain ⟨production, groups, current, suits, children⟩ := grown
  rw [List.append_nil] at children
  unfold Bears at bears
  rw [children] at tiles bears
  obtain ⟨vanishes, begins⟩ := covers_of_suits suits tiles
    (fun child member => (bears child member).1) fun child member => (bears child member).2
  refine ⟨production, current, vanishes, fun apart => ?_⟩
  obtain ⟨token, there, begins⟩ := begins apart
  have whole := begins.append (production.drop passed)
  rw [List.take_append_drop] at whole
  exact ⟨token, there, whole⟩

theorem Ready.grown {depth : Nat} (ready : machine.Ready tokens depth frame)
    (selected : frame.production ≠ none) : ∃ passed, machine.Grown tokens frame passed [] := by
  have close {symbol : NonTerminal} {current : List Tree}
      (slot : machine.element? frame = some (.required (.nonTerminal symbol)))
      (grown : machine.Grown tokens frame frame.element current)
      (suits : Suits tokens (.required (.nonTerminal symbol)) current) :
      ∃ passed, machine.Grown tokens frame passed [] := by
    obtain ⟨production, chosen, found⟩ := element?_eq_some slot
    exact ⟨_, grown.close chosen found suits⟩
  cases ready with
  | blank unselected => exact absurd unselected selected
  | free _ grown => exact ⟨_, grown⟩
  | full _ slot grown repeated | repeating _ slot grown repeated =>
    exact close slot grown (repeated.suits tokens)
  | settled _ slot grown suits => exact close slot grown suits

theorem Awaits.grown (awaits : machine.Awaits tokens child parent)
    (calls : machine.Calls parent child) :
    ∃ passed, machine.Grown tokens parent passed [] ∧ (parent.start = child.start →
      ∃ production element, machine.current? parent = some production ∧
        production[passed]? = some element ∧
        (machine.grammar.openings.ofElement element).first =
          (machine.grammar.opening child.symbol).first) := by
  cases awaits with
  | expand origin grown =>
    obtain ⟨symbol, name, slot⟩ := calls.required (by rw [origin]; nofun)
    obtain ⟨production, chosen, found⟩ := element?_eq_some slot
    exact ⟨_, grown, fun _ => ⟨production, _, chosen, found, by rw [← name]; rfl⟩⟩
  | again origin grown repeated =>
    obtain ⟨symbol, name, slot⟩ := calls.required (by rw [origin]; nofun)
    obtain ⟨production, chosen, found⟩ := element?_eq_some slot
    rw [← name] at repeated
    refine ⟨_, grown.close chosen found (repeated.suits tokens), fun same => ?_⟩
    cases calls with
    | expand _ _ other | optional _ _ _ _ other =>
      rw [origin] at other
      cases other
    | again _ _ _ later => exact absurd same (Nat.ne_of_lt later)
  | optional origin passes grown =>
    obtain ⟨symbol, production, index, name, chosen, found, same⟩ := calls.optional_passed origin
    obtain rfl := Nat.succ.inj (same.symm.trans passes)
    exact ⟨_, grown, fun _ => ⟨production, _, chosen, found, by rw [← name]; rfl⟩⟩

theorem Led.lower (led : machine.Led tokens cursor child)
    (awaits : machine.Awaits tokens child parent) (calls : machine.Calls parent child)
    (tiles : Tiles parent.start parent.children child.start)
    (bears : machine.Bears tokens parent) : machine.Started tokens cursor parent := by
  intro moved
  obtain ⟨passed, grown, slot⟩ := awaits.grown calls
  obtain ⟨production, current, vanishes, begins⟩ := grown.covers tiles bears
  by_cases same : parent.start = child.start
  · obtain ⟨other, element, also, found, first⟩ := slot same
    obtain rfl : other = production := Option.some.inj (also.symm.trans current)
    obtain ⟨token, there, accepted⟩ := led (same ▸ moved)
    rw [← first] at accepted
    rw [← same] at there
    obtain ⟨inside, rfl⟩ := List.getElem?_eq_some_iff.mp found
    have split : other = other.take passed ++ other[passed] :: other.drop (passed + 1) := by
      rw [← List.drop_eq_getElem_cons inside, List.take_append_drop]
    exact ⟨other, token, current, there, _, _, _, split, vanishes same, accepted⟩
  · obtain ⟨token, there, begins⟩ := begins same
    exact ⟨production, token, current, there, begins⟩

theorem Started.below {below : List Frame} (started : machine.Started tokens cursor child)
    (tower : machine.Tower goal (child :: below))
    (waiting : (child :: below).IsChain (machine.Awaits tokens))
    (covered : Covered tokens reach (child :: below))
    (bears : ∀ frame ∈ child :: below, machine.Bears tokens frame) :
    ∀ frame ∈ child :: below, machine.Started tokens cursor frame := by
  induction below generalizing child reach with
  | nil => exact List.forall_mem_singleton.mpr started
  | cons parent rest ih =>
    obtain ⟨awaits, waiting⟩ := List.isChain_cons_cons.mp waiting
    obtain ⟨_, _, covered⟩ := covered
    obtain ⟨_, bears⟩ := List.forall_mem_cons.mp bears
    cases tower with
    | push tower _ calls =>
      have next := started.led.lower awaits calls covered.1 (bears parent List.mem_cons_self)
      exact List.forall_mem_cons.mpr ⟨started, ih next tower waiting covered bears⟩

end Frames

section Reached

variable {machine : Machine} {tokens : List Token} {goal : String} {state : State}

theorem covered_tiled {stack : List Frame} {reach : Nat} (covered : Covered tokens reach stack) :
    ∀ frame ∈ stack, ∀ child ∈ frame.children, Tiled tokens child := by
  induction stack generalizing reach with
  | nil => exact nofun
  | cons frame below ih =>
    obtain ⟨_, tiled, rest⟩ := covered
    exact List.forall_mem_cons.mpr ⟨tiled, ih rest⟩

theorem Growing.bears (growing : machine.Growing tokens goal state)
    (covering : Covering tokens state) :
    ∀ frame ∈ state.stack, machine.Bears tokens frame := by
  intro frame member child among
  have tiled := covered_tiled covering.stack frame member child among
  exact ⟨tiled.le, (growing.derived frame member child among).opened tiled⟩

theorem Standing.started (standing : machine.Standing tokens goal state)
    (growing : machine.Growing tokens goal state) (covering : Covering tokens state) :
    ∀ frame ∈ state.stack, machine.Started tokens state.cursor frame := by
  have bears := growing.bears covering
  cases stack : state.stack with
  | nil => exact nofun
  | cons top below =>
    have covered := covering.stack
    have waiting := growing.waiting
    rw [stack] at bears covered waiting
    refine Started.below (fun moved => ?_) (standing.top_tower stack) waiting covered bears
    -- A frame without a production has not moved.
    have selected : top.production ≠ none := fun unselected =>
      absurd ((standing.top_poised stack).unmoved unselected) (Nat.ne_of_lt moved)
    obtain ⟨passed, grown⟩ := (growing.top_ready stack).grown selected
    obtain ⟨production, current, _, begins⟩ :=
      grown.covers covered.1 (bears top List.mem_cons_self)
    obtain ⟨token, there, begins⟩ := begins (Nat.ne_of_lt moved)
    exact ⟨production, token, current, there, begins⟩

/-- Every frame that has consumed a token, and every tree that was built, agrees with the
openings of the grammar. -/
theorem reached_opened (reached : machine.Reached tokens goal state) :
    (∀ frame ∈ state.stack, frame.start < state.cursor →
      ∃ token, tokens[frame.start]? = some token ∧
        machine.grammar.couldStartWith frame.symbol token = .ok true) ∧
    (∀ frame ∈ state.stack, ∀ tree ∈ frame.children, Opened machine.grammar tokens tree) ∧
    ∀ tree, state.result = some tree → Opened machine.grammar tokens tree := by
  by_cases known : machine.Knows goal
  · have standing := reached.standing known
    have growing := reached.growing known
    have covering := reached.covering known
    refine ⟨fun frame member moved => ?_, fun frame member tree among => ?_, fun tree found => ?_⟩
    · obtain ⟨token, there, accepted⟩ := (standing.started growing covering frame member).led moved
      have upright := standing.tower.upright frame member
      exact ⟨token, there, Grammar.couldStartWith_eq_ok.mpr ⟨upright.known, accepted⟩⟩
    · exact (growing.bears covering frame member tree among).2
    · exact (growing.result tree found).2.opened (covering.result tree found).2.1
  · -- A goal without rules never moves.
    rw [reached.unchanged (inert_goal known)]
    refine pushGoal_cases (fun _ => ⟨nofun, nofun, nofun⟩) fun _ => ⟨?_, ?_, nofun⟩
    · exact List.forall_mem_singleton.mpr fun moved => absurd moved (Nat.lt_irrefl 0)
    · exact List.forall_mem_singleton.mpr nofun

/-- Two brackets are open and a third frame lies above them. Later the inner pair holds an
empty tree. -/
theorem reached_opened_nested :
    let machine := Brackets.machine 3
    let tokens := Brackets.tokens ["a", "a", "b", "b"]
    let goal := (machine.pushGoal "S" (.initial tokens)).after
    let inside := (machine.step (machine.step (machine.step (machine.step goal).after).after).after)
    let inner := Node.branch "S" 1 3
      [.leaf "WORD" "a" 1 2, .branch "S" 2 2 [], .leaf "WORD" "b" 2 3]
    let tree := Node.branch "S" 0 4 [.leaf "WORD" "a" 0 1, inner, .leaf "WORD" "b" 3 4]
    inside.after.stack.map Frame.start = [2, 1, 0] ∧ inside.after.cursor = 2 ∧
      (∀ frame ∈ inside.after.stack, frame.start < inside.after.cursor →
        ∃ token, tokens[frame.start]? = some token ∧
          machine.grammar.couldStartWith frame.symbol token = .ok true) ∧
      (machine.run goal).after.result = some tree ∧ Opened machine.grammar tokens tree := by
  intro machine tokens goal inside inner tree
  have open_ : machine.Reached tokens "S" inside.after := .step (.step (.step (.step .goal)))
  have closed : machine.Reached tokens "S" (machine.run goal).after := .run .goal
  have found : (machine.run goal).after.result = some tree := by cbv
  exact ⟨by cbv, by cbv, (reached_opened open_).1, found, (reached_opened closed).2.2 tree found⟩

end Reached

end Machine

end Descent
