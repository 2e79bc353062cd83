import Descent.Proofs.Brackets
import Descent.Proofs.Edits

/-! Whose markers there are, whatever was done to the machine before.

Every marker is that of a frame on the stack or of a frame that was dropped, and of one
frame only. This holds of all operations from outside, in any order, and of nonterminals
and origins that no grammar would call for.
-/

set_option autoImplicit false

namespace Descent

namespace Machine

/-- The markers are those of the frames on the stack and of the dropped ones, and none was missing. -/
structure Booked (ledger : Ledger) : Prop where
  keyed : Keyed ledger.state.stack
  markers : ledger.state.markers.Perm (ledger.state.stack.map Frame.marker ++ ledger.dropped)
  distinct : ledger.state.markers.Nodup
  found : ledger.missed = false

/-- What the markers of a state are, and what follows for the operations on it. -/
structure Accounted (machine : Machine) (state : State) (dropped : List Marker) : Prop where
  key : ∀ above frame below, state.stack = above ++ frame :: below →
    frame.marker = ⟨frame.symbol, frame.start, below.map Frame.symbol⟩
  distinct : (state.stack.map Frame.marker).Nodup
  held : ∀ frame ∈ state.stack, frame.marker ∈ state.markers
  others : ∀ marker, marker ∈ state.markers ∧ marker ∉ state.stack.map Frame.marker ↔
    marker ∈ dropped
  pops : ∀ frame below, state.stack = frame :: below → (pop state).result = .ok frame
  found : ∀ operation, (machine.operate state operation).result ≠ .error .missingMarker
  refuses : ∀ symbol origin, (machine.push symbol origin state).result = .ok false ↔
    state.marker symbol ∈ dropped
  runs : ∀ accepted, (machine.run state).result = .ok accepted →
    (machine.run state).after.stack = [] ∧
      (dropped = [] → (machine.run state).after.markers = [])

section Booked

variable {machine : Machine} {ledger after : Ledger} {frame : Frame} {below : List Frame}

theorem Booked.held (booked : Booked ledger) (stack : ledger.state.stack = frame :: below) :
    frame.marker ∈ ledger.state.markers := by
  rw [booked.markers.mem_iff, stack]
  simp

/-- A marker that is about to be taken belongs to no frame on the stack. -/
theorem Booked.marker_mem_iff (booked : Booked ledger) (symbol : String) :
    ledger.state.marker symbol ∈ ledger.state.markers ↔
      ledger.state.marker symbol ∈ ledger.dropped := by
  have absent : ledger.state.marker symbol ∉ ledger.state.stack.map Frame.marker := by
    intro member
    obtain ⟨held, inStack, same⟩ := List.mem_map.mp member
    have short := booked.keyed.context_length_lt held inStack
    rw [same] at short
    simp [State.marker] at short
  rw [booked.markers.mem_iff, List.mem_append]
  simp [absent]

theorem Booked.pop (booked : Booked ledger) (stack : ledger.state.stack = frame :: below) :
    Booked { ledger with state := popped ledger.state frame below } := by
  obtain ⟨keyed, markers, distinct, found⟩ := booked
  rw [stack] at keyed markers
  refine ⟨keyed.2, ?_, distinct.erase _, found⟩
  simpa [popped] using markers.erase frame.marker

theorem Edit.booked (edit : machine.Edit ledger after) (booked : Booked ledger) : Booked after := by
  obtain ⟨keyed, markers, distinct, found⟩ := id booked
  cases edit with
  | fail symbols expected =>
    obtain ⟨failure, same⟩ := fail_eq ledger.state symbols expected
    rw [same]
    exact ⟨keyed, markers, distinct, found⟩
  | hold stack alike kept =>
    rw [stack] at keyed markers
    refine ⟨⟨?_, keyed.2⟩, ?_, distinct, found⟩
    · rw [alike.marker, alike.symbol, alike.start]
      exact keyed.1
    · rw [List.map_cons, ← alike.marker] at markers
      exact markers
  | select stack | shift stack =>
    rw [stack] at keyed markers
    exact ⟨⟨keyed.1, keyed.2⟩, markers, distinct, found⟩
  | push origin free room =>
    exact ⟨⟨rfl, keyed⟩, markers.cons _, List.nodup_cons.mpr ⟨free, distinct⟩, found⟩
  | pop stack => exact booked.pop stack
  | drop stack =>
    rw [stack] at keyed markers
    exact ⟨keyed.2, markers.trans List.perm_middle.symm, distinct, found⟩
  | miss stack absent => exact absurd (booked.held stack) absent

theorem Change.booked (change : machine.Change ledger after) (booked : Booked ledger) :
    Booked after := by
  cases change with
  | edit edit => exact edit.booked booked
  | finish alone =>
    obtain ⟨keyed, markers, distinct, found⟩ := booked.pop alone
    exact ⟨keyed, markers, distinct, found⟩

theorem Booked.operate (booked : Booked ledger) (operation : Operation)
    (resumes : ∀ tokens, operation ≠ .install tokens) :
    Booked (ledger.operate machine operation) :=
  (machine.operate_changes ledger resumes).keep Change.booked booked

theorem not_missing {α : Type} {result : Except Fault α} (found : misses result = false) :
    result ≠ .error .missingMarker := by
  rintro rfl
  cases found

end Booked

section Emptied

variable {machine : Machine} {state : State}

theorem unwind_lost {frames : List Frame}
    (lost : (machine.unwind state frames).result = .ok false) :
    (machine.unwind state frames).after.stack = [] := by
  induction frames generalizing state with
  | nil => rfl
  | cons frame below ih =>
    unfold unwind at lost ⊢
    cases known : machine.grammar.productionsOf frame.symbol with
    | error unknown =>
      rw [known] at lost
      cases lost
    | ok productions =>
      simp only [known] at lost ⊢
      by_cases more : decide (frame.start < state.cursor) = false ∧
          frame.nextProduction < productions.length
      · rw [if_pos more] at lost
        cases lost
      · rw [if_neg more] at lost ⊢
        by_cases held : frame.marker ∈ state.markers
        · rw [if_pos held] at lost ⊢
          by_cases absent : frame.origin.tentative = true ∧
              decide (frame.start < state.cursor) = false
          · rw [if_pos absent] at lost
            split at lost <;> cases lost
          · rw [if_neg absent] at lost ⊢
            exact ih lost
        · rw [if_neg held] at lost
          cases lost

theorem round_lost (lost : (machine.round state).result = .ok false) :
    (machine.round state).after.stack = [] := by
  obtain ⟨_, dropped, after⟩ := backtrack_of_round lost
  rw [← after]
  exact unwind_lost dropped

theorem ending_emptied (ended : (machine.ending state).1 = .ok ()) :
    (machine.ending state).2.stack = [] := by
  induction state using machine.ending_induct with
  | empty state stack same =>
    rw [same]
    exact stack
  | again state _ _ same ih =>
    rw [same] at ended ⊢
    exact ih ended
  | last state _ lost same =>
    rw [same]
    exact round_lost lost
  | broken state fault _ _ same =>
    rw [same] at ended
    cases ended

theorem run_emptied {accepted : Bool} (answered : (machine.run state).result = .ok accepted) :
    (machine.run state).after.stack = [] := by
  cases installed : state.tokens with
  | none =>
    unfold run at answered
    rw [installed] at answered
    cases answered
  | some tokens =>
    obtain ⟨result, after⟩ := machine.run_ending installed
    rw [result] at answered
    rw [after]
    cases ended : machine.ending state with
    | mk outcome final =>
      rw [ended] at answered
      cases outcome with
      | error fault => cases answered
      | ok =>
        have emptied := ending_emptied (congrArg Prod.fst ended)
        rw [ended] at emptied
        dsimp only [verdict]
        split
        · exact emptied
        · split
          · rename_i tree _ _
            obtain ⟨failure, same⟩ := fail_eq final [tree.name] [.endOfInput]
            rw [same]
            exact emptied
          · exact emptied

end Emptied

section Accounted

variable {machine : Machine} {ledger : Ledger}

theorem Booked.accounted (booked : Booked ledger) :
    machine.Accounted ledger.state ledger.dropped where
  key above frame below stack := by
    have keyed := booked.keyed
    rw [stack] at keyed
    clear stack
    induction above with
    | nil => exact keyed.1
    | cons _ above ih => exact ih keyed.2
  distinct := (List.nodup_append.mp (booked.markers.nodup_iff.mp booked.distinct)).1
  held frame member := by
    rw [booked.markers.mem_iff]
    exact List.mem_append_left _ (List.mem_map_of_mem member)
  others marker := by
    have apart := (List.nodup_append.mp (booked.markers.nodup_iff.mp booked.distinct)).2.2
    rw [booked.markers.mem_iff, List.mem_append]
    constructor
    · rintro ⟨onStack | left, absent⟩
      · exact absurd onStack absent
      · exact left
    · exact fun left => ⟨.inr left, fun onStack => apart marker onStack marker left rfl⟩
  pops frame below stack := by
    unfold Machine.pop
    simp only [stack, if_pos (booked.held stack)]
    rfl
  found operation := by
    by_cases resumes : ∀ tokens, operation ≠ .install tokens
    · exact not_missing (Bool.or_eq_false_iff.mp (booked.operate operation resumes).found).1
    · push Not at resumes
      obtain ⟨tokens, rfl⟩ := resumes
      exact nofun
  refuses symbol origin := push_refused.trans (booked.marker_mem_iff symbol)
  runs accepted answered := by
    have emptied := run_emptied answered
    refine ⟨emptied, fun nothing => ?_⟩
    have markers : (machine.run ledger.state).after.markers.Perm
        ((machine.run ledger.state).after.stack.map Frame.marker ++ ledger.dropped) :=
      (booked.operate .run nofun).markers
    rw [emptied, nothing] at markers
    exact markers.eq_nil

end Accounted

/-- Whatever was done to the machine, the markers are those of the frames on the stack, by
what they are and where they lie, and those of the frames that were dropped. -/
theorem history_accounted (machine : Machine) (history : List Operation) :
    machine.Accounted (machine.after history) (machine.dropped history) := by
  have blank {state : State} (stack : state.stack = []) (markers : state.markers = []) :
      Booked ⟨state, [], [], false⟩ := by
    refine ⟨?_, ?_, ?_, rfl⟩ <;> simp [stack, markers, Keyed]
  obtain ⟨_, booked⟩ := machine.history_keep (blank rfl rfl) (fun _ => blank rfl rfl)
    Change.booked history
  exact booked.accounted

/-- A frame that was dropped stands in the way of the same frame, until there are new tokens. -/
example :
    let machine := Brackets.machine 3
    let tokens := Brackets.tokens ["a", "b"]
    let lost : List Operation := [.drop, .pushGoal "S", .install tokens]
    (machine.push "S" .goal (machine.after lost)).result = .ok false ∧
      (machine.push "S" .goal (machine.after (.install tokens :: lost))).result = .ok true :=
  ⟨rfl, rfl⟩

end Machine

end Descent
