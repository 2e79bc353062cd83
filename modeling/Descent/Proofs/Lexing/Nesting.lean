import Descent.Proofs.Lexing.Operations

/-! What holds of the reader at every place of a pattern.

Brackets are closed in the order that is the other way round, and a group is numbered when it is
opened. So at the end of a pattern everything is as it was at its beginning, but for what was read.
-/

set_option autoImplicit false

namespace Descent

def Bracket.around (mark : Option Nat) : Bracket → Option Nat
  | look _ _ outer => outer
  | _ => mark

namespace Reader

/-- Groups that are open, the innermost first, up to the pattern itself. -/
inductive Nested : Option Nat → List Level → Prop where
  | text {level : Level} (bracket : level.bracket = .text) (flags : level.flags = .cleared) :
      Nested none [level]
  | inside {mark : Option Nat} {level : Level} {outer : List Level}
      (around : Nested (level.bracket.around mark) outer) : Nested mark (level :: outer)

structure Sound (reader : Reader) : Prop where
  nested : Nested reader.mark (reader.level :: reader.outer)
  begun : 0 < reader.next
  names : ∀ entry ∈ reader.names, entry.2 < reader.next
  widths : ∀ entry ∈ reader.widths, entry.1 < reader.next
  opened : ∀ level ∈ reader.level :: reader.outer, ∀ index,
    level.bracket = .capturing index → index < reader.next

variable {reader reader' : Reader} {level : Level} {outer : List Level} {mark : Option Nat}

theorem Nested.ne_nil {levels : List Level} (nested : Nested mark levels) : levels ≠ [] := by
  cases nested <;> exact List.cons_ne_nil _ _

theorem Nested.fill (nested : Nested mark (level :: outer)) {level' : Level}
    (bracket : level'.bracket = level.bracket) (flags : level'.flags = level.flags) :
    Nested mark (level' :: outer) := by
  cases nested with
  | text text cleared => exact .text (bracket.trans text) (flags.trans cleared)
  | inside around =>
    rw [← bracket] at around
    exact .inside around

theorem Nested.pop (nested : Nested mark (level :: outer)) (open_ : outer ≠ []) :
    Nested (level.bracket.around mark) outer := by
  cases nested with
  | text => exact absurd rfl open_
  | inside around => exact around

theorem Nested.alone (nested : Nested mark [level]) :
    level.bracket = .text ∧ level.flags = .cleared ∧ mark = none := by
  cases nested with
  | text bracket flags => exact ⟨bracket, flags, rfl⟩
  | inside around => exact absurd rfl around.ne_nil

theorem sound_initial : initial.Sound :=
  ⟨.text rfl rfl, Nat.one_pos, nofun, nofun, fun level member index capturing => by
    cases List.mem_singleton.mp member
    cases capturing⟩

theorem Sound.fill (sound : reader.Sound) {level : Level}
    (bracket : level.bracket = reader.level.bracket) (flags : level.flags = reader.level.flags) :
    Sound { reader with level := level } := by
  refine ⟨sound.nested.fill bracket flags, sound.begun, sound.names, sound.widths, ?_⟩
  intro other member index capturing
  rcases List.mem_cons.mp member with rfl | member
  · exact sound.opened reader.level List.mem_cons_self index (bracket.symm.trans capturing)
  · exact sound.opened other (List.mem_cons_of_mem _ member) index capturing

theorem Sound.add (sound : reader.Sound) (pattern : Pattern) (role : Role) :
    (reader.add pattern role).Sound := sound.fill rfl rfl

theorem Sound.enter (sound : reader.Sound) {bracket : Bracket} {flags : Flags} {mark : Option Nat}
    {promised : Nat} (around : bracket.around mark = reader.mark)
    (plain : ∀ index, bracket ≠ .capturing index) :
    Sound { reader.enter bracket flags with
      mark := mark
      promised := promised } := by
  have nested := sound.nested
  rw [← around] at nested
  refine ⟨.inside nested, sound.begun, sound.names, sound.widths, ?_⟩
  intro other member index capturing
  rcases List.mem_cons.mp member with rfl | member
  · exact absurd capturing (plain index)
  · exact sound.opened other member index capturing

theorem Sound.capture (sound : reader.Sound) {name : Option String}
    (opens : reader.openCapturing name = .ok reader') : reader'.Sound := by
  have opened (names : List (String × Nat))
      (known : ∀ entry ∈ names, entry.2 < reader.next + 1) :
      Sound { reader.enter (.capturing reader.next) reader.level.flags with
        next := reader.next + 1
        names := names } := by
    refine ⟨.inside sound.nested, Nat.succ_pos _, known, fun entry member =>
      Nat.lt_succ_of_lt (sound.widths entry member), ?_⟩
    intro other member index capturing
    rcases List.mem_cons.mp member with rfl | member
    · cases capturing
      exact Nat.lt_succ_self _
    · exact Nat.lt_succ_of_lt (sound.opened other member index capturing)
  have old : ∀ entry ∈ reader.names, entry.2 < reader.next + 1 := fun entry member =>
    Nat.lt_succ_of_lt (sound.names entry member)
  cases name with
  | none =>
    cases opens
    exact opened reader.names old
  | some name =>
    unfold openCapturing at opens
    dsimp only at opens
    split at opens
    · cases opens
    · cases opens
      -- The name that is given here is for the group that is opened here.
      refine opened _ fun entry member => ?_
      rcases List.mem_append.mp member with member | member
      · exact old entry member
      · cases List.mem_singleton.mp member
        exact Nat.lt_succ_self _

theorem repeatLast_ok {repetition : Pattern → Pattern} {level level' : Level}
    (repeated : level.repeatLast repetition = .ok level') :
    level'.bracket = level.bracket ∧ level'.flags = level.flags := by
  obtain ⟨bracket, flags, finished, items⟩ := level
  match items with
  | [] => cases repeated
  | ⟨_, .place⟩ :: _ => cases repeated
  | ⟨_, .repetition⟩ :: _ => cases repeated
  | ⟨_, .other⟩ :: _ =>
    cases repeated
    exact ⟨rfl, rfl⟩

theorem refer_ok {index : Nat} (refers : reader.refer index = .ok reader') :
    reader' = reader.add (.reference index reader.level.flags.rules) .other := by
  unfold refer at refers
  split at refers
  · cases refers
  · split at refers
    · cases refers
    · split at refers
      · cases refers
      · cases refers
        rfl

theorem referName_ok {name : String} (refers : reader.referName name = .ok reader') :
    ∃ index, reader' = reader.add (.reference index reader.level.flags.rules) .other := by
  unfold referName at refers
  split at refers
  · exact ⟨_, refer_ok refers⟩
  · cases refers

theorem openConditional_ok {group : Pieces.GroupRef}
    (opens : reader.openConditional group = .ok reader') :
    ∃ index promised, reader' =
      { reader.enter (.conditional index) reader.level.flags with promised := promised } := by
  have depends {reader' last : Reader} {index : Nat} (depends : reader'.depend index = .ok last) :
      last = reader'.enter (.conditional index) reader'.level.flags := by
    unfold depend at depends
    split at depends
    · cases depends
    · split at depends
      · cases depends
      · cases depends
        rfl
  unfold openConditional at opens
  split at opens
  · split at opens
    · cases opens
    · have same := depends opens
      exact ⟨_, _, same⟩
  · split at opens
    · have same := depends opens
      exact ⟨_, reader.promised, same⟩
    · cases opens

theorem close_ok (closes : reader.close = .ok reader') :
    ∃ level outer pattern widths, reader.outer = level :: outer ∧
      (widths = reader.widths ∨ ∃ index width,
        reader.level.bracket = .capturing index ∧ widths = (index, width) :: reader.widths) ∧
      reader.level.bracket ≠ .text ∧
      reader' = { reader with
        level := level.add pattern .other
        outer := outer
        widths := widths
        mark := reader.level.bracket.around reader.mark } := by
  unfold close at closes
  cases held : reader.outer with
  | nil =>
    rw [held] at closes
    cases closes
  | cons level outer =>
    rw [held] at closes
    cases opened : reader.level.bracket with
    | text =>
      rw [opened] at closes
      cases closes
    | plain | atomic =>
      rw [opened] at closes
      cases closes
      exact ⟨level, outer, _, _, rfl, .inl rfl, nofun, rfl⟩
    | capturing index =>
      rw [opened] at closes
      cases closes
      exact ⟨level, outer, _, _, rfl, .inr ⟨_, _, rfl, rfl⟩, nofun, rfl⟩
    | look behind negated mark =>
      rw [opened] at closes
      dsimp only at closes
      split at closes
      · split at closes
        · cases closes
          exact ⟨level, outer, _, _, rfl, .inl rfl, nofun, rfl⟩
        · cases closes
      · cases closes
        exact ⟨level, outer, _, _, rfl, .inl rfl, nofun, rfl⟩
    | conditional index =>
      rw [opened] at closes
      dsimp only at closes
      split at closes
      · cases closes
        exact ⟨level, outer, _, _, rfl, .inl rfl, nofun, rfl⟩
      · cases closes
        exact ⟨level, outer, _, _, rfl, .inl rfl, nofun, rfl⟩
      · cases closes

theorem Sound.close (sound : reader.Sound) (closes : reader.close = .ok reader') :
    reader'.Sound := by
  obtain ⟨level, outer, pattern, widths, held, closed, _, rfl⟩ := close_ok closes
  have nested := sound.nested
  rw [held] at nested
  have around := nested.pop (List.cons_ne_nil _ _)
  have opened := sound.opened
  rw [held] at opened
  refine ⟨around.fill rfl rfl, sound.begun, sound.names, ?_, ?_⟩
  · intro entry member
    rcases closed with rfl | ⟨index, width, capturing, rfl⟩
    · exact sound.widths entry member
    · rcases List.mem_cons.mp member with rfl | member
      · exact opened _ List.mem_cons_self index capturing
      · exact sound.widths entry member
  · intro other member index capturing
    rcases List.mem_cons.mp member with rfl | member
    · exact opened level (List.mem_cons_of_mem _ List.mem_cons_self) index capturing
    · exact opened other (List.mem_cons_of_mem _ (List.mem_cons_of_mem _ member)) index capturing

theorem Sound.apply (sound : reader.Sound) {operation : Operation}
    (applies : operation.apply reader = .ok reader') : reader'.Sound := by
  cases operation with
  | skip =>
    cases applies
    exact sound
  | test | place =>
    cases applies
    exact sound.add _ _
  | bar =>
    cases applies
    exact sound.fill rfl rfl
  | again count lazy atomic =>
    dsimp only [Operation.apply] at applies
    cases repeated : reader.level.repeatLast (Operation.repetition count lazy atomic) with
    | error error =>
      rw [repeated] at applies
      cases applies
    | ok level =>
      rw [repeated] at applies
      cases applies
      obtain ⟨bracket, flags⟩ := repeatLast_ok repeated
      exact sound.fill bracket flags
  | enter atomic flags =>
    cases applies
    cases atomic <;> exact sound.enter rfl nofun
  | capture name => exact sound.capture applies
  | look behind negated =>
    cases applies
    cases behind <;> exact sound.enter rfl nofun
  | refer index =>
    cases refer_ok applies
    exact sound.add _ _
  | referName name =>
    obtain ⟨_, rfl⟩ := referName_ok applies
    exact sound.add _ _
  | conditional group =>
    obtain ⟨_, _, rfl⟩ := openConditional_ok applies
    exact sound.enter rfl nofun
  | close => exact sound.close applies

end Reader

end Descent
