import Mathlib.Logic.Function.Basic
import Descent.Pattern.Matching

/-! The numbers of groups are names.

A pattern with other numbers for its groups matches the same text, and its captures carry the other
numbers. What follows a match may deal with what it gets in its own way.
-/

set_option autoImplicit false

namespace Descent

def Capture.renumber (number : Nat → Nat) (capture : Capture) : Capture :=
  { capture with group := number capture.group }

def Progress.renumber (number : Nat → Nat) (progress : Progress) : Progress :=
  { progress with captures := progress.captures.map (Capture.renumber number) }

def Pattern.renumber (number : Nat → Nat) : Pattern → Pattern
  | empty => empty
  | one test => one test
  | anchor place => anchor place
  | sequence first second => sequence (first.renumber number) (second.renumber number)
  | choice left right => choice (left.renumber number) (right.renumber number)
  | repeated body least most lazy => repeated (body.renumber number) least most lazy
  | group index body => group (number index) (body.renumber number)
  | reference index rules => reference (number index) rules
  | conditional index yes no =>
    conditional (number index) (yes.renumber number) (no.renumber number)
  | look behind negated body => look behind negated (body.renumber number)
  | atomic body => atomic (body.renumber number)

namespace Matching

variable {source : Source} {number : Nat → Nat}

/-- What follows gets a renumbered state, and does with it what the other does and more. -/
def Follows (number : Nat → Nat) (further : Progress → Progress) (follow renumbered : Follow) : Prop :=
  ∀ progress, renumbered (progress.renumber number) = (follow progress).map further

def Renumbers (number : Nat → Nat) (body renumbered : Follow → Follow) : Prop :=
  ∀ {further : Progress → Progress} {follow follow' : Follow}, Follows number further follow follow' →
    Follows number further (body follow) (renumbered follow')

theorem map_orElse (further : Progress → Progress) (first : Option Progress)
    (second : Unit → Option Progress) :
    (orElse first second).map further =
      orElse (first.map further) fun _ => (second ()).map further := by
  cases first <;> rfl

theorem capture?_renumber (injective : number.Injective) (progress : Progress) (index : Nat) :
    capture? (progress.renumber number) (number index) =
      (capture? progress index).map (Capture.renumber number) := by
  unfold capture? Progress.renumber
  rw [List.find?_map]
  refine congrArg (Option.map (Capture.renumber number)) (congrArg (List.find? · _) ?_)
  funext capture
  rw [Bool.eq_iff_iff]
  simp only [Function.comp, beq_iff_eq]
  exact injective.eq_iff

theorem renumber_reopen (injective : number.Injective) (progress : Progress) (index : Nat) :
    (progress.renumber number).reopen (number index) = (progress.reopen index).renumber number := by
  unfold Progress.reopen Progress.renumber
  rw [List.filter_map]
  refine congrArg (fun test => Progress.mk _ (List.map _ (List.filter test _))) (funext fun capture => ?_)
  have other : (number capture.group != number index) = (capture.group != index) := by
    rw [Bool.eq_iff_iff, bne_iff_ne, bne_iff_ne]
    exact injective.ne_iff
  show (number capture.group != number index || _) = _
  rw [other]
  rfl

variable {body renumbered : Follow → Follow}

theorem renumbers_exactly (renumbers : Renumbers number body renumbered) (count : Nat) :
    Renumbers number (exactly body count) (exactly renumbered count) := by
  intro further follow follow' follows
  induction count with
  | zero => exact follows
  | succ count ih => exact renumbers ih

theorem renumbers_upTo (renumbers : Renumbers number body renumbered) (lazy : Bool) (fuel : Nat)
    (most last : Option Nat) :
    Renumbers number (fun follow => upTo body lazy follow fuel most last)
      (fun follow => upTo renumbered lazy follow fuel most last) := by
  intro further follow follow' follows
  induction fuel generalizing most last with
  | zero => exact follows
  | succ fuel ih =>
    intro progress
    have leave := follows progress
    have again := renumbers (ih (most.map (· - 1)) (some progress.position)) progress
    have position : (progress.renumber number).position = progress.position := rfl
    dsimp only [upTo]
    rw [position]
    split
    · exact leave
    · split
      · rw [map_orElse, leave, again]
      · rw [map_orElse, leave, again]

end Matching

namespace Pattern

open Matching

variable {source : Source} {number : Nat → Nat}

theorem run_renumber (injective : number.Injective) (pattern : Pattern) :
    Renumbers number (pattern.run source) ((pattern.renumber number).run source) := by
  -- What follows is any that fits: inside of a sequence it is the rest of the sequence.
  induction pattern with
  | empty => exact fun follows => follows
  | one test =>
    intro further follow follow' follows progress
    unfold renumber run
    have position : (progress.renumber number).position = progress.position := rfl
    rw [position]
    split
    · split
      · exact follows { progress with position := progress.position + 1 }
      · rfl
    · rfl
  | anchor place =>
    intro further follow follow' follows progress
    unfold renumber run
    have position : (progress.renumber number).position = progress.position := rfl
    rw [position]
    split
    · exact follows progress
    · rfl
  | sequence first second ihFirst ihSecond => exact fun follows => ihFirst (ihSecond follows)
  | choice left right ihLeft ihRight =>
    intro further follow follow' follows progress
    unfold renumber run
    rw [map_orElse, ihLeft follows, ihRight follows]
  | repeated body least most lazy ih =>
    intro further follow follow' follows
    exact renumbers_exactly ih least fun reached => renumbers_upTo ih lazy _ _ _ follows reached
  | group index body ih =>
    intro further follow follow' follows progress
    unfold renumber run
    rw [renumber_reopen injective]
    exact ih (fun inner => follows { inner with
      captures := ⟨index, progress.position, inner.position⟩ :: inner.captures })
      (progress.reopen index)
  | reference index rules =>
    intro further follow follow' follows progress
    unfold renumber run
    rw [capture?_renumber injective]
    cases capture? progress index with
    | none => rfl
    | some capture =>
      have position : (progress.renumber number).position = progress.position := rfl
      have start : (capture.renumber number).start = capture.start := rfl
      have stop : (capture.renumber number).stop = capture.stop := rfl
      dsimp only [Option.map_some]
      rw [position, start, stop]
      split
      · exact follows { progress with
          position := progress.position + (capture.stop - capture.start) }
      · rfl
  | conditional index yes no ihYes ihNo =>
    intro further follow follow' follows progress
    unfold renumber run
    rw [capture?_renumber injective, Option.isSome_map]
    split
    · exact ihYes follows progress
    · exact ihNo follows progress
  | look behind negated body ih =>
    intro further follow follow' follows progress
    -- Nothing follows inside of a look, so what is found there is only renumbered.
    have inside := @ih (Progress.renumber number) some some (fun _ => rfl)
      { progress with position := progress.position - behind.getD 0 }
    have position : (progress.renumber number).position = progress.position := rfl
    have moved : { progress.renumber number with
        position := progress.position - behind.getD 0 } =
      Progress.renumber number { progress with
        position := progress.position - behind.getD 0 } := rfl
    unfold renumber run
    dsimp only
    rw [position, moved, inside]
    by_cases room : behind.getD 0 ≤ progress.position
    · rw [if_pos room, if_pos room]
      cases body.run source some _ with
      | none =>
        cases negated
        · rfl
        · exact follows progress
      | some inner =>
        cases negated
        · exact follows { inner with position := progress.position }
        · rfl
    · rw [if_neg room, if_neg room]
      cases negated
      · rfl
      · exact follows progress
  | atomic body ih =>
    intro further follow follow' follows progress
    have inside := @ih (Progress.renumber number) some some (fun _ => rfl) progress
    unfold renumber run
    rw [inside]
    cases body.run source some progress with
    | none => rfl
    | some inner => exact follows inner

/-- A pattern in a group that is numbered otherwise matches what the pattern matches, and the group is
closed last. -/
theorem matchAt_group (injective : number.Injective) (pattern : Pattern) (index position : Nat) :
    ((group index (pattern.renumber number)).sequence empty).matchAt source position =
      (pattern.matchAt source position).map fun progress =>
        ⟨progress.position, ⟨index, position, progress.position⟩ ::
          progress.captures.map (Capture.renumber number)⟩ := by
  have follows : Follows number (fun progress => ⟨progress.position,
      ⟨index, position, progress.position⟩ :: progress.captures.map (Capture.renumber number)⟩) some
      fun inner => some { inner with
        captures := ⟨index, position, inner.position⟩ :: inner.captures } := fun _ => rfl
  exact run_renumber injective pattern follows ⟨position, []⟩

theorem matchAt_alternatives (first : Pattern) (rest : List Pattern) (position : Nat) :
    (alternatives first rest).matchAt source position =
      (first :: rest).findSome? fun alternative => alternative.matchAt source position := by
  induction rest generalizing first with
  | nil =>
    rw [List.findSome?_singleton]
    rfl
  | cons second rest ih =>
    have split : (alternatives first (second :: rest)).matchAt source position =
        orElse (first.matchAt source position) fun _ =>
          (alternatives second rest).matchAt source position := rfl
    rw [split, ih]
    cases found : first.matchAt source position with
    | none => simp only [List.findSome?_cons, found]; rfl
    | some progress => simp only [List.findSome?_cons, found]; rfl

theorem width_renumber {groups groups' : Nat → Width}
    (same : ∀ index, groups' (number index) = groups index) (pattern : Pattern) :
    (pattern.renumber number).width groups' = pattern.width groups := by
  induction pattern with
  | empty | one | anchor | look => rfl
  | sequence first second ihFirst ihSecond =>
    unfold renumber width
    rw [ihFirst, ihSecond]
  | choice left right ihLeft ihRight =>
    unfold renumber width
    rw [ihLeft, ihRight]
  | conditional index yes no ihYes ihNo =>
    unfold renumber width
    rw [ihYes, ihNo]
  | repeated body least most lazy ih =>
    unfold renumber width
    rw [ih]
  | group index body ih | atomic body ih => exact ih
  | reference index => exact same index

theorem renumber_ofList (patterns : List Pattern) :
    (ofList patterns).renumber number = ofList (patterns.map (renumber number)) := by
  induction patterns with
  | nil => rfl
  | cons first rest ih => exact congrArg (sequence (first.renumber number)) ih

theorem renumber_alternatives (first : Pattern) (rest : List Pattern) :
    (alternatives first rest).renumber number =
      alternatives (first.renumber number) (rest.map (renumber number)) := by
  induction rest generalizing first with
  | nil => rfl
  | cons second rest ih => exact congrArg (choice (first.renumber number)) (ih second)

end Pattern

end Descent
