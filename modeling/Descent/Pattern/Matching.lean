import Descent.Pattern.Basic

/-! Matching by backtracking.

A match proceeds from left to right and hands its state to whatever follows. If
that fails, the match tries its next possibility. Captures made on the way are
part of the state, so a possibility that is given up takes its captures with it.
-/

set_option autoImplicit false

namespace Descent

structure Capture where
  group : Nat
  start : Nat
  stop : Nat
  deriving DecidableEq, Repr

/-- The capture that was closed last comes first. -/
structure Progress where
  position : Nat
  captures : List Capture
  deriving DecidableEq, Repr

/-- A group is opened. What it matched before counts inside of it only if it goes on from there. -/
def Progress.reopen (progress : Progress) (group : Nat) : Progress :=
  { progress with captures := progress.captures.filter fun capture =>
      capture.group != group || progress.position ≤ capture.stop }

namespace Matching

abbrev Source := Array Char

/-- What follows a match: it takes the state on, or asks for another possibility. -/
abbrev Follow := Progress → Option Progress

def charAt? (source : Source) (position : Nat) : Option Char := source[position]?

def wordAt (source : Source) (ascii : Bool) (position : Nat) : Bool :=
  (charAt? source position).any (Category.word.has ascii)

def wordBefore (source : Source) (ascii : Bool) (position : Nat) : Bool :=
  position != 0 && wordAt source ascii (position - 1)

def holds (source : Source) (position : Nat) : Anchor → Bool
  | .textStart => position == 0
  | .lineStart => position == 0 || charAt? source (position - 1) == some '\n'
  | .textEnd => position == source.size
  | .lastLineEnd =>
    position == source.size ||
      position + 1 == source.size && charAt? source position == some '\n'
  | .lineEnd => position == source.size || charAt? source position == some '\n'
  | .wordBoundary ascii =>
    source.size != 0 && wordBefore source ascii position != wordAt source ascii position
  | .noWordBoundary ascii =>
    source.size != 0 && wordBefore source ascii position == wordAt source ascii position

def orElse (first : Option Progress) (second : Unit → Option Progress) : Option Progress :=
  match first with
  | some progress => some progress
  | none => second ()

def exactly (body : Follow → Follow) : Nat → Follow → Follow
  | 0, follow => follow
  | count + 1, follow => body (exactly body count follow)

/-- The body up to `most` more times. A repetition that begins where the one
before it began is not tried. `fuel` is more than the number of places left. -/
def upTo (body : Follow → Follow) (lazy : Bool) (follow : Follow) :
    (fuel : Nat) → (most last : Option Nat) → Follow
  | 0, _, _, progress => follow progress
  | fuel + 1, most, last, progress =>
    if most = some 0 ∨ last = some progress.position then follow progress
    else
      let again := fun (_ : Unit) =>
        body (upTo body lazy follow fuel (most.map (· - 1)) (some progress.position)) progress
      if lazy then orElse (follow progress) again
      else orElse (again ()) fun _ => follow progress

/-- Whether the same characters, or the same letters, stand at two places. -/
def sameText (source : Source) (rules : Rules) (a b : Nat) : Nat → Bool
  | 0 => true
  | length + 1 =>
    match charAt? source a, charAt? source b with
    | some c, some d => rules.same c d && sameText source rules (a + 1) (b + 1) length
    | _, _ => false

def capture? (progress : Progress) (group : Nat) : Option Capture :=
  progress.captures.find? fun capture => capture.group == group

end Matching

namespace Pattern

open Matching

def run (source : Source) : Pattern → Follow → Follow
  | empty, follow, progress => follow progress
  | one test, follow, progress =>
    match charAt? source progress.position with
    | some c =>
      if test.accepts c then follow { progress with position := progress.position + 1 } else none
    | none => none
  | anchor place, follow, progress =>
    if holds source progress.position place then follow progress else none
  | sequence first second, follow, progress =>
    first.run source (second.run source follow) progress
  | choice left right, follow, progress =>
    orElse (left.run source follow progress) fun _ => right.run source follow progress
  | repeated body least most lazy, follow, progress =>
    let optional := fun reached : Progress =>
      upTo (body.run source) lazy follow (source.size - reached.position + 2)
        (most.map (· - least)) none reached
    exactly (body.run source) least optional progress
  | group index body, follow, progress =>
    body.run source (fun inner =>
      follow { inner with
        captures := ⟨index, progress.position, inner.position⟩ :: inner.captures })
      (progress.reopen index)
  | reference index rules, follow, progress =>
    match capture? progress index with
    | none => none
    | some capture =>
      let length := capture.stop - capture.start
      if sameText source rules capture.start progress.position length then
        follow { progress with position := progress.position + length }
      else none
  | conditional index yes no, follow, progress =>
    if (capture? progress index).isSome then yes.run source follow progress
    else no.run source follow progress
  | look behind negated body, follow, progress =>
    let back := behind.getD 0
    let found :=
      if back ≤ progress.position then
        body.run source some { progress with position := progress.position - back }
      else none
    match found, negated with
    | some inner, false => follow { inner with position := progress.position }
    | none, true => follow progress
    | _, _ => none
  | atomic body, follow, progress =>
    match body.run source some progress with
    | some inner => follow inner
    | none => none

def matchAt (pattern : Pattern) (source : Source) (position : Nat) : Option Progress :=
  pattern.run source some ⟨position, []⟩

end Pattern

end Descent
