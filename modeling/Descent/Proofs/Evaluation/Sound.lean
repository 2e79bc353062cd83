import Descent.Proofs.Evaluation.Runs

/-! What holds of declarations whenever an author or a grammar is done with them.

A definition is known under its own nonterminal, and whatever mentions a nonterminal mentions one that
is declared. What is known of a body is never replaced.
-/

set_option autoImplicit false

namespace Descent

namespace Declarations

/-- What is known of a body is about its nonterminal, and mentions declared ones only. -/
def Fits (declarations : Declarations) (symbol : NonTerminal) : Body → Prop
  | .written _ _ => True
  | .built rule => declarations.Holds rule.nonTerminals
  | .known definition => definition.head = symbol ∧ declarations.Holds definition.nonTerminals

structure Sound (declarations : Declarations) : Prop extends Rooted declarations where
  bodies : ∀ symbol body, declarations.Has symbol body → declarations.Fits symbol body

section Courses

variable {before after : Declarations} {groups : Nat} {symbols : List NonTerminal}
  {symbol : NonTerminal} {body : Body} {definition : Definition}

theorem Fits.mono (fits : before.Fits symbol body)
    (kept : ∀ {other}, before.Declares other → after.Declares other) : after.Fits symbol body := by
  cases body with
  | written => trivial
  | built => exact fun other mentioned => kept (fits other mentioned)
  | known => exact ⟨fits.1, fun other mentioned => kept (fits.2 other mentioned)⟩

theorem Course.bodies (course : Course groups symbols before after)
    (bodies : ∀ symbol body, before.Has symbol body → before.Fits symbol body)
    (has : after.Has symbol body) : after.Fits symbol body := by
  induction course generalizing symbol body with
  | count groups alike same =>
    exact (bodies symbol body ((has_congr same).mp has)).mono (Course.count groups alike same).declares
  | group alike same holds =>
    have course := Course.group alike same holds
    rcases has_of_concat same has with old | ⟨rfl, rfl⟩
    · exact (bodies symbol body old).mono course.declares
    · exact course.holds holds
  | follow _ _ ihFirst ihSecond => exact ihSecond (fun _ _ => ihFirst bodies) has
  | known => exact bodies symbol body has
  | flatten built head flat =>
    have course := Course.flatten built head flat
    rcases has_of_setBody ⟨_, built⟩ has with ⟨rfl, rfl⟩ | ⟨_, old⟩
    · exact ⟨head, course.holds fun other mentioned =>
        bodies _ _ built other (Definition.mem_nonTerminals_of_flatten? flat mentioned)⟩
    · exact (bodies symbol body old).mono course.declares
  | @evaluate before between outer expression location definition written course head holds ih =>
    have declared : between.Declares outer := course.declares ⟨_, written⟩
    have kept {other : NonTerminal} (held : between.Declares other) :
        (between.setBody outer (.known definition)).Declares other := Declares.setBody declared _ held
    rcases has_of_setBody declared has with ⟨rfl, rfl⟩ | ⟨_, old⟩
    · exact ⟨head, fun other mentioned => kept (holds other mentioned)⟩
    · exact (ih bodies old).mono kept

theorem Course.sound (course : Course groups symbols before after) (sound : before.Sound) :
    after.Sound :=
  ⟨course.rooted sound.toRooted, fun _ _ => course.bodies sound.bodies⟩

/-- What is known stays known, and stays the same. -/
theorem Course.stays (course : Course groups symbols before after)
    (known : before.Has symbol (.known definition)) : after.Has symbol (.known definition) := by
  induction course with
  | count _ _ same => exact (has_congr same).mpr known
  | group _ same => exact known.concat same
  | follow _ _ ihFirst ihSecond => exact ihSecond (ihFirst known)
  | known => exact known
  | flatten built =>
    refine known.setBody ⟨_, built⟩ ?_
    rintro rfl
    cases built.unique known
  | evaluate written course _ _ ih =>
    refine (ih known).setBody (course.declares ⟨_, written⟩) ?_
    rintro rfl
    cases written.unique known

end Courses

/-- Declarations that an author has come to: rules are declared, values are shared and evaluated, and
bodies are asked for, in any order. -/
inductive Made : Declarations → Prop where
  | empty : Made .empty
  | declare {before after : Declarations} {handle : String} {name : Literal} {location : Location}
      {body : Expression} (made : Made before)
      (run : (Evaluation.declare handle name location body).run before = .ok ((), after)) :
      Made after
  | share {before after : Declarations} {name : String} {location : Location}
      {expression : Expression} (made : Made before)
      (run : (Evaluation.share name location expression).run before = .ok ((), after)) : Made after
  | value {before after : Declarations} {location : Location} {expression : Expression}
      {value : Value} (made : Made before)
      (run : (Evaluation.value location expression).run before = .ok (value, after)) : Made after
  | ask {before after : Declarations} {asker : Location} {symbol : NonTerminal}
      {definition : Definition} (made : Made before) (declared : before.Declares symbol)
      (run : (Evaluation.definitionOf asker symbol).run before = .ok (definition, after)) :
      Made after

end Declarations

namespace Evaluation

open Declarations

section Calls

variable {before after : Declarations} {asker location : Location} {symbol : NonTerminal}
  {definition : Definition}

theorem definitionOf_course (rooted : before.Rooted) (declared : before.Declares symbol)
    (run : (definitionOf asker symbol).run before = .ok (definition, after)) :
    Course 0 [symbol] before after ∧ after.Has symbol (.known definition) := by
  obtain ⟨_, _, got, asked⟩ := run_bind_ok run
  cases got
  exact definitionAt_course _ rooted declared asked

theorem value_course {expression : Expression} {value : Value} (rooted : before.Rooted)
    (run : (Evaluation.value location expression).run before = .ok (value, after)) :
    Course expression.groups (before.asked expression) before after ∧
      after.Holds value.nonTerminals := by
  refine evaluate_course ?_ expression rooted run
  intro other before after rooted declared forced
  obtain ⟨_, answered⟩ := run_discard_ok forced
  exact (definitionOf_course rooted declared answered).1

theorem declare_ok {handle : String} {name : Literal} {body : Expression}
    (run : (declare handle name location body).run before = .ok ((), after)) :
    ∃ own, let symbol : NonTerminal := ⟨before.declared.length, own, location⟩
      after.declared = before.declared ++ [⟨symbol, .written body location⟩] ∧
        after.handles = (handle, symbol) :: before.handles ∧ after.shared = before.shared := by
  cases name with
  | null => cases run; exact ⟨handle, rfl, rfl, rfl⟩
  | text own => cases run; exact ⟨if own = "" then handle else own, rfl, rfl, rfl⟩
  | _ => cases run

end Calls

end Evaluation

namespace Declarations

/-- Whatever an author has come to is sound. -/
theorem Made.sound {declarations : Declarations} (made : declarations.Made) :
    declarations.Sound := by
  induction made with
  | empty => exact ⟨⟨nofun, nofun⟩, fun _ _ has => nomatch has⟩
  | @declare before after handle name location body made run ih =>
    obtain ⟨own, declared, handles, shared⟩ := Evaluation.declare_ok run
    have kept {symbol : NonTerminal} (held : before.Declares symbol) : after.Declares symbol :=
      held.imp fun _ has => has.concat declared
    refine ⟨⟨?_, ?_⟩, ?_⟩
    · rw [handles]
      intro handle member
      rcases List.mem_cons.mp member with rfl | member
      · exact ⟨_, by unfold Has; rw [declared]; exact List.getElem?_concat_length⟩
      · exact kept (ih.handles handle member)
    · rw [shared]
      exact fun entry member symbol mentioned => kept (ih.shared entry member symbol mentioned)
    · intro symbol body has
      rcases has_of_concat declared has with old | ⟨_, rfl⟩
      · exact (ih.bodies symbol body old).mono kept
      · trivial
  | @share before after name location expression made run ih =>
    obtain ⟨value, between, evaluated, put⟩ := Evaluation.run_bind_ok run
    obtain ⟨course, holds⟩ := Evaluation.value_course ih.toRooted evaluated
    have sound := course.sound ih
    cases put
    refine ⟨⟨sound.handles, fun entry member => ?_⟩, sound.bodies⟩
    rcases List.mem_cons.mp member with rfl | member
    · exact holds
    · exact sound.shared entry member
  | value made run ih => exact (Evaluation.value_course ih.toRooted run).1.sound ih
  | ask made declared run ih =>
    exact (Evaluation.definitionOf_course ih.toRooted declared run).1.sound ih

end Declarations

end Descent
