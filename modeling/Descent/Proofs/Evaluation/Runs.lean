import Descent.Proofs.Evaluation.Course

/-! Evaluations that come to a value are courses.

An expression asks for the bodies that are forced in it, declares no more groups than are written in
it, and comes to a value that mentions nothing undeclared. A body that is asked for is known then.
-/

set_option autoImplicit false

namespace Descent

namespace Evaluation

open Declarations

section Runs

variable {α β : Type} {before after : Declarations}

theorem run_bind_ok {first : Evaluation α} {next : α → Evaluation β} {result : β}
    (run : (first >>= next).run before = .ok (result, after)) :
    ∃ value between, first.run before = .ok (value, between) ∧
      (next value).run between = .ok (result, after) := by
  rw [StateT.run_bind] at run
  cases ran : first.run before with
  | error error =>
    rw [ran] at run
    cases run
  | ok pair =>
    rw [ran] at run
    exact ⟨pair.1, pair.2, rfl, run⟩

theorem run_lift_ok {action : Except DefinitionError α} {value : α}
    (run : (liftM action : Evaluation α).run before = .ok (value, after)) :
    action = .ok value ∧ after = before := by
  cases action with
  | error error => cases run
  | ok => cases run; exact ⟨rfl, rfl⟩

theorem run_discard_ok {action : Evaluation α}
    (run : (discard action).run before = .ok ((), after)) :
    ∃ value, action.run before = .ok (value, after) := by
  have unfolded : (action >>= fun _ => pure ()).run before = .ok ((), after) := run
  obtain ⟨value, _, acted, ended⟩ := run_bind_ok unfolded
  cases ended
  exact ⟨value, acted⟩

theorem asRule_nonTerminals {location : Location} {value : Value} {rule : Rule}
    (made : asRule location value = .ok rule) : rule.nonTerminals = value.nonTerminals := by
  cases value with
  | rule => cases made; rfl
  | plain literal =>
    cases literal with
    | text => cases made; rfl
    | _ => cases made

theorem asRules_ok {location : Location} {values : List Value} {rules : List Rule}
    (run : (values.mapM fun value => (liftM (asRule location value) : Evaluation Rule)).run before =
      .ok (rules, after)) :
    after = before ∧ ∀ rule ∈ rules, ∃ value ∈ values, rule.nonTerminals = value.nonTerminals := by
  induction values generalizing rules after with
  | nil => cases run; exact ⟨rfl, nofun⟩
  | cons value values ih =>
    rw [List.mapM_cons] at run
    obtain ⟨first, _, lifted, others⟩ := run_bind_ok run
    obtain ⟨made, rfl⟩ := run_lift_ok lifted
    obtain ⟨rest, _, others, ended⟩ := run_bind_ok others
    obtain ⟨rfl, mentions⟩ := ih others
    cases ended
    refine ⟨rfl, fun rule member => ?_⟩
    rcases List.mem_cons.mp member with rfl | later
    · exact ⟨value, List.mem_cons_self, asRule_nonTerminals made⟩
    · obtain ⟨value, member, same⟩ := mentions rule later
      exact ⟨value, List.mem_cons_of_mem _ member, same⟩

theorem fresh_ok {rule : Rule} {value : Value} (run : (fresh rule).run before = .ok (value, after)) :
    value.nonTerminals = rule.nonTerminals ∧ before.Alike after ∧
      after.declared = before.declared := by
  cases run
  exact ⟨rfl, ⟨rfl, rfl⟩, rfl⟩

theorem generated_ok {location : Location} {rule : Rule} {symbol : NonTerminal}
    (holds : before.Holds rule.nonTerminals)
    (run : (generated location rule).run before = .ok (symbol, after)) :
    Course 1 [] before after ∧ after.Declares symbol := by
  cases run
  exact ⟨.group ⟨rfl, rfl⟩ rfl holds, .built rule, List.getElem?_concat_length⟩

variable {location : Location}

theorem combined_ok {join : Rule → List Rule → Rule}
    (joins : ∀ first rest symbol, symbol ∈ (join first rest).nonTerminals →
      symbol ∈ first.nonTerminals ∨ ∃ rule ∈ rest, symbol ∈ rule.nonTerminals)
    {values : List Value} {value : Value}
    (run : (combined join location values).run before = .ok (value, after)) :
    before.Alike after ∧ after.declared = before.declared ∧
      ∀ symbol ∈ value.nonTerminals, ∃ part ∈ values, symbol ∈ part.nonTerminals := by
  unfold combined at run
  split at run
  · cases run
  · cases run
    exact ⟨.refl _, rfl, fun symbol member => ⟨_, List.mem_cons_self, member⟩⟩
  · obtain ⟨first, _, lifted, others⟩ := run_bind_ok run
    obtain ⟨made, rfl⟩ := run_lift_ok lifted
    obtain ⟨rest, _, others, ended⟩ := run_bind_ok others
    obtain ⟨rfl, mentions⟩ := asRules_ok others
    obtain ⟨mentioned, alike, declared⟩ := fresh_ok ended
    refine ⟨alike, declared, fun symbol member => ?_⟩
    rcases joins _ _ _ (mentioned ▸ member) with early | ⟨rule, among, late⟩
    · exact ⟨_, List.mem_cons_self, asRule_nonTerminals made ▸ early⟩
    · obtain ⟨part, among, same⟩ := mentions rule among
      exact ⟨part, List.mem_cons_of_mem _ among, same ▸ late⟩

theorem operated_ok {plain : Literal → Literal → Option Literal} {join : Rule → List Rule → Rule}
    {left right value : Value}
    (run : (operated plain join location left right).run before = .ok (value, after)) :
    (∃ literal, value = .plain literal) ∧ after = before ∨
      (combined join location [left, right]).run before = .ok (value, after) := by
  unfold operated at run
  split at run
  · split at run
    · cases run
      exact .inl ⟨⟨_, rfl⟩, rfl⟩
    · cases run
  · exact .inr run

theorem optionalGroup_ok {values : List Value} {value : Value}
    (holds : ∀ part ∈ values, before.Holds part.nonTerminals)
    (run : (optionalGroup location values).run before = .ok (value, after)) :
    Course 1 [] before after ∧ after.Holds value.nonTerminals := by
  unfold optionalGroup at run
  obtain ⟨rules, between, lifted, made⟩ := run_bind_ok run
  obtain ⟨rfl, mentions⟩ := asRules_ok lifted
  have held : ∀ rule ∈ rules, between.Holds rule.nonTerminals := fun rule member => by
    obtain ⟨part, among, same⟩ := mentions rule member
    rw [same]
    exact holds part among
  split at made
  · obtain ⟨mentioned, alike, declared⟩ := fresh_ok made
    refine ⟨.count 1 alike declared, ?_⟩
    rw [mentioned]
    exact nofun
  · obtain ⟨mentioned, alike, declared⟩ := fresh_ok made
    have course : Course 1 [] _ after := .count 1 alike declared
    refine ⟨course, course.holds ?_⟩
    rw [mentioned]
    exact held (.symbol _) (List.mem_singleton_self _)
  · obtain ⟨symbol, _, grouped, ended⟩ := run_bind_ok made
    obtain ⟨course, declares⟩ := generated_ok (fun symbol member => by
      rcases Rule.mem_nonTerminals_foldl (fun _ _ => rfl) member with early | ⟨rule, among, late⟩
      · exact held _ List.mem_cons_self symbol early
      · exact held rule (List.mem_cons_of_mem _ among) symbol late) grouped
    obtain ⟨mentioned, alike, declared⟩ := fresh_ok ended
    have whole := course.counted alike declared
    refine ⟨whole, ?_⟩
    rw [mentioned]
    intro other member
    cases List.mem_singleton.mp member
    exact (Course.count 0 alike declared).declares declares

theorem optionalValue_ok {part value : Value} (holds : before.Holds part.nonTerminals)
    (run : (optionalValue part).run before = .ok (value, after)) :
    before.Alike after ∧ after.declared = before.declared ∧ after.Holds value.nonTerminals := by
  unfold optionalValue at run
  split at run
  · obtain ⟨mentioned, alike, declared⟩ := fresh_ok run
    refine ⟨alike, declared, ?_⟩
    rw [mentioned]
    exact nofun
  · obtain ⟨mentioned, alike, declared⟩ := fresh_ok run
    refine ⟨alike, declared, (Course.count 0 alike declared).holds ?_⟩
    rw [mentioned]
    exact holds
  · cases run

theorem lookUp_ok {rule : String} {symbol : NonTerminal} (rooted : before.Rooted)
    (run : (lookUp rule).run before = .ok (symbol, after)) :
    after = before ∧ before.handles.lookup rule = some symbol ∧ before.Declares symbol := by
  unfold lookUp at run
  obtain ⟨_, _, got, run⟩ := run_bind_ok run
  cases got
  split at run
  · rename_i found
    cases run
    obtain ⟨early, late, same, _⟩ := List.lookup_eq_some_iff.mp found
    exact ⟨rfl, found, rooted.handles (rule, symbol) (by simp [same])⟩
  · cases run

end Runs

/-- Bodies that are asked for are dealt with by courses of their own. -/
def Courses (force : NonTerminal → Evaluation Unit) : Prop :=
  ∀ {symbol : NonTerminal} {before after : Declarations}, before.Rooted → before.Declares symbol →
    (force symbol).run before = .ok ((), after) → Course 0 [symbol] before after

section Evaluate

variable {force : NonTerminal → Evaluation Unit} {location : Location}

mutual

/-- An expression that comes to a value does so by a course, and the value mentions nothing that is
not declared then. -/
theorem evaluate_course (courses : Courses force) (expression : Expression)
    {before after : Declarations} {value : Value} (rooted : before.Rooted)
    (run : (evaluate force location expression).run before = .ok (value, after)) :
    Course expression.groups (before.asked expression) before after ∧
      after.Holds value.nonTerminals := by
  -- The parts make the course. What is put together of them declares nothing but groups, and mentions
  -- what the parts mention.
  match expression with
  | .plain literal =>
    rw [evaluate] at run
    cases run
    exact ⟨.count 0 (.refl _) rfl, nofun⟩
  | .reference rule =>
    rw [evaluate] at run
    obtain ⟨symbol, _, found, ended⟩ := run_bind_ok run
    obtain ⟨rfl, _, declared⟩ := lookUp_ok rooted found
    cases ended
    refine ⟨.count 0 (.refl _) rfl, fun other member => ?_⟩
    cases List.mem_singleton.mp member
    exact declared
  | .shared name =>
    rw [evaluate] at run
    obtain ⟨_, _, got, run⟩ := run_bind_ok run
    cases got
    split at run
    · rename_i found
      cases run
      obtain ⟨early, late, same, _⟩ := List.lookup_eq_some_iff.mp found
      exact ⟨.count 0 (.refl _) rfl, rooted.shared (name, value) (by simp [same])⟩
    · cases run
  | .terminal lexeme kind name =>
    rw [evaluate] at run
    split at run
    · cases run
      exact ⟨.count 0 (.refl _) rfl, nofun⟩
    · cases run
  | .sequence parts | .choice parts =>
    rw [evaluate] at run
    obtain ⟨values, between, evaluated, ended⟩ := run_bind_ok run
    obtain ⟨course, holds⟩ := evaluateAll_course courses parts rooted evaluated
    obtain ⟨alike, declared, mentions⟩ := combined_ok
      (fun _ _ _ member => Rule.mem_nonTerminals_foldl (fun _ _ => rfl) member) ended
    refine ⟨course.counted alike declared, fun symbol member => ?_⟩
    obtain ⟨part, among, mentioned⟩ := mentions symbol member
    exact (Course.count 0 alike declared).declares (holds part among symbol mentioned)
  | .group parts =>
    rw [evaluate] at run
    obtain ⟨values, between, evaluated, ended⟩ := run_bind_ok run
    obtain ⟨course, holds⟩ := evaluateAll_course courses parts rooted evaluated
    obtain ⟨grouped, declares⟩ := optionalGroup_ok holds ended
    have whole := course.follow grouped
    rw [List.append_nil] at whole
    exact ⟨whole, declares⟩
  | .optional inner =>
    rw [evaluate] at run
    obtain ⟨part, between, evaluated, ended⟩ := run_bind_ok run
    obtain ⟨course, holds⟩ := evaluate_course courses inner rooted evaluated
    obtain ⟨alike, declared, declares⟩ := optionalValue_ok holds ended
    exact ⟨course.counted alike declared, declares⟩
  | .either left right | .join left right =>
    rw [evaluate] at run
    obtain ⟨first, between, evaluated, run⟩ := run_bind_ok run
    obtain ⟨begin, holds⟩ := evaluate_course courses left rooted evaluated
    obtain ⟨second, last, evaluated, ended⟩ := run_bind_ok run
    obtain ⟨rest, holds'⟩ := evaluate_course courses right (begin.rooted rooted) evaluated
    obtain ⟨⟨literal, rfl⟩, rfl⟩ | ended := operated_ok ended
    · exact ⟨begin.both rest, nofun⟩
    obtain ⟨alike, declared, mentions⟩ := combined_ok
      (fun _ _ _ member => Rule.mem_nonTerminals_foldl (fun _ _ => rfl) member) ended
    refine ⟨(begin.both rest).counted alike declared, fun symbol member => ?_⟩
    apply (Course.count 0 alike declared).declares
    obtain ⟨part, among, mentioned⟩ := mentions symbol member
    rcases List.mem_cons.mp among with rfl | among
    · exact rest.declares (holds symbol mentioned)
    · cases List.mem_singleton.mp among
      exact holds' symbol mentioned
  | .nothing =>
    rw [evaluate] at run
    cases run
    exact ⟨.count 0 (.refl _) rfl, nofun⟩
  | .abstract =>
    rw [evaluate] at run
    obtain ⟨mentioned, alike, declared⟩ := fresh_ok run
    refine ⟨.count 0 alike declared, ?_⟩
    rw [mentioned]
    exact nofun
  | .force rule result =>
    rw [evaluate] at run
    obtain ⟨symbol, _, found, asked⟩ := run_bind_ok run
    obtain ⟨rfl, handle, declared⟩ := lookUp_ok rooted found
    obtain ⟨_, between, forced, ended⟩ := run_bind_ok asked
    have begin := courses rooted declared forced
    obtain ⟨rest, holds⟩ := evaluate_course courses result (begin.rooted rooted) ended
    rw [begin.alike.asked] at rest
    have whole := begin.follow rest
    refine ⟨?_, holds⟩
    unfold Declarations.asked Expression.forces
    rw [List.filterMap_cons, handle]
    rwa [Nat.zero_add] at whole

theorem evaluateAll_course (courses : Courses force) (parts : List Expression)
    {before after : Declarations} {values : List Value} (rooted : before.Rooted)
    (run : (evaluateAll force location parts).run before = .ok (values, after)) :
    Course (Expression.groupsOfAll parts) (before.askedByAll parts) before after ∧
      ∀ value ∈ values, after.Holds value.nonTerminals := by
  match parts with
  | [] =>
    rw [evaluateAll] at run
    cases run
    exact ⟨.count 0 (.refl _) rfl, nofun⟩
  | part :: rest =>
    rw [evaluateAll] at run
    obtain ⟨value, between, evaluated, run⟩ := run_bind_ok run
    obtain ⟨begin, holds⟩ := evaluate_course courses part rooted evaluated
    obtain ⟨others, _, evaluated, ended⟩ := run_bind_ok run
    obtain ⟨course, holds'⟩ := evaluateAll_course courses rest (begin.rooted rooted) evaluated
    cases ended
    rw [begin.alike.askedByAll] at course
    refine ⟨?_, fun other member => ?_⟩
    · unfold askedByAll Expression.forcesOfAll
      rw [List.filterMap_append]
      exact begin.follow course
    · rcases List.mem_cons.mp member with rfl | later
      · exact course.holds holds
      · exact holds' other later

end

end Evaluate

section Bodies

variable {before after : Declarations} {symbol : NonTerminal} {definition : Definition}

theorem flat_ok {rule : Rule} (flat : flat symbol rule = .ok definition) :
    definition.head = symbol ∧ rule.flatten? = some definition.productions := by
  unfold Evaluation.flat at flat
  split at flat
  · rename_i flattened
    cases flat
    exact ⟨rfl, flattened⟩
  · cases flat

theorem within_ok {α : Type} {name : String} {action : Evaluation α} {value : α}
    (run : (within name action).run before = .ok (value, after)) :
    ∃ begun ended, before.Alike begun ∧ begun.declared = before.declared ∧
      action.run begun = .ok (value, ended) ∧ ended.Alike after ∧ after.declared = ended.declared := by
  unfold within at run
  obtain ⟨_, _, got, entered⟩ := run_bind_ok run
  cases got
  obtain ⟨_, begun, put, acting⟩ := run_bind_ok entered
  cases put
  obtain ⟨_, ended, acted, left⟩ := run_bind_ok acting
  cases left
  exact ⟨{ before with definition := name, groups := 0 }, ended, ⟨rfl, rfl⟩, rfl, acted,
    ⟨rfl, rfl⟩, rfl⟩

theorem definitionAt_course (depth : Nat) {asker : Location} {symbol : NonTerminal}
    {before after : Declarations} {definition : Definition} (rooted : before.Rooted)
    (declared : before.Declares symbol)
    (run : (definitionAt depth asker symbol).run before = .ok (definition, after)) :
    Course 0 [symbol] before after ∧ after.Has symbol (.known definition) := by
  obtain ⟨body, has⟩ := declared
  have found : before.body? symbol = some body := congrArg (Option.map Declared.body) has
  unfold definitionAt at run
  obtain ⟨_, _, got, asked⟩ := run_bind_ok run
  cases got
  rw [found] at asked
  cases body with
  | known old =>
    cases asked
    exact ⟨.known has, has⟩
  | built rule =>
    obtain ⟨_, _, lifted, put⟩ := run_bind_ok asked
    obtain ⟨made, rfl⟩ := run_lift_ok lifted
    obtain ⟨head, flat⟩ := flat_ok made
    cases put
    exact ⟨.flatten has head flat, has_setBody_self ⟨_, has⟩⟩
  | written expression location =>
    match depth with
    | 0 => cases asked
    | depth + 1 =>
      obtain ⟨_, between, entered, put⟩ := run_bind_ok asked
      obtain ⟨begun, ended, alike, same, acted, alike', same'⟩ := within_ok entered
      cases put
      have begin : Course 0 [] before begun := .count 0 alike same
      -- What the body asks for is dealt with one level deeper.
      have courses : Courses fun other => discard (definitionAt depth location other) := by
        intro other before after rooted declared forced
        obtain ⟨_, answered⟩ := run_discard_ok forced
        exact (definitionAt_course depth rooted declared answered).1
      obtain ⟨value, _, evaluated, judged⟩ := run_bind_ok acted
      obtain ⟨course, holds⟩ := evaluate_course courses expression (begin.rooted rooted) evaluated
      obtain ⟨rule, _, lifted, flattened⟩ := run_bind_ok judged
      obtain ⟨made, rfl⟩ := run_lift_ok lifted
      obtain ⟨flattened', rfl⟩ := run_lift_ok flattened
      obtain ⟨head, flat⟩ := flat_ok flattened'
      have whole := (begin.follow course).counted alike' same'
      rw [alike.asked, List.nil_append, Nat.zero_add] at whole
      have held : between.Holds definition.nonTerminals := fun other mentioned =>
        (Course.count 0 alike' same').declares (holds other (asRule_nonTerminals made ▸
          Definition.mem_nonTerminals_of_flatten? flat mentioned))
      exact ⟨.evaluate has whole head held, has_setBody_self (whole.declares ⟨_, has⟩)⟩

end Bodies

end Evaluation

end Descent
