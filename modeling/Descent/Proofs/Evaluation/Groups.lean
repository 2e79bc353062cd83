import Mathlib.Data.List.Basic
import Descent.Proofs.Evaluation.Capacity
import Descent.Proofs.Evaluation.Runs

/-! The groups that an evaluation makes, and their names.

The name and the count are kept in one place for all bodies, and bodies are evaluated in the middle of
one another. Yet each body numbers the groups that it makes itself, from zero on.
-/

set_option autoImplicit false

namespace Descent

/-- Groups in the order in which they are made, each with the rule in whose body it is made. Outside
all bodies there is no such rule. -/
abbrev Groups := List (Option NonTerminal × NonTerminal)

namespace Groups

def title : Option NonTerminal → String
  | none => "__global"
  | some rule => rule.name

def nameOf (owner : Option NonTerminal) (number : Nat) : String :=
  "__opt_" ++ title owner ++ "_" ++ toString number

def countOf (owner : Option NonTerminal) (groups : Groups) : Nat :=
  (groups.map Prod.fst).count owner

/-- Every group carries the number of those that were made before it in the same body. For one owner,
so many were made before. -/
def Numbered (owner : Option NonTerminal) (start : Nat) (groups : Groups) : Prop :=
  ∀ earlier holder symbol later, groups = earlier ++ (holder, symbol) :: later →
    symbol.name = nameOf holder ((if holder = owner then start else 0) + countOf holder earlier)

variable {owner inner : Option NonTerminal} {start : Nat} {early late groups : Groups}

theorem countOf_append (owner : Option NonTerminal) (early late : Groups) :
    countOf owner (early ++ late) = countOf owner early + countOf owner late := by
  unfold countOf
  rw [List.map_append, List.count_append]

theorem countOf_eq_zero (absent : ∀ entry ∈ groups, entry.1 ≠ owner) : countOf owner groups = 0 := by
  refine List.count_eq_zero.mpr fun member => ?_
  obtain ⟨entry, among, same⟩ := List.mem_map.mp member
  exact absent entry among same

theorem Numbered.nil : Numbered owner start [] := fun earlier _ _ _ split => by
  cases earlier <;> cases split

theorem Numbered.outside (numbered : Numbered inner 0 groups)
    (absent : ∀ entry ∈ groups, entry.1 ≠ owner) : Numbered owner start groups := by
  intro earlier holder symbol later split
  have apart : holder ≠ owner :=
    absent (holder, symbol) (split ▸ List.mem_append_right _ List.mem_cons_self)
  have named := numbered earlier holder symbol later split
  rw [ite_self] at named
  rwa [if_neg apart]

theorem Numbered.append (first : Numbered owner start early)
    (second : Numbered owner (start + countOf owner early) late)
    (apart : ∀ entry ∈ late, entry.1 ≠ owner → ∀ old ∈ early, old.1 ≠ entry.1) :
    Numbered owner start (early ++ late) := by
  intro earlier holder symbol later split
  rcases List.append_eq_append_iff.mp split with ⟨more, same, rest⟩ | ⟨more, same, rest⟩
  · -- The group is among the late ones.
    have named := second more holder symbol later rest
    rw [named, same, countOf_append]
    by_cases own : holder = owner
    · rw [if_pos own, if_pos own, own, Nat.add_assoc]
    · have absent : countOf holder early = 0 := countOf_eq_zero
        (apart (holder, symbol) (rest ▸ List.mem_append_right _ List.mem_cons_self) own)
      rw [if_neg own, if_neg own, absent, Nat.zero_add, Nat.zero_add]
  · cases more with
    | nil =>
      rw [List.append_nil] at same
      subst same
      have named := second [] holder symbol later rest.symm
      rw [named]
      by_cases own : holder = owner
      · rw [if_pos own, if_pos own, own]
        rfl
      · have first : (holder, symbol) ∈ late := by
          rw [← List.nil_append late, ← rest]
          exact List.mem_cons_self
        have absent : countOf holder early = 0 :=
          countOf_eq_zero (apart (holder, symbol) first own)
        rw [if_neg own, if_neg own, absent]
        rfl
    | cons entry more =>
      cases rest
      exact first earlier holder symbol more same

end Groups

namespace Declarations

open Groups

/-- Nothing is declared, and what comes next gets the name that it would have had. -/
structure Quiet (before after : Declarations) : Prop where
  declared : after.declared = before.declared
  definition : after.definition = before.definition
  groups : after.groups = before.groups

def entered (declarations : Declarations) (rule : NonTerminal) : Declarations :=
  { declarations with definition := rule.name, groups := 0 }

def restored (declarations before : Declarations) : Declarations :=
  { declarations with definition := before.definition, groups := before.groups }

/-- The groups that an evaluation makes, itself and in the bodies that it asks for. A body is text
until its evaluation is done, and is evaluated under the name of its rule. -/
inductive Makes : Option NonTerminal → Declarations → Groups → Declarations → Prop where
  | quiet {owner : Option NonTerminal} {before after : Declarations}
      (quiet : before.Quiet after) : Makes owner before [] after
  | group {owner : Option NonTerminal} {before after : Declarations} {location : Location}
      {rule : Rule} {symbol : NonTerminal}
      (run : (Evaluation.generated location rule).run before = .ok (symbol, after)) :
      Makes owner before [(owner, symbol)] after
  | follow {owner : Option NonTerminal} {before between after : Declarations} {early late : Groups}
      (begin : Makes owner before early between) (rest : Makes owner between late after) :
      Makes owner before (early ++ late) after
  | flatten {owner : Option NonTerminal} {before : Declarations} {symbol : NonTerminal} {rule : Rule}
      {definition : Definition} (has : before.Has symbol (.built rule))
      (flat : Evaluation.flat symbol rule = .ok definition) :
      Makes owner before [] (before.setBody symbol (.known definition))
  | body {owner : Option NonTerminal} {before between after : Declarations} {symbol : NonTerminal}
      {expression : Expression} {asker location : Location} {definition : Definition} {depth : Nat}
      {groups : Groups} (has : before.Has symbol (.written expression location))
      (run : (Evaluation.definitionAt depth asker symbol).run before = .ok (definition, after))
      (inner : Makes (some symbol) (before.entered symbol) groups between)
      (unread : between.Has symbol (.written expression location))
      (left : after = (between.restored before).setBody symbol (.known definition)) :
      Makes owner before groups after

section Makes

variable {owner : Option NonTerminal} {before between after : Declarations} {groups : Groups}
  {symbol : NonTerminal} {expression : Expression} {location : Location} {definition : Definition}

theorem Quiet.refl (declarations : Declarations) : declarations.Quiet declarations := ⟨rfl, rfl, rfl⟩

theorem generated_eq {rule : Rule}
    (run : (Evaluation.generated location rule).run before = .ok (symbol, after)) :
    symbol = ⟨before.declared.length,
        "__opt_" ++ before.definition ++ "_" ++ toString before.groups, location⟩ ∧
      after.declared = before.declared ++ [⟨symbol, .built rule⟩] ∧
      after.definition = before.definition ∧ after.groups = before.groups + 1 := by
  cases run
  exact ⟨rfl, rfl, rfl, rfl⟩

theorem Makes.written (makes : Makes owner before groups after)
    (written : after.Has symbol (.written expression location)) :
    before.Has symbol (.written expression location) := by
  induction makes with
  | quiet quiet => exact (has_congr quiet.declared).mp written
  | group run =>
    obtain ⟨rfl, declared, _, _⟩ := generated_eq run
    exact (has_of_concat declared written).resolve_right nofun
  | follow _ _ ihFirst ihSecond => exact ihFirst (ihSecond written)
  | flatten has => exact ((has_of_setBody ⟨_, has⟩ written).resolve_left nofun).2
  | body _ _ _ unread left ih =>
    subst left
    exact ih ((has_of_setBody ⟨_, unread⟩ written).resolve_left nofun).2

theorem Makes.known (makes : Makes owner before groups after)
    (known : before.Has symbol (.known definition)) : after.Has symbol (.known definition) := by
  induction makes with
  | quiet quiet => exact (has_congr quiet.declared).mpr known
  | group run =>
    obtain ⟨rfl, declared, _, _⟩ := generated_eq run
    exact known.concat declared
  | follow _ _ ihFirst ihSecond => exact ihSecond (ihFirst known)
  | flatten has =>
    refine known.setBody ⟨_, has⟩ ?_
    rintro rfl
    cases has.unique known
  | body has _ _ unread left ih =>
    subst left
    refine Has.setBody (ih known) ⟨_, unread⟩ ?_
    rintro rfl
    cases has.unique known

theorem Makes.declared (makes : Makes owner before groups after) :
    after.declared.map Declared.symbol =
      before.declared.map Declared.symbol ++ groups.map Prod.snd := by
  have setBody {declarations : Declarations} {symbol : NonTerminal} {body : Body} (new : Body)
      (has : declarations.Has symbol body) :
      (declarations.setBody symbol new).declared.map Declared.symbol =
        declarations.declared.map Declared.symbol := by
    have entry : (declarations.declared.map Declared.symbol)[symbol.serial]? = some symbol := by
      rw [List.getElem?_map, has]
      rfl
    obtain ⟨inside, same⟩ := List.getElem?_eq_some_iff.mp entry
    unfold Declarations.setBody
    rw [List.map_set]
    exact (congrArg _ same.symm).trans (List.set_getElem_self inside)
  induction makes with
  | quiet quiet => rw [quiet.declared, List.map_nil, List.append_nil]
  | group run =>
    obtain ⟨rfl, declared, _, _⟩ := generated_eq run
    rw [declared, List.map_append]
    rfl
  | follow _ _ ihFirst ihSecond =>
    rw [ihSecond, ihFirst, List.map_append, List.append_assoc]
  | flatten has => rw [setBody _ has, List.map_nil, List.append_nil]
  | @body _ before between _ symbol _ _ _ _ _ _ _ _ _ unread left ih =>
    subst left
    have same : (between.restored before).Has symbol _ := unread
    rw [setBody _ same]
    exact ih

def Settles (before after : Declarations) (rule : NonTerminal) : Prop :=
  (∃ expression location, before.Has rule (.written expression location)) ∧
    ∃ definition, after.Has rule (.known definition)

theorem settles_of_inner {groups : Groups} (has : before.Has symbol (.written expression location))
    (unread : between.Has symbol (.written expression location))
    (owners : ∀ entry ∈ groups, entry.1 = some symbol ∨
      ∃ rule, entry.1 = some rule ∧ (before.entered symbol).Settles between rule) :
    ∀ entry ∈ groups, ∃ rule, entry.1 = some rule ∧
      before.Settles ((between.restored before).setBody symbol (.known definition)) rule := by
  have declared : (between.restored before).Declares symbol := ⟨_, unread⟩
  intro entry member
  rcases owners entry member with same | ⟨rule, same, written, other, known⟩
  · exact ⟨symbol, same, ⟨_, _, has⟩, _, has_setBody_self declared⟩
  · refine ⟨rule, same, written, other, Has.setBody known declared ?_⟩
    rintro rfl
    cases unread.unique known

theorem Makes.owners (makes : Makes owner before groups after) :
    ∀ entry ∈ groups, entry.1 = owner ∨ ∃ rule, entry.1 = some rule ∧ before.Settles after rule := by
  induction makes with
  | quiet | flatten => nofun
  | group run =>
    intro entry member
    cases List.mem_singleton.mp member
    exact .inl rfl
  | follow begin rest ihFirst ihSecond =>
    intro entry member
    rcases List.mem_append.mp member with early | late
    · refine (ihFirst entry early).imp_right fun ⟨rule, same, written, definition, known⟩ => ?_
      exact ⟨rule, same, written, definition, rest.known known⟩
    · refine (ihSecond entry late).imp_right fun ⟨rule, same, ⟨_, _, written⟩, known⟩ => ?_
      exact ⟨rule, same, ⟨_, _, begin.written written⟩, known⟩
  | body has _ _ unread left ih =>
    subst left
    exact fun entry member => .inr (settles_of_inner has unread ih entry member)

def Pending (declarations : Declarations) (owner : Option NonTerminal) : Prop :=
  ∀ rule, owner = some rule →
    ∃ expression location, declarations.Has rule (.written expression location)

theorem Pending.ne_of_settles {rule : NonTerminal} (pending : after.Pending owner)
    (settles : before.Settles after rule) : owner ≠ some rule := by
  intro same
  obtain ⟨_, _, written⟩ := pending rule same
  obtain ⟨_, _, known⟩ := settles
  cases written.unique known

/-- Whatever is evaluated in between, a body goes on under its name and with its count, and it counts
the groups that it makes itself. -/
theorem Makes.numbered (makes : Makes owner before groups after)
    (titled : before.definition = title owner) (pending : after.Pending owner) :
    after.definition = before.definition ∧
      after.groups = before.groups + countOf owner groups ∧
      Numbered owner before.groups groups := by
  induction makes with
  | quiet quiet => exact ⟨quiet.definition, quiet.groups, .nil⟩
  | @group owner _ _ _ _ symbol run =>
    obtain ⟨named, _, same, count⟩ := generated_eq run
    refine ⟨same, ?_, ?_⟩
    · unfold countOf
      rw [count, List.map_singleton, List.count_singleton_self]
    · intro earlier holder other later split
      cases earlier with
      | nil =>
        cases split
        rw [if_pos rfl, named, titled]
        rfl
      | cons entry earlier => cases earlier <;> cases split
  | @follow owner before between after early late begin rest ihFirst ihSecond =>
    have open_ : between.Pending owner := fun rule same => by
      obtain ⟨_, _, written⟩ := pending rule same
      exact ⟨_, _, rest.written written⟩
    obtain ⟨same, count, numbered⟩ := ihFirst titled open_
    obtain ⟨same', count', numbered'⟩ := ihSecond (same.trans titled) pending
    refine ⟨same'.trans same, ?_, ?_⟩
    · rw [count', count, countOf_append, Nat.add_assoc]
    -- A body that made groups in the first part is no longer text, and makes none in the second.
    · rw [count] at numbered'
      refine numbered.append numbered' fun entry late apart old early equal => ?_
      obtain ⟨rule, holder, ⟨_, _, written⟩, _⟩ := (rest.owners entry late).resolve_left apart
      have gone := (begin.owners old early).resolve_left (equal ▸ apart)
      obtain ⟨rule', holder', _, _, known⟩ := gone
      cases (equal.symm.trans holder').symm.trans holder
      cases written.unique known
  | flatten => exact ⟨rfl, rfl, .nil⟩
  | @body owner before _ _ symbol _ _ _ _ _ groups has _ inner unread left ih =>
    subst left
    obtain ⟨_, _, numbered⟩ := ih rfl fun rule same => by
      cases same
      exact ⟨_, _, unread⟩
    have absent : ∀ entry ∈ groups, entry.1 ≠ owner := fun entry member same => by
      obtain ⟨rule, holder, settles⟩ := settles_of_inner has unread inner.owners entry member
      exact pending.ne_of_settles settles (same.symm.trans holder)
    refine ⟨rfl, ?_, numbered.outside absent⟩
    rw [countOf_eq_zero absent]
    rfl

end Makes

end Declarations

namespace Evaluation

open Declarations

def MakesSome (owner : Option NonTerminal) (before after : Declarations) : Prop :=
  ∃ groups, Makes owner before groups after

section Actions

variable {owner : Option NonTerminal} {before between after : Declarations} {location : Location}

theorem MakesSome.follow (begin : MakesSome owner before between)
    (rest : MakesSome owner between after) : MakesSome owner before after := by
  obtain ⟨_, begin⟩ := begin
  obtain ⟨_, rest⟩ := rest
  exact ⟨_, begin.follow rest⟩

theorem makesSome_of_quiet (quiet : before.Quiet after) : MakesSome owner before after :=
  ⟨_, .quiet quiet⟩

theorem makesSome_refl (declarations : Declarations) : MakesSome owner declarations declarations :=
  makesSome_of_quiet (.refl _)

theorem fresh_quiet {rule : Rule} {value : Value}
    (run : (fresh rule).run before = .ok (value, after)) : before.Quiet after := by
  cases run
  exact ⟨rfl, rfl, rfl⟩

theorem combined_quiet {join : Rule → List Rule → Rule} {values : List Value} {value : Value}
    (run : (combined join location values).run before = .ok (value, after)) :
    before.Quiet after := by
  unfold combined at run
  split at run
  · cases run
  · cases run
    exact .refl _
  · obtain ⟨_, _, lifted, others⟩ := run_bind_ok run
    obtain ⟨_, rfl⟩ := run_lift_ok lifted
    obtain ⟨_, _, others, ended⟩ := run_bind_ok others
    obtain ⟨rfl, _⟩ := asRules_ok others
    exact fresh_quiet ended

theorem optionalValue_quiet {part value : Value}
    (run : (optionalValue part).run before = .ok (value, after)) : before.Quiet after := by
  unfold optionalValue at run
  split at run
  · exact fresh_quiet run
  · exact fresh_quiet run
  · cases run

theorem optionalGroup_makes {values : List Value} {value : Value}
    (run : (optionalGroup location values).run before = .ok (value, after)) :
    MakesSome owner before after := by
  unfold optionalGroup at run
  obtain ⟨_, _, lifted, made⟩ := run_bind_ok run
  obtain ⟨rfl, _⟩ := asRules_ok lifted
  split at made
  · exact makesSome_of_quiet (fresh_quiet made)
  · exact makesSome_of_quiet (fresh_quiet made)
  · obtain ⟨_, _, grouped, ended⟩ := run_bind_ok made
    have group : MakesSome owner _ _ := ⟨_, .group grouped⟩
    exact group.follow (makesSome_of_quiet (fresh_quiet ended))

end Actions

def MakesGroups (owner : Option NonTerminal) (force : NonTerminal → Evaluation Unit) : Prop :=
  ∀ {symbol : NonTerminal} {before after : Declarations}, before.Rooted → before.Declares symbol →
    (force symbol).run before = .ok ((), after) → MakesSome owner before after

section Evaluate

variable {force : NonTerminal → Evaluation Unit} {location : Location} {owner : Option NonTerminal}

mutual

theorem evaluate_makes (courses : Courses force) (asks : MakesGroups owner force)
    (expression : Expression) {before after : Declarations} {value : Value}
    (rooted : before.Rooted)
    (run : (evaluate force location expression).run before = .ok (value, after)) :
    MakesSome owner before after := by
  match expression with
  | .plain _ | .nothing =>
    rw [evaluate] at run
    cases run
    exact makesSome_refl _
  | .reference rule =>
    rw [evaluate] at run
    obtain ⟨_, _, found, ended⟩ := run_bind_ok run
    obtain ⟨rfl, _⟩ := lookUp_ok rooted found
    cases ended
    exact makesSome_refl _
  | .shared name =>
    rw [evaluate] at run
    obtain ⟨_, _, got, run⟩ := run_bind_ok run
    cases got
    split at run <;> cases run
    exact makesSome_refl _
  | .terminal lexeme kind name =>
    rw [evaluate] at run
    split at run <;> cases run
    exact makesSome_refl _
  | .abstract =>
    rw [evaluate] at run
    exact makesSome_of_quiet (fresh_quiet run)
  | .sequence parts | .choice parts =>
    rw [evaluate] at run
    obtain ⟨_, _, evaluated, ended⟩ := run_bind_ok run
    exact (evaluateAll_makes courses asks parts rooted evaluated).follow
      (makesSome_of_quiet (combined_quiet ended))
  | .group parts =>
    rw [evaluate] at run
    obtain ⟨_, _, evaluated, ended⟩ := run_bind_ok run
    exact (evaluateAll_makes courses asks parts rooted evaluated).follow (optionalGroup_makes ended)
  | .optional inner =>
    rw [evaluate] at run
    obtain ⟨_, _, evaluated, ended⟩ := run_bind_ok run
    exact (evaluate_makes courses asks inner rooted evaluated).follow
      (makesSome_of_quiet (optionalValue_quiet ended))
  | .either left right | .join left right =>
    rw [evaluate] at run
    obtain ⟨_, _, evaluated, run⟩ := run_bind_ok run
    have begin := evaluate_makes courses asks left rooted evaluated
    have rooted := (evaluate_course courses left rooted evaluated).1.rooted rooted
    obtain ⟨_, _, evaluated, ended⟩ := run_bind_ok run
    have rest := evaluate_makes courses asks right rooted evaluated
    obtain ⟨_, rfl⟩ | ended := operated_ok ended
    · exact begin.follow rest
    exact (begin.follow rest).follow (makesSome_of_quiet (combined_quiet ended))
  | .force rule result =>
    rw [evaluate] at run
    obtain ⟨_, _, found, asked⟩ := run_bind_ok run
    obtain ⟨rfl, _, declared⟩ := lookUp_ok rooted found
    obtain ⟨_, _, forced, ended⟩ := run_bind_ok asked
    have rooted' := (courses rooted declared forced).rooted rooted
    exact (asks rooted declared forced).follow
      (evaluate_makes courses asks result rooted' ended)

theorem evaluateAll_makes (courses : Courses force) (asks : MakesGroups owner force)
    (parts : List Expression) {before after : Declarations} {values : List Value}
    (rooted : before.Rooted)
    (run : (evaluateAll force location parts).run before = .ok (values, after)) :
    MakesSome owner before after := by
  match parts with
  | [] =>
    rw [evaluateAll] at run
    cases run
    exact makesSome_refl _
  | part :: rest =>
    rw [evaluateAll] at run
    obtain ⟨_, _, evaluated, run⟩ := run_bind_ok run
    have begin := evaluate_makes courses asks part rooted evaluated
    have rooted := (evaluate_course courses part rooted evaluated).1.rooted rooted
    obtain ⟨_, _, evaluated, ended⟩ := run_bind_ok run
    cases ended
    exact begin.follow (evaluateAll_makes courses asks rest rooted evaluated)

end

end Evaluate

section Bodies

theorem within_eq {α : Type} {name : String} {action : Evaluation α} {value : α}
    {before after : Declarations}
    (run : (within name action).run before = .ok (value, after)) :
    ∃ ended, action.run { before with definition := name, groups := 0 } = .ok (value, ended) ∧
      after = ended.restored before := by
  unfold within at run
  obtain ⟨_, _, got, entered⟩ := run_bind_ok run
  cases got
  obtain ⟨_, _, put, acting⟩ := run_bind_ok entered
  cases put
  obtain ⟨_, ended, acted, left⟩ := run_bind_ok acting
  cases left
  exact ⟨ended, acted, rfl⟩

theorem definitionAt_makes (depth : Nat) {owner : Option NonTerminal} {asker : Location}
    {symbol : NonTerminal} {before after : Declarations} {definition : Definition}
    (rooted : before.Rooted) (declared : before.Declares symbol)
    (run : (definitionAt depth asker symbol).run before = .ok (definition, after)) :
    MakesSome owner before after := by
  obtain ⟨body, has⟩ := declared
  have found : before.body? symbol = some body := congrArg (Option.map Declared.body) has
  have whole := run
  unfold definitionAt at run
  obtain ⟨_, _, got, asked⟩ := run_bind_ok run
  cases got
  rw [found] at asked
  cases body with
  | known old =>
    cases asked
    exact makesSome_refl _
  | built rule =>
    obtain ⟨_, _, lifted, put⟩ := run_bind_ok asked
    obtain ⟨made, rfl⟩ := run_lift_ok lifted
    cases put
    exact ⟨_, .flatten has made⟩
  | written expression location =>
    cases depth with
    | zero => cases asked
    | succ depth =>
      obtain ⟨_, _, entered, put⟩ := run_bind_ok asked
      obtain ⟨between, acted, rfl⟩ := within_eq entered
      cases put
      have rooted : (before.entered symbol).Rooted := ⟨rooted.handles, rooted.shared⟩
      have courses : Courses fun other => discard (definitionAt depth location other) := by
        intro other before after rooted declared forced
        obtain ⟨_, answered⟩ := run_discard_ok forced
        exact (definitionAt_course depth rooted declared answered).1
      have asks : MakesGroups (some symbol) fun other =>
          discard (definitionAt depth location other) := by
        intro other before after rooted declared forced
        obtain ⟨_, answered⟩ := run_discard_ok forced
        exact definitionAt_makes depth rooted declared answered
      obtain ⟨_, _, evaluated, judged⟩ := run_bind_ok acted
      obtain ⟨_, _, lifted, flattened⟩ := run_bind_ok judged
      obtain ⟨_, rfl⟩ := run_lift_ok lifted
      obtain ⟨_, rfl⟩ := run_lift_ok flattened
      obtain ⟨groups, inner⟩ := evaluate_makes courses asks expression rooted evaluated
      have unread := (evaluate_course courses expression rooted evaluated).1.unread has
      exact ⟨groups, .body has whole inner unread rfl⟩

/-- The name and the count of groups are the same after a body as before it. -/
theorem definitionAt_restores {depth : Nat} {asker : Location} {symbol : NonTerminal}
    {before after : Declarations} {definition : Definition}
    (run : (definitionAt depth asker symbol).run before = .ok (definition, after)) :
    after.definition = before.definition ∧ after.groups = before.groups := by
  unfold definitionAt at run
  obtain ⟨_, _, got, asked⟩ := run_bind_ok run
  cases got
  split at asked
  · cases asked
  · cases asked
    exact ⟨rfl, rfl⟩
  · obtain ⟨_, _, lifted, put⟩ := run_bind_ok asked
    obtain ⟨_, rfl⟩ := run_lift_ok lifted
    cases put
    exact ⟨rfl, rfl⟩
  · split at asked
    · cases asked
    · obtain ⟨_, _, entered, put⟩ := run_bind_ok asked
      obtain ⟨_, _, rfl⟩ := within_eq entered
      cases put
      exact ⟨rfl, rfl⟩

end Bodies

end Evaluation

end Descent
