import Descent.Evaluation

/-! What an evaluation does to the declarations.

A course is made of a few kinds of steps: something is counted, a group is declared, a body is asked
for. What holds of the declarations throughout is proved for these steps, and not for the
expressions.
-/

set_option autoImplicit false

namespace Descent

def Rule.nonTerminals : Rule → List NonTerminal
  | symbol s => s.nonTerminal?.toList
  | optional s => (s.bind Symbol.nonTerminal?).toList
  | choice left right | sequence left right => left.nonTerminals ++ right.nonTerminals
  | nothing | abstract => []

def Value.nonTerminals : Value → List NonTerminal
  | .plain _ => []
  | .rule made _ => made.nonTerminals

namespace Expression

mutual

/-- The rules whose bodies an expression asks for, in the order in which it does. -/
def forces : Expression → List String
  | plain _ | reference _ | shared _ | terminal _ _ _ | nothing | abstract => []
  | sequence parts | choice parts | group parts => forcesOfAll parts
  | optional inner => inner.forces
  | either left right | join left right => left.forces ++ right.forces
  | force rule result => rule :: result.forces

def forcesOfAll : List Expression → List String
  | [] => []
  | part :: rest => part.forces ++ forcesOfAll rest

end

end Expression

section Mentions

variable {symbol : NonTerminal}

theorem Production.nonTerminals_append (first second : Production) :
    (first ++ second).nonTerminals = first.nonTerminals ++ second.nonTerminals :=
  List.filterMap_append

theorem Rule.mem_nonTerminals_of_flatten? {rule : Rule} {productions : List Production}
    (flat : rule.flatten? = some productions) {production : Production}
    (member : production ∈ productions) (mentioned : symbol ∈ production.nonTerminals) :
    symbol ∈ rule.nonTerminals := by
  induction rule generalizing productions production with
  | symbol s =>
    cases flat
    cases List.mem_singleton.mp member
    simpa [Production.nonTerminals, Rule.nonTerminals, Element.symbol?] using mentioned
  | optional s =>
    cases flat
    cases List.mem_singleton.mp member
    simpa [Production.nonTerminals, Rule.nonTerminals, Element.symbol?] using mentioned
  | choice left right ihLeft ihRight =>
    simp only [flatten?, Option.bind_eq_bind, Option.bind_eq_some_iff, Option.pure_def,
      Option.some.injEq] at flat
    obtain ⟨first, flatLeft, second, flatRight, rfl⟩ := flat
    rcases List.mem_append.mp member with member | member
    · exact List.mem_append_left _ (ihLeft flatLeft member mentioned)
    · exact List.mem_append_right _ (ihRight flatRight member mentioned)
  | sequence left right ihLeft ihRight =>
    simp only [flatten?, Option.bind_eq_bind, Option.bind_eq_some_iff, Option.pure_def,
      Option.some.injEq] at flat
    obtain ⟨heads, flatLeft, tails, flatRight, rfl⟩ := flat
    obtain ⟨head, among, joined⟩ := List.mem_flatMap.mp member
    obtain ⟨tail, ending, rfl⟩ := List.mem_map.mp joined
    rw [Production.nonTerminals_append] at mentioned
    rcases List.mem_append.mp mentioned with mentioned | mentioned
    · exact List.mem_append_left _ (ihLeft flatLeft among mentioned)
    · exact List.mem_append_right _ (ihRight flatRight ending mentioned)
  | nothing =>
    cases flat
    cases List.mem_singleton.mp member
    cases mentioned
  | abstract => cases flat

theorem Definition.mem_nonTerminals_of_flatten? {definition : Definition} {rule : Rule}
    (flat : rule.flatten? = some definition.productions)
    (mentioned : symbol ∈ definition.nonTerminals) : symbol ∈ rule.nonTerminals := by
  obtain ⟨production, member, mentioned⟩ := List.mem_flatMap.mp mentioned
  exact Rule.mem_nonTerminals_of_flatten? flat member mentioned

theorem Rule.mem_nonTerminals_foldl {join : Rule → Rule → Rule}
    (joins : ∀ left right, (join left right).nonTerminals = left.nonTerminals ++ right.nonTerminals)
    {first : Rule} {rest : List Rule} (mentioned : symbol ∈ (rest.foldl join first).nonTerminals) :
    symbol ∈ first.nonTerminals ∨ ∃ rule ∈ rest, symbol ∈ rule.nonTerminals := by
  induction rest generalizing first with
  | nil => exact .inl mentioned
  | cons next rest ih =>
    rcases ih mentioned with early | ⟨rule, member, late⟩
    · rw [joins] at early
      rcases List.mem_append.mp early with early | here
      · exact .inl early
      · exact .inr ⟨next, List.mem_cons_self, here⟩
    · exact .inr ⟨rule, List.mem_cons_of_mem _ member, late⟩

end Mentions

namespace Declarations

def Has (declarations : Declarations) (symbol : NonTerminal) (body : Body) : Prop :=
  declarations.declared[symbol.serial]? = some ⟨symbol, body⟩

def Declares (declarations : Declarations) (symbol : NonTerminal) : Prop :=
  ∃ body, declarations.Has symbol body

def Holds (declarations : Declarations) (symbols : List NonTerminal) : Prop :=
  ∀ symbol ∈ symbols, declarations.Declares symbol

structure Rooted (declarations : Declarations) : Prop where
  handles : ∀ handle ∈ declarations.handles, declarations.Declares handle.2
  shared : ∀ entry ∈ declarations.shared, declarations.Holds entry.2.nonTerminals

def asked (declarations : Declarations) (expression : Expression) : List NonTerminal :=
  expression.forces.filterMap fun rule => declarations.handles.lookup rule

def askedByAll (declarations : Declarations) (parts : List Expression) : List NonTerminal :=
  (Expression.forcesOfAll parts).filterMap fun rule => declarations.handles.lookup rule

structure Alike (before after : Declarations) : Prop where
  handles : after.handles = before.handles
  shared : after.shared = before.shared

/-- What an evaluation does to the declarations, with a bound on the groups that it declares
itself, and the nonterminals whose bodies it asks for. -/
inductive Course : Nat → List NonTerminal → Declarations → Declarations → Prop where
  | count {before after : Declarations} (groups : Nat) (alike : before.Alike after)
      (declared : after.declared = before.declared) : Course groups [] before after
  | group {before after : Declarations} {name : String} {location : Location} {rule : Rule}
      (alike : before.Alike after)
      (declared : after.declared =
        before.declared ++ [⟨⟨before.declared.length, name, location⟩, .built rule⟩])
      (holds : before.Holds rule.nonTerminals) : Course 1 [] before after
  | follow {before between after : Declarations} {first second : Nat}
      {early late : List NonTerminal} (begin : Course first early before between)
      (rest : Course second late between after) :
      Course (first + second) (early ++ late) before after
  | known {before : Declarations} {symbol : NonTerminal} {definition : Definition}
      (has : before.Has symbol (.known definition)) :
      Course 0 [symbol] before before
  | flatten {before : Declarations} {symbol : NonTerminal} {rule : Rule} {definition : Definition}
      (has : before.Has symbol (.built rule))
      (head : definition.head = symbol) (flat : rule.flatten? = some definition.productions) :
      Course 0 [symbol] before (before.setBody symbol (.known definition))
  | evaluate {before between : Declarations} {symbol : NonTerminal} {expression : Expression}
      {location : Location} {definition : Definition}
      (has : before.Has symbol (.written expression location))
      (course : Course expression.groups (before.asked expression) before between)
      (head : definition.head = symbol) (holds : between.Holds definition.nonTerminals) :
      Course 0 [symbol] before (between.setBody symbol (.known definition))

section Keeps

variable {before between after : Declarations} {groups : Nat} {symbols : List NonTerminal}

theorem Alike.refl (declarations : Declarations) : declarations.Alike declarations := ⟨rfl, rfl⟩

theorem Alike.trans (first : before.Alike between) (second : between.Alike after) :
    before.Alike after :=
  ⟨second.handles.trans first.handles, second.shared.trans first.shared⟩

theorem Alike.asked (alike : before.Alike after) (expression : Expression) :
    after.asked expression = before.asked expression := by
  unfold Declarations.asked
  rw [alike.handles]

theorem Alike.askedByAll (alike : before.Alike after) (parts : List Expression) :
    after.askedByAll parts = before.askedByAll parts := by
  unfold Declarations.askedByAll
  rw [alike.handles]

theorem Course.alike (course : Course groups symbols before after) : before.Alike after := by
  induction course with
  | count _ alike | group alike => exact alike
  | follow _ _ ihFirst ihSecond => exact ihFirst.trans ihSecond
  | known => exact .refl _
  | flatten => exact ⟨rfl, rfl⟩
  | evaluate _ _ _ _ ih => exact ⟨ih.handles, ih.shared⟩

section SetBody

variable {symbol other : NonTerminal} {body current : Body}

theorem Has.unique (has : before.Has symbol body) (again : before.Has symbol current) :
    current = body :=
  congrArg Declared.body (Option.some.inj (again.symm.trans has))

theorem has_congr (same : after.declared = before.declared) :
    after.Has symbol body ↔ before.Has symbol body := by
  unfold Has
  rw [same]

theorem has_setBody_self (declared : before.Declares symbol) :
    (before.setBody symbol body).Has symbol body :=
  List.getElem?_set_self (List.getElem?_eq_some_iff.mp declared.choose_spec).1

theorem has_setBody_ne (apart : symbol.serial ≠ other.serial) :
    (before.setBody symbol body).Has other current ↔ before.Has other current := by
  unfold Has setBody
  rw [List.getElem?_set_ne apart]

theorem Declares.eq (declared : before.Declares symbol) (found : before.Declares other)
    (same : symbol.serial = other.serial) : symbol = other := by
  obtain ⟨_, entry⟩ := declared
  obtain ⟨_, found⟩ := found
  unfold Has at entry found
  rw [← same, entry] at found
  exact congrArg Declared.symbol (Option.some.inj found)

theorem has_of_setBody (declared : before.Declares symbol)
    (has : (before.setBody symbol body).Has other current) :
    other = symbol ∧ current = body ∨ other ≠ symbol ∧ before.Has other current := by
  by_cases same : symbol.serial = other.serial
  · have set : (before.setBody symbol body).Has symbol body := has_setBody_self declared
    obtain rfl := Declares.eq ⟨_, has⟩ ⟨_, set⟩ same.symm
    exact .inl ⟨rfl, set.unique has⟩
  · exact .inr ⟨fun equal => same (congrArg NonTerminal.serial equal.symm),
      (has_setBody_ne same).mp has⟩

theorem has_of_concat {name : String} {location : Location}
    (declared : after.declared =
      before.declared ++ [⟨⟨before.declared.length, name, location⟩, body⟩])
    (has : after.Has other current) :
    before.Has other current ∨
      other = ⟨before.declared.length, name, location⟩ ∧ current = body := by
  unfold Has at has ⊢
  rw [declared, List.getElem?_append] at has
  split at has
  · exact .inl has
  · rw [List.getElem?_singleton] at has
    split at has
    · cases has
      exact .inr ⟨rfl, rfl⟩
    · cases has

theorem Has.concat {name : String} {location : Location} (has : before.Has other current)
    (declared : after.declared =
      before.declared ++ [⟨⟨before.declared.length, name, location⟩, body⟩]) :
    after.Has other current := by
  unfold Has at has ⊢
  rw [declared, List.getElem?_append_left (List.getElem?_eq_some_iff.mp has).1, has]

theorem Has.setBody (has : before.Has other current) (declared : before.Declares symbol)
    (apart : other ≠ symbol) : (before.setBody symbol body).Has other current :=
  (has_setBody_ne fun same => apart (declared.eq ⟨_, has⟩ same).symm).mpr has

theorem Declares.setBody (declared : before.Declares symbol) (body : Body)
    (kept : before.Declares other) : (before.setBody symbol body).Declares other := by
  by_cases same : other = symbol
  · subst same
    exact ⟨body, has_setBody_self kept⟩
  · exact ⟨_, kept.choose_spec.setBody declared same⟩

end SetBody

theorem Course.declares (course : Course groups symbols before after) {other : NonTerminal}
    (declared : before.Declares other) : after.Declares other := by
  induction course generalizing other with
  | count _ _ same => exact declared.imp fun _ => (has_congr same).mpr
  | group _ same =>
    obtain ⟨body, has⟩ := declared
    exact ⟨body, has.concat same⟩
  | follow _ _ ihFirst ihSecond => exact ihSecond (ihFirst declared)
  | known => exact declared
  | flatten has => exact Declares.setBody ⟨_, has⟩ _ declared
  | evaluate has _ _ _ ih => exact Declares.setBody (ih ⟨_, has⟩) _ (ih declared)

theorem Course.holds (course : Course groups symbols before after) {others : List NonTerminal}
    (held : before.Holds others) : after.Holds others :=
  fun symbol member => course.declares (held symbol member)

theorem Course.rooted (course : Course groups symbols before after) (rooted : before.Rooted) :
    after.Rooted where
  handles handle member := course.declares (rooted.handles handle (course.alike.handles ▸ member))
  shared entry member := course.holds (rooted.shared entry (course.alike.shared ▸ member))

theorem Course.counted (course : Course groups symbols before between)
    (alike : between.Alike after) (declared : after.declared = between.declared) :
    Course groups symbols before after := by
  have whole := course.follow (.count 0 alike declared)
  rwa [List.append_nil, Nat.add_zero] at whole

theorem Course.both {first second : Expression}
    (begin : Course first.groups (before.asked first) before between)
    (rest : Course second.groups (between.asked second) between after) :
    Course (first.groups + second.groups)
      ((first.forces ++ second.forces).filterMap fun rule => before.handles.lookup rule)
      before after := by
  rw [begin.alike.asked] at rest
  rw [List.filterMap_append]
  exact begin.follow rest

end Keeps

end Declarations

end Descent
