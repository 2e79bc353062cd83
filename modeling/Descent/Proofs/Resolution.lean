import Mathlib.Data.List.Nodup
import Descent.Proofs.Evaluation.Runs

/-! The productions of a rule are the ways to resolve its choices.

A rule is read from left to right, and at each choice that is met a side is taken. What is left is a
production. Every way to read the rule gives one, and of two ways the one that takes the left side
where they part comes first. How parts are grouped makes no difference.
-/

set_option autoImplicit false

namespace Descent

inductive Side where
  | left
  | right
  deriving DecidableEq, Repr

namespace Rule

/-- Where two readings part, the first takes the left side and the second the right one. -/
def Precedes (first second : List Side) : Prop :=
  ∃ common early late, first = common ++ Side.left :: early ∧ second = common ++ Side.right :: late

/-- The sides that are taken at the choices that are met, and the production that is left. What lies
on the other side of a choice is not read. -/
inductive Resolves : Rule → List Side → Production → Prop where
  | symbol (s : Symbol) : Resolves (.symbol s) [] [.required s]
  | optional (s : Option Symbol) : Resolves (.optional s) [] [.optional s]
  | nothing : Resolves .nothing [] []
  | left {left right : Rule} {sides : List Side} {production : Production}
      (resolves : Resolves left sides production) :
      Resolves (.choice left right) (.left :: sides) production
  | right {left right : Rule} {sides : List Side} {production : Production}
      (resolves : Resolves right sides production) :
      Resolves (.choice left right) (.right :: sides) production
  | sequence {first second : Rule} {early late : List Side} {head tail : Production}
      (begin : Resolves first early head) (rest : Resolves second late tail) :
      Resolves (.sequence first second) (early ++ late) (head ++ tail)

inductive Within (part : Rule) : Rule → Prop where
  | self : Within part part
  | left {left right : Rule} (within : Within part left) : Within part (.choice left right)
  | right {left right : Rule} (within : Within part right) : Within part (.choice left right)
  | first {first second : Rule} (within : Within part first) : Within part (.sequence first second)
  | second {first second : Rule} (within : Within part second) :
      Within part (.sequence first second)

/-- Rules that differ in how choices of choices and sequences of sequences are grouped. -/
inductive Regroups : Rule → Rule → Prop where
  | refl (rule : Rule) : Regroups rule rule
  | symm {rule other : Rule} (same : Regroups rule other) : Regroups other rule
  | trans {rule other last : Rule} (same : Regroups rule other) (again : Regroups other last) :
      Regroups rule last
  | choice {left left' right right' : Rule} (same : Regroups left left')
      (again : Regroups right right') : Regroups (.choice left right) (.choice left' right')
  | sequence {first first' second second' : Rule} (same : Regroups first first')
      (again : Regroups second second') : Regroups (.sequence first second) (.sequence first' second')
  | choices (left middle right : Rule) :
      Regroups (.choice (.choice left middle) right) (.choice left (.choice middle right))
  | sequences (first second third : Rule) :
      Regroups (.sequence (.sequence first second) third) (.sequence first (.sequence second third))

/-! The readings of a rule, one after the other. -/

def readings : Rule → List (List Side × Production)
  | symbol s => [([], [.required s])]
  | optional s => [([], [.optional s])]
  | choice left right =>
    left.readings.map (fun reading => (.left :: reading.1, reading.2)) ++
      right.readings.map fun reading => (.right :: reading.1, reading.2)
  | sequence first second => first.readings.flatMap fun head =>
      second.readings.map fun tail => (head.1 ++ tail.1, head.2 ++ tail.2)
  | nothing => [([], [])]
  | abstract => []

section Readings

variable {rule : Rule} {sides : List Side} {production : Production}

theorem mem_readings : (sides, production) ∈ rule.readings ↔ Resolves rule sides production := by
  induction rule generalizing sides production with
  | symbol s =>
    refine ⟨fun member => ?_, fun resolves => ?_⟩
    · cases List.mem_singleton.mp member
      exact .symbol s
    · cases resolves
      exact List.mem_singleton_self _
  | optional s =>
    refine ⟨fun member => ?_, fun resolves => ?_⟩
    · cases List.mem_singleton.mp member
      exact .optional s
    · cases resolves
      exact List.mem_singleton_self _
  | choice left right ihLeft ihRight =>
    unfold readings
    refine ⟨fun member => ?_, fun resolves => ?_⟩
    · rcases List.mem_append.mp member with member | member
      · obtain ⟨reading, inside, same⟩ := List.mem_map.mp member
        cases same
        exact .left (ihLeft.mp inside)
      · obtain ⟨reading, inside, same⟩ := List.mem_map.mp member
        cases same
        exact .right (ihRight.mp inside)
    · cases resolves with
      | left resolves =>
        exact List.mem_append_left _ (List.mem_map.mpr ⟨_, ihLeft.mpr resolves, rfl⟩)
      | right resolves =>
        exact List.mem_append_right _ (List.mem_map.mpr ⟨_, ihRight.mpr resolves, rfl⟩)
  | sequence first second ihFirst ihSecond =>
    unfold readings
    refine ⟨fun member => ?_, fun resolves => ?_⟩
    · obtain ⟨head, inside, joined⟩ := List.mem_flatMap.mp member
      obtain ⟨tail, ending, same⟩ := List.mem_map.mp joined
      cases same
      exact .sequence (ihFirst.mp inside) (ihSecond.mp ending)
    · cases resolves with
      | sequence begin rest =>
        exact List.mem_flatMap.mpr
          ⟨_, ihFirst.mpr begin, List.mem_map.mpr ⟨_, ihSecond.mpr rest, rfl⟩⟩
  | nothing =>
    refine ⟨fun member => ?_, fun resolves => ?_⟩
    · cases List.mem_singleton.mp member
      exact .nothing
    · cases resolves
      exact List.mem_singleton_self _
  | abstract => exact ⟨nofun, nofun⟩

theorem Precedes.cons {first second : List Side} (precedes : Precedes first second) (side : Side) :
    Precedes (side :: first) (side :: second) := by
  obtain ⟨common, early, late, rfl, rfl⟩ := precedes
  exact ⟨side :: common, early, late, rfl, rfl⟩

theorem Precedes.prepend {first second : List Side} (precedes : Precedes first second)
    (before : List Side) : Precedes (before ++ first) (before ++ second) := by
  induction before with
  | nil => exact precedes
  | cons side before ih => exact ih.cons side

theorem Precedes.extend {first second : List Side} (precedes : Precedes first second)
    (early late : List Side) : Precedes (first ++ early) (second ++ late) := by
  obtain ⟨common, more, rest, rfl, rfl⟩ := precedes
  exact ⟨common, more ++ early, rest ++ late, by simp, by simp⟩

theorem Precedes.ne {first second : List Side} (precedes : Precedes first second) :
    first ≠ second := by
  obtain ⟨common, early, late, rfl, rfl⟩ := precedes
  simp

theorem readings_ordered (rule : Rule) : (rule.readings.map Prod.fst).Pairwise Precedes := by
  rw [List.pairwise_map]
  induction rule with
  | symbol | optional | nothing => exact List.pairwise_singleton _ _
  | abstract => exact .nil
  | choice left right ihLeft ihRight =>
    unfold readings
    refine List.pairwise_append.mpr ⟨?_, ?_, fun early inLeft late inRight => ?_⟩
    · exact List.pairwise_map.mpr (ihLeft.imp fun precedes => precedes.cons .left)
    · exact List.pairwise_map.mpr (ihRight.imp fun precedes => precedes.cons .right)
    · obtain ⟨reading, _, rfl⟩ := List.mem_map.mp inLeft
      obtain ⟨other, _, rfl⟩ := List.mem_map.mp inRight
      exact ⟨[], reading.1, other.1, rfl, rfl⟩
  | sequence first second ihFirst ihSecond =>
    -- Two readings of the sequence part in the first rule, or else in the second.
    unfold readings
    refine List.pairwise_flatMap.mpr ⟨fun head _ => ?_, ihFirst.imp fun precedes => ?_⟩
    · exact List.pairwise_map.mpr (ihSecond.imp fun precedes => precedes.prepend head.1)
    · intro early inEarly late inLate
      obtain ⟨tail, _, rfl⟩ := List.mem_map.mp inEarly
      obtain ⟨other, _, rfl⟩ := List.mem_map.mp inLate
      exact precedes.extend tail.1 other.1

end Readings

section Flatten

variable {left right first second rule : Rule} {productions : List Production}

theorem flatten?_choice : (choice left right).flatten? = some productions ↔
    ∃ early late, left.flatten? = some early ∧ right.flatten? = some late ∧
      productions = early ++ late := by
  simp only [flatten?, Option.bind_eq_bind, Option.bind_eq_some_iff, Option.pure_def,
    Option.some.injEq]
  constructor
  · rintro ⟨early, flat, late, flat', rfl⟩
    exact ⟨early, late, flat, flat', rfl⟩
  · rintro ⟨early, late, flat, flat', rfl⟩
    exact ⟨early, flat, late, flat', rfl⟩

theorem flatten?_sequence : (sequence first second).flatten? = some productions ↔
    ∃ heads tails, first.flatten? = some heads ∧ second.flatten? = some tails ∧
      productions = heads.flatMap fun head => tails.map (head ++ ·) := by
  simp only [flatten?, Option.bind_eq_bind, Option.bind_eq_some_iff, Option.pure_def,
    Option.some.injEq]
  constructor
  · rintro ⟨heads, flat, tails, flat', rfl⟩
    exact ⟨heads, tails, flat, flat', rfl⟩
  · rintro ⟨heads, tails, flat, flat', rfl⟩
    exact ⟨heads, flat, tails, flat', rfl⟩

/-- A rule is flattened to what its readings leave, in their order. -/
theorem flatten?_eq_readings (flat : rule.flatten? = some productions) :
    productions = rule.readings.map Prod.snd := by
  induction rule generalizing productions with
  | symbol | optional | nothing => cases flat; rfl
  | abstract => cases flat
  | choice left right ihLeft ihRight =>
    obtain ⟨early, late, flatLeft, flatRight, rfl⟩ := flatten?_choice.mp flat
    rw [ihLeft flatLeft, ihRight flatRight, readings, List.map_append, List.map_map, List.map_map]
    rfl
  | sequence first second ihFirst ihSecond =>
    obtain ⟨heads, tails, flatFirst, flatSecond, rfl⟩ := flatten?_sequence.mp flat
    rw [ihFirst flatFirst, ihSecond flatSecond, readings, List.map_flatMap, List.flatMap_map]
    refine List.flatMap_congr fun head _ => ?_
    rw [List.map_map, List.map_map]
    rfl

theorem flatten?_eq_none : rule.flatten? = none ↔ Within .abstract rule := by
  induction rule with
  | symbol | optional | nothing => exact ⟨nofun, nofun⟩
  | abstract => exact ⟨fun _ => .self, fun _ => rfl⟩
  | choice left right ihLeft ihRight =>
    constructor
    · intro none
      cases flatLeft : left.flatten? with
      | none => exact .left (ihLeft.mp flatLeft)
      | some early =>
        cases flatRight : right.flatten? with
        | none => exact .right (ihRight.mp flatRight)
        | some late =>
          have flat := flatten?_choice.mpr ⟨early, late, flatLeft, flatRight, rfl⟩
          cases none.symm.trans flat
    · intro within
      cases within with
      | left within => rw [flatten?, ihLeft.mpr within]; rfl
      | right within =>
        rw [flatten?, ihRight.mpr within]
        cases left.flatten? <;> rfl
  | sequence first second ihFirst ihSecond =>
    constructor
    · intro none
      cases flatFirst : first.flatten? with
      | none => exact .first (ihFirst.mp flatFirst)
      | some heads =>
        cases flatSecond : second.flatten? with
        | none => exact .second (ihSecond.mp flatSecond)
        | some tails =>
          have flat := flatten?_sequence.mpr ⟨heads, tails, flatFirst, flatSecond, rfl⟩
          cases none.symm.trans flat
    · intro within
      cases within with
      | first within => rw [flatten?, ihFirst.mpr within]; rfl
      | second within =>
        rw [flatten?, ihSecond.mpr within]
        cases first.flatten? <;> rfl

/-- However choices and sequences are grouped, they come to the same productions. -/
theorem Regroups.flatten? {other : Rule} (regroups : Regroups rule other) :
    rule.flatten? = other.flatten? := by
  induction regroups with
  | refl => rfl
  | symm _ ih => exact ih.symm
  | trans _ _ ih ih' => exact ih.trans ih'
  | choice _ _ ih ih' | sequence _ _ ih ih' => rw [Rule.flatten?, Rule.flatten?, ih, ih']
  | choices left middle right =>
    simp only [Rule.flatten?, Option.bind_eq_bind, Option.bind_assoc, Option.pure_def,
      Option.bind_some, List.append_assoc]
  | sequences first second third =>
    simp only [Rule.flatten?, Option.bind_eq_bind, Option.bind_assoc, Option.pure_def,
      Option.bind_some, List.flatMap_assoc, List.map_flatMap, List.flatMap_map, List.map_map,
      Function.comp_def, List.append_assoc]

end Flatten

end Rule

/-! Productions that are drawn from a rule one at a time. -/

/-- What has come when there is no more, and whether it was cut short. -/
structure Draw where
  productions : List Production
  broken : Bool

namespace Draw

variable {draw : Draw} {next : Production → Draw}

def all? (draw : Draw) : Option (List Production) :=
  if draw.broken then none else some draw.productions

def followedBy (first second : Draw) : Draw :=
  if first.broken then first else ⟨first.productions ++ second.productions, second.broken⟩

def each (draw : Draw) (next : Production → Draw) : Draw :=
  draw.productions.foldr (fun head rest => (next head).followedBy rest) ⟨[], draw.broken⟩

theorem all?_eq_some {productions : List Production} :
    draw.all? = some productions ↔ draw.broken = false ∧ draw.productions = productions := by
  unfold all?
  cases draw.broken <;> simp

theorem all?_eq_none : draw.all? = none ↔ draw.broken = true := by
  unfold all?
  cases draw.broken <;> simp

theorem broken_followedBy (first second : Draw) :
    (first.followedBy second).broken = (first.broken || second.broken) := by
  unfold followedBy
  cases broken : first.broken <;> simp [broken]

theorem all?_followedBy (first second : Draw) :
    (first.followedBy second).all? = do return (← first.all?) ++ (← second.all?) := by
  unfold followedBy all?
  cases broken : first.broken with
  | true => simp [broken]
  | false => cases second.broken <;> rfl

theorem broken_each (draw : Draw) (next : Production → Draw) :
    (draw.each next).broken = (draw.productions.any (fun head => (next head).broken) ||
      draw.broken) := by
  unfold each
  induction draw.productions with
  | nil => rfl
  | cons head rest ih => rw [List.foldr_cons, broken_followedBy, ih, List.any_cons, Bool.or_assoc]

theorem productions_each (whole : ∀ head ∈ draw.productions, (next head).broken = false) :
    (draw.each next).productions =
      draw.productions.flatMap fun head => (next head).productions := by
  unfold each
  generalize draw.productions = heads at whole
  induction heads with
  | nil => rfl
  | cons head rest ih =>
    have unbroken : ¬(next head).broken = true := by simp [whole head List.mem_cons_self]
    rw [List.foldr_cons, List.flatMap_cons, followedBy, if_neg unbroken]
    exact congrArg _ (ih fun other member => whole other (List.mem_cons_of_mem _ member))

theorem all?_each {heads tails : Draw} (starts : heads.all? ≠ some []) :
    (heads.each fun head => ⟨tails.productions.map (head ++ ·), tails.broken⟩).all? =
      heads.all?.bind fun first =>
        tails.all?.map fun second => first.flatMap fun head => second.map (head ++ ·) := by
  obtain ⟨first, broken⟩ := heads
  cases broken with
  | true => exact all?_eq_none.mpr (by rw [broken_each, Bool.or_true])
  | false =>
    cases first with
    | nil => exact absurd rfl starts
    | cons head rest =>
      obtain ⟨second, broken⟩ := tails
      cases broken with
      | true => exact all?_eq_none.mpr (by rw [broken_each]; rfl)
      | false =>
        refine all?_eq_some.mpr ⟨?_, productions_each fun _ _ => rfl⟩
        rw [broken_each, Bool.or_false]
        exact List.any_eq_false.mpr fun _ _ => Bool.false_ne_true

end Draw

namespace Rule

/-- A sequence draws from its second part anew for each production of the first. -/
def draw : Rule → Draw
  | symbol s => ⟨[[.required s]], false⟩
  | optional s => ⟨[[.optional s]], false⟩
  | choice left right => left.draw.followedBy right.draw
  | sequence first second => first.draw.each fun head =>
      ⟨second.draw.productions.map (head ++ ·), second.draw.broken⟩
  | nothing => ⟨[[]], false⟩
  | abstract => ⟨[], true⟩

/-- Whoever draws all productions comes to an abstract rule, wherever it stands, and has the same
productions otherwise. -/
theorem draw_all? (rule : Rule) : rule.draw.all? = rule.flatten? := by
  induction rule with
  | symbol | optional | nothing | abstract => rfl
  | choice left right ihLeft ihRight =>
    unfold draw
    rw [flatten?, ← ihLeft, ← ihRight, Draw.all?_followedBy]
  | sequence first second ihFirst ihSecond =>
    have starts : first.draw.all? ≠ some [] := fun none =>
      flatten?_ne_nil (ihFirst.symm.trans none) rfl
    unfold draw
    rw [Draw.all?_each starts, ihFirst, ihSecond, flatten?]
    cases first.flatten? <;> cases second.flatten? <;> rfl

/-! Calls that put parts together. -/

/-- An operation on rules for which grouping makes no difference. -/
structure Groups (join : Rule → Rule → Rule) : Prop where
  congr : ∀ {rule rule' other other' : Rule}, Regroups rule rule' → Regroups other other' →
    Regroups (join rule other) (join rule' other')
  assoc : ∀ rule other last : Rule,
    Regroups (join (join rule other) last) (join rule (join other last))

theorem groups_choice : Groups choice := ⟨.choice, .choices⟩

theorem groups_sequence : Groups sequence := ⟨.sequence, .sequences⟩

section Groups

variable {join : Rule → Rule → Rule}

theorem Groups.foldl (groups : Groups join) {rule other : Rule} (same : Regroups rule other)
    (rest : List Rule) : Regroups (rest.foldl join rule) (rest.foldl join other) := by
  induction rest generalizing rule other with
  | nil => exact same
  | cons next rest ih => exact ih (groups.congr same (.refl next))

theorem Groups.nested (groups : Groups join) (outer first : Rule) (rest : List Rule) :
    Regroups (join outer (rest.foldl join first)) ((first :: rest).foldl join outer) := by
  induction rest generalizing first with
  | nil => exact .refl _
  | cons next rest ih =>
    exact (ih (join first next)).trans (groups.foldl (groups.assoc outer first next).symm rest)

end Groups

end Rule

namespace Evaluation

section Combined

variable {location : Location} {values : List Value} {rules : List Rule} {value : Value}
  {before after : Declarations}

def Read (location : Location) (values : List Value) (rules : List Rule) : Prop :=
  values.map (asRule location) = rules.map .ok

theorem read_cons {rule : Rule} : Read location (value :: values) (rule :: rules) ↔
    asRule location value = .ok rule ∧ Read location values rules := by
  unfold Read
  rw [List.map_cons, List.map_cons, List.cons.injEq]

theorem run_bind_of_ok {α β : Type} {first : Evaluation α} {next : α → Evaluation β} {result : α}
    (run : first.run before = .ok (result, after)) :
    (first >>= next).run before = (next result).run after := by
  rw [StateT.run_bind, run]
  rfl

theorem read_of_run (run : (values.mapM fun value =>
      (liftM (asRule location value) : Evaluation Rule)).run before = .ok (rules, after)) :
    Read location values rules := by
  induction values generalizing rules after with
  | nil => cases run; rfl
  | cons value values ih =>
    rw [List.mapM_cons] at run
    obtain ⟨first, _, lifted, others⟩ := run_bind_ok run
    obtain ⟨made, rfl⟩ := run_lift_ok lifted
    obtain ⟨rest, _, others, ended⟩ := run_bind_ok others
    cases ended
    exact read_cons.mpr ⟨made, ih others⟩

theorem run_of_read (read : Read location values rules) (before : Declarations) :
    (values.mapM fun value => (liftM (asRule location value) : Evaluation Rule)).run before =
      .ok (rules, before) := by
  induction values generalizing rules with
  | nil => cases List.map_eq_nil_iff.mp read.symm; rfl
  | cons value values ih =>
    obtain ⟨rule, rest, rfl, made, others⟩ := List.map_eq_cons_iff.mp read.symm
    have lifted : (liftM (asRule location value) : Evaluation Rule).run before =
        .ok (rule, before) := by
      rw [← made]
      rfl
    rw [List.mapM_cons, run_bind_of_ok lifted, run_bind_of_ok (ih others.symm)]
    rfl

variable {join : Rule → Rule → Rule}

/-- A call comes to the rules of its arguments, put together from left to right. -/
theorem read_of_combined
    (run : (combined (fun first rest => rest.foldl join first) location values).run before =
      .ok (value, after)) :
    ∃ first rest, Read location values (first :: rest) ∧
      asRule location value = .ok (rest.foldl join first) := by
  unfold combined at run
  split at run
  · cases run
  · cases run
    exact ⟨_, [], rfl, rfl⟩
  · obtain ⟨first, _, lifted, onward⟩ := run_bind_ok run
    obtain ⟨made, rfl⟩ := run_lift_ok lifted
    obtain ⟨rest, _, others, ended⟩ := run_bind_ok onward
    cases ended
    exact ⟨first, rest, read_cons.mpr ⟨made, read_of_run others⟩, rfl⟩

theorem combined_of_read {first : Rule} {rest : List Rule}
    (read : Read location values (first :: rest)) (before : Declarations) :
    ∃ value after,
      (combined (fun first rest => rest.foldl join first) location values).run before =
        .ok (value, after) ∧ asRule location value = .ok (rest.foldl join first) := by
  unfold combined
  split
  · cases read
  · obtain ⟨made, none⟩ := read_cons.mp read
    cases List.map_eq_nil_iff.mp none.symm
    exact ⟨_, before, rfl, made⟩
  · rename_i value values _
    obtain ⟨made, others⟩ := read_cons.mp read
    have lifted : (liftM (asRule location value) : Evaluation Rule).run before =
        .ok (first, before) := by
      rw [made]
      rfl
    refine ⟨.rule (rest.foldl join first) (some before.stamp),
      { before with stamp := before.stamp + 1 }, ?_, rfl⟩
    rw [run_bind_of_ok lifted, run_bind_of_ok (run_of_read others before)]
    rfl

theorem combined_regroups (groups : Rule.Groups join) {early inner late : List Value}
    {nested : Value} {between : Declarations}
    (inside : (combined (fun first rest => rest.foldl join first) location inner).run before =
      .ok (nested, between))
    (outside : (combined (fun first rest => rest.foldl join first) location
      (early ++ nested :: late)).run between = .ok (value, after)) :
    ∃ flat last rule rule',
      (combined (fun first rest => rest.foldl join first) location
        (early ++ inner ++ late)).run before = .ok (flat, last) ∧
      asRule location value = .ok rule ∧ asRule location flat = .ok rule' ∧
      rule.Regroups rule' := by
  obtain ⟨first, rest, read, made⟩ := read_of_combined inside
  obtain ⟨head, tail, reads, made'⟩ := read_of_combined outside
  unfold Read at reads
  rw [List.map_append, List.map_cons, made] at reads
  obtain ⟨fronts, others, split, ahead, others'⟩ := List.map_eq_append_iff.mp reads.symm
  obtain ⟨rule, backs, rfl, same, behind⟩ := List.map_eq_cons_iff.mp others'
  cases Except.ok.inj same
  have whole : Read location (early ++ inner ++ late) (fronts ++ (first :: rest) ++ backs) := by
    unfold Read at read ⊢
    rw [List.map_append, List.map_append, List.map_append, List.map_append, ahead, read, behind]
  cases fronts with
  | nil =>
    obtain ⟨rfl, rfl⟩ := List.cons.inj split
    obtain ⟨flat, last, run, made''⟩ := combined_of_read whole before
    refine ⟨flat, last, _, _, run, made', made'', ?_⟩
    rw [List.append_eq, List.foldl_append]
    exact .refl _
  | cons front fronts =>
    obtain ⟨rfl, rfl⟩ := List.cons.inj split
    obtain ⟨flat, last, run, made''⟩ := combined_of_read whole before
    refine ⟨flat, last, _, _, run, made', made'', ?_⟩
    rw [List.append_eq, List.append_eq, List.append_eq, List.foldl_append, List.foldl_append,
      List.foldl_append]
    exact groups.foldl (groups.nested _ first rest) backs

end Combined

theorem flat_error {head : NonTerminal} {rule : Rule} (none : rule.flatten? = none) :
    flat head rule = .error .noProductions := by
  unfold flat
  split
  · rename_i flat
    cases none.symm.trans flat
  · rfl

end Evaluation

namespace Rule

/-- A rule without abstract parts comes to one production for each way to resolve its choices, in the
order in which the ways part. With an abstract part anywhere it comes to none. It does not matter how
parts are grouped, by calls in calls or otherwise. -/
theorem flatten?_enumerates (rule : Rule) :
    (¬Within .abstract rule → ∃ readings : List (List Side × Production),
      rule.flatten? = some (readings.map Prod.snd) ∧ readings ≠ [] ∧
        (readings.map Prod.fst).Pairwise Precedes ∧
        (∀ sides production, (sides, production) ∈ readings ↔ Resolves rule sides production) ∧
        ∀ sides production production', Resolves rule sides production →
          Resolves rule sides production' → production = production') ∧
      (Within .abstract rule →
        rule.flatten? = none ∧ ∀ head, Evaluation.flat head rule = .error .noProductions) ∧
      rule.draw.all? = rule.flatten? ∧
      (∀ other, Regroups rule other → other.flatten? = rule.flatten?) ∧
      ∀ join, join = sequences ∨ join = choices →
        ∀ (location : Location) (before between after : Declarations)
          (early inner late : List Value) (nested value : Value),
          (Evaluation.combined join location inner).run before = .ok (nested, between) →
          (Evaluation.combined join location (early ++ nested :: late)).run between =
            .ok (value, after) →
          ∃ flat last rule rule',
            (Evaluation.combined join location (early ++ inner ++ late)).run before =
              .ok (flat, last) ∧
            Evaluation.asRule location value = .ok rule ∧
            Evaluation.asRule location flat = .ok rule' ∧ rule.flatten? = rule'.flatten? := by
  refine ⟨fun without => ?_, fun within => ?_, rule.draw_all?,
    fun other regroups => regroups.flatten?.symm, ?_⟩
  · obtain ⟨productions, flat⟩ := Option.ne_none_iff_exists'.mp (without ∘ flatten?_eq_none.mp)
    have same := flatten?_eq_readings flat
    refine ⟨rule.readings, same ▸ flat, ?_, readings_ordered rule, fun _ _ => mem_readings, ?_⟩
    · rintro none
      rw [none] at same
      exact flatten?_ne_nil flat same
    · intro sides production production' resolves resolves'
      have once : (rule.readings.map Prod.fst).Nodup :=
        (readings_ordered rule).imp Precedes.ne
      have equal := List.inj_on_of_nodup_map once (mem_readings.mpr resolves)
        (mem_readings.mpr resolves') rfl
      exact congrArg Prod.snd equal
  · have none := flatten?_eq_none.mpr within
    exact ⟨none, fun _ => Evaluation.flat_error none⟩
  · intro join known location before between after early inner late nested value inside outside
    have whole : ∃ op, Groups op ∧ join = fun first rest => rest.foldl op first := by
      rcases known with rfl | rfl
      · exact ⟨_, groups_sequence, rfl⟩
      · exact ⟨_, groups_choice, rfl⟩
    obtain ⟨op, groups, rfl⟩ := whole
    obtain ⟨flat, last, rule, rule', run, made, made', regroups⟩ :=
      Evaluation.combined_regroups groups inside outside
    exact ⟨flat, last, rule, rule', run, made, made', regroups.flatten?⟩

def letter (lexeme : String) : Rule := .symbol (.terminal (.of (.lexeme lexeme) none ⟨"letters", 1⟩))

/-- One part, and then either a second, or a third with a fourth behind it, or a fifth. -/
def branching : Rule :=
  .sequence (letter "x")
    (.choice (letter "a") (.choice (.sequence (letter "b") (letter "c")) (letter "d")))

/-- There are three ways, of which the first takes the left side at once. A call inside of a call comes
to the same as one call. -/
theorem flatten?_enumerates_branching :
    let text (lexeme : String) : Element :=
      .required (.terminal (.of (.lexeme lexeme) none ⟨"letters", 1⟩))
    let part (lexeme : String) : Value := .rule (letter lexeme) none
    ¬Within .abstract branching ∧
      branching.flatten? =
        some [[text "x", text "a"], [text "x", text "b", text "c"], [text "x", text "d"]] ∧
      Resolves branching [.right, .left] [text "x", text "b", text "c"] ∧
      (∃ readings : List (List Side × Production),
        branching.flatten? = some (readings.map Prod.snd) ∧ readings ≠ [] ∧
          (readings.map Prod.fst).Pairwise Precedes ∧
          ∀ sides production, (sides, production) ∈ readings ↔
            Resolves branching sides production) ∧
      Within .abstract (.sequence branching .abstract) ∧
      Evaluation.flat ⟨0, "Letters", ⟨"letters", 1⟩⟩ (.sequence branching .abstract) =
        .error .noProductions ∧
      ∃ nested between value after,
        (Evaluation.combined sequences ⟨"letters", 1⟩ [part "b", part "c"]).run .empty =
          .ok (nested, between) ∧
        (Evaluation.combined sequences ⟨"letters", 1⟩ [part "x", nested]).run between =
          .ok (value, after) ∧
        ∃ flat last rule rule',
          (Evaluation.combined sequences ⟨"letters", 1⟩ [part "x", part "b", part "c"]).run .empty =
            .ok (flat, last) ∧
          Evaluation.asRule ⟨"letters", 1⟩ value = .ok rule ∧
          Evaluation.asRule ⟨"letters", 1⟩ flat = .ok rule' ∧ rule.flatten? = rule'.flatten? := by
  intro text part
  have flat : branching.flatten? =
      some [[text "x", text "a"], [text "x", text "b", text "c"], [text "x", text "d"]] := rfl
  have without : ¬Within .abstract branching := fun within =>
    nomatch (flatten?_eq_none.mpr within).symm.trans flat
  have within : Within .abstract (.sequence branching .abstract) := .second .self
  obtain ⟨readings, same, some, ordered, listed, _⟩ := (flatten?_enumerates branching).1 without
  have grouped := (flatten?_enumerates branching).2.2.2.2 sequences (.inl rfl) ⟨"letters", 1⟩ .empty
    _ _ [part "x"] [part "b", part "c"] [] _ _ rfl rfl
  exact ⟨without, flat, .sequence (.symbol _) (.right (.left (.sequence (.symbol _) (.symbol _)))),
    ⟨readings, same, some, ordered, listed⟩, within,
    ((flatten?_enumerates (.sequence branching .abstract)).2.1 within).2 _, _, _, _, _, rfl, rfl,
    grouped⟩

end Rule

end Descent
