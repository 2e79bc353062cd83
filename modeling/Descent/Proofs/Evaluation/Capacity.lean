import Mathlib
import Descent.Proofs.Evaluation.Course

/-! No evaluation makes room for more nonterminals.

A body that waits for itself is never evaluated, and so every written body is evaluated once at most.
The groups that this declares were counted with the text of the body.
-/

set_option autoImplicit false

namespace Descent

/-- How many nonterminals an entry counts for, itself and those that its text can declare. -/
def Declared.weight (entry : Declared) : Nat :=
  match entry.body with
  | .written expression _ => expression.groups + 1
  | _ => 1

theorem Declared.weight_pos (entry : Declared) : 1 ≤ entry.weight := by
  unfold weight
  split
  · exact Nat.le_add_left _ _
  · exact Nat.le_refl _

namespace Declarations

/-- The body of the one nonterminal is asked for by that of the other, which is still text. -/
def Waits (declarations : Declarations) (inner outer : NonTerminal) : Prop :=
  ∃ expression location, declarations.Has outer (.written expression location) ∧
    inner ∈ declarations.asked expression

def Read (before after : Declarations) (symbol : NonTerminal) : Prop :=
  ∃ expression location, before.Has symbol (.written expression location) ∧
    ¬after.Has symbol (.written expression location)

section Waits

variable {before between after : Declarations} {groups : Nat} {symbols : List NonTerminal}
  {symbol other : NonTerminal} {expression : Expression} {location : Location}

theorem acc_of_not_written {body : Body} (has : before.Has symbol body)
    (read : ∀ expression location, body ≠ .written expression location) :
    Acc before.Waits symbol :=
  ⟨_, fun _ ⟨expression, location, written, _⟩ =>
    absurd (has.unique written).symm (read expression location)⟩

theorem acc_of_reached (reached : Relation.ReflTransGen before.Waits other symbol)
    (acc : Acc before.Waits symbol) : Acc before.Waits other := by
  induction reached using Relation.ReflTransGen.head_induction_on with
  | refl => exact acc
  | head waits _ ih => exact ih.inv waits

theorem not_waits_self (acc : Acc before.Waits symbol) :
    ¬Relation.TransGen before.Waits symbol symbol := by
  induction acc with
  | intro symbol _ ih =>
    intro loop
    obtain ⟨root, reached, waits⟩ := Relation.TransGen.tail'_iff.mp loop
    exact ih root waits (.head' waits reached)

theorem Course.written (course : Course groups symbols before after)
    (written : after.Has symbol (.written expression location)) :
    before.Has symbol (.written expression location) := by
  induction course with
  | count _ _ same => exact (has_congr same).mp written
  | group _ same => exact (has_of_concat same written).resolve_right nofun
  | follow _ _ ihFirst ihSecond => exact ihFirst (ihSecond written)
  | known => exact written
  | flatten has =>
    exact ((has_of_setBody ⟨_, has⟩ written).resolve_left nofun).2
  | evaluate has course _ _ ih =>
    exact ih ((has_of_setBody (course.declares ⟨_, has⟩) written).resolve_left nofun).2

theorem Course.waits (course : Course groups symbols before after) {inner outer : NonTerminal}
    (waits : after.Waits inner outer) : before.Waits inner outer := by
  obtain ⟨expression, location, written, asked⟩ := waits
  exact ⟨expression, location, course.written written, course.alike.asked expression ▸ asked⟩

/-- What is finished after a course was finished before, if what was read in it was. -/
theorem Course.acc (course : Course groups symbols before after)
    (read : ∀ symbol, before.Read after symbol → Acc before.Waits symbol)
    (acc : Acc after.Waits symbol) : Acc before.Waits symbol := by
  induction acc with
  | intro symbol _ ih =>
    refine ⟨_, fun inner waits => ?_⟩
    obtain ⟨expression, location, written, asked⟩ := waits
    by_cases kept : after.Has symbol (.written expression location)
    · exact ih inner ⟨expression, location, kept, course.alike.asked expression ▸ asked⟩
    · exact (read symbol ⟨expression, location, written, kept⟩).inv
        ⟨expression, location, written, asked⟩

/-- Nothing that is asked for waits for itself, and nothing is read that was not asked for or waited
for by what was. -/
theorem Course.reads (course : Course groups symbols before after) :
    (∀ root ∈ symbols, Acc before.Waits root) ∧
      ∀ symbol, before.Read after symbol →
        ∃ root ∈ symbols, Relation.ReflTransGen before.Waits symbol root := by
  induction course with
  | count _ _ same =>
    refine ⟨nofun, fun symbol read => ?_⟩
    obtain ⟨expression, location, written, gone⟩ := read
    exact absurd ((has_congr same).mpr written) gone
  | group _ same =>
    refine ⟨nofun, fun symbol read => ?_⟩
    obtain ⟨expression, location, written, gone⟩ := read
    exact absurd (written.concat same) gone
  | @follow before between after _ _ early late begin rest ihFirst ihSecond =>
    obtain ⟨finished, reads⟩ := ihFirst
    obtain ⟨later, more⟩ := ihSecond
    -- What the first part has read waits for nothing that is not finished, so that a wait of the second
    -- part was finite from the start.
    have read : ∀ symbol, before.Read between symbol → Acc before.Waits symbol :=
      fun symbol read => by
        obtain ⟨root, member, reached⟩ := reads symbol read
        exact acc_of_reached reached (finished root member)
    refine ⟨fun root member => ?_, fun symbol read => ?_⟩
    · rcases List.mem_append.mp member with member | member
      · exact finished root member
      · exact begin.acc read (later root member)
    · obtain ⟨expression, location, written, gone⟩ := read
      by_cases kept : between.Has symbol (.written expression location)
      · obtain ⟨root, member, reached⟩ := more symbol ⟨expression, location, kept, gone⟩
        exact ⟨root, List.mem_append_right _ member,
          Relation.ReflTransGen.mono (fun _ _ => begin.waits) _ _ reached⟩
      · obtain ⟨root, member, reached⟩ := reads symbol ⟨expression, location, written, kept⟩
        exact ⟨root, List.mem_append_left _ member, reached⟩
  | known has =>
    refine ⟨fun root member => ?_, fun symbol read => ?_⟩
    · cases List.mem_singleton.mp member
      exact acc_of_not_written has nofun
    · obtain ⟨expression, location, written, gone⟩ := read
      exact absurd written gone
  | @flatten before head rule definition has =>
    refine ⟨fun root member => ?_, fun symbol read => ?_⟩
    · cases List.mem_singleton.mp member
      exact acc_of_not_written has nofun
    · obtain ⟨expression, location, written, gone⟩ := read
      have apart : symbol ≠ head := by
        rintro rfl
        cases has.unique written
      exact absurd (written.setBody ⟨_, has⟩ apart) gone
  | @evaluate before between head text place definition has course _ _ ih =>
    obtain ⟨finished, reads⟩ := ih
    have acc : Acc before.Waits head := ⟨_, fun inner waits => by
      obtain ⟨expression, location, written, asked⟩ := waits
      cases has.unique written
      exact finished inner asked⟩
    refine ⟨fun root member => ?_, fun symbol read => ?_⟩
    · cases List.mem_singleton.mp member
      exact acc
    · refine ⟨head, List.mem_singleton_self _, ?_⟩
      by_cases same : symbol = head
      · exact same ▸ .refl
      · obtain ⟨expression, location, written, gone⟩ := read
        have read : before.Read between symbol := ⟨expression, location, written, fun kept =>
          gone (kept.setBody (course.declares ⟨_, has⟩) same)⟩
        obtain ⟨root, member, reached⟩ := reads symbol read
        exact reached.tail ⟨text, place, has, member⟩

theorem Course.unread (course : Course groups (before.asked expression) before after)
    (has : before.Has symbol (.written expression location)) :
    after.Has symbol (.written expression location) := by
  refine Classical.byContradiction fun gone => ?_
  obtain ⟨finished, reads⟩ := course.reads
  have acc : Acc before.Waits symbol := ⟨_, fun inner waits => by
    obtain ⟨text, place, written, asked⟩ := waits
    cases has.unique written
    exact finished inner asked⟩
  obtain ⟨root, member, reached⟩ := reads symbol ⟨expression, location, has, gone⟩
  exact not_waits_self acc (.tail' reached ⟨expression, location, has, member⟩)

end Waits

section Capacity

variable {before after : Declarations} {groups : Nat} {symbols : List NonTerminal}

theorem capacity_eq (declarations : Declarations) :
    declarations.capacity = (declarations.declared.map Declared.weight).sum := by
  unfold capacity
  induction declarations.declared with
  | nil => rfl
  | cons entry rest ih =>
    rw [List.foldr_cons, ih, List.map_cons, List.sum_cons]
    unfold Declared.weight
    cases entry.body <;> rfl

theorem length_le_capacity (declarations : Declarations) :
    declarations.declared.length ≤ declarations.capacity := by
  rw [capacity_eq]
  induction declarations.declared with
  | nil => exact Nat.le_refl _
  | cons entry rest ih =>
    rw [List.length_cons, List.map_cons, List.sum_cons, Nat.add_comm]
    exact Nat.add_le_add entry.weight_pos ih

theorem sum_weight_set {entries : List Declared} {place : Nat} {old : Declared} (new : Declared)
    (there : entries[place]? = some old) :
    ((entries.set place new).map Declared.weight).sum + old.weight =
      (entries.map Declared.weight).sum + new.weight := by
  induction entries generalizing place with
  | nil => cases there
  | cons entry rest ih =>
    cases place with
    | zero =>
      cases there
      simp only [List.set_cons_zero, List.map_cons, List.sum_cons]
      omega
    | succ place =>
      have moved := ih there
      simp only [List.set_cons_succ, List.map_cons, List.sum_cons]
      omega

theorem capacity_setBody {symbol : NonTerminal} {old : Body} (has : before.Has symbol old)
    (new : Body) :
    (before.setBody symbol new).capacity + Declared.weight ⟨symbol, old⟩ =
      before.capacity + Declared.weight ⟨symbol, new⟩ := by
  rw [capacity_eq, capacity_eq]
  exact sum_weight_set ⟨symbol, new⟩ has

/-- No more is made room for than the groups that a course declares itself. -/
theorem Course.capacity (course : Course groups symbols before after) :
    after.capacity ≤ before.capacity + groups := by
  induction course with
  | @count before after groups _ same =>
    rw [capacity_eq, capacity_eq, same]
    exact Nat.le_add_right _ _
  | group _ same =>
    rw [capacity_eq, capacity_eq, same, List.map_append, List.sum_append_nat]
    exact Nat.le_refl _
  | follow _ _ ihFirst ihSecond => omega
  | known => exact Nat.le_refl _
  | @flatten before symbol rule definition has =>
    have moved := capacity_setBody has (.known definition)
    simp only [Declared.weight] at moved
    omega
  | @evaluate before between symbol expression location definition has course _ _ ih =>
    have moved := capacity_setBody (course.unread has) (.known definition)
    simp only [Declared.weight] at moved
    omega

end Capacity

end Declarations

end Descent
