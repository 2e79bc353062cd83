import Descent.Proofs.Opening.Exact

/-! What the openings of a grammar say of its productions.

A nonterminal is nullable if nothing in one of its productions needs a token. It can begin
with whatever an element of a production can begin with, if nothing before it needs a token.
-/

set_option autoImplicit false

namespace Descent

@[simp] theorem TerminalSet.accepts_single (terminal : Terminal) (token : Token) :
    (TerminalSet.single terminal).accepts token = terminal.accepts token := by
  simp [single, accepts]

namespace Grammar

def Vanishes (grammar : Grammar) (elements : List Element) : Prop :=
  ∀ element ∈ elements, (grammar.openings.ofElement element).nullable = true

section Tables

variable {grammar : Grammar} {symbol : String}

theorem knows_of_lists {production : Production} (listed : grammar.Lists symbol production) :
    grammar.Knows symbol := by
  obtain ⟨rule, member, name, _⟩ := listed
  exact ⟨rule, member, name⟩

theorem openingOf_unknown (unknown : ¬grammar.Knows symbol) :
    grammar.openingOf symbol = .error (grammar.unknown symbol) := by
  unfold openingOf
  rw [productionsOf_unknown unknown]
  rfl

theorem openingOf_map_eq_ok {Value : Type} {view : Opening → Value} {value : Value} :
    (grammar.openingOf symbol).map view = .ok value ↔
      grammar.Knows symbol ∧ view (grammar.opening symbol) = value := by
  by_cases known : grammar.Knows symbol
  · rw [openingOf_known known]
    simp [Except.map, known]
  · rw [openingOf_unknown known]
    simp [Except.map, known]

theorem nullable_eq_ok {empty : Bool} : grammar.nullable symbol = .ok empty ↔
    grammar.Knows symbol ∧ (grammar.opening symbol).nullable = empty :=
  openingOf_map_eq_ok

theorem first_eq_ok {first : TerminalSet} : grammar.first symbol = .ok first ↔
    grammar.Knows symbol ∧ (grammar.opening symbol).first = first :=
  openingOf_map_eq_ok

theorem couldStartWith_eq_ok {token : Token} {could : Bool} :
    grammar.couldStartWith symbol token = .ok could ↔
      grammar.Knows symbol ∧ (grammar.opening symbol).first.accepts token = could :=
  openingOf_map_eq_ok

end Tables

section Productions

variable {grammar : Grammar} {head : String} {production front rest : List Element}
  {element : Element} {criterion : Criterion} {token : Token}

theorem vanishes_cons : grammar.Vanishes (element :: rest) ↔
    (grammar.openings.ofElement element).nullable = true ∧ grammar.Vanishes rest :=
  List.forall_mem_cons

theorem Vanishes.concat (vanishes : grammar.Vanishes front)
    (null : (grammar.openings.ofElement element).nullable = true) :
    grammar.Vanishes (front ++ [element]) :=
  List.forall_mem_append.mpr ⟨vanishes, List.forall_mem_singleton.mpr null⟩

theorem Vanishes.skip (vanishes : grammar.Vanishes front) {form : Form}
    (reading : form ∈ Production.readings rest) :
    ∃ whole ∈ Production.readings (front ++ rest), grammar.contextFree.Derives whole form := by
  induction front with
  | nil => exact ⟨form, reading, .refl _⟩
  | cons element front ih =>
    obtain ⟨first, later⟩ := vanishes_cons.mp vanishes
    obtain ⟨middle, inner, derives⟩ := ih later
    obtain ⟨whole, outer, before⟩ := grammar.openings_sound.skip first inner
    exact ⟨whole, outer, before.trans derives⟩

theorem vanishes_of_empties {form : Form} (reading : form ∈ Production.readings production)
    (empties : grammar.openings.Empties form) : grammar.Vanishes production := by
  induction production generalizing form with
  | nil => exact nofun
  | cons element rest ih =>
    rcases element with symbol | (_ | symbol)
    · obtain ⟨tail, inner, rfl⟩ := List.mem_map.mp reading
      obtain ⟨nullable, empties⟩ := OpeningTable.empties_letter.mp empties
      exact vanishes_cons.mpr ⟨nullable, ih inner empties⟩
    · exact vanishes_cons.mpr ⟨rfl, ih reading empties⟩
    · refine vanishes_cons.mpr ⟨rfl, ?_⟩
      rcases List.mem_append.mp reading with without | kept
      · exact ih without empties
      · obtain ⟨tail, inner, rfl⟩ := List.mem_map.mp kept
        exact ih inner (OpeningTable.empties_letter.mp empties).2

theorem exists_production_of_derives {after : Form}
    (derives : grammar.contextFree.Derives [.nonterminal head] after)
    (apart : after ≠ [.nonterminal head]) :
    ∃ production form, grammar.Lists head production ∧ form ∈ Production.readings production ∧
      grammar.contextFree.Derives form after := by
  rcases Relation.ReflTransGen.cases_head derives with same | ⟨form, ⟨rule, member, step⟩, later⟩
  · exact absurd same.symm apart
  · obtain ⟨front, back, input, rfl⟩ := step.exists_parts
    obtain ⟨rfl, rfl, same⟩ : front = [] ∧ back = [] ∧ head = rule.input := by
      cases front <;> simp_all
    obtain ⟨production, listed, reading⟩ := mem_contextFree_rules.mp member
    exact ⟨production, rule.output, same ▸ listed, reading, by simpa using later⟩

/-- A nonterminal is nullable exactly if it has a production that needs no token. -/
theorem nullable_iff_vanishes :
    (grammar.opening head).nullable = true ↔
      ∃ production, grammar.Lists head production ∧ grammar.Vanishes production := by
  rw [opening_nullable]
  constructor
  · intro derives
    obtain ⟨production, form, listed, reading, empty⟩ := exists_production_of_derives derives nofun
    exact ⟨production, listed, vanishes_of_empties reading (grammar.openings_full.empties empty)⟩
  · rintro ⟨production, listed, vanishes⟩
    have nothing : [] ∈ Production.readings [] := List.mem_singleton_self []
    obtain ⟨whole, reading, derives⟩ := vanishes.skip nothing
    rw [List.append_nil] at reading
    exact (derives_reading listed reading).trans derives

/-- What an element can begin with its nonterminal can begin with, if nothing before the
element needs a token. -/
theorem mem_first_of_vanishes (listed : grammar.Lists head (front ++ element :: rest))
    (vanishes : grammar.Vanishes front)
    (member : criterion ∈ (grammar.openings.ofElement element).first.criteria) :
    criterion ∈ (grammar.opening head).first.criteria := by
  obtain ⟨form, reading, tail, begins⟩ := grammar.openings_sound.head rest member
  obtain ⟨whole, outer, derives⟩ := vanishes.skip reading
  exact (grammar.mem_opening_first head criterion).mpr
    ⟨tail, ((derives_reading listed outer).trans derives).trans begins⟩

theorem accepts_of_vanishes (listed : grammar.Lists head (front ++ element :: rest))
    (vanishes : grammar.Vanishes front)
    (accepted : (grammar.openings.ofElement element).first.accepts token = true) :
    (grammar.opening head).first.accepts token = true := by
  obtain ⟨criterion, member, accepted⟩ := (TerminalSet.accepts_iff _ token).mp accepted
  exact (TerminalSet.accepts_iff _ token).mpr
    ⟨criterion, mem_first_of_vanishes listed vanishes member, accepted⟩

end Productions

end Grammar

end Descent
