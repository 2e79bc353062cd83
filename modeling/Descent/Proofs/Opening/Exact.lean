import Descent.Proofs.Brackets
import Descent.Proofs.Opening.Forms
import Descent.Proofs.Opening.Passes

/-! Openings say exactly how derivations can begin.

What a table says is true as long as it only absorbs productions, and a table that has
nothing left to absorb says all: a form from which a step leads to one that can be empty,
or can begin with a terminal, can be so itself.
-/

set_option autoImplicit false

namespace Descent

open OpeningTable

/-- What a table says of each nonterminal is true of its derivations. -/
structure Sound (grammar : Grammar) (table : OpeningTable) : Prop where
  nullable : ∀ name, (table.opening name).nullable = true →
    grammar.contextFree.Derives [.nonterminal name] []
  first : ∀ name, ∀ criterion ∈ (table.opening name).first.criteria, ∃ rest,
    grammar.contextFree.Derives [.nonterminal name] (.terminal criterion :: rest)

namespace Sound

variable {grammar : Grammar} {table : OpeningTable}

theorem bottom (grammar : Grammar) : Sound grammar (OpeningTable.bottom grammar.rules) := by
  have nothing (name : String) :
      (OpeningTable.bottom grammar.rules).opening name = Opening.bottom := by
    unfold OpeningTable.bottom
    induction grammar.rules with
    | nil => rfl
    | cons rule rest ih =>
      rw [List.map_cons, opening_cons, ih]
      split <;> rfl
  refine ⟨fun name empty => ?_, fun name criterion member => ?_⟩
  · rw [nothing] at empty
    cases empty
  · rw [nothing] at member
    cases member

theorem ofSymbol (sound : Sound grammar table) (symbol : Symbol) :
    ((table.ofSymbol symbol).nullable = true →
      grammar.contextFree.Derives [symbol.letter] []) ∧
    ∀ criterion ∈ (table.ofSymbol symbol).first.criteria, ∃ rest,
      grammar.contextFree.Derives [symbol.letter] (.terminal criterion :: rest) := by
  cases symbol with
  | terminal terminal =>
    refine ⟨nofun, fun criterion member => ?_⟩
    rw [List.mem_singleton.mp member]
    exact ⟨[], .refl _⟩
  | nonTerminal symbol => exact ⟨sound.nullable symbol.name, sound.first symbol.name⟩

theorem skip (sound : Sound grammar table) {element : Element} {rest : Production} {form : Form}
    (empty : (table.ofElement element).nullable = true) (reading : form ∈ rest.readings) :
    ∃ whole ∈ Production.readings (element :: rest),
      grammar.contextFree.Derives whole form := by
  rcases element with symbol | (_ | symbol)
  · refine ⟨symbol.letter :: form, List.mem_map_of_mem reading, ?_⟩
    exact ((sound.ofSymbol symbol).1 empty).append_right form
  · exact ⟨form, reading, .refl _⟩
  · exact ⟨form, List.mem_append_left _ reading, .refl _⟩

theorem head (sound : Sound grammar table) {element : Element} (rest : Production)
    {criterion : Criterion} (member : criterion ∈ (table.ofElement element).first.criteria) :
    ∃ whole ∈ Production.readings (element :: rest), ∃ tail,
      grammar.contextFree.Derives whole (.terminal criterion :: tail) := by
  obtain ⟨form, reading⟩ := rest.exists_reading
  rcases element with symbol | (_ | symbol)
  · obtain ⟨tail, derives⟩ := (sound.ofSymbol symbol).2 criterion member
    exact ⟨symbol.letter :: form, List.mem_map_of_mem reading, tail ++ form,
      derives.append_right form⟩
  · cases member
  · obtain ⟨tail, derives⟩ := (sound.ofSymbol symbol).2 criterion member
    exact ⟨symbol.letter :: form, List.mem_append_right _ (List.mem_map_of_mem reading),
      tail ++ form, derives.append_right form⟩

theorem update (sound : Sound grammar table) {name : String} {change : Opening → Opening}
    (empty : ∀ opening : Opening, (change opening).nullable = true → opening.nullable = true ∨
      grammar.contextFree.Derives [.nonterminal name] [])
    (first : ∀ opening : Opening, ∀ criterion ∈ (change opening).first.criteria,
      criterion ∈ opening.first.criteria ∨ ∃ rest,
        grammar.contextFree.Derives [.nonterminal name] (.terminal criterion :: rest)) :
    Sound grammar (table.update name change) := by
  refine ⟨fun other nullable => ?_, fun other criterion member => ?_⟩
  · rcases opening_update table name change other with same | ⟨rfl, changed⟩
    · exact sound.nullable other (same ▸ nullable)
    · exact (empty _ (changed ▸ nullable)).elim (sound.nullable other) id
  · rcases opening_update table name change other with same | ⟨rfl, changed⟩
    · exact sound.first other criterion (same ▸ member)
    · exact (first _ criterion (changed ▸ member)).elim (sound.first other criterion) id

theorem absorb (sound : Sound grammar table) {name : String} {production : Production}
    (reaches : ∀ form ∈ production.readings,
      grammar.contextFree.Derives [.nonterminal name] form) :
    Sound grammar (OpeningTable.absorb name table production) := by
  -- The nonterminal derives whatever is left of its production, because the elements that
  -- are absorbed already can all be empty.
  induction production generalizing table with
  | nil =>
    exact sound.update (fun _ _ => .inr (reaches [] (List.mem_singleton_self _)))
      (fun _ _ member => .inl member)
  | cons element rest ih =>
    have extended : Sound grammar (table.update name fun opening =>
        { opening with first := opening.first.merge (table.ofElement element).first }) := by
      refine sound.update (fun _ empty => .inl empty) fun opening criterion member => ?_
      refine ((TerminalSet.mem_criteria_merge _ _ criterion).mp member).imp_right fun new => ?_
      obtain ⟨whole, reading, tail, derives⟩ := sound.head rest new
      exact ⟨tail, (reaches whole reading).trans derives⟩
    unfold OpeningTable.absorb
    dsimp only
    split
    · rename_i empty
      apply ih extended
      intro form reading
      obtain ⟨whole, reading, derives⟩ := sound.skip empty reading
      exact (reaches whole reading).trans derives
    · exact extended

theorem pass (sound : Sound grammar table) :
    Sound grammar (OpeningTable.pass grammar.rules table) := by
  unfold OpeningTable.pass
  refine List.foldlRecOn grammar.rules _ sound fun table sound rule member => ?_
  refine List.foldlRecOn rule.productions _ sound fun table sound production listed => ?_
  exact sound.absorb fun form reading =>
    Grammar.derives_reading ⟨rule, member, rfl, listed⟩ reading

end Sound

namespace OpeningTable

def Empties (table : OpeningTable) : Form → Prop
  | [] => True
  | .terminal _ :: _ => False
  | .nonterminal name :: rest => (table.opening name).nullable = true ∧ Empties table rest

def Starts (table : OpeningTable) (criterion : Criterion) : Form → Prop
  | [] => False
  | .terminal other :: _ => criterion = other
  | .nonterminal name :: rest => criterion ∈ (table.opening name).first.criteria ∨
      (table.opening name).nullable = true ∧ Starts table criterion rest

/-- No production has anything to add to the table. -/
structure Full (grammar : Grammar) (table : OpeningTable) : Prop where
  nullable : ∀ {name production form}, grammar.Lists name production →
    form ∈ Production.readings production → Empties table form →
      (table.opening name).nullable = true
  first : ∀ {name production form criterion}, grammar.Lists name production →
    form ∈ Production.readings production → Starts table criterion form →
      criterion ∈ (table.opening name).first.criteria

section Forms

variable {grammar : Grammar} {table : OpeningTable} {criterion : Criterion}
  {form before after : Form}

theorem empties_letter {symbol : Symbol} :
    Empties table (symbol.letter :: form) ↔
      (table.ofSymbol symbol).nullable = true ∧ Empties table form := by
  cases symbol with
  | terminal terminal => simp [Symbol.letter, Empties, ofSymbol]
  | nonTerminal symbol => rfl

theorem starts_letter {symbol : Symbol} :
    Starts table criterion (symbol.letter :: form) ↔
      criterion ∈ (table.ofSymbol symbol).first.criteria ∨
        (table.ofSymbol symbol).nullable = true ∧ Starts table criterion form := by
  cases symbol with
  | terminal terminal =>
    simp [Symbol.letter, Starts, ofSymbol, TerminalSet.single, TerminalSet.criteria]
  | nonTerminal symbol => rfl

theorem empties_append {front back : Form} :
    Empties table (front ++ back) ↔ Empties table front ∧ Empties table back := by
  induction front with
  | nil => simp [Empties]
  | cons letter rest ih => cases letter <;> simp [Empties, ih, and_assoc]

theorem starts_append {front back : Form} :
    Starts table criterion (front ++ back) ↔
      Starts table criterion front ∨ Empties table front ∧ Starts table criterion back := by
  induction front with
  | nil => simp [Empties, Starts]
  | cons letter rest ih =>
    cases letter with
    | terminal other => simp [Starts, Empties]
    | nonterminal name => simp [Starts, Empties, ih, and_or_left, or_assoc, and_assoc]

theorem update_fixed {name : String} {change : Opening → Opening} (member : name ∈ table.names)
    (fixed : table.update name change = table) :
    change (table.opening name) = table.opening name := by
  have changed : (table.update name change).opening name = change (table.opening name) :=
    opening_update_self member
  rw [← changed, fixed]

/-- A production that has nothing to add is already accounted for. -/
theorem absorbed {name : String} {production : Production} (member : name ∈ table.names)
    (fixed : absorb name table production = table) (reading : form ∈ production.readings) :
    (Empties table form → (table.opening name).nullable = true) ∧
      ∀ criterion, Starts table criterion form →
        criterion ∈ (table.opening name).first.criteria := by
  -- The elements are taken one by one: if a whole production adds nothing, then neither
  -- does its first element, nor the rest once that element can be empty.
  induction production generalizing form with
  | nil =>
    cases List.mem_singleton.mp reading
    refine ⟨fun _ => ?_, fun _ => nofun⟩
    exact (congrArg Opening.nullable (update_fixed member fixed)).symm
  | cons element rest ih =>
    have still : table.update name (fun opening =>
        { opening with first := opening.first.merge (table.ofElement element).first }) = table := by
      have extended := grows_update table name fun opening =>
        opening.grows_merge (table.ofElement element).first
      unfold absorb at fixed
      dsimp only at fixed
      split at fixed
      · apply extended.halfway
        have later := grows_absorb name (table.update name fun opening =>
          { opening with first := opening.first.merge (table.ofElement element).first }) rest
        rwa [fixed] at later
      · exact fixed
    have included (criterion : Criterion)
        (among : criterion ∈ (table.ofElement element).first.criteria) :
        criterion ∈ (table.opening name).first.criteria := by
      rw [← congrArg Opening.first (update_fixed member still)]
      exact (TerminalSet.mem_criteria_merge _ _ criterion).mpr (.inr among)
    have later (empty : (table.ofElement element).nullable = true) {tail : Form}
        (reading : tail ∈ Production.readings rest) :
        (Empties table tail → (table.opening name).nullable = true) ∧
          ∀ criterion, Starts table criterion tail →
            criterion ∈ (table.opening name).first.criteria := by
      refine ih ?_ reading
      unfold absorb at fixed
      dsimp only at fixed
      rwa [if_pos empty, still] at fixed
    rcases element with symbol | (_ | symbol)
    · obtain ⟨tail, inRest, rfl⟩ := List.mem_map.mp reading
      rw [empties_letter]
      refine ⟨fun both => (later both.1 inRest).1 both.2, fun criterion starts => ?_⟩
      rcases starts_letter.mp starts with among | ⟨empty, starts⟩
      · exact included criterion among
      · exact (later empty inRest).2 criterion starts
    · exact later rfl reading
    · rcases List.mem_append.mp reading with without | kept
      · exact later rfl without
      · obtain ⟨tail, inRest, rfl⟩ := List.mem_map.mp kept
        rw [empties_letter]
        refine ⟨fun both => (later rfl inRest).1 both.2, fun criterion starts => ?_⟩
        rcases starts_letter.mp starts with among | ⟨_, starts⟩
        · exact included criterion among
        · exact (later rfl inRest).2 criterion starts

theorem full_of_fixed (fixed : pass grammar.rules table = table)
    (names : table.names = grammar.rules.map fun rule => rule.head.name) :
    Full grammar table := by
  have listed {name : String} {production : Production} (listed : grammar.Lists name production) :
      name ∈ table.names ∧ absorb name table production = table := by
    obtain ⟨rule, member, rfl, within⟩ := listed
    refine ⟨?_, absorb_fixed fixed member within⟩
    rw [names]
    exact List.mem_map_of_mem member
  refine ⟨fun lists reading empties => ?_, fun lists reading starts => ?_⟩
  · obtain ⟨member, still⟩ := listed lists
    exact (absorbed member still reading).1 empties
  · obtain ⟨member, still⟩ := listed lists
    exact (absorbed member still reading).2 _ starts

/-- A step of a derivation goes back from what the table says to what it says. -/
theorem Full.backward (full : Full grammar table)
    (produces : grammar.contextFree.Produces before after) :
    (Empties table after → Empties table before) ∧
      ∀ criterion, Starts table criterion after → Starts table criterion before := by
  obtain ⟨rule, member, rewrites⟩ := produces
  obtain ⟨front, back, rfl, rfl⟩ := rewrites.exists_parts
  obtain ⟨production, listed, reading⟩ := Grammar.mem_contextFree_rules.mp member
  have input : Empties table rule.output → (table.opening rule.input).nullable = true :=
    full.nullable listed reading
  have first (criterion : Criterion) : Starts table criterion rule.output →
      criterion ∈ (table.opening rule.input).first.criteria := full.first listed reading
  -- What stands around the nonterminal is in both forms, and has no part in the argument.
  simp only [empties_append, starts_append, Empties, Starts]
  grind

-- A step of a derivation may be anywhere in its form, so that the induction has to go from
-- the last form back to the first.
theorem Full.empties (full : Full grammar table)
    (derives : grammar.contextFree.Derives form []) : Empties table form := by
  induction derives using Relation.ReflTransGen.head_induction_on with
  | refl => exact trivial
  | head produces _ ih => exact (full.backward produces).1 ih

theorem Full.starts (full : Full grammar table) {rest : Form}
    (derives : grammar.contextFree.Derives form (.terminal criterion :: rest)) :
    Starts table criterion form := by
  induction derives using Relation.ReflTransGen.head_induction_on with
  | refl => exact rfl
  | head produces _ ih => exact (full.backward produces).2 criterion ih

end Forms

end OpeningTable

theorem TerminalSet.accepts_iff (set : TerminalSet) (token : Token) :
    set.accepts token = true ↔ ∃ criterion ∈ set.criteria, criterion.accepts token = true := by
  unfold accepts criteria
  rw [List.any_eq_true]
  constructor
  · rintro ⟨terminal, member, accepted⟩
    exact ⟨terminal.criterion, List.mem_map_of_mem member, accepted⟩
  · rintro ⟨criterion, member, accepted⟩
    obtain ⟨terminal, inSet, rfl⟩ := List.mem_map.mp member
    exact ⟨terminal, inSet, accepted⟩

namespace Grammar

variable {grammar : Grammar}

theorem openings_settle (grammar : Grammar) :
    Settles grammar.rules (bottom grammar.rules) grammar.openings := by
  rw [grammar.openings_eq]
  exact ofRules_settles grammar.rules

theorem openings_sound (grammar : Grammar) : Sound grammar grammar.openings :=
  grammar.openings_settle.invariant (.bottom grammar) Sound.pass

theorem openings_full (grammar : Grammar) : Full grammar grammar.openings :=
  full_of_fixed grammar.openings_settle.fixed
    (grammar.openings_settle.invariant (within_bottom grammar.rules) Within.pass).names

theorem opening_nullable (grammar : Grammar) (symbol : String) :
    (grammar.opening symbol).nullable = true ↔
      grammar.contextFree.Derives [.nonterminal symbol] [] := by
  constructor
  · exact grammar.openings_sound.nullable symbol
  · exact fun derives => (grammar.openings_full.empties derives).1

theorem mem_opening_first (grammar : Grammar) (symbol : String) (criterion : Criterion) :
    criterion ∈ (grammar.opening symbol).first.criteria ↔
      ∃ rest, grammar.contextFree.Derives [.nonterminal symbol] (.terminal criterion :: rest) := by
  constructor
  · exact grammar.openings_sound.first symbol criterion
  · rintro ⟨rest, derives⟩
    exact (grammar.openings_full.starts derives).elim id fun later => later.2.elim

theorem openingOf_known {symbol : String} (known : grammar.Knows symbol) :
    grammar.openingOf symbol = .ok (grammar.opening symbol) := by
  obtain ⟨productions, found⟩ := productionsOf_ok known
  unfold openingOf
  rw [found]
  rfl

/-- The loop over the productions ends, and what it leaves behind is exact. -/
theorem openings_exact (grammar : Grammar) :
    Settles grammar.rules (bottom grammar.rules) grammar.openings ∧
      ∀ symbol, grammar.Knows symbol →
        (∃ empty, grammar.nullable symbol = .ok empty ∧
          (empty = true ↔ grammar.contextFree.Derives [.nonterminal symbol] [])) ∧
        (∃ first, grammar.first symbol = .ok first ∧ ∀ criterion, criterion ∈ first.criteria ↔
          ∃ rest, grammar.contextFree.Derives [.nonterminal symbol]
            (.terminal criterion :: rest)) ∧
        ∀ token, ∃ could, grammar.couldStartWith symbol token = .ok could ∧
          (could = true ↔ ∃ criterion rest, criterion.accepts token = true ∧
            grammar.contextFree.Derives [.nonterminal symbol] (.terminal criterion :: rest)) := by
  refine ⟨grammar.openings_settle, fun symbol known => ⟨?_, ?_, fun token => ?_⟩⟩
  · refine ⟨(grammar.opening symbol).nullable, ?_, grammar.opening_nullable symbol⟩
    unfold nullable
    rw [openingOf_known known]
    rfl
  · refine ⟨(grammar.opening symbol).first, ?_, grammar.mem_opening_first symbol⟩
    unfold first
    rw [openingOf_known known]
    rfl
  · refine ⟨(grammar.opening symbol).first.accepts token, ?_, ?_⟩
    · unfold couldStartWith
      rw [openingOf_known known]
      rfl
    · rw [TerminalSet.accepts_iff]
      constructor
      · rintro ⟨criterion, member, accepted⟩
        obtain ⟨rest, derives⟩ := (grammar.mem_opening_first symbol criterion).mp member
        exact ⟨criterion, rest, accepted, derives⟩
      · rintro ⟨criterion, rest, accepted, derives⟩
        exact ⟨criterion, (grammar.mem_opening_first symbol criterion).mpr ⟨rest, derives⟩,
          accepted⟩

/-- Brackets can be empty and begin with an opening, but never with a closing. -/
theorem openings_exact_brackets :
    Brackets.grammar.contextFree.Derives [.nonterminal "S"] [] ∧
      (∃ rest, Brackets.grammar.contextFree.Derives [.nonterminal "S"]
        (.terminal (.lexeme "a") :: rest)) ∧
      ¬ ∃ rest, Brackets.grammar.contextFree.Derives [.nonterminal "S"]
        (.terminal (.lexeme "b") :: rest) := by
  obtain ⟨_, exact_at⟩ := openings_exact Brackets.grammar
  obtain ⟨⟨empty, nullable, empties⟩, ⟨first, found, starts⟩, _⟩ :=
    exact_at "S" (Brackets.known 0)
  cases nullable
  cases found
  refine ⟨empties.mp (by decide), (starts _).mp (by decide), fun begins => ?_⟩
  exact absurd ((starts _).mpr begins) (by decide)

end Grammar

end Descent
