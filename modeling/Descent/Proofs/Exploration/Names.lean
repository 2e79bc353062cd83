import Descent.Proofs.Evaluation.Groups
import Descent.Proofs.Exploration.Build
import Descent.Proofs.Text

/-! The names of groups do not clash, whatever an author does in whatever order.

The name of a group tells the rule in whose body it is made and its number there. A body is evaluated
once. So groups share a name with nothing, unless an author gives such a name to a rule.
-/

set_option autoImplicit false

namespace Descent

namespace Groups

/-- A name of a group tells the owner and the number, which is behind the last underscore. -/
theorem nameOf_inj {owner other : Option NonTerminal} {number number' : Nat}
    (same : nameOf owner number = nameOf other number') :
    title owner = title other ∧ number = number' := by
  have digits := Text.numerals_nat.not_mem '_' (by decide) (by decide)
  have spelled (owner : Option NonTerminal) (number : Nat) : (nameOf owner number).toList =
      ("__opt_" ++ title owner).toList ++ '_' :: (toString number).toList := by
    unfold nameOf
    rw [String.toList_append, String.toList_append]
    exact List.append_assoc ..
  have lists := congrArg String.toList same
  rw [spelled, spelled] at lists
  obtain ⟨titles, numbers⟩ :=
    Text.append_cons_inj_of_last (digits number) (digits number') lists
  rw [String.toList_append, String.toList_append] at titles
  exact ⟨String.toList_inj.mp (List.append_cancel_left titles),
    Text.numerals_nat.told (String.toList_inj.mp numbers)⟩

theorem eq_of_countOf {owner : Option NonTerminal} {first second : NonTerminal}
    {early early' late late' : Groups}
    (same : early ++ (owner, first) :: late = early' ++ (owner, second) :: late')
    (counts : countOf owner early = countOf owner early') : first = second := by
  have more (symbol : NonTerminal) (groups : Groups) :
      0 < countOf owner ((owner, symbol) :: groups) :=
    List.count_pos_iff.mpr List.mem_cons_self
  rcases List.append_eq_append_iff.mp same with ⟨between, longer, rest⟩ | ⟨between, longer, rest⟩
  · cases between with
    | nil => cases rest; rfl
    | cons entry between =>
      cases rest
      have := more first between
      rw [longer, countOf_append] at counts
      omega
  · cases between with
    | nil => cases rest; rfl
    | cons entry between =>
      cases rest
      have := more second between
      rw [longer, countOf_append] at counts
      omega

end Groups

namespace Declarations

open Groups

/-- What an author has declared and come to: the rules, and the groups that were made, in order. -/
inductive Authored : List NonTerminal → Groups → Declarations → Prop where
  | empty : Authored [] [] .empty
  | declare {rules : List NonTerminal} {groups : Groups} {before after : Declarations}
      {handle : String} {name : Literal} {location : Location} {body : Expression}
      {symbol : NonTerminal} (authored : Authored rules groups before)
      (run : (Evaluation.declare handle name location body).run before = .ok ((), after))
      (added : after.declared = before.declared ++ [⟨symbol, .written body location⟩]) :
      Authored (rules ++ [symbol]) groups after
  | share {rules : List NonTerminal} {groups new : Groups} {before after : Declarations}
      {name : String} {location : Location} {expression : Expression}
      (authored : Authored rules groups before)
      (run : (Evaluation.share name location expression).run before = .ok ((), after))
      (makes : Makes none before new after) : Authored rules (groups ++ new) after
  | value {rules : List NonTerminal} {groups new : Groups} {before after : Declarations}
      {location : Location} {expression : Expression} {value : Value}
      (authored : Authored rules groups before)
      (run : (Evaluation.value location expression).run before = .ok (value, after))
      (makes : Makes none before new after) : Authored rules (groups ++ new) after
  | ask {rules : List NonTerminal} {groups new : Groups} {before after : Declarations}
      {asker : Location} {symbol : NonTerminal} {definition : Definition}
      (authored : Authored rules groups before) (declared : before.Declares symbol)
      (run : (Evaluation.definitionOf asker symbol).run before = .ok (definition, after))
      (makes : Makes none before new after) : Authored rules (groups ++ new) after

end Declarations

namespace Evaluation

open Declarations

variable {before after : Declarations} {owner : Option NonTerminal} {location asker : Location}

theorem definitionOf_makes {symbol : NonTerminal} {definition : Definition} (rooted : before.Rooted)
    (declared : before.Declares symbol)
    (run : (definitionOf asker symbol).run before = .ok (definition, after)) :
    MakesSome owner before after := by
  obtain ⟨_, _, got, asked⟩ := run_bind_ok run
  cases got
  exact definitionAt_makes _ rooted declared asked

theorem value_makes {expression : Expression} {value : Value} (rooted : before.Rooted)
    (run : (Evaluation.value location expression).run before = .ok (value, after)) :
    MakesSome owner before after := by
  refine evaluate_makes ?_ ?_ expression rooted run
  · intro other before after rooted declared forced
    obtain ⟨_, answered⟩ := run_discard_ok forced
    exact (definitionOf_course rooted declared answered).1
  · intro other before after rooted declared forced
    obtain ⟨_, answered⟩ := run_discard_ok forced
    exact definitionOf_makes rooted declared answered

theorem share_makes {name : String} {expression : Expression} (rooted : before.Rooted)
    (run : (share name location expression).run before = .ok ((), after)) :
    MakesSome owner before after := by
  obtain ⟨_, _, evaluated, put⟩ := run_bind_ok run
  cases put
  exact (value_makes rooted evaluated).follow (makesSome_of_quiet ⟨rfl, rfl, rfl⟩)

theorem declare_counts {handle : String} {name : Literal} {body : Expression}
    (run : (declare handle name location body).run before = .ok ((), after)) :
    after.definition = before.definition ∧ after.groups = before.groups := by
  cases name with
  | null | text => cases run; exact ⟨rfl, rfl⟩
  | _ => cases run

end Evaluation

namespace Declarations

open Groups

section Authored

variable {rules : List NonTerminal} {groups new : Groups} {before after declarations : Declarations}

theorem Authored.made (authored : Authored rules groups declarations) : declarations.Made := by
  induction authored with
  | empty => exact .empty
  | declare _ run _ ih => exact .declare ih run
  | share _ run _ ih => exact .share ih run
  | value _ run _ ih => exact .value ih run
  | ask _ declared run _ ih => exact .ask ih declared run

theorem Made.authored (made : declarations.Made) :
    ∃ rules groups, Authored rules groups declarations := by
  induction made with
  | empty => exact ⟨_, _, .empty⟩
  | declare _ run ih =>
    obtain ⟨_, _, authored⟩ := ih
    obtain ⟨_, declared, _⟩ := Evaluation.declare_ok run
    exact ⟨_, _, authored.declare run declared⟩
  | share made run ih =>
    obtain ⟨_, _, authored⟩ := ih
    obtain ⟨_, makes⟩ := Evaluation.share_makes made.sound.toRooted run
    exact ⟨_, _, authored.share run makes⟩
  | value made run ih =>
    obtain ⟨_, _, authored⟩ := ih
    obtain ⟨_, makes⟩ := Evaluation.value_makes made.sound.toRooted run
    exact ⟨_, _, authored.value run makes⟩
  | ask made declared run ih =>
    obtain ⟨_, _, authored⟩ := ih
    obtain ⟨_, makes⟩ := Evaluation.definitionOf_makes made.sound.toRooted declared run
    exact ⟨_, _, authored.ask declared run makes⟩

structure Accounts (rules : List NonTerminal) (groups : Groups) (declarations : Declarations) :
    Prop where
  definition : declarations.definition = title none
  count : declarations.groups = countOf none groups
  declared : (declarations.declared.map Declared.symbol).Perm (rules ++ groups.map Prod.snd)
  numbered : Numbered none 0 groups
  owners : ∀ entry ∈ groups, ∀ rule, entry.1 = some rule →
    rule ∈ rules ∧ ∃ definition, declarations.Has rule (.known definition)
  written : ∀ symbol expression location,
    declarations.Has symbol (.written expression location) → symbol ∈ rules

theorem Accounts.makes (accounts : Accounts rules groups before) (makes : Makes none before new after) :
    Accounts rules (groups ++ new) after := by
  obtain ⟨definition, count, numbered⟩ := makes.numbered accounts.definition nofun
  refine ⟨definition.trans accounts.definition, ?_, ?_, ?_, ?_, ?_⟩
  · rw [count, accounts.count, countOf_append]
  · rw [makes.declared, List.map_append, ← List.append_assoc]
    exact accounts.declared.append_right _
  · rw [accounts.count] at numbered
    rw [← Nat.zero_add (countOf none groups)] at numbered
    refine accounts.numbered.append numbered fun entry late inside old early same => ?_
    obtain ⟨rule, holder, ⟨_, _, written⟩, _⟩ := (makes.owners entry late).resolve_left inside
    obtain ⟨_, _, known⟩ := accounts.owners old early rule (same.trans holder)
    cases written.unique known
  · intro entry member rule holder
    rcases List.mem_append.mp member with early | late
    · obtain ⟨listed, _, known⟩ := accounts.owners entry early rule holder
      exact ⟨listed, _, makes.known known⟩
    · rcases makes.owners entry late with outside | ⟨other, same, ⟨_, _, written⟩, known⟩
      · cases outside.symm.trans holder
      · cases same.symm.trans holder
        exact ⟨accounts.written _ _ _ written, known⟩
  · exact fun symbol _ _ written => accounts.written symbol _ _ (makes.written written)

theorem Authored.accounts (authored : Authored rules groups declarations) :
    Accounts rules groups declarations := by
  induction authored with
  | empty => exact ⟨rfl, rfl, .nil, .nil, nofun, fun _ _ _ has => nomatch has⟩
  | @declare rules groups before after _ _ _ _ symbol authored run added ih =>
    obtain ⟨definition, count⟩ := Evaluation.declare_counts run
    obtain ⟨own, declared, _⟩ := Evaluation.declare_ok run
    refine ⟨definition.trans ih.definition, count.trans ih.count, ?_, ih.numbered, ?_, ?_⟩
    · rw [added, List.map_append, List.map_singleton, List.append_assoc]
      exact (ih.declared.append_right [symbol]).trans
        ((List.append_assoc rules _ _).symm ▸ List.perm_append_comm.append_left rules)
    · intro entry member rule holder
      obtain ⟨listed, _, known⟩ := ih.owners entry member rule holder
      exact ⟨List.mem_append_left _ listed, _, known.concat declared⟩
    · intro other expression location has
      rcases has_of_concat declared has with old | ⟨rfl, _⟩
      · exact List.mem_append_left _ (ih.written other _ _ old)
      · have same := List.append_cancel_left (declared.symm.trans added)
        cases same
        exact List.mem_append_right _ (List.mem_singleton_self _)
  | share _ _ makes ih | value _ _ makes ih | ask _ _ _ makes ih => exact ih.makes makes

theorem Authored.searched {asker : Location} {start : NonTerminal} {found : List Definition}
    (authored : Authored rules groups before) (declared : before.Declares start)
    (searched : Evaluation.Searched asker start before found after) :
    ∃ groups, Authored rules groups after := by
  have sound := authored.made.sound
  induction searched with
  | none => exact ⟨_, authored⟩
  | ask searched due run ih =>
    obtain ⟨_, authored⟩ := ih
    have searching := searched.searching sound declared
    have known := searching.declares _ due.mentioned
    obtain ⟨_, makes⟩ := Evaluation.definitionOf_makes searching.sound.toRooted known run
    exact ⟨_, authored.ask known run makes⟩

/-- The names that an author gives to rules are distinct, and none of them is a name that groups
carry or begins like one. -/
structure Apart (rules : List NonTerminal) : Prop where
  distinct : (rules.map NonTerminal.name).Nodup
  inside : ∀ rule ∈ rules, rule.name ≠ "__global"
  plain : ∀ rule ∈ rules, ¬"__opt_".toList <+: rule.name.toList

theorem Apart.owner_eq (apart : Apart rules) {owner other : Option NonTerminal}
    (inside : ∀ rule, owner = some rule → rule ∈ rules)
    (inside' : ∀ rule, other = some rule → rule ∈ rules) (same : title owner = title other) :
    owner = other := by
  match owner, other with
  | none, none => rfl
  | none, some rule => exact absurd same.symm (apart.inside rule (inside' rule rfl))
  | some rule, none => exact absurd same (apart.inside rule (inside rule rfl))
  | some rule, some other =>
    exact congrArg some
      (List.inj_on_of_nodup_map apart.distinct (inside rule rfl) (inside' other rfl) same)

theorem Accounts.named (accounts : Accounts rules groups declarations) {symbol : NonTerminal}
    (member : symbol ∈ groups.map Prod.snd) :
    ∃ earlier owner later, groups = earlier ++ (owner, symbol) :: later ∧
      symbol.name = nameOf owner (countOf owner earlier) ∧
      ∀ rule, owner = some rule → rule ∈ rules := by
  obtain ⟨⟨owner, _⟩, among, rfl⟩ := List.mem_map.mp member
  obtain ⟨earlier, later, split⟩ := List.append_of_mem among
  have named := accounts.numbered earlier owner _ later split
  rw [ite_self, Nat.zero_add] at named
  exact ⟨earlier, owner, later, split, named, fun rule holder =>
    (accounts.owners _ among rule holder).1⟩

theorem Accounts.begins (accounts : Accounts rules groups declarations) {symbol : NonTerminal}
    (member : symbol ∈ groups.map Prod.snd) : "__opt_".toList <+: symbol.name.toList := by
  obtain ⟨_, _, _, _, named, _⟩ := accounts.named member
  rw [named]
  unfold nameOf
  simp only [String.toList_append, List.append_assoc]
  exact List.prefix_append ..

theorem Accounts.group_eq (accounts : Accounts rules groups declarations) (apart : Apart rules)
    {first second : NonTerminal} (one : first ∈ groups.map Prod.snd)
    (other : second ∈ groups.map Prod.snd) (same : first.name = second.name) : first = second := by
  obtain ⟨earlier, owner, later, split, named, inside⟩ := accounts.named one
  obtain ⟨earlier', owner', later', split', named', inside'⟩ := accounts.named other
  obtain ⟨titles, counts⟩ := nameOf_inj (named.symm.trans (same.trans named'))
  obtain rfl := apart.owner_eq inside inside' titles
  exact eq_of_countOf (split.symm.trans split') counts

/-- One name, one nonterminal. -/
theorem Accounts.eq_of_name (accounts : Accounts rules groups declarations) (apart : Apart rules)
    {first second : NonTerminal} (one : declarations.Declares first)
    (other : declarations.Declares second) (same : first.name = second.name) : first = second := by
  have listed {symbol : NonTerminal} (declares : declarations.Declares symbol) :
      symbol ∈ rules ∨ symbol ∈ groups.map Prod.snd := by
    obtain ⟨_, has⟩ := declares
    exact List.mem_append.mp (accounts.declared.mem_iff.mp
      (List.mem_map_of_mem (List.mem_of_getElem? has)))
  rcases listed one with rule | group <;> rcases listed other with rule' | group'
  · exact List.inj_on_of_nodup_map apart.distinct rule rule' same
  · exact absurd (same ▸ accounts.begins group') (apart.plain first rule)
  · exact absurd (same ▸ accounts.begins group) (apart.plain second rule')
  · exact accounts.group_eq apart group group' same

end Authored

end Declarations

namespace Grammar

open Declarations Groups

variable {before : Declarations}

theorem build_run {asker : Location} {start : NonTerminal} {stamp : Option Nat}
    {name : Option String} {territory : Territory start} {after : Declarations}
    (explored : (Evaluation.explore asker start).run before = .ok (territory, after)) :
    (build asker (.rule (.symbol (.nonTerminal start)) stamp) name).run before =
      (ofTerritory (name.getD "unknown") territory).map fun grammar => (grammar, after) := by
  unfold build
  dsimp only
  rw [StateT.run_bind, explored]
  show (liftM (ofTerritory (name.getD "unknown") territory) : Evaluation Grammar).run after = _
  cases ofTerritory (name.getD "unknown") territory <;> rfl

/-- Groups are numbered in the bodies in which they are made, whenever these are evaluated, and a
body leaves the name and the count as it found them. So no rules clash, if those do not that an author
declares, and if none of them looks like a group. -/
theorem group_names (made : before.Made) :
    (∃ rules groups, Authored rules groups before) ∧
      (∀ depth asker symbol state definition after,
        (Evaluation.definitionAt depth asker symbol).run state = .ok (definition, after) →
          after.definition = state.definition ∧ after.groups = state.groups) ∧
      ∀ rules groups, Authored rules groups before →
        (before.declared.map Declared.symbol).Perm (rules ++ groups.map Prod.snd) ∧
          (∀ earlier owner symbol later, groups = earlier ++ (owner, symbol) :: later →
            symbol.name = nameOf owner (countOf owner earlier)) ∧
          (Apart rules → ∀ asker start stamp name, before.Declares start →
            Evaluation.Evaluates asker start before → ∀ clash first second,
              (build asker (.rule (.symbol (.nonTerminal start)) stamp) name).run before ≠
                .error (.duplicateRule clash first second)) := by
  refine ⟨made.authored, fun _ _ _ _ _ _ => Evaluation.definitionAt_restores,
    fun rules groups authored => ⟨authored.accounts.declared, ?_, ?_⟩⟩
  · intro earlier owner symbol later split
    have named := authored.accounts.numbered earlier owner symbol later split
    rwa [ite_self, Nat.zero_add] at named
  · intro apart asker start stamp name declared evaluates clash first second failed
    obtain ⟨territory, after, explored, searched, _⟩ :=
      Evaluation.explore_ok made.sound declared evaluates
    obtain ⟨_, later⟩ := authored.searched declared searched
    have searching := searched.searching made.sound declared
    have distinct : (territory.rules.map fun rule => rule.head.name).Nodup := by
      rw [show (fun rule : Definition => rule.head.name) = NonTerminal.name ∘ Definition.head from
        rfl, ← List.map_map]
      refine (List.nodup_map_iff_inj_on searching.distinct).mpr fun one inside other inside' => ?_
      obtain ⟨rule, member, rfl⟩ := List.mem_map.mp inside
      obtain ⟨rule', member', rfl⟩ := List.mem_map.mp inside'
      exact later.accounts.eq_of_name apart ⟨_, searching.known rule member⟩
        ⟨_, searching.known rule' member'⟩
    -- The names that are left to clash are those of terminals.
    rw [build_run explored] at failed
    cases built : ofTerritory (name.getD "unknown") territory with
    | ok grammar =>
      rw [built] at failed
      cases failed
    | error error =>
      rw [built] at failed
      cases failed
      rcases ofTerritory_error built with ⟨twice, _⟩ | ⟨_, _, _, _, _, named⟩
      · exact twice distinct
      · cases named

end Grammar

namespace Entries

open Declarations Evaluation

def ended : Declarations :=
  { written with
    declared := written.declared ++ [⟨group, .built groupBody⟩]
    definition := "Entry"
    groups := 1
    stamp := 2 }

theorem made_asked : (asked 1).Made := by
  have declared : written.Declares entry := ⟨_, rfl⟩
  exact .ask made declared ask_entry

theorem ask_again : (definitionOf location entry).run (asked 1) = .ok (entryRule, asked 1) := by cbv

theorem evaluates_asked : Evaluates location entry (asked 1) :=
  Straight.evaluates (.next rfl ask_again (.next rfl ask_group (.next rfl ask_mark (.done rfl))))

theorem entry_makes : Makes none written [(some entry, group)] (asked 1) := by
  have has : written.Has entry (.written entryBody location) := rfl
  have run : (definitionAt 3 location entry).run written = .ok (entryRule, asked 1) := by cbv
  have grouped : (generated location groupBody).run (written.entered entry) =
      .ok (group, { ended with stamp := 0 }) := by cbv
  have counted : Quiet { ended with stamp := 0 } ended := ⟨rfl, rfl, rfl⟩
  have inner : Makes (some entry) (written.entered entry) [(some entry, group)] ended :=
    .follow (.group grouped) (.quiet counted)
  exact .body has run inner rfl rfl

theorem authored : Authored [entry, mark] [(some entry, group)] (asked 1) := by
  have one : (Evaluation.declare "entry" (.text "Entry") location entryBody).run .empty =
      .ok ((), first) := rfl
  have two : (Evaluation.declare "mark" (.text "Mark") location markBody).run first =
      .ok ((), written) := rfl
  have declared : Authored [entry, mark] [] written := .declare (.declare .empty one rfl) two rfl
  have declares : written.Declares entry := ⟨_, rfl⟩
  exact .ask declared declares ask_entry entry_makes

theorem apart : Apart [entry, mark] := ⟨by decide, by decide, by decide⟩

end Entries

/-- The group that is made in the body of the entry is the first there, and no rules clash. -/
theorem Grammar.group_names_entries :
    (Entries.asked 1).Made ∧
      Declarations.Authored [Entries.entry, Entries.mark] [(some Entries.entry, Entries.group)]
        (Entries.asked 1) ∧
      Entries.group.name = Groups.nameOf (some Entries.entry) 0 ∧
      Declarations.Apart [Entries.entry, Entries.mark] ∧
      (Entries.asked 1).Declares Entries.entry ∧
      Evaluation.Evaluates Entries.location Entries.entry (Entries.asked 1) ∧
      ∀ clash first second,
        (build Entries.location (.rule (.symbol (.nonTerminal Entries.entry)) none) none).run
          (Entries.asked 1) ≠ .error (.duplicateRule clash first second) := by
  have declares : (Entries.asked 1).Declares Entries.entry := ⟨_, rfl⟩
  obtain ⟨_, _, accounts⟩ := group_names Entries.made_asked
  obtain ⟨_, named, unique⟩ := accounts _ _ Entries.authored
  exact ⟨Entries.made_asked, Entries.authored, named [] _ _ [] rfl, Entries.apart, declares,
    Entries.evaluates_asked,
    unique Entries.apart _ _ none none declares Entries.evaluates_asked⟩

end Descent
