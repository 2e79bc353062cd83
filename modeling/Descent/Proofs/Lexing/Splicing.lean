import Descent.Proofs.Lexing.Locality
import Descent.Proofs.Lexing.Nesting
import Descent.Proofs.Lexing.Renumbering

/-! A pattern that is read inside a group of a longer pattern.

The reader does about each item what it does when the pattern stands alone, only that groups are
numbered from the group around on, and that there is more around. A reference by number is the one
thing that would come out otherwise.
-/

set_option autoImplicit false

namespace Descent

def Bracket.shift (number : Nat → Nat) : Bracket → Bracket
  | text => capturing (number 0)
  | capturing index => capturing (number index)
  | plain => plain
  | atomic => atomic
  | look behind negated mark => look behind negated (mark.map number)
  | conditional index => conditional (number index)

def Item.shift (number : Nat → Nat) (item : Item) : Item :=
  { item with pattern := item.pattern.renumber number }

namespace Level

def shift (number : Nat → Nat) (level : Level) : Level where
  bracket := level.bracket.shift number
  flags := level.flags
  finished := level.finished.map (Pattern.renumber number)
  items := level.items.map (Item.shift number)

variable {number : Nat → Nat} {level level' : Level}

theorem alternative_shift (number : Nat → Nat) (level : Level) :
    (level.shift number).alternative = level.alternative.renumber number := by
  unfold alternative shift
  rw [Pattern.renumber_ofList, ← List.map_reverse, List.map_map, List.map_map]
  rfl

theorem body_shift (number : Nat → Nat) (level : Level) :
    (level.shift number).body = level.body.renumber number := by
  unfold body
  have reversed : (level.shift number).finished.reverse =
      level.finished.reverse.map (Pattern.renumber number) := List.map_reverse.symm
  rw [reversed, alternative_shift]
  cases level.finished.reverse with
  | nil => rfl
  | cons first rest =>
    rw [Pattern.renumber_alternatives, List.map_append]
    rfl

theorem bar_shift (number : Nat → Nat) (level : Level) :
    (level.shift number).bar = level.bar.shift number := by
  unfold bar
  rw [alternative_shift]
  rfl

theorem repeatLast_shift {repetition : Pattern → Pattern}
    (commutes : ∀ pattern, (repetition pattern).renumber number = repetition (pattern.renumber number))
    (repeated : level.repeatLast repetition = .ok level') :
    (level.shift number).repeatLast repetition = .ok (level'.shift number) := by
  obtain ⟨bracket, flags, finished, items⟩ := level
  match items with
  | [] => cases repeated
  | ⟨_, .place⟩ :: _ => cases repeated
  | ⟨_, .repetition⟩ :: _ => cases repeated
  | ⟨pattern, .other⟩ :: rest =>
    cases repeated
    simp only [repeatLast, shift, List.map_cons, Item.shift, commutes]

end Level

def Operation.Numbered : Operation → Prop
  | refer _ | conditional (.number _) => True
  | _ => False

namespace Reader

/-- The reader of a pattern in a group of a longer one. `base` is the reader in front of the group,
which takes its number from it. -/
def within (base : Reader) (kind : String) (reader : Reader) : Reader where
  level := reader.level.shift (base.next + ·)
  outer := reader.outer.map (Level.shift (base.next + ·)) ++ [base.level]
  next := base.next + reader.next
  names := base.names ++
    (kind, base.next) :: reader.names.map fun entry => (entry.1, base.next + entry.2)
  widths := reader.widths.map (fun entry => (base.next + entry.1, entry.2)) ++ base.widths
  mark := reader.mark.map (base.next + ·)
  promised := base.promised

def Fresh (base : Reader) (kind : String) (reader : Reader) : Prop :=
  ∀ entry ∈ reader.names, entry.1 ≠ kind ∧ base.names.lookup entry.1 = none

def Older (base : Reader) : Prop := ∀ entry ∈ base.widths, entry.1 < base.next

variable {base reader reader' : Reader} {kind : String}

theorem lookup_map_names (names : List (String × Nat)) (name : String) :
    (names.map fun entry => (entry.1, base.next + entry.2)).lookup name =
      (names.lookup name).map (base.next + ·) := by
  induction names with
  | nil => rfl
  | cons entry rest ih =>
    rw [List.map_cons, List.lookup_cons, List.lookup_cons, ih]
    cases name == entry.1 <;> rfl

theorem lookup_widths (older : base.Older) (index : Nat) :
    (base.within kind reader).widths.lookup (base.next + index) = reader.widths.lookup index := by
  have absent : base.widths.lookup (base.next + index) = none := by
    refine List.lookup_eq_none_iff.mpr fun entry member => bne_iff_ne.mpr ?_
    have := older entry member
    omega
  unfold within
  dsimp only
  rw [List.lookup_append, absent, Option.or_none]
  induction reader.widths with
  | nil => rfl
  | cons entry rest ih =>
    have same : (base.next + index == base.next + entry.1) = (index == entry.1) := by
      rw [Bool.eq_iff_iff, beq_iff_eq, beq_iff_eq]
      exact Nat.add_left_cancel_iff
    rw [List.map_cons, List.lookup_cons, List.lookup_cons, ih, same]

theorem widthOf_within (older : base.Older) (index : Nat) :
    (base.within kind reader).widthOf (base.next + index) = reader.widthOf index := by
  unfold widthOf
  rw [lookup_widths older]

theorem any_mark (index : Nat) :
    (base.within kind reader).mark.any (· ≤ base.next + index) = reader.mark.any (· ≤ index) := by
  unfold within
  cases reader.mark <;> simp

theorem refer_within (older : base.Older) {index : Nat} (refers : reader.refer index = .ok reader') :
    (base.within kind reader).refer (base.next + index) = .ok (base.within kind reader') := by
  unfold refer at refers ⊢
  -- Every number that is compared is moved by the same, so all three tests come out alike.
  rw [lookup_widths older, any_mark]
  have next : (base.within kind reader).next = base.next + reader.next := rfl
  rw [next]
  simp only [Nat.add_le_add_iff_left]
  split at refers
  · cases refers
  · rename_i known
    rw [if_neg known]
    split at refers
    · cases refers
    · rename_i closed
      rw [if_neg closed]
      split at refers
      · cases refers
      · rename_i outside
        rw [if_neg outside]
        cases refers
        rfl

theorem depend_within (older : base.Older) {index : Nat}
    (depends : reader.depend index = .ok reader') :
    (base.within kind reader).depend (base.next + index) = .ok (base.within kind reader') := by
  have mark : (base.within kind reader).mark.isSome = reader.mark.isSome := Option.isSome_map
  unfold depend at depends ⊢
  rw [lookup_widths older, any_mark, mark]
  split at depends
  · cases depends
  · rename_i closed
    rw [if_neg closed]
    split at depends
    · cases depends
    · rename_i outside
      rw [if_neg outside]
      cases depends
      rfl

theorem close_within (older : base.Older) (closes : reader.close = .ok reader') :
    (base.within kind reader).close = .ok (base.within kind reader') := by
  have width (body : Pattern) : (body.renumber (base.next + ·)).width
      (base.within kind reader).widthOf = body.width reader.widthOf :=
    Pattern.width_renumber (widthOf_within older) body
  have body : (base.within kind reader).level.body =
      reader.level.body.renumber (base.next + ·) := Level.body_shift _ _
  have outer : (base.within kind reader).outer =
      reader.outer.map (Level.shift (base.next + ·)) ++ [base.level] := rfl
  have bracket : (base.within kind reader).level.bracket =
      reader.level.bracket.shift (base.next + ·) := rfl
  -- The brackets are the same, but for the numbers of groups, so that both are closed alike.
  unfold close at closes ⊢
  rw [body, outer, bracket]
  dsimp only at closes ⊢
  rw [width]
  cases held : reader.outer with
  | nil =>
    rw [held] at closes
    cases closes
  | cons level around =>
    rw [held] at closes
    rw [List.map_cons, List.cons_append]
    dsimp only at closes ⊢
    cases opened : reader.level.bracket with
    | text =>
      rw [opened] at closes
      cases closes
    | plain | atomic | capturing =>
      rw [opened] at closes
      cases closes
      rfl
    | look behind negated mark =>
      rw [opened] at closes
      dsimp only [Bracket.shift] at closes ⊢
      split at closes
      · rename_i back
        rw [if_pos back]
        split at closes
        · cases closes
          rfl
        · cases closes
      · rename_i ahead
        rw [if_neg ahead]
        cases closes
        rfl
    | conditional index =>
      rw [opened] at closes
      dsimp only [Bracket.shift] at closes ⊢
      have finished : (base.within kind reader).level.finished =
          reader.level.finished.map (Pattern.renumber (base.next + ·)) := rfl
      have last : (base.within kind reader).level.alternative =
          reader.level.alternative.renumber (base.next + ·) := Level.alternative_shift _ _
      rw [finished, last]
      cases written : reader.level.finished with
      | nil =>
        rw [written] at closes
        cases closes
        rfl
      | cons yes more =>
        rw [written] at closes
        cases more with
        | nil =>
          cases closes
          rfl
        | cons => cases closes

theorem lookup_names (name : String) :
    (base.within kind reader).names.lookup name =
      (base.names.lookup name).or (if name = kind then some base.next
        else (reader.names.lookup name).map (base.next + ·)) := by
  unfold within
  rw [List.lookup_append, List.lookup_cons, lookup_map_names]
  by_cases same : name = kind
  · rw [if_pos same, beq_iff_eq.mpr same]
  · rw [if_neg same, beq_eq_false_iff_ne.mpr same]

theorem openCapturing_within (fresh : Fresh base kind reader) {name : Option String}
    (opens : reader.openCapturing name = .ok reader') :
    (base.within kind reader).openCapturing name = .ok (base.within kind reader') ∧
        Fresh base kind reader' ∨
      (base.within kind reader).openCapturing name = .error .nameTaken := by
  cases name with
  | none =>
    cases opens
    exact .inl ⟨rfl, fresh⟩
  | some name =>
    unfold openCapturing at opens ⊢
    dsimp only at opens ⊢
    split at opens
    · cases opens
    · rename_i new
      cases opens
      split
      · exact .inr rfl
      · rename_i new'
        refine .inl ⟨?_, ?_⟩
        · unfold within
          simp only [List.map_append, List.append_assoc, List.cons_append]
          rfl
        · have absent := Option.not_isSome_iff_eq_none.mp new'
          rw [lookup_names, Option.or_eq_none_iff] at absent
          obtain ⟨old, later⟩ := absent
          intro entry member
          rcases List.mem_append.mp member with early | late
          · exact fresh entry early
          · cases List.mem_singleton.mp late
            refine ⟨?_, old⟩
            rintro rfl
            rw [if_pos rfl] at later
            cases later

theorem lookup_own (fresh : Fresh base kind reader) {name : String} {index : Nat}
    (named : reader.names.lookup name = some index) :
    (base.within kind reader).names.lookup name = some (base.next + index) := by
  obtain ⟨early, late, same, _⟩ := List.lookup_eq_some_iff.mp named
  obtain ⟨apart, old⟩ := fresh (name, index) (by rw [same]; simp)
  rw [lookup_names, old, named, if_neg apart]
  rfl

theorem referName_within (older : base.Older) (fresh : Fresh base kind reader) {name : String}
    (refers : reader.referName name = .ok reader') :
    (base.within kind reader).referName name = .ok (base.within kind reader') := by
  unfold referName at refers ⊢
  split at refers
  · rename_i named
    rw [lookup_own fresh named]
    exact refer_within older refers
  · cases refers

theorem openConditional_within (older : base.Older) (fresh : Fresh base kind reader) {name : String}
    (opens : reader.openConditional (.name name) = .ok reader') :
    (base.within kind reader).openConditional (.name name) = .ok (base.within kind reader') := by
  unfold openConditional at opens ⊢
  dsimp only at opens ⊢
  split at opens
  · rename_i named
    rw [lookup_own fresh named]
    exact depend_within older opens
  · cases opens

theorem bar_within (base : Reader) (kind : String) (reader : Reader) :
    { base.within kind reader with level := (base.within kind reader).level.bar } =
      base.within kind { reader with level := reader.level.bar } := by
  unfold within
  dsimp only
  rw [Level.bar_shift]

theorem openLook_within (behind negated : Bool) :
    (base.within kind reader).openLook behind negated =
      base.within kind (reader.openLook behind negated) := by
  cases behind with
  | false => rfl
  | true =>
    unfold openLook within
    cases reader.mark <;> rfl

/-- The reader does what it does for the pattern alone, or a name was given already. -/
theorem apply_within (older : base.Older) (fresh : Fresh base kind reader) {operation : Operation}
    (unnumbered : ¬operation.Numbered)
    (applies : operation.apply reader = .ok reader') :
    operation.apply (base.within kind reader) = .ok (base.within kind reader') ∧
        Fresh base kind reader' ∨
      operation.apply (base.within kind reader) = .error .nameTaken := by
  cases operation with
  | skip | test | place =>
    cases applies
    exact .inl ⟨rfl, fresh⟩
  | enter atomic flags =>
    cases applies
    exact .inl ⟨by cases atomic <;> rfl, fresh⟩
  | look behind negated =>
    cases applies
    refine .inl ⟨congrArg Except.ok (openLook_within behind negated), ?_⟩
    cases behind <;> exact fresh
  | bar =>
    cases applies
    exact .inl ⟨congrArg Except.ok (bar_within base kind reader), fresh⟩
  | again count lazy atomic =>
    have commutes (pattern : Pattern) :
        (Operation.repetition count lazy atomic pattern).renumber (base.next + ·) =
          Operation.repetition count lazy atomic (pattern.renumber (base.next + ·)) := by
      cases atomic <;> rfl
    dsimp only [Operation.apply] at applies ⊢
    cases repeated : reader.level.repeatLast (Operation.repetition count lazy atomic) with
    | error error =>
      rw [repeated] at applies
      cases applies
    | ok level =>
      rw [repeated] at applies
      cases applies
      have shifted := Level.repeatLast_shift commutes repeated
      refine .inl ⟨?_, fresh⟩
      show ((reader.level.shift (base.next + ·)).repeatLast _).map _ = _
      rw [shifted]
      rfl
  -- Only a name that was given before stands in the way.
  | capture name => exact openCapturing_within fresh applies
  | refer index => exact absurd trivial unnumbered
  | referName name =>
    refine .inl ⟨referName_within older fresh applies, ?_⟩
    obtain ⟨_, rfl⟩ := referName_ok applies
    exact fresh
  | conditional group =>
    cases group with
    | number index => exact absurd trivial unnumbered
    | name name =>
      have opens : reader.openConditional (.name name) = .ok reader' := applies
      refine .inl ⟨openConditional_within older fresh opens, ?_⟩
      obtain ⟨_, _, rfl⟩ := openConditional_ok opens
      exact fresh
  | close =>
    refine .inl ⟨close_within older applies, ?_⟩
    obtain ⟨_, _, _, _, _, _, _, rfl⟩ := close_ok applies
    exact fresh

end Reader

/-- Whether a piece, with what is behind it, calls a group by its number. -/
def Piece.refersByNumber (rest : List Piece) : Piece → Bool
  | plain c =>
    c == '(' &&
      match rest with
      | plain '?' :: plain '(' :: rest =>
        match Pieces.condition rest with
        | .ok (.number _, _) => true
        | _ => false
      | _ => false
  | escaped c =>
    c != '0' && Pieces.isDecimal c &&
      match Pieces.digitEscape c rest with
      | .ok (.group _, _) => true
      | _ => false

namespace Operation

variable {flags : Flags} {pieces rest : List Piece} {operation : Operation}

theorem quantifier_not_numbered (count : Pieces.Count) : ¬(quantifier count pieces).1.Numbered := by
  unfold quantifier
  split <;> exact id

theorem numbered_of_extension (read : ofExtension flags pieces = .ok (operation, rest))
    (numbered : operation.Numbered) :
    ∃ behind index left, pieces = .plain '(' :: behind ∧
      Pieces.condition behind = .ok (.number index, left) := by
  unfold ofExtension at read
  split at read
  · obtain ⟨_, _, read⟩ := bind_eq_ok.mp read
    cases read
    cases numbered
  · obtain ⟨_, _, read⟩ := bind_eq_ok.mp read
    cases read
    cases numbered
  · cases read
    cases numbered
  · split at read
    · cases read
      cases numbered
    · cases read
  · cases read
    cases numbered
  · cases read
    cases numbered
  · cases read
    cases numbered
  · cases read
    cases numbered
  · cases read
    cases numbered
  · obtain ⟨⟨group, left⟩, called, read⟩ := bind_eq_ok.mp read
    cases read
    cases group with
    | number index => exact ⟨_, index, _, rfl, called⟩
    | name => cases numbered
  · split at read
    · cases read
    · obtain ⟨_, _, read⟩ := bind_eq_ok.mp read
      cases read
      cases numbered
  · cases read

theorem numbered_of_special [CharNames] {c : Char}
    (read : ofSpecial flags c pieces = .ok (operation, rest)) (numbered : operation.Numbered) :
    (Piece.plain c).refersByNumber pieces = true := by
  have quantified {count : Pieces.Count} {pieces : List Piece}
      (read : quantifier count pieces = (operation, rest)) : False := by
    have plain := @quantifier_not_numbered pieces count
    rw [read] at plain
    exact plain numbered
  unfold ofSpecial at read
  split at read
  · cases read
    cases numbered
  · cases read
    cases numbered
  · split at read
    · obtain ⟨behind, index, left, rfl, called⟩ := numbered_of_extension read numbered
      simp [Piece.refersByNumber, called]
    · cases read
      cases numbered
  · obtain ⟨_, _, read⟩ := bind_eq_ok.mp read
    cases read
    cases numbered
  · exact (quantified (Except.ok.inj read)).elim
  · exact (quantified (Except.ok.inj read)).elim
  · exact (quantified (Except.ok.inj read)).elim
  · split at read
    · obtain ⟨_, _, read⟩ := bind_eq_ok.mp read
      exact (quantified (Except.ok.inj read)).elim
    · cases read
      cases numbered
  · cases read
    cases numbered
  · cases read
    cases numbered
  · cases read
    cases numbered
  · cases read
    cases numbered

/-- An escaped number or a condition calls a group by its number, and nothing else does. -/
theorem refersByNumber_of_numbered [CharNames] {piece : Piece}
    (read : ofItem flags piece pieces = .ok (operation, rest)) (numbered : operation.Numbered) :
    piece.refersByNumber pieces = true := by
  cases piece with
  | plain c =>
    unfold ofItem at read
    dsimp only at read
    split at read
    · cases read
      cases numbered
    · split at read
      · cases read
        cases numbered
      · exact numbered_of_special read numbered
  | escaped c =>
    unfold ofItem ofEscape at read
    dsimp only at read
    unfold Piece.refersByNumber
    dsimp only
    split at read
    · cases read
      cases numbered
    · cases read
      cases numbered
    · split at read
      · obtain ⟨_, _, read⟩ := bind_eq_ok.mp read
        cases read
        cases numbered
      · rename_i other
        split at read
        · rename_i digit
          obtain ⟨⟨found, left⟩, digits, read⟩ := bind_eq_ok.mp read
          cases found with
          | character =>
            cases read
            cases numbered
          | group => simp [other, digit, digits]
        · obtain ⟨_, _, read⟩ := bind_eq_ok.mp read
          cases read
          cases numbered

end Operation

namespace Reader

variable [CharNames]

def numbers : (limit : Nat) → Reader → List Piece → Bool
  | limit + 1, reader, piece :: rest =>
    piece.refersByNumber rest ||
      match reader.item piece rest with
      | .ok (reader, rest) => numbers limit reader rest
      | .error _ => false
  | _, _, _ => false

inductive Completes : Reader → List Piece → Reader → Prop where
  | done (reader : Reader) : Completes reader [] reader
  | item {reader between last : Reader} {piece : Piece} {pieces rest : List Piece}
      (read : reader.item piece pieces = .ok (between, rest)) (more : Completes between rest last) :
      Completes reader (piece :: pieces) last

theorem completes_of_items {limit : Nat} {reader last : Reader} {pieces : List Piece}
    (read : items limit reader pieces = .ok last) : Completes reader pieces last := by
  induction limit generalizing reader pieces with
  | zero =>
    cases pieces with
    | nil =>
      cases read
      exact .done _
    | cons => cases read
  | succ limit ih =>
    cases pieces with
    | nil =>
      cases read
      exact .done _
    | cons piece pieces =>
      obtain ⟨_, first, read⟩ := bind_eq_ok.mp read
      exact .item first (ih read)

variable {base reader final last : Reader} {kind : String}

theorem item_eq_ok {piece : Piece} {pieces rest : List Piece} :
    reader.item piece pieces = .ok (last, rest) ↔ ∃ operation,
      Operation.ofItem reader.level.flags piece pieces = .ok (operation, rest) ∧
        operation.apply reader = .ok last := by
  rw [Operation.item_eq]
  unfold Operation.perform
  constructor
  · intro read
    obtain ⟨⟨operation, left⟩, said, read⟩ := bind_eq_ok.mp read
    obtain ⟨_, done, read⟩ := bind_eq_ok.mp read
    cases read
    exact ⟨operation, said, done⟩
  · rintro ⟨operation, said, done⟩
    exact bind_eq_ok.mpr ⟨_, said, bind_eq_ok.mpr ⟨_, done, rfl⟩⟩

/-- A pattern that can be read alone is read alike in a group, up to the bracket that closes it. -/
theorem items_within (older : base.Older) (sound : reader.Sound) (fresh : Fresh base kind reader)
    {limit : Nat} {pieces more : List Piece} (alone : items limit reader pieces = .ok final)
    (unnumbered : numbers limit reader pieces = false) (closed : final.outer = [])
    (whole : Completes (base.within kind reader) (pieces ++ .plain ')' :: more) last) :
    Completes (base.within kind final) (.plain ')' :: more) last ∧ final.Sound := by
  -- By the items of the pattern: each says the same here, and is done alike.
  induction limit generalizing reader pieces with
  | zero =>
    cases pieces with
    | nil =>
      cases alone
      exact ⟨whole, sound⟩
    | cons => cases alone
  | succ limit ih =>
    cases pieces with
    | nil =>
      cases alone
      exact ⟨whole, sound⟩
    | cons piece pieces =>
      obtain ⟨⟨between, rest⟩, first, alone⟩ := bind_eq_ok.mp alone
      unfold numbers at unnumbered
      rw [first, Bool.or_eq_false_iff] at unnumbered
      obtain ⟨operation, said, done⟩ := item_eq_ok.mp first
      rcases Operation.ofItem_append more said with said' | ⟨verbose, rfl, rfl⟩
      · cases whole with
        | item read whole =>
          obtain ⟨operation', said'', done'⟩ := item_eq_ok.mp read
          cases said'.symm.trans said''
          have named : ¬operation.Numbered := by
            intro numbered
            have refers := Operation.refersByNumber_of_numbered said numbered
            rw [unnumbered.1] at refers
            cases refers
          rcases apply_within older fresh named done with ⟨same, fresh⟩ | taken
          · cases same.symm.trans done'
            exact ih (sound.apply done) fresh alone unnumbered.2 whole
          · cases taken.symm.trans done'
      · -- A comment that is not ended is inside a group that is not closed.
        cases done
        have ended : final = reader := by
          cases limit <;> cases alone <;> rfl
        subst ended
        have nested := sound.nested
        rw [closed] at nested
        rw [nested.alone.2.1] at verbose
        cases verbose

end Reader

end Descent
