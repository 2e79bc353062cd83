import Descent.Proofs.Lexing.Operations

/-! A closing bracket behind a pattern changes nothing of what its items say.

It ends whatever may go on: digits, names, counts. What is not ended at the end of a pattern is an
error there, but for a comment.
-/

set_option autoImplicit false

namespace Descent

namespace Pieces

/-- What is read stays as it is when a closing bracket comes up behind the pieces, and so does what
is left of them. -/
def Local {α : Type} (read : List Piece → Except PatternError (α × List Piece)) : Prop :=
  ∀ ⦃pieces rest : List Piece⦄ ⦃result : α⦄ (more : List Piece), read pieces = .ok (result, rest) →
    read (pieces ++ .plain ')' :: more) = .ok (result, rest ++ .plain ')' :: more)

section Local

variable {α β : Type} {pieces rest taken : List Piece} (more : List Piece)

theorem local_ok (result : α) : Local fun pieces => .ok (result, pieces) := by
  intro pieces rest found more read
  cases read
  rfl

theorem local_error (error : PatternError) : Local fun _ => (.error error : Except _ (α × _)) :=
  nofun

theorem Local.ite {read other : List Piece → Except PatternError (α × List Piece)} {holds : Prop}
    [Decidable holds] (passes : Local read) (fails : Local other) :
    Local fun pieces => if holds then read pieces else other pieces := by
  by_cases test : holds
  · simp only [if_pos test]
    exact passes
  · simp only [if_neg test]
    exact fails

theorem Local.bind {read : List Piece → Except PatternError (α × List Piece)}
    {next : α → List Piece → Except PatternError (β × List Piece)} (first : Local read)
    (second : ∀ value, Local (next value)) :
    Local fun pieces => (read pieces).bind fun found => next found.1 found.2 := by
  intro pieces rest result more whole
  dsimp only at whole ⊢
  cases found : read pieces with
  | error error =>
    rw [found] at whole
    cases whole
  | ok pair =>
    rw [found] at whole
    rw [first more found]
    exact second pair.1 more whole

theorem takePlain_append {test : Char → Bool} (stops : test ')' = false) {limit limit' : Nat}
    (enough : limit = limit' ∨ pieces.length ≤ limit ∧ pieces.length ≤ limit') :
    takePlain test limit' (pieces ++ .plain ')' :: more) =
      ((takePlain test limit pieces).1,
        (takePlain test limit pieces).2 ++ .plain ')' :: more) := by
  induction pieces generalizing limit limit' with
  | nil =>
    cases limit <;> cases limit' <;> simp [takePlain, stops]
  | cons piece rest ih =>
    cases limit with
    | zero =>
      obtain rfl : limit' = 0 := by simp at enough; omega
      rfl
    | succ limit =>
      obtain ⟨limit', rfl⟩ : ∃ n, limit' = n + 1 :=
        Nat.exists_eq_succ_of_ne_zero (by simp at enough; omega)
      cases piece with
      | escaped c => rfl
      | plain c =>
        have deeper := @ih limit limit' (by simp at enough; omega)
        simp only [List.cons_append, takePlain]
        split
        · rw [deeper]
        · rfl

theorem code_local {test : Char → Bool} (stops : test ')' = false) (limit : Nat)
    (fits : List Char → Prop) [DecidablePred fits] (code : List Char → Nat) :
    Local fun pieces =>
      if fits (takePlain test limit pieces).1 then
        .ok (code (takePlain test limit pieces).1, (takePlain test limit pieces).2)
      else .error .badEscape := by
  intro pieces rest found more read
  dsimp only at read ⊢
  rw [takePlain_append more stops (.inl rfl)]
  split at read
  · rename_i fit
    rw [if_pos fit]
    cases read
    rfl
  · cases read

theorem hexCode_local (width : Nat) : Local (hexCode width) :=
  code_local (by decide) width (fun digits => digits.length = width ∧ number 16 digits < 0x110000)
    (number 16)

theorem octalCode_local (first : Char) : Local (octalCode first) :=
  code_local (by decide) 2 (fun digits => number 8 (first :: digits) ≤ 0xff)
    fun digits => number 8 (first :: digits)

theorem until?_append {terminator : Char} (found : until? terminator pieces = some (taken, rest)) :
    until? terminator (pieces ++ more) = some (taken, rest ++ more) := by
  induction pieces generalizing taken with
  | nil => cases found
  | cons piece others ih =>
    unfold until? at found
    rw [List.cons_append]
    unfold until?
    split at found
    · rename_i ends
      rw [if_pos ends]
      cases found
      rfl
    · rename_i goes
      rw [if_neg goes]
      obtain ⟨⟨front, left⟩, later, found⟩ := Option.bind_eq_some_iff.mp found
      cases found
      exact Option.bind_eq_some_iff.mpr ⟨_, ih later, rfl⟩

theorem textUntil?_local (terminator : Char) {error : PatternError}
    {next : List Char → List Piece → Except PatternError (α × List Piece)}
    (each : ∀ text, Local (next text)) :
    Local fun pieces =>
      match textUntil? terminator pieces with
      | none => .error error
      | some (text, rest) => next text rest := by
  intro pieces rest result more read
  dsimp only at read ⊢
  split at read
  · cases read
  · rename_i text left found
    obtain ⟨⟨taken, left⟩, ends, found⟩ := Option.bind_eq_some_iff.mp found
    dsimp only at found
    obtain ⟨text, plain, same⟩ := Option.bind_eq_some_iff.mp found
    cases same
    have further : textUntil? terminator (pieces ++ .plain ')' :: more) =
        some (text, left ++ .plain ')' :: more) :=
      Option.bind_eq_some_iff.mpr ⟨_, until?_append _ ends,
        Option.bind_eq_some_iff.mpr ⟨_, plain, rfl⟩⟩
    rw [further]
    exact each text more read

theorem namedCode_local [CharNames] : Local namedCode := by
  have named (name : List Char) :
      Local fun pieces => (codeOfName name).bind fun code => .ok (code, pieces) := by
    cases codeOfName name with
    | error => exact local_error _
    | ok code => exact local_ok code
  intro pieces rest code more read
  unfold namedCode at read
  split at read
  · exact textUntil?_local '\x7d' named more read
  · cases read

theorem sharedEscape_local [CharNames] (c : Char) : Local (sharedEscape c) := by
  intro pieces rest code more read
  unfold sharedEscape at read ⊢
  cases found : control? c with
  | some code =>
    rw [found] at read
    cases read
    rfl
  | none =>
    rw [found] at read
    dsimp only at read ⊢
    split at read
    · exact hexCode_local 2 more read
    · exact hexCode_local 4 more read
    · exact hexCode_local 8 more read
    · exact namedCode_local more read
    · split at read
      · cases read
      · rename_i plain
        rw [if_neg plain]
        cases read
        rfl

theorem digitEscape_local (first : Char) : Local (digitEscape first) := by
  intro pieces rest found more read
  unfold digitEscape at read ⊢
  rw [takePlain_append more (by decide) (.inl rfl)]
  generalize takePlain isDecimal 1 pieces = digits at read ⊢
  obtain ⟨_ | ⟨second, _ | ⟨_, _⟩⟩, left⟩ := digits
  · cases read
    rfl
  · dsimp only at read ⊢
    rw [takePlain_append more (by decide) (.inl rfl)]
    generalize takePlain isOctal 1 left = digits at read ⊢
    obtain ⟨_ | ⟨third, _ | ⟨_, _⟩⟩, beyond⟩ := digits
    · cases read
      rfl
    · dsimp only at read ⊢
      split at read
      · rename_i octal
        rw [if_pos octal]
        split at read
        · rename_i small
          rw [if_pos small]
          cases read
          rfl
        · cases read
      · rename_i decimal
        rw [if_neg decimal]
        cases read
        rfl
    · cases read
      rfl
  · cases read
    rfl

theorem setEscape_local [CharNames] (c : Char) : Local (setEscape c) := by
  intro pieces rest item more read
  unfold setEscape at read ⊢
  cases found : category? c with
  | some item =>
    rw [found] at read
    cases read
    rfl
  | none =>
    rw [found] at read
    have ranged (code : Nat) : Local fun pieces => .ok (ClassItem.range code code, pieces) :=
      local_ok _
    dsimp only at read ⊢
    split at read
    · rename_i back
      rw [if_pos back]
      exact ranged 8 more read
    · rename_i other
      rw [if_neg other]
      split at read
      · rename_i octal
        rw [if_pos octal]
        exact (octalCode_local c).bind ranged more read
      · rename_i shared
        rw [if_neg shared]
        exact (sharedEscape_local c).bind ranged more read

theorem setMember_local [CharNames] (piece : Piece) : Local (setMember piece) := by
  cases piece with
  | plain c => exact local_ok (ClassItem.range c.toNat c.toNat)
  | escaped c => exact setEscape_local c

theorem setMembers_dash [CharNames] (limit : Nat) :
    setMembers limit false [.plain '-'] = .error .unterminatedSet := by
  cases limit with
  | zero => rfl
  | succ limit => cases limit <;> rfl

/-- A hyphen that is last would make a range up to the bracket, but then no set was read. -/
theorem not_range_append [CharNames] {limit : Nat} {items : List ClassItem}
    (read : setMembers limit false pieces = .ok (items, rest))
    (single : ∀ next tail, pieces = .plain '-' :: next :: tail → False) (tail : List Piece) :
    pieces ++ .plain ')' :: more ≠ .plain '-' :: tail := by
  intro same
  match pieces with
  | [] => cases same
  | [piece] =>
    cases same
    rw [setMembers_dash] at read
    cases read
  | piece :: next :: others =>
    cases same
    exact single _ _ rfl

/-- More members are allowed for where there are more pieces, and that changes nothing. -/
theorem setMembers_append [CharNames] {limit limit' : Nat} (enough : limit ≤ limit') {first : Bool}
    {items : List ClassItem} (read : setMembers limit first pieces = .ok (items, rest)) :
    setMembers limit' first (pieces ++ .plain ')' :: more) =
      .ok (items, rest ++ .plain ')' :: more) := by
  induction limit generalizing limit' first pieces items rest with
  | zero => cases read
  | succ limit ih =>
    obtain ⟨limit', rfl⟩ : ∃ n, limit' = n + 1 := Nat.exists_eq_succ_of_ne_zero (by omega)
    have fewer : limit ≤ limit' := Nat.le_of_succ_le_succ enough
    cases pieces with
    | nil => cases read
    | cons piece others =>
      unfold setMembers at read
      rw [List.cons_append]
      unfold setMembers
      split at read
      · rename_i closing
        rw [if_pos closing]
        cases read
        rfl
      · rename_i inside
        rw [if_neg inside]
        obtain ⟨⟨low, left⟩, one, read⟩ := bind_eq_ok.mp read
        refine bind_eq_ok.mpr ⟨_, setMember_local piece more one, ?_⟩
        dsimp only at read ⊢
        split at read
        · cases read
          rfl
        · rename_i next tail further
          obtain ⟨⟨high, left⟩, two, read⟩ := bind_eq_ok.mp read
          obtain ⟨item, ranged, read⟩ := bind_eq_ok.mp read
          obtain ⟨⟨items, left⟩, others, read⟩ := bind_eq_ok.mp read
          cases read
          simp only [List.cons_append]
          refine bind_eq_ok.mpr ⟨_, setMember_local next more two, bind_eq_ok.mpr ⟨_, ranged, ?_⟩⟩
          exact bind_eq_ok.mpr ⟨_, ih fewer others, rfl⟩
        -- A hyphen that was last is followed by the bracket now, but then no set was read.
        · rename_i plain dashed
          obtain ⟨⟨items, rest⟩, others, read⟩ := bind_eq_ok.mp read
          cases read
          split
          · rename_i same
            exact absurd same (not_range_append more others dashed _)
          · rename_i same
            exact absurd same (not_range_append more others dashed _)
          · exact bind_eq_ok.mpr ⟨_, ih fewer others, rfl⟩

theorem characterSet_local [CharNames] (rules : Rules) : Local (characterSet rules) := by
  intro pieces rest test more read
  have whole {negated : Bool} {members : List Piece}
      (read : (setMembers members.length true members).bind (fun found =>
        .ok (CharTest.set negated rules found.1, found.2)) = .ok (test, rest)) :
      ((setMembers (members ++ Piece.plain ')' :: more).length true
        (members ++ Piece.plain ')' :: more)).bind fun found =>
          .ok (CharTest.set negated rules found.1, found.2)) =
        .ok (test, rest ++ .plain ')' :: more) := by
    have enough : members.length ≤ (members ++ Piece.plain ')' :: more).length := by
      rw [List.length_append]
      exact Nat.le_add_right _ _
    obtain ⟨⟨items, left⟩, members, read⟩ := bind_eq_ok.mp read
    cases read
    exact bind_eq_ok.mpr ⟨_, setMembers_append more enough members, rfl⟩
  unfold characterSet at read ⊢
  match pieces with
  | [] => cases read
  | piece :: others =>
    by_cases negates : piece = .plain '^'
    · subst negates
      exact whole read
    · simp only [List.cons_append] at read ⊢
      split at read
      · rename_i same
        cases same
        exact absurd rfl negates
      · split
        · rename_i same
          cases same
          exact absurd rfl negates
        · exact whole read

theorem groupName_local (terminator : Char) : Local (groupName terminator) :=
  textUntil?_local terminator fun _ => (local_ok _).ite (local_error _)

theorem condition_local : Local condition :=
  textUntil?_local ')' fun _ => (local_ok _).ite ((local_ok _).ite (local_error _))

theorem groupFlags_local (flags : Flags) : Local (groupFlags flags) := by
  refine textUntil?_local ':' fun letters => ?_
  dsimp only
  cases flags.raise (letters.takeWhile (· ≠ '-')) with
  | none => exact local_error _
  | some raised =>
    dsimp only
    cases raised.lower ((letters.dropWhile (· ≠ '-')).drop 1) with
    | none => exact local_error _
    | some lowered => exact (local_error _).ite (local_ok lowered)

def upperCount (low : List Char) : List Piece → List Char × List Piece
  | .plain ',' :: rest => takePlain isDecimal rest.length rest
  | rest => (low, rest)

def closeCount (length : Nat) (low high : List Char) (pieces : List Piece) :
    Option (Except PatternError Count × List Piece) :=
  match pieces with
  | .plain '\x7d' :: left =>
    if pieces.length = length then none
    else
      let least := number 10 low
      let most := if high = [] then none else some (number 10 high)
      let fits := least < countLimit && most.all fun most => least ≤ most && most < countLimit
      some (if fits then .ok ⟨least, most⟩ else .error .badCount, left)
  | _ => none

theorem braceCount?_eq (pieces : List Piece) :
    braceCount? pieces =
      let (low, rest) := takePlain isDecimal pieces.length pieces
      let (high, rest) := upperCount low rest
      closeCount pieces.length low high rest := rfl

theorem upperCount_append (low : List Char) :
    upperCount low (pieces ++ .plain ')' :: more) =
      ((upperCount low pieces).1, (upperCount low pieces).2 ++ .plain ')' :: more) := by
  unfold upperCount
  split
  · rename_i tail same
    match pieces with
    | [] => cases same
    | piece :: others =>
      cases same
      exact takePlain_append more (by decide) (.inr ⟨Nat.le_refl _, by simp⟩)
  · rename_i plain
    split
    · exact absurd rfl (plain _)
    · rfl

theorem closeCount_append (length : Nat) (low high : List Char) :
    closeCount (length + (Piece.plain ')' :: more).length) low high (pieces ++ .plain ')' :: more) =
      (closeCount length low high pieces).map fun found =>
        (found.1, found.2 ++ .plain ')' :: more) := by
  unfold closeCount
  split
  · rename_i left same
    match pieces with
    | [] => cases same
    | piece :: others =>
      cases same
      simp only [List.length_append, Nat.add_right_cancel_iff]
      split <;> rfl
  · rename_i plain
    split
    · exact absurd rfl (plain _)
    · rfl

theorem braceCount?_append :
    braceCount? (pieces ++ .plain ')' :: more) =
      (braceCount? pieces).map fun found => (found.1, found.2 ++ .plain ')' :: more) := by
  rw [braceCount?_eq, braceCount?_eq,
    takePlain_append more (by decide) (.inr ⟨Nat.le_refl _, by simp⟩)]
  dsimp only
  rw [upperCount_append, List.length_append]
  exact closeCount_append more _ _ _

end Local

end Pieces

namespace Operation

open Pieces

variable {pieces rest : List Piece} (more : List Piece)

theorem quantifier_append (count : Count) :
    quantifier count (pieces ++ .plain ')' :: more) =
      ((quantifier count pieces).1, (quantifier count pieces).2 ++ .plain ')' :: more) := by
  unfold quantifier
  match pieces with
  | [] => rfl
  | piece :: others =>
    rw [List.cons_append]
    split
    · rename_i same
      cases same
      rfl
    · rename_i same
      cases same
      rfl
    · rename_i lazy atomic
      split
      · rename_i same
        cases same
        exact (lazy _ rfl).elim
      · rename_i same
        cases same
        exact (atomic _ rfl).elim
      · rfl

theorem quantifier_local (count : Count) : Local fun pieces => .ok (quantifier count pieces) := by
  intro pieces rest operation more read
  have same : quantifier count pieces = (operation, rest) := Except.ok.inj read
  dsimp only
  rw [quantifier_append, same]

theorem ofEscape_local [CharNames] (flags : Flags) (c : Char) : Local (ofEscape flags c) := by
  intro pieces rest operation more read
  unfold ofEscape at read ⊢
  cases anchored : anchor? flags.rules.ascii c with
  | some anchor =>
    rw [anchored] at read
    cases read
    rfl
  | none =>
    rw [anchored] at read
    cases grouped : category? c with
    | some item =>
      rw [grouped] at read
      cases read
      rfl
    | none =>
      rw [grouped] at read
      dsimp only at read ⊢
      split at read
      · rename_i zero
        rw [if_pos zero]
        exact (octalCode_local c).bind (fun code => local_ok (literal flags code)) more read
      · rename_i other
        rw [if_neg other]
        split at read
        · rename_i digit
          rw [if_pos digit]
          obtain ⟨⟨found, left⟩, digits, read⟩ := bind_eq_ok.mp read
          refine bind_eq_ok.mpr ⟨_, digitEscape_local c more digits, ?_⟩
          cases found with
          | character => cases read; rfl
          | group => cases read; rfl
        · rename_i plain
          rw [if_neg plain]
          exact (sharedEscape_local c).bind (fun code => local_ok (literal flags code)) more read

theorem ofExtension_local (flags : Flags) : Local (ofExtension flags) := by
  intro pieces rest operation more read
  unfold ofExtension at read
  split at read
  · exact (groupName_local '>').bind (fun name => local_ok (capture (some name))) more read
  · exact (groupName_local ')').bind (fun name => local_ok (referName name)) more read
  · cases read; rfl
  · split at read
    · rename_i found
      cases read
      rw [List.cons_append]
      unfold ofExtension
      simp only
      rw [until?_append _ found]
      rfl
    · cases read
  · cases read; rfl
  · cases read; rfl
  · cases read; rfl
  · cases read; rfl
  · cases read; rfl
  · exact condition_local.bind (fun group => local_ok (conditional group)) more read
  · split at read
    · cases read
    · rename_i letter tail _ _ colon comment ahead without _ _ atomic condition named
      have notName : letter = 'P' → False := fun same => named (.inl same)
      have notBehind : letter = '<' → False := fun same => named (.inr same)
      obtain ⟨⟨raised, left⟩, flagged, read⟩ := bind_eq_ok.mp read
      cases read
      have further := groupFlags_local flags more flagged
      rw [List.cons_append] at further ⊢
      unfold ofExtension
      -- The letter is none of those that come before the flags.
      split
      case h_11 same =>
        cases same
        rw [if_neg named]
        exact bind_eq_ok.mpr ⟨_, further, rfl⟩
      case h_12 other => exact (other _ _ rfl).elim
      all_goals
        rename_i same
        cases (List.cons.inj same).1
        first
        | exact (notName rfl).elim
        | exact (notBehind rfl).elim
        | exact (colon rfl).elim
        | exact (comment rfl).elim
        | exact (ahead rfl).elim
        | exact (without rfl).elim
        | exact (atomic rfl).elim
        | exact (condition rfl).elim
  · cases read

theorem ofSpecial_local [CharNames] (flags : Flags) (c : Char) : Local (ofSpecial flags c) := by
  intro pieces rest operation more read
  unfold ofSpecial at read ⊢
  split at read
  · cases read; rfl
  · cases read; rfl
  · split at read
    · exact ofExtension_local flags more read
    · rename_i plain
      cases read
      match pieces with
      | [] => rfl
      | piece :: others =>
        split
        · rename_i same
          cases same
          exact (plain _ rfl).elim
        · rfl
  · exact (characterSet_local flags.rules).bind (fun set => local_ok (test set)) more read
  · exact quantifier_local _ more read
  · exact quantifier_local _ more read
  · exact quantifier_local _ more read
  · rw [braceCount?_append]
    cases found : braceCount? pieces with
    | none =>
      rw [found] at read
      cases read
      rfl
    | some pair =>
      obtain ⟨count, left⟩ := pair
      rw [found] at read
      cases count with
      | error error => cases read
      | ok count => exact quantifier_local count more read
  · cases read; rfl
  · cases read; rfl
  · cases read; rfl
  · cases read
    rfl

/-- A closing bracket ends what an item says, but for a comment that goes on to the end. -/
theorem ofItem_append [CharNames] {flags : Flags} {piece : Piece} {operation : Operation}
    (read : ofItem flags piece pieces = .ok (operation, rest)) :
    ofItem flags piece (pieces ++ .plain ')' :: more) =
        .ok (operation, rest ++ .plain ')' :: more) ∨
      flags.verbose = true ∧ operation = skip ∧ rest = [] := by
  cases piece with
  | escaped c => exact .inl (ofEscape_local flags c more read)
  | plain c =>
    unfold ofItem at read ⊢
    dsimp only at read ⊢
    split at read
    · rename_i blank
      cases read
      exact .inl (if_pos blank)
    · rename_i filled
      rw [if_neg filled]
      split at read
      · rename_i comment
        cases read
        rw [if_pos comment, List.dropWhile_append]
        cases ended : pieces.dropWhile (· ≠ .plain '\n') with
        | nil => exact .inr ⟨(Bool.and_eq_true_iff.mp comment).1, rfl, rfl⟩
        | cons last left => exact .inl rfl
      · rename_i special
        rw [if_neg special]
        exact .inl (ofSpecial_local flags c more read)

end Operation

end Descent
