import Descent.Pattern.Reader

/-! What an item of a written pattern says, and what the reader does about it.

What an item says depends on the flags in force and on the pieces from it on, and on nothing that was
read before.
-/

set_option autoImplicit false

namespace Descent

theorem bind_eq_ok {ε α β : Type} {first : Except ε α} {next : α → Except ε β} {result : β} :
    (first >>= next) = .ok result ↔ ∃ value, first = .ok value ∧ next value = .ok result := by
  cases first with
  | error error => exact ⟨nofun, nofun⟩
  | ok value =>
    refine ⟨fun bound => ⟨value, rfl, bound⟩, ?_⟩
    rintro ⟨_, same, bound⟩
    cases same
    exact bound

inductive Operation where
  | skip
  | test (test : CharTest)
  | place (anchor : Anchor)
  | bar
  | again (count : Pieces.Count) (lazy atomic : Bool)
  | enter (atomic : Bool) (flags : Flags)
  | capture (name : Option String)
  | look (behind negated : Bool)
  | refer (index : Nat)
  | referName (name : String)
  | conditional (group : Pieces.GroupRef)
  | close

namespace Operation

def repetition (count : Pieces.Count) (lazy atomic : Bool) (pattern : Pattern) : Pattern :=
  let repeated := Pattern.repeated pattern count.least count.most lazy
  if atomic then .atomic repeated else repeated

def apply (reader : Reader) : Operation → Except PatternError Reader
  | skip => .ok reader
  | test asked => .ok (reader.addTest asked)
  | place anchor => .ok (reader.addAnchor anchor)
  | bar => .ok { reader with level := reader.level.bar }
  | again count lazy atomic =>
    (reader.level.repeatLast (repetition count lazy atomic)).map fun level =>
      { reader with level := level }
  | enter atomic flags => .ok (reader.enter (if atomic then .atomic else .plain) flags)
  | capture name => reader.openCapturing name
  | look behind negated => .ok (reader.openLook behind negated)
  | refer index => reader.refer index
  | referName name => reader.referName name
  | conditional group => reader.openConditional group
  | close => reader.close

def literal (flags : Flags) (code : Nat) : Operation := test (.literal flags.rules code)

def quantifier (count : Pieces.Count) : List Piece → Operation × List Piece
  | .plain '?' :: rest => (again count true false, rest)
  | .plain '+' :: rest => (again count false true, rest)
  | rest => (again count false false, rest)

def ofEscape [CharNames] (flags : Flags) (c : Char) (rest : List Piece) :
    Except PatternError (Operation × List Piece) := do
  match Pieces.anchor? flags.rules.ascii c, Pieces.category? c with
  | some anchor, _ => return (place anchor, rest)
  | none, some item => return (test (.set false flags.rules [item]), rest)
  | none, none =>
    if c = '0' then
      let (code, rest) ← Pieces.octalCode c rest
      return (literal flags code, rest)
    else if Pieces.isDecimal c then
      match ← Pieces.digitEscape c rest with
      | (.character code, rest) => return (literal flags code, rest)
      | (.group index, rest) => return (refer index, rest)
    else
      let (code, rest) ← Pieces.sharedEscape c rest
      return (literal flags code, rest)

def ofExtension (flags : Flags) (pieces : List Piece) :
    Except PatternError (Operation × List Piece) := do
  match pieces with
  | .plain 'P' :: .plain '<' :: rest =>
    let (name, rest) ← Pieces.groupName '>' rest
    return (capture (some name), rest)
  | .plain 'P' :: .plain '=' :: rest =>
    let (name, rest) ← Pieces.groupName ')' rest
    return (referName name, rest)
  | .plain ':' :: rest => return (enter false flags, rest)
  | .plain '#' :: rest =>
    match Pieces.until? ')' rest with
    | some (_, rest) => return (skip, rest)
    | none => throw .unbalanced
  | .plain '=' :: rest => return (look false false, rest)
  | .plain '!' :: rest => return (look false true, rest)
  | .plain '<' :: .plain '=' :: rest => return (look true false, rest)
  | .plain '<' :: .plain '!' :: rest => return (look true true, rest)
  | .plain '>' :: rest => return (enter true flags, rest)
  | .plain '(' :: rest =>
    let (group, rest) ← Pieces.condition rest
    return (conditional group, rest)
  | .plain letter :: _ =>
    if letter = 'P' ∨ letter = '<' then throw .badExtension
    else
      let (flags, rest) ← Pieces.groupFlags flags pieces
      return (enter false flags, rest)
  | _ => throw .badExtension

def ofSpecial [CharNames] (flags : Flags) (c : Char) (rest : List Piece) :
    Except PatternError (Operation × List Piece) := do
  match c with
  | '|' => return (bar, rest)
  | ')' => return (close, rest)
  | '(' =>
    match rest with
    | .plain '?' :: rest => ofExtension flags rest
    | _ => return (capture none, rest)
  | '[' =>
    let (set, rest) ← Pieces.characterSet flags.rules rest
    return (test set, rest)
  | '*' => return quantifier ⟨0, none⟩ rest
  | '+' => return quantifier ⟨1, none⟩ rest
  | '?' => return quantifier ⟨0, some 1⟩ rest
  | '\x7b' =>
    match Pieces.braceCount? rest with
    | some (count, rest) => return quantifier (← count) rest
    | none => return (literal flags c.toNat, rest)
  | '.' => return (test (.any flags.dotAll), rest)
  | '^' => return (place (if flags.multiline then .lineStart else .textStart), rest)
  | '$' => return (place (if flags.multiline then .lineEnd else .lastLineEnd), rest)
  | c => return (literal flags c.toNat, rest)

def ofItem [CharNames] (flags : Flags) (piece : Piece) (rest : List Piece) :
    Except PatternError (Operation × List Piece) :=
  match piece with
  | .escaped c => ofEscape flags c rest
  | .plain c =>
    if flags.verbose && Text.isBlank c then .ok (skip, rest)
    else if flags.verbose && c == '#' then
      .ok (skip, (rest.dropWhile (· ≠ .plain '\n')).drop 1)
    else ofSpecial flags c rest

def perform (reader : Reader) (read : Except PatternError (Operation × List Piece)) :
    Except PatternError (Reader × List Piece) := do
  let (operation, rest) ← read
  return (← operation.apply reader, rest)

section Perform

variable (reader : Reader)

theorem quantify_eq (count : Pieces.Count) (rest : List Piece) :
    reader.quantify count rest = perform reader (.ok (quantifier count rest)) := by
  have repeated (lazy atomic : Bool) (rest : List Piece) :
      (do
        let level ← reader.level.repeatLast (repetition count lazy atomic)
        return ({ reader with level := level }, rest)) =
        perform reader (.ok (again count lazy atomic, rest)) := by
    show _ = ((reader.level.repeatLast (repetition count lazy atomic)).map _).bind _
    cases reader.level.repeatLast (repetition count lazy atomic) <;> rfl
  unfold Reader.quantify quantifier
  split
  · exact repeated true false _
  · exact repeated false true _
  · simp only
    exact repeated false false _

theorem escape_eq [CharNames] (c : Char) (rest : List Piece) :
    reader.escape c rest = perform reader (ofEscape reader.level.flags c rest) := by
  unfold Reader.escape ofEscape
  cases Pieces.anchor? reader.level.flags.rules.ascii c with
  | some anchor => rfl
  | none =>
    cases Pieces.category? c with
    | some item => rfl
    | none =>
      by_cases zero : c = '0'
      · simp only [if_pos zero]
        cases Pieces.octalCode c rest <;> rfl
      · by_cases digit : Pieces.isDecimal c
        · simp only [if_neg zero, if_pos digit]
          cases Pieces.digitEscape c rest with
          | error => rfl
          | ok read => obtain ⟨_ | _, _⟩ := read <;> rfl
        · simp only [if_neg zero, if_neg digit]
          cases Pieces.sharedEscape c rest <;> rfl

theorem extension_eq (pieces : List Piece) :
    reader.extension pieces = perform reader (ofExtension reader.level.flags pieces) := by
  unfold Reader.extension ofExtension
  split
  · simp only
    cases Pieces.groupName '>' _ <;> rfl
  · simp only
    cases Pieces.groupName ')' _ <;> rfl
  · rfl
  · simp only
    cases Pieces.until? ')' _ <;> rfl
  · rfl
  · rfl
  · rfl
  · rfl
  · rfl
  · simp only
    cases Pieces.condition _ <;> rfl
  · simp only
    split
    · rfl
    · cases Pieces.groupFlags reader.level.flags _ <;> rfl
  · simp only
    rfl

theorem special_eq [CharNames] (c : Char) (rest : List Piece) :
    reader.special c rest = perform reader (ofSpecial reader.level.flags c rest) := by
  unfold Reader.special ofSpecial
  split
  · rfl
  · rfl
  · simp only
    split
    · exact extension_eq reader _
    · simp only [perform]
      rfl
  · simp only
    cases Pieces.characterSet reader.level.flags.rules rest <;> rfl
  · exact quantify_eq reader _ _
  · exact quantify_eq reader _ _
  · exact quantify_eq reader _ _
  · simp only
    cases Pieces.braceCount? rest with
    | none => rfl
    | some found =>
      obtain ⟨count | count, rest⟩ := found
      · rfl
      · exact quantify_eq reader _ _
  · rfl
  · rfl
  · rfl
  · simp only
    rfl

/-- Reading an item is doing what it says. -/
theorem item_eq [CharNames] (piece : Piece) (rest : List Piece) :
    reader.item piece rest = perform reader (ofItem reader.level.flags piece rest) := by
  unfold Reader.item ofItem
  cases piece with
  | escaped c => exact escape_eq reader c rest
  | plain c =>
    dsimp only
    split
    · rfl
    · split
      · rfl
      · exact special_eq reader c rest

end Perform

end Operation

end Descent
