import Descent.Pattern.Pieces

/-! Reading written patterns.

The reader keeps the groups that are open around its place, the innermost at
hand. It takes one item at a time: a character, a set, an escape, a bar, a
repetition of the item before, or an opening or closing bracket.
-/

set_option autoImplicit false

namespace Descent

/-- What an item is when it comes to repeating it. -/
inductive Role where
  | place
  | repetition
  | other
  deriving DecidableEq, Repr

structure Item where
  pattern : Pattern
  role : Role
  deriving DecidableEq, Repr

/-- What an open bracket began. A look keeps the group mark of the look behind
around it, if there is one. -/
inductive Bracket where
  | text
  | capturing (index : Nat)
  | plain
  | atomic
  | look (behind negated : Bool) (mark : Option Nat)
  | conditional (index : Nat)
  deriving DecidableEq, Repr

/-- An open group: its finished alternatives and the items of the current one,
the latest first. -/
structure Level where
  bracket : Bracket
  flags : Flags
  finished : List Pattern
  items : List Item
  deriving DecidableEq, Repr

namespace Level

def begin (bracket : Bracket) (flags : Flags) : Level := ⟨bracket, flags, [], []⟩

def alternative (level : Level) : Pattern :=
  Pattern.ofList (level.items.reverse.map Item.pattern)

def body (level : Level) : Pattern :=
  match level.finished.reverse with
  | [] => level.alternative
  | first :: rest => Pattern.alternatives first (rest ++ [level.alternative])

def add (level : Level) (pattern : Pattern) (role : Role) : Level :=
  { level with items := ⟨pattern, role⟩ :: level.items }

def bar (level : Level) : Level :=
  { level with finished := level.alternative :: level.finished, items := [] }

/-- The last item, repeated. A place or a repetition cannot be repeated. -/
def repeatLast (level : Level) (repetition : Pattern → Pattern) : Except PatternError Level :=
  match level.items with
  | [] => .error .nothingToRepeat
  | ⟨_, .place⟩ :: _ => .error .nothingToRepeat
  | ⟨_, .repetition⟩ :: _ => .error .multipleRepeat
  | ⟨pattern, .other⟩ :: rest =>
    .ok { level with items := ⟨repetition pattern, .repetition⟩ :: rest }

end Level

/-- `next` is the number of the next group, `widths` knows the groups that are
closed. Inside a look behind, `mark` is the number of the first group in it. A
group up to number `promised` is to be there in the end. -/
structure Reader where
  level : Level
  outer : List Level
  next : Nat
  names : List (String × Nat)
  widths : List (Nat × Width)
  mark : Option Nat
  promised : Nat

structure NamedPattern where
  pattern : Pattern
  names : List (String × Nat)
  deriving Repr

namespace Reader

def initial : Reader := ⟨.begin .text Flags.cleared, [], 1, [], [], none, 0⟩

def add (reader : Reader) (pattern : Pattern) (role : Role) : Reader :=
  { reader with level := reader.level.add pattern role }

def addTest (reader : Reader) (test : CharTest) : Reader := reader.add (.one test) .other

def addLiteral (reader : Reader) (code : Nat) : Reader :=
  reader.addTest (.literal reader.level.flags.rules code)

def addAnchor (reader : Reader) (anchor : Anchor) : Reader := reader.add (.anchor anchor) .place

def enter (reader : Reader) (bracket : Bracket) (flags : Flags) : Reader :=
  { reader with level := .begin bracket flags, outer := reader.level :: reader.outer }

/-- Open a group that captures. A name can be given once. -/
def openCapturing (reader : Reader) (name : Option String) : Except PatternError Reader :=
  let opened := { reader.enter (.capturing reader.next) reader.level.flags with
    next := reader.next + 1 }
  match name with
  | none => .ok opened
  | some name =>
    if (reader.names.lookup name).isSome then .error .nameTaken
    else .ok { opened with names := reader.names ++ [(name, reader.next)] }

def openLook (reader : Reader) (behind negated : Bool) : Reader :=
  let opened := reader.enter (.look behind negated reader.mark) reader.level.flags
  if behind then { opened with mark := some (reader.mark.getD reader.next) } else opened

def widthOf (reader : Reader) (index : Nat) : Width :=
  (reader.widths.lookup index).getD (.exactly 0)

/-- A reference goes to a group that is closed, and not to one that the look
behind around it holds. -/
def refer (reader : Reader) (index : Nat) : Except PatternError Reader :=
  if reader.next ≤ index then .error .unknownGroup
  else if (reader.widths.lookup index).isNone then .error .openGroup
  else if reader.mark.any (· ≤ index) then .error .groupInsideLook
  else .ok (reader.add (.reference index reader.level.flags.rules) .other)

def referName (reader : Reader) (name : String) : Except PatternError Reader :=
  match reader.names.lookup name with
  | some index => reader.refer index
  | none => .error .unknownGroup

/-- Begin a part that depends on a group, which may be open. A look behind asks for more:
the group has to be closed in front of it. -/
def depend (reader : Reader) (index : Nat) : Except PatternError Reader :=
  if reader.mark.isSome && (reader.widths.lookup index).isNone then .error .openGroup
  else if reader.mark.any (· ≤ index) then .error .groupInsideLook
  else .ok (reader.enter (.conditional index) reader.level.flags)

/-- A group that is called by its number may come later. -/
def openConditional (reader : Reader) (group : Pieces.GroupRef) : Except PatternError Reader :=
  match group with
  | .number index =>
    if index = 0 then .error .unknownGroup
    else { reader with promised := max reader.promised index }.depend index
  | .name name =>
    match reader.names.lookup name with
    | some index => reader.depend index
    | none => .error .unknownGroup

/-- Close the innermost group. What is looked for behind a place must have one width. -/
def close (reader : Reader) : Except PatternError Reader :=
  match reader.outer with
  | [] => .error .unbalanced
  | level :: outer =>
    let body := reader.level.body
    let width := body.width reader.widthOf
    let closed := { reader with level := level, outer := outer }
    match reader.level.bracket with
    | .text => .error .unbalanced
    | .plain => .ok (closed.add body .other)
    | .atomic => .ok (closed.add (.atomic body) .other)
    | .capturing index =>
      .ok ({ closed with widths := (index, width) :: closed.widths }.add
        (.group index body) .other)
    | .look behind negated mark =>
      let restored := { closed with mark := mark }
      if behind then
        match width.fixed? with
        | some back => .ok (restored.add (.look (some back) negated body) .other)
        | none => .error .variableWidthLook
      else .ok (restored.add (.look none negated body) .other)
    | .conditional index =>
      match reader.level.finished with
      | [] => .ok (closed.add (.conditional index reader.level.alternative .empty) .other)
      | [yes] => .ok (closed.add (.conditional index yes reader.level.alternative) .other)
      | _ => .error .extraAlternative

/-- A question mark behind a count makes it lazy, a plus sign makes it atomic. -/
def quantify (reader : Reader) (count : Pieces.Count) (rest : List Piece) :
    Except PatternError (Reader × List Piece) := do
  let repetition := fun (lazy : Bool) (pattern : Pattern) =>
    Pattern.repeated pattern count.least count.most lazy
  let (repetition, rest) := match rest with
    | .plain '?' :: rest => (repetition true, rest)
    | .plain '+' :: rest => (fun pattern => .atomic (repetition false pattern), rest)
    | rest => (repetition false, rest)
  let level ← reader.level.repeatLast repetition
  return ({ reader with level := level }, rest)

def escape [CharNames] (reader : Reader) (c : Char) (rest : List Piece) :
    Except PatternError (Reader × List Piece) := do
  match Pieces.anchor? reader.level.flags.rules.ascii c, Pieces.category? c with
  | some anchor, _ => return (reader.addAnchor anchor, rest)
  | none, some item =>
    return (reader.addTest (.set false reader.level.flags.rules [item]), rest)
  | none, none =>
    if c = '0' then
      let (code, rest) ← Pieces.octalCode c rest
      return (reader.addLiteral code, rest)
    else if Pieces.isDecimal c then
      match ← Pieces.digitEscape c rest with
      | (.character code, rest) => return (reader.addLiteral code, rest)
      | (.group index, rest) => return (← reader.refer index, rest)
    else
      let (code, rest) ← Pieces.sharedEscape c rest
      return (reader.addLiteral code, rest)

def extension (reader : Reader) (pieces : List Piece) :
    Except PatternError (Reader × List Piece) := do
  let flags := reader.level.flags
  match pieces with
  | .plain 'P' :: .plain '<' :: rest =>
    let (name, rest) ← Pieces.groupName '>' rest
    return (← reader.openCapturing (some name), rest)
  | .plain 'P' :: .plain '=' :: rest =>
    let (name, rest) ← Pieces.groupName ')' rest
    return (← reader.referName name, rest)
  | .plain ':' :: rest => return (reader.enter .plain flags, rest)
  | .plain '#' :: rest =>
    match Pieces.until? ')' rest with
    | some (_, rest) => return (reader, rest)
    | none => throw .unbalanced
  | .plain '=' :: rest => return (reader.openLook false false, rest)
  | .plain '!' :: rest => return (reader.openLook false true, rest)
  | .plain '<' :: .plain '=' :: rest => return (reader.openLook true false, rest)
  | .plain '<' :: .plain '!' :: rest => return (reader.openLook true true, rest)
  | .plain '>' :: rest => return (reader.enter .atomic flags, rest)
  | .plain '(' :: rest =>
    let (group, rest) ← Pieces.condition rest
    return (← reader.openConditional group, rest)
  | .plain letter :: _ =>
    if letter = 'P' ∨ letter = '<' then throw .badExtension
    else
      let (flags, rest) ← Pieces.groupFlags flags pieces
      return (reader.enter .plain flags, rest)
  | _ => throw .badExtension

def special [CharNames] (reader : Reader) (c : Char) (rest : List Piece) :
    Except PatternError (Reader × List Piece) := do
  let flags := reader.level.flags
  match c with
  | '|' => return ({ reader with level := reader.level.bar }, rest)
  | ')' => return (← reader.close, rest)
  | '(' =>
    match rest with
    | .plain '?' :: rest => reader.extension rest
    | _ => return (← reader.openCapturing none, rest)
  | '[' =>
    let (test, rest) ← Pieces.characterSet flags.rules rest
    return (reader.addTest test, rest)
  | '*' => reader.quantify ⟨0, none⟩ rest
  | '+' => reader.quantify ⟨1, none⟩ rest
  | '?' => reader.quantify ⟨0, some 1⟩ rest
  | '\x7b' =>
    match Pieces.braceCount? rest with
    | some (count, rest) => reader.quantify (← count) rest
    | none => return (reader.addLiteral c.toNat, rest)
  | '.' => return (reader.addTest (.any flags.dotAll), rest)
  | '^' => return (reader.addAnchor (if flags.multiline then .lineStart else .textStart), rest)
  | '$' => return (reader.addAnchor (if flags.multiline then .lineEnd else .lastLineEnd), rest)
  | c => return (reader.addLiteral c.toNat, rest)

/-- Read one item. Verbose patterns may hold blanks, and comments up to a line end. -/
def item [CharNames] (reader : Reader) (piece : Piece) (rest : List Piece) :
    Except PatternError (Reader × List Piece) :=
  match piece with
  | .escaped c => reader.escape c rest
  | .plain c =>
    if reader.level.flags.verbose && Text.isBlank c then .ok (reader, rest)
    else if reader.level.flags.verbose && c == '#' then
      .ok (reader, (rest.dropWhile (· ≠ .plain '\n')).drop 1)
    else reader.special c rest

/-- Read items to the end. Each takes a piece at least, so `limit` is enough when
it is the number of pieces. -/
def items [CharNames] : (limit : Nat) → Reader → List Piece → Except PatternError Reader
  | _, reader, [] => .ok reader
  | 0, _, _ => .error .unbalanced
  | limit + 1, reader, piece :: rest => do
    let (reader, rest) ← reader.item piece rest
    items limit reader rest

def finish (reader : Reader) : Except PatternError NamedPattern :=
  match reader.outer with
  | [] =>
    if reader.promised < reader.next then .ok ⟨reader.level.body, reader.names⟩
    else .error .unknownGroup
  | _ => .error .unbalanced

end Reader

namespace NamedPattern

def ofString [CharNames] (text : String) : Except PatternError NamedPattern := do
  let pieces ← Piece.ofChars text.toList
  (← Reader.items pieces.length .initial pieces).finish

def nameOf? (named : NamedPattern) (index : Nat) : Option String :=
  (named.names.find? fun entry => entry.2 == index).map Prod.fst

end NamedPattern

end Descent
