import Descent.Pattern.Basic
import Descent.Text.CharNames
import Descent.Text.Identifier

/-! The pieces of written patterns that stand for themselves: escapes, character
sets, names, repeat counts and flags.

Reading goes over pieces, each one character or a backslash with the character
behind it. Readers of several pieces return what they read and the rest.
-/

set_option autoImplicit false

namespace Descent

inductive PatternError where
  | trailingBackslash
  | badEscape
  | unterminatedSet
  | badRange
  | nothingToRepeat
  | multipleRepeat
  | badCount
  | badExtension
  | badFlags
  | badGroupName
  | nameTaken
  | unknownGroup
  | openGroup
  | groupInsideLook
  | variableWidthLook
  | extraAlternative
  | unbalanced
  deriving DecidableEq, Repr

/-- One character as it is, or one behind a backslash. -/
inductive Piece where
  | plain (c : Char)
  | escaped (c : Char)
  deriving DecidableEq, Repr

namespace Piece

def ofChars : List Char → Except PatternError (List Piece)
  | [] => .ok []
  | ['\\'] => .error .trailingBackslash
  | '\\' :: c :: rest => do return escaped c :: (← ofChars rest)
  | c :: rest => do return plain c :: (← ofChars rest)

def plain? : Piece → Option Char
  | plain c => some c
  | escaped _ => none

end Piece

/-- Flags in force; they hold inside the group that sets them. -/
structure Flags where
  rules : Rules
  multiline : Bool
  dotAll : Bool
  verbose : Bool
  deriving DecidableEq, Repr

namespace Flags

def cleared : Flags := ⟨⟨false, false⟩, false, false, false⟩

def set? (flags : Flags) (letter : Char) (value : Bool) : Option Flags :=
  match letter with
  | 'i' => some { flags with rules.ignoreCase := value }
  | 'm' => some { flags with multiline := value }
  | 's' => some { flags with dotAll := value }
  | 'x' => some { flags with verbose := value }
  | _ => none

/-- The letters `a` and `u` choose a character set, and can only be raised. -/
def raiseOne (flags : Flags) (letter : Char) : Option Flags :=
  match letter with
  | 'a' => some { flags with rules.ascii := true }
  | 'u' => some { flags with rules.ascii := false }
  | letter => flags.set? letter true

def raise (flags : Flags) (letters : List Char) : Option Flags :=
  if letters.contains 'a' && letters.contains 'u' then none
  else letters.foldlM raiseOne flags

def lower (flags : Flags) (letters : List Char) : Option Flags :=
  letters.foldlM (fun flags letter => flags.set? letter false) flags

end Flags

namespace Pieces

def isOctal (c : Char) : Bool := '0' ≤ c && c ≤ '7'

def isDecimal (c : Char) : Bool := '0' ≤ c && c ≤ '9'

def isLetter (c : Char) : Bool := 'a' ≤ c && c ≤ 'z' || 'A' ≤ c && c ≤ 'Z'

def hexValue? (c : Char) : Option Nat :=
  if isDecimal c then some (c.toNat - '0'.toNat)
  else if 'a' ≤ c && c ≤ 'f' then some (c.toNat - 'a'.toNat + 10)
  else if 'A' ≤ c && c ≤ 'F' then some (c.toNat - 'A'.toNat + 10)
  else none

def number (base : Nat) (digits : List Char) : Nat :=
  digits.foldl (fun total digit => total * base + (hexValue? digit).getD 0) 0

def takePlain (test : Char → Bool) : (limit : Nat) → List Piece → List Char × List Piece
  | limit + 1, .plain c :: rest =>
    if test c then
      let (taken, left) := takePlain test limit rest
      (c :: taken, left)
    else ([], .plain c :: rest)
  | _, pieces => ([], pieces)

/-- What is in front of a terminator, which is read too. -/
def until? (terminator : Char) : List Piece → Option (List Piece × List Piece)
  | [] => none
  | piece :: rest =>
    if piece = .plain terminator then some ([], rest)
    else do
      let (taken, left) ← until? terminator rest
      return (piece :: taken, left)

def textUntil? (terminator : Char) (pieces : List Piece) : Option (List Char × List Piece) := do
  let (taken, rest) ← until? terminator pieces
  return (← taken.mapM Piece.plain?, rest)

def control? : Char → Option Nat
  | 'a' => some 7
  | 'f' => some 12
  | 'n' => some 10
  | 'r' => some 13
  | 't' => some 9
  | 'v' => some 11
  | '\\' => some 92
  | _ => none

def category? : Char → Option ClassItem
  | 'd' => some (.category .digit false)
  | 'D' => some (.category .digit true)
  | 's' => some (.category .space false)
  | 'S' => some (.category .space true)
  | 'w' => some (.category .word false)
  | 'W' => some (.category .word true)
  | _ => none

def anchor? (ascii : Bool) : Char → Option Anchor
  | 'A' => some .textStart
  | 'Z' => some .textEnd
  | 'b' => some (.wordBoundary ascii)
  | 'B' => some (.noWordBoundary ascii)
  | _ => none

/-- A code point in exactly `width` hexadecimal digits. -/
def hexCode (width : Nat) (pieces : List Piece) : Except PatternError (Nat × List Piece) :=
  let (digits, rest) := takePlain (fun c => (hexValue? c).isSome) width pieces
  let code := number 16 digits
  if digits.length = width ∧ code < 0x110000 then .ok (code, rest) else .error .badEscape

/-- A code point in octal digits, of which `first` is read already. -/
def octalCode (first : Char) (pieces : List Piece) : Except PatternError (Nat × List Piece) :=
  let (digits, rest) := takePlain isOctal 2 pieces
  let code := number 8 (first :: digits)
  if code ≤ 0xff then .ok (code, rest) else .error .badEscape

/-- The character of a name. No character has an empty name. -/
def codeOfName [CharNames] (name : List Char) : Except PatternError Nat :=
  match CharNames.code? (String.ofList name) with
  | some code => if name.isEmpty then .error .badEscape else .ok code
  | none => .error .badEscape

/-- A character by its name, which stands in braces. -/
def namedCode [CharNames] (pieces : List Piece) : Except PatternError (Nat × List Piece) :=
  match pieces with
  | .plain '\x7b' :: rest =>
    match textUntil? '\x7d' rest with
    | none => .error .badEscape
    | some (name, rest) => return (← codeOfName name, rest)
  | _ => .error .badEscape

/-- Escapes that mean one character both inside and outside of sets. -/
def sharedEscape [CharNames] (c : Char) (rest : List Piece) : Except PatternError (Nat × List Piece) :=
  match control? c with
  | some code => .ok (code, rest)
  | none =>
    match c with
    | 'x' => hexCode 2 rest
    | 'u' => hexCode 4 rest
    | 'U' => hexCode 8 rest
    | 'N' => namedCode rest
    | c => if isLetter c || isDecimal c then .error .badEscape else .ok (c.toNat, rest)

/-- A digit other than zero begins the number of a group, of one or two digits,
unless three octal digits spell a character. -/
inductive DigitEscape where
  | character (code : Nat)
  | group (index : Nat)

def digitEscape (first : Char) (pieces : List Piece) :
    Except PatternError (DigitEscape × List Piece) :=
  match takePlain isDecimal 1 pieces with
  | ([second], rest) =>
    match takePlain isOctal 1 rest with
    | ([third], beyond) =>
      if isOctal first && isOctal second then
        let code := number 8 [first, second, third]
        if code ≤ 0xff then .ok (.character code, beyond) else .error .badEscape
      else .ok (.group (number 10 [first, second]), rest)
    | _ => .ok (.group (number 10 [first, second]), rest)
  | _ => .ok (.group (number 10 [first]), pieces)

/-- A member of a set, or a character that may begin a range. -/
def setEscape [CharNames] (c : Char) (rest : List Piece) :
    Except PatternError (ClassItem × List Piece) := do
  match category? c with
  | some item => return (item, rest)
  | none =>
    let (code, rest) ←
      if c = 'b' then pure (8, rest)
      else if isOctal c then octalCode c rest
      else sharedEscape c rest
    return (.range code code, rest)

def setMember [CharNames] (piece : Piece) (rest : List Piece) :
    Except PatternError (ClassItem × List Piece) :=
  match piece with
  | .plain c => .ok (.range c.toNat c.toNat, rest)
  | .escaped c => setEscape c rest

/-- A range between two characters; a category cannot bound one. -/
def rangeBetween (low high : ClassItem) : Except PatternError ClassItem :=
  match low, high with
  | .range first _, .range last _ =>
    if first ≤ last then .ok (.range first last) else .error .badRange
  | _, _ => .error .badRange

/-- The members of a set up to its closing bracket, which counts as a member in
first place. `limit` bounds the number of members. -/
def setMembers [CharNames] : (limit : Nat) → (first : Bool) → List Piece →
    Except PatternError (List ClassItem × List Piece)
  | 0, _, _ => .error .unterminatedSet
  | _, _, [] => .error .unterminatedSet
  | limit + 1, first, piece :: rest =>
    if piece = .plain ']' ∧ first = false then .ok ([], rest)
    else do
      let (low, rest) ← setMember piece rest
      match rest with
      | .plain '-' :: .plain ']' :: rest => return ([low, .range '-'.toNat '-'.toNat], rest)
      | .plain '-' :: next :: rest =>
        let (high, rest) ← setMember next rest
        let item ← rangeBetween low high
        let (items, rest) ← setMembers limit false rest
        return (item :: items, rest)
      | rest =>
        let (items, rest) ← setMembers limit false rest
        return (low :: items, rest)

def characterSet [CharNames] (rules : Rules) (pieces : List Piece) :
    Except PatternError (CharTest × List Piece) := do
  let (negated, members) := match pieces with
    | .plain '^' :: rest => (true, rest)
    | _ => (false, pieces)
  let (items, rest) ← setMembers members.length true members
  return (.set negated rules items, rest)

def groupName (terminator : Char) (pieces : List Piece) :
    Except PatternError (String × List Piece) :=
  match textUntil? terminator pieces with
  | none => .error .badGroupName
  | some (chars, rest) =>
    let name := String.ofList chars
    if Text.isIdentifier name then .ok (name, rest) else .error .badGroupName

inductive GroupRef where
  | number (index : Nat)
  | name (name : String)

/-- The group of a condition, which stands in brackets. -/
def condition (pieces : List Piece) : Except PatternError (GroupRef × List Piece) :=
  match textUntil? ')' pieces with
  | none => .error .badGroupName
  | some (chars, rest) =>
    if chars.all isDecimal then .ok (.number (number 10 chars), rest)
    else
      let name := String.ofList chars
      if Text.isIdentifier name then .ok (.name name, rest) else .error .badGroupName

structure Count where
  least : Nat
  most : Option Nat
  deriving DecidableEq, Repr

/-- Counts from this number on cannot be written. -/
def countLimit : Nat := 4294967295

/-- A count in braces, after the opening one. What is no count is no error: the
brace stands for itself then. -/
def braceCount? (pieces : List Piece) :
    Option (Except PatternError Count × List Piece) :=
  let (low, rest) := takePlain isDecimal pieces.length pieces
  let (high, rest) := match rest with
    | .plain ',' :: rest => takePlain isDecimal rest.length rest
    | rest => (low, rest)
  match rest with
  | .plain '\x7d' :: left =>
    if rest.length = pieces.length then none
    else
      let least := number 10 low
      let most := if high = [] then none else some (number 10 high)
      let fits := least < countLimit && most.all fun most => least ≤ most && most < countLimit
      some (if fits then .ok ⟨least, most⟩ else .error .badCount, left)
  | _ => none

/-- Flags to raise, then flags to lower after a hyphen, up to a colon. -/
def groupFlags (flags : Flags) (pieces : List Piece) :
    Except PatternError (Flags × List Piece) :=
  match textUntil? ':' pieces with
  | none => .error .badFlags
  | some (letters, rest) =>
    let on := letters.takeWhile (· ≠ '-')
    let off := (letters.dropWhile (· ≠ '-')).drop 1
    let dangling := letters.contains '-' && off.isEmpty
    let both := on.any off.contains
    match flags.raise on with
    | none => .error .badFlags
    | some raised =>
      match raised.lower off with
      | none => .error .badFlags
      | some lowered => if dangling || both then .error .badFlags else .ok (lowered, rest)

end Pieces

end Descent
