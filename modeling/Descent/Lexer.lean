import Descent.Pattern.Matching
import Descent.Pattern.Reader
import Descent.Text.Quoted
import Descent.Token

/-! Lexers: text cut into tokens by an ordered list of kinds with their patterns.

The patterns are alternatives of one pattern in which each is a group named by
its kind, so the first that matches wins. Each lexeme begins where the one before
it ended. Tokens of skipped kinds are left out at the end.
-/

set_option autoImplicit false

namespace Descent

inductive LexerError where
  | noPatterns
  | badKind (kind : String)
  | repeatedKind (kind : String)
  | badPattern (cause : PatternError)
  deriving DecidableEq, Repr

/-- What is wrong with a pattern is not put into words. -/
def LexerError.message? : LexerError → Option String
  | noPatterns => some "A lexer needs at least one pattern"
  | badKind kind => some ("Token kind " ++ Text.quoted kind ++ " must be a valid identifier")
  | repeatedKind kind => some ("Token kind " ++ Text.quoted kind ++ " appears more than once")
  | badPattern _ => none

/-- A place in a text, counted from line one and column one. -/
structure Place where
  line : Nat
  column : Nat
  deriving DecidableEq, Repr

namespace Place

def start : Place := ⟨1, 1⟩

def next (place : Place) (c : Char) : Place :=
  if c = '\n' then ⟨place.line + 1, 1⟩ else ⟨place.line, place.column + 1⟩

def after (place : Place) (text : List Char) : Place := text.foldl next place

def display (place : Place) : String := toString place.line ++ ":" ++ toString place.column

end Place

/-- Why a text cannot be cut into tokens. -/
inductive TokenError where
  | unexpected (c : Char) (place : Place)
  | emptyLexeme (kind : String) (place : Place)
  | noKind
  deriving DecidableEq, Repr

namespace TokenError

def place? : TokenError → Option Place
  | unexpected _ place | emptyLexeme _ place => some place
  | noKind => none

/-- A match without a kind has no place, and no text. -/
def message? : TokenError → Option String
  | unexpected c place =>
    some (place.display ++ ": Unexpected character " ++ Text.quoted (String.singleton c))
  | emptyLexeme kind place => some (place.display ++ ": Pattern " ++ kind ++ " matched no input")
  | noKind => none

end TokenError

/-- The end of a match and the kind under which it was found. -/
structure Find where
  kind : Option String
  stop : Nat
  deriving DecidableEq, Repr

structure Lexer where
  patterns : List (String × String)
  skip : List String
  combined : NamedPattern

namespace Lexer

/-- Kinds are identifiers, and no two are the same. -/
def checkKinds : (seen : List String) → List String → Except LexerError Unit
  | _, [] => .ok ()
  | seen, kind :: rest =>
    if !Text.isIdentifier kind then .error (.badKind kind)
    else if seen.contains kind then .error (.repeatedKind kind)
    else checkKinds (seen ++ [kind]) rest

def combine (patterns : List (String × String)) : String :=
  "|".intercalate (patterns.map fun entry => "(?P<" ++ entry.1 ++ ">" ++ entry.2 ++ ")")

def create [CharNames] (patterns : List (String × String)) (skip : List String) : Except LexerError Lexer :=
  if patterns.isEmpty then .error .noPatterns
  else do
    checkKinds [] (patterns.map Prod.fst)
    match NamedPattern.ofString (combine patterns) with
    | .ok combined => return ⟨patterns, skip, combined⟩
    | .error cause => throw (.badPattern cause)

def skipped (lexer : Lexer) : List String :=
  lexer.skip.eraseDups.mergeSort fun a b => decide (a ≤ b)

/-- The group that was closed last names the kind. -/
def findAt (lexer : Lexer) (source : Array Char) (position : Nat) : Option Find :=
  (lexer.combined.pattern.matchAt source position).map fun progress =>
    ⟨progress.captures.head?.bind fun capture => lexer.combined.nameOf? capture.group,
      progress.position⟩

/-- Cut a text from a position on, with the means to find the next lexeme. -/
def cut (find : Nat → Option Find) (source : Array Char) (position : Nat) (place : Place) :
    Except TokenError (List Token) :=
  if inside : position < source.size then
    match find position with
    | none => .error (.unexpected source[position] place)
    | some ⟨none, _⟩ => .error .noKind
    | some ⟨some kind, stop⟩ =>
      if empty : stop ≤ position then .error (.emptyLexeme kind place)
      else do
        let lexeme := (source.extract position stop).toList
        let token : Token := ⟨String.ofList lexeme, kind, place.line, place.column⟩
        return token :: (← cut find source stop (place.after lexeme))
  else .ok []
termination_by source.size - position
decreasing_by omega

def scan (lexer : Lexer) (text : String) : Except TokenError (List Token) :=
  let source := text.toList.toArray
  cut (lexer.findAt source) source 0 .start

def tokenize (lexer : Lexer) (text : String) : Except TokenError (List Token) :=
  (lexer.scan text).map fun tokens => tokens.filter fun token => !lexer.skip.contains token.kind

end Lexer

end Descent
