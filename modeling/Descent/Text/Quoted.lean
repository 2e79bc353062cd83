import Descent.Text.Printable

/-! Text in quotes, as messages show it.

Single quotes are the rule. Double quotes take their place around a text that
holds single quotes and no double ones, so that few characters need an escape.
-/

set_option autoImplicit false

namespace Descent.Text

def hexadecimal (width n : Nat) : List Char :=
  let digits := Nat.toDigits 16 n
  List.replicate (width - digits.length) '0' ++ digits

/-- The shortest of the three numeric escapes that can hold the code point. -/
def codeEscape (c : Char) : List Char :=
  let (letter, width) :=
    if c.toNat < 0x100 then ('x', 2)
    else if c.toNat < 0x10000 then ('u', 4)
    else ('U', 8)
  '\\' :: letter :: hexadecimal width c.toNat

def quotedChar (quote c : Char) : List Char :=
  if c = quote ∨ c = '\\' then ['\\', c]
  else if c = '\n' then ['\\', 'n']
  else if c = '\r' then ['\\', 'r']
  else if c = '\t' then ['\\', 't']
  else if isPrintable c then [c]
  else codeEscape c

def quoteFor (text : List Char) : Char :=
  if text.contains '\'' && !text.contains '"' then '"' else '\''

def quoted (text : String) : String :=
  let quote := quoteFor text.toList
  String.ofList (quote :: text.toList.flatMap (quotedChar quote) ++ [quote])

def bracketed (items : List String) : String :=
  "[" ++ ", ".intercalate items ++ "]"

/-- Spaces fill the text up to the width. A longer text stays whole. -/
def padRight (width : Nat) (text : String) : String :=
  text ++ String.ofList (List.replicate (width - text.length) ' ')

end Descent.Text
