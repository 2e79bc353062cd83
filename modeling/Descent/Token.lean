/-! Tokens: a piece of text, its category, and the place where it begins. -/

set_option autoImplicit false

namespace Descent

structure Token where
  lexeme : String
  kind : String
  line : Int
  column : Int
  deriving DecidableEq, Repr

/-- Line breaks inside the lexeme are spelled out, so that a token fills one line. -/
def Token.display (token : Token) : String :=
  let lexeme := token.lexeme.toList.flatMap fun c => if c = '\n' then ['\\', 'n'] else [c]
  token.kind ++ ":'" ++ String.ofList lexeme ++ "' " ++
    toString token.line ++ ":" ++ toString token.column

end Descent
