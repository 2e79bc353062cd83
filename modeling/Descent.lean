import Descent.Declarations
import Descent.Definition
import Descent.Evaluation
import Descent.Expression
import Descent.Grammar
import Descent.Grammar.Exploration
import Descent.Grammar.Opening
import Descent.Lexer
import Descent.Literal
import Descent.Machine
import Descent.Machine.Measure
import Descent.Machine.Progress
import Descent.Machine.Record
import Descent.Machine.Run
import Descent.Machine.State
import Descent.Parser
import Descent.Pattern.Basic
import Descent.Pattern.Matching
import Descent.Pattern.Pieces
import Descent.Pattern.Reader
import Descent.Rule
import Descent.Terminal
import Descent.Text.CaseFold
import Descent.Text.CharClass
import Descent.Text.CharNames
import Descent.Text.CodePoints
import Descent.Text.Identifier
import Descent.Text.Printable
import Descent.Text.Quoted
import Descent.Token
import Descent.Tree
import Descent.Proofs.Stack.Tower
import Descent.Proofs.Stack.Turn
import Descent.Proofs.Stack.Step
import Descent.Proofs.Stack.Reached
import Descent.Proofs.Stack.Ending
import Descent.Proofs.Failures
import Descent.Proofs.Answers
import Descent.Proofs.Halting
import Descent.Proofs.Brackets
import Descent.Proofs.Tiling
import Descent.Proofs.Language
import Descent.Proofs.Growth
import Descent.Proofs.Acceptance
import Descent.Proofs.Recursion
import Descent.Proofs.Recursion.Slots
import Descent.Proofs.Recursion.Frames
import Descent.Proofs.Recursion.Report
import Descent.Proofs.Recursion.Idle
import Descent.Proofs.Opening.Forms
import Descent.Proofs.Opening.Passes
import Descent.Proofs.Opening.Exact
import Descent.Proofs.Opening.Productions
import Descent.Proofs.Leaves
import Descent.Proofs.Beginnings
import Descent.Proofs.CallStack
import Descent.Proofs.Standstill
import Descent.Proofs.History
import Descent.Proofs.Edits
import Descent.Proofs.Markers
import Descent.Proofs.Predictive
import Descent.Proofs.Predictive.Complete
import Descent.Proofs.Brackets.Balance
import Descent.Proofs.Lexing.Lexemes
import Descent.Proofs.Lookahead
import Descent.Proofs.Lexing.Matches
import Descent.Proofs.Evaluation.Course
import Descent.Proofs.Evaluation.Runs
import Descent.Proofs.Evaluation.Capacity
import Descent.Proofs.Evaluation.Sound
import Descent.Proofs.Exploration.Search
import Descent.Proofs.Exploration.Build
import Descent.Proofs.Exploration.Tables
import Descent.Proofs.Resumption
import Descent.Proofs.Depth
import Descent.Proofs.Bare
import Descent.Proofs.Blind
import Descent.Proofs.Reshaping
import Descent.Proofs.Trials
import Descent.Proofs.Commitment
import Descent.Proofs.Setbacks
import Descent.Proofs.Goals
import Descent.Proofs.Expected
import Descent.Proofs.Replacement
import Descent.Proofs.Order
import Descent.Proofs.Overflow
import Descent.Proofs.Respelling
import Descent.Proofs.Lexing.Places
import Descent.Proofs.Resolution
import Descent.Proofs.Lexing.Skipping
import Descent.Proofs.Evaluation.Groups
import Descent.Proofs.Exploration.Names
import Descent.Proofs.Lexing.Renumbering
import Descent.Proofs.Lexing.Operations
import Descent.Proofs.Lexing.Locality
import Descent.Proofs.Lexing.Nesting
import Descent.Proofs.Lexing.Splicing
import Descent.Proofs.Lexing.Combined
import Descent.Proofs.Lexing.Precedence
import Descent.Proofs.Text
import Descent.Proofs.Outline
