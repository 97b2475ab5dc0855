import Monotype.Expr.Parser
import Monotype.Limits

namespace Monotype

inductive ReadError where
  | fault (e : SyntaxError)
  | tooDeep
  deriving DecidableEq

def ReadError.message : ReadError → String
  | fault e => e.message
  | tooDeep => "expression too deeply nested"

namespace Expr

/-- Read an expression of limited depth. A bad character counts before the depth, and the depth before any other
fault. -/
def read (limits : Limits) (file source : String) : Except ReadError Expr :=
  match Lexer.tokenize file source with
  | .error e => .error (.fault e)
  | .ok ts =>
      if limits.groups < Parser.deepest .initial ts.tokens then .error .tooDeep
      else
        match Parser.parseTokens ts with
        | .error (p, fault) => .error (.fault ⟨file, p, fault⟩)
        | .ok t => if limits.tree < t.erase.nesting then .error .tooDeep else .ok t.erase

end Expr

end Monotype
