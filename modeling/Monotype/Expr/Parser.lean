import Monotype.Expr.Lexer
import Monotype.Expr.Printer

namespace Monotype

inductive SpannedExpr where
  | var (span : Span) (name : String)
  | app (span : Span) (function argument : SpannedExpr)
  | abs (span : Span) (parameter : String) (body : SpannedExpr)
  deriving DecidableEq

namespace SpannedExpr

def span : SpannedExpr → Span
  | var s _ => s
  | app s _ _ => s
  | abs s _ _ => s

def erase : SpannedExpr → Expr
  | var _ x => .var x
  | app _ f a => .app f.erase a.erase
  | abs _ x b => .abs x b.erase

def nodes : SpannedExpr → List SpannedExpr
  | var s x => [var s x]
  | app s f a => app s f a :: (f.nodes ++ a.nodes)
  | abs s x b => abs s x b :: b.nodes

end SpannedExpr

namespace Parser

abbrev Row := Option (Position × SpannedExpr)

def Row.add (row : Row) (start stop : Position) (e : SpannedExpr) : Row :=
  match row with
  | none => some (start, e)
  | some (s, f) => some (s, .app ⟨s, stop⟩ f e)

inductive Frame where
  | group (outer : Row) (start : Position)
  | body (outer : Row) (start : Position) (parameters : List String)
  deriving DecidableEq

/-- Parameters are kept with the last one first. -/
inductive State where
  | expression (frames : List Frame) (row : Row) (last : Position)
  | parameters (frames : List Frame) (outer : Row) (start : Position) (names : List String)
  deriving DecidableEq

def State.initial : State :=
  .expression [] none .origin

def State.depth : State → Nat
  | expression frames _ _ => frames.length
  | parameters frames _ _ _ => frames.length

def curry (span : Span) (names : List String) (body : SpannedExpr) : SpannedExpr :=
  names.foldl (fun e x => .abs span x e) body

/-- A body reaches as far right as it can, so all bodies above the innermost group end together. -/
def closeBodies (last : Position) : List Frame → Position → SpannedExpr → List Frame × Position × SpannedExpr
  | .body outer start names :: frames, _, e =>
      let e := curry ⟨start, last⟩ names e
      match outer with
      | none => closeBodies last frames start e
      | some (s, f) => closeBodies last frames s (.app ⟨s, last⟩ f e)
  | frames, start, e => (frames, start, e)

def wantedAfter : List Frame → Wanted
  | [] => .endOfInput
  | .group _ _ :: _ => .token .rightParen
  | .body _ _ _ :: frames => wantedAfter frames

def step (s : State) (t : Token) : Except Lexer.Fault State :=
  match s with
  | .expression frames row last =>
      match t.kind with
      | .name => .ok (.expression frames (row.add t.span.start t.span.stop (.var t.span t.text)) t.span.stop)
      | .function => .ok (.parameters frames row t.span.start [])
      | .leftParen => .ok (.expression (.group row t.span.start :: frames) none t.span.stop)
      | .rightParen =>
          match row with
          | none => .error (t.span.start, .expected .expression t.kind)
          | some (start, e) =>
              match closeBodies last frames start e with
              | (.group outer opened :: frames, _, e) =>
                  .ok (.expression frames (outer.add opened t.span.stop e) t.span.stop)
              | (_, _, _) => .error (t.span.start, .expected .endOfInput t.kind)
      | .arrow =>
          match row with
          | none => .error (t.span.start, .expected .expression t.kind)
          | some _ => .error (t.span.start, .expected (wantedAfter frames) t.kind)
  | .parameters frames outer start names =>
      match t.kind, names with
      | .name, _ => .ok (.parameters frames outer start (t.text :: names))
      | .arrow, _ :: _ => .ok (.expression (.body outer start names :: frames) none t.span.stop)
      | kind, [] => .error (t.span.start, .expected (.token .name) kind)
      | kind, _ :: _ => .error (t.span.start, .expected (.token .arrow) kind)

def finish (stop : Position) : State → Except Lexer.Fault SpannedExpr
  | .expression frames (some (start, e)) last =>
      match closeBodies last frames start e with
      | ([], _, e) => .ok e
      | _ => .error (stop, .unexpectedEnd)
  | _ => .error (stop, .unexpectedEnd)

def parseTokens (ts : Lexer.Tokens) : Except Lexer.Fault SpannedExpr := do
  finish ts.stop (← ts.tokens.foldlM step State.initial)

/-- The most groups and bodies that are open at once while the tokens are read, up to the first fault. -/
def deepest (s : State) : List Token → Nat
  | [] => s.depth
  | t :: ts =>
      match step s t with
      | .ok s' => max s.depth (deepest s' ts)
      | .error _ => s.depth

end Parser

def SpannedExpr.parse (file source : String) : Except SyntaxError SpannedExpr := do
  let tokens ← Lexer.tokenize file source
  (Parser.parseTokens tokens).mapError fun (p, fault) => ⟨file, p, fault⟩

def Expr.parse (file source : String) : Except SyntaxError Expr :=
  (SpannedExpr.parse file source).map SpannedExpr.erase

end Monotype
