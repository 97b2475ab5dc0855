namespace Monotype

structure Position where
  line : Nat
  column : Nat
  deriving DecidableEq, Inhabited

namespace Position

def origin : Position := ⟨1, 1⟩

/-- Only a line feed ends a line. -/
def next (p : Position) (c : Char) : Position :=
  if c = '\n' then ⟨p.line + 1, 1⟩ else ⟨p.line, p.column + 1⟩

def after (p : Position) (cs : List Char) : Position :=
  cs.foldl next p

end Position

structure Span where
  start : Position
  stop : Position
  deriving DecidableEq, Inhabited

def Span.render (s : Span) : String :=
  s!"{s.start.line}:{s.start.column}..{s.stop.line}:{s.stop.column}"

inductive Token.Kind where
  | name
  | function
  | arrow
  | leftParen
  | rightParen
  deriving DecidableEq, Inhabited

def Token.Kind.describe : Token.Kind → String
  | name => "identifier"
  | function => "'fun'"
  | arrow => "'=>'"
  | leftParen => "'('"
  | rightParen => "')'"

structure Token where
  kind : Token.Kind
  text : String
  span : Span
  deriving DecidableEq, Inhabited

inductive Wanted where
  | token (kind : Token.Kind)
  | expression
  | endOfInput
  deriving DecidableEq, Inhabited

def Wanted.describe : Wanted → String
  | token kind => kind.describe
  | expression => "expression"
  | endOfInput => "EOF"

inductive SyntaxFault where
  | unexpectedChar (c : Char)
  | unexpectedEnd
  | expected (wanted : Wanted) (got : Token.Kind)
  deriving DecidableEq, Inhabited

def SyntaxFault.detail : SyntaxFault → String
  | unexpectedChar c => "Unexpected character '" ++ c.toString ++ "'"
  | unexpectedEnd => "Unexpected EOF"
  | expected wanted got => "Expected " ++ wanted.describe ++ ", got " ++ got.describe

structure SyntaxError where
  file : String
  position : Position
  fault : SyntaxFault
  deriving DecidableEq, Inhabited

def SyntaxError.message (e : SyntaxError) : String :=
  s!"{e.file}:{e.position.line}:{e.position.column}: SyntaxError: " ++ e.fault.detail

end Monotype
