import Monotype.Ty.Basic
import Monotype.Text.Blank
import Monotype.Text.Letter
import Monotype.Text.Quoted

namespace Monotype.Ty

inductive Token.Kind where
  | name
  | leftBracket
  | rightBracket
  | comma
  deriving DecidableEq

structure Token where
  kind : Token.Kind
  text : String
  offset : Nat
  deriving DecidableEq

inductive Wanted where
  | name
  | rightBracket
  | endOfInput
  deriving DecidableEq

def Wanted.describe : Wanted → String
  | name => "IDENT"
  | rightBracket => "]"
  | endOfInput => "EOF"

inductive SyntaxFault where
  | unexpectedChar (c : Char)
  | expected (wanted : Wanted) (offset : Nat) (found : Option String)
  deriving DecidableEq

inductive SyntaxError where
  | blank
  | at (source : String) (fault : SyntaxFault)
  deriving DecidableEq, Inhabited

def SyntaxError.message : SyntaxError → String
  | blank => "type text must be a non-empty string"
  | .at source (.unexpectedChar c) =>
      "Unexpected character " ++ Text.quoted c.toString ++ " in type " ++ Text.quoted source
  | .at source (.expected wanted offset found) =>
      "Expected " ++ wanted.describe ++ " at offset " ++ toString offset ++ " in type " ++ Text.quoted source ++
        ", found " ++ Text.quoted (found.getD "end of input")

def isNameStart (c : Char) : Bool := Text.isLetter c || c == '_'

def isNameChar (c : Char) : Bool := isNameStart c || Text.isNumeral c

def punctuation? (c : Char) : Option Token.Kind :=
  if c = '[' then some .leftBracket
  else if c = ']' then some .rightBracket
  else if c = ',' then some .comma
  else none

def lexFrom (offset : Nat) (cs : List Char) : Except SyntaxFault (List Token) :=
  match cs with
  | [] => .ok []
  | c :: rest =>
      if Text.isBlank c then lexFrom (offset + 1) rest
      else if isNameStart c then do
        let word := c :: rest.takeWhile isNameChar
        let tokens ← lexFrom (offset + word.length) (rest.dropWhile isNameChar)
        return ⟨.name, String.ofList word, offset⟩ :: tokens
      else
        match punctuation? c with
        | none => .error (.unexpectedChar c)
        | some kind => do
            let tokens ← lexFrom (offset + 1) rest
            return ⟨kind, c.toString, offset⟩ :: tokens
termination_by cs.length
decreasing_by
  · simp
  · have h := (List.dropWhile_suffix isNameChar (l := rest)).length_le
    simp only [List.length_cons]
    omega
  · simp

namespace Parser

structure Frame where
  name : String
  args : List Ty
  deriving DecidableEq

/-- A type is wanted; a name was read, whose arguments may follow; a type was read. -/
inductive State where
  | wanting (frames : List Frame)
  | named (frames : List Frame) (name : String)
  | complete (frames : List Frame) (ty : Ty)
  deriving DecidableEq

def unexpected (wanted : Wanted) (t : Token) : Except SyntaxFault State :=
  .error (.expected wanted t.offset (some t.text))

def stepComplete (frames : List Frame) (ty : Ty) (t : Token) : Except SyntaxFault State :=
  match frames with
  | [] => unexpected .endOfInput t
  | ⟨name, args⟩ :: frames =>
      match t.kind with
      | .comma => .ok (.wanting (⟨name, ty :: args⟩ :: frames))
      | .rightBracket => .ok (.complete frames (.con name (ty :: args).reverse))
      | _ => unexpected .rightBracket t

def step (s : State) (t : Token) : Except SyntaxFault State :=
  match s with
  | .wanting frames =>
      match t.kind with
      | .name => .ok (.named frames t.text)
      | _ => unexpected .name t
  | .named frames name =>
      match t.kind with
      | .leftBracket => .ok (.wanting (⟨name, []⟩ :: frames))
      | _ => stepComplete frames (.con name []) t
  | .complete frames ty => stepComplete frames ty t

def finishComplete (stop : Nat) (frames : List Frame) (ty : Ty) : Except SyntaxFault Ty :=
  match frames with
  | [] => .ok ty
  | _ :: _ => .error (.expected .rightBracket stop none)

def finish (stop : Nat) : State → Except SyntaxFault Ty
  | .wanting _ => .error (.expected .name stop none)
  | .named frames name => finishComplete stop frames (.con name [])
  | .complete frames ty => finishComplete stop frames ty

end Parser

def parseChars (cs : List Char) : Except SyntaxFault Ty := do
  let tokens ← lexFrom 0 cs
  Parser.finish cs.length (← tokens.foldlM Parser.step (.wanting []))

/-- Read a text as a type. Texts spell no variables, so the result has none. -/
def parse (source : String) : Except SyntaxError Ty :=
  if source.toList.all Text.isBlank then .error .blank
  else (parseChars source.toList).mapError (.at source)

end Monotype.Ty
