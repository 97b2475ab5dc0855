import Monotype.Literal.Number
import Monotype.Text.CharName

namespace Monotype.Literal

open Number (isDigitOf natOfDigits)

inductive TextKind where
  | text
  | bytes
  | formatted
  deriving DecidableEq

def textPrefix? (letters : List Char) : Option (TextKind × Bool) :=
  match letters.map Char.toLower with
  | [] => some (.text, false)
  | ['u'] => some (.text, false)
  | ['r'] => some (.text, true)
  | ['b'] => some (.bytes, false)
  | ['b', 'r'] => some (.bytes, true)
  | ['r', 'b'] => some (.bytes, true)
  | ['f'] => some (.formatted, false)
  | ['f', 'r'] => some (.formatted, true)
  | ['r', 'f'] => some (.formatted, true)
  | _ => none

def quotedBody? (q : Char) (triple : Bool) : List Char → Option (List Char × List Char)
  | '\\' :: c :: cs => do
      let (body, rest) ← quotedBody? q triple cs
      return ('\\' :: c :: body, rest)
  | c :: cs =>
      if c = q ∧ ¬triple then some ([], cs)
      else if c = q ∧ cs.take 2 = [q, q] then some ([], cs.drop 2)
      else if c = '\n' ∧ ¬triple then none
      else do
        let (body, rest) ← quotedBody? q triple cs
        return (c :: body, rest)
  | [] => none

def quotedText? (q : Char) (cs : List Char) : Option (List Char × List Char) :=
  if cs.take 2 = [q, q] then quotedBody? q true (cs.drop 2) else quotedBody? q false cs

/-- A number as a code point, which may be half of a character. -/
def codePoint? (n : Nat) : Option Nat := if n < 0x110000 then some n else none

def hexNumber? (count : Nat) (cs : List Char) : Option (Nat × List Char) :=
  let ds := cs.take count
  if ds.length = count ∧ ds.all (isDigitOf 16) then some (natOfDigits 16 ds, cs.drop count) else none

def shortEscape? (c : Char) : Option Char :=
  match c with
  | '\\' => some '\\'
  | '\'' => some '\''
  | '"' => some '"'
  | 'a' => some '\x07'
  | 'b' => some '\x08'
  | 'f' => some '\x0c'
  | 'n' => some '\n'
  | 'r' => some '\r'
  | 't' => some '\t'
  | 'v' => some '\x0b'
  | _ => none

def named? (cs : List Char) : Option (List Nat × Nat) :=
  match cs with
  | '{' :: cs =>
      let name := cs.takeWhile (· ≠ '}')
      if name.length < cs.length then (Text.charOfName? name).map fun c => ([c.toNat], name.length + 3) else none
  | _ => none

/-- One escape, given the text behind its backslash: the code points it stands for, how many characters it
takes. Unknown escapes stand for themselves. -/
def escape? (kind : TextKind) (c : Char) (cs : List Char) : Option (List Nat × Nat) :=
  let hex (count : Nat) : Option (List Nat × Nat) := do
    let (n, _) ← hexNumber? count cs
    return ([← codePoint? n], count + 1)
  let itself := ['\\'.toNat, c.toNat]
  if c = '\n' then some ([], 1)
  else
    match shortEscape? c with
    | some d => some ([d.toNat], 1)
    | none =>
        if isDigitOf 8 c then
          let ds := c :: (cs.take 2).takeWhile (isDigitOf 8)
          some ([natOfDigits 8 ds], ds.length)
        else if c = 'x' then hex 2
        else if kind = .bytes then some (itself, 1)
        else if c = 'u' then hex 4
        else if c = 'U' then hex 8
        else if c = 'N' then named? cs
        else some (itself, 1)

/-- The code points of a body without its escapes; `skip` characters belong to the escape before. A last backslash
stands for itself. -/
def unescape? (kind : TextKind) (skip : Nat) : List Char → Option (List Nat)
  | [] => some []
  | c :: cs =>
      match skip with
      | skip + 1 => unescape? kind skip cs
      | 0 =>
          if c = '\\' then
            match cs with
            | [] => some ['\\'.toNat]
            | d :: ds => do
                let (codes, taken) ← escape? kind d ds
                return codes ++ (← unescape? kind taken cs)
          else do return c.toNat :: (← unescape? kind 0 cs)

inductive Piece where
  | text (codes : List Nat)
  | bytes (bs : List UInt8)
  | formatted
  deriving DecidableEq

def piece? (kind : TextKind) (raw : Bool) (body : List Char) : Option Piece :=
  let codes := if raw then some (body.map Char.toNat) else unescape? kind 0 body
  match kind with
  | .text => codes.map .text
  | .bytes => if body.all (·.toNat < 128) then codes.map fun ns => .bytes (ns.map UInt8.ofNat) else none
  | .formatted => some .formatted

def Piece.append? : Piece → Piece → Option Piece
  | text s, text t => some (text (s ++ t))
  | bytes s, bytes t => some (bytes (s ++ t))
  | bytes _, _ => none
  | _, bytes _ => none
  | _, _ => some formatted

end Monotype.Literal
