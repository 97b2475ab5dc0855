import Monotype.Text.Printable

namespace Monotype.Text

def hexDigits (width n : Nat) : List Char :=
  let digits := Nat.toDigits 16 n
  List.replicate (width - digits.length) '0' ++ digits

def escapeChar (q c : Char) : List Char :=
  if c = q ∨ c = '\\' then ['\\', c]
  else if c = '\n' then ['\\', 'n']
  else if c = '\r' then ['\\', 'r']
  else if c = '\t' then ['\\', 't']
  else if isPrintable c then [c]
  else if c.toNat < 0x100 then '\\' :: 'x' :: hexDigits 2 c.toNat
  else if c.toNat < 0x10000 then '\\' :: 'u' :: hexDigits 4 c.toNat
  else '\\' :: 'U' :: hexDigits 8 c.toNat

/-- Single quotes, unless the text holds a single quote and no double quote. -/
def quoteFor (cs : List Char) : Char :=
  if cs.contains '\'' && !cs.contains '"' then '"' else '\''

def quotedChars (cs : List Char) : List Char :=
  let q := quoteFor cs
  q :: cs.flatMap (escapeChar q) ++ [q]

def quoted (s : String) : String :=
  String.ofList (quotedChars s.toList)

def escapeCode (n : Nat) : List Char := '\\' :: 'u' :: hexDigits 4 n

def quotedCodes (ns : List Nat) : String :=
  let q := quoteFor (ns.map Char.ofNat)
  let escape (n : Nat) := if n.isValidChar then escapeChar q (Char.ofNat n) else escapeCode n
  String.ofList (q :: ns.flatMap escape ++ [q])

end Monotype.Text
