import Monotype.Number.Reader
import Monotype.Text.CharName.Aliases
import Monotype.Text.CharName.Alphabets
import Monotype.Text.CharName.Pictures
import Monotype.Text.CharName.Scripts
import Monotype.Text.CharName.Syllables
import Monotype.Text.CharName.Symbols
import Monotype.Text.Range
import Monotype.Text.Split

namespace Monotype.Text.CharName

def entries (table : String) : List (Char × List Char) :=
  (table.toList.foldr (fun c (body, es) =>
    if c = '\n' then (body, es)
    else if c.isLower || c = '=' then ([], (c, body) :: es)
    else (c :: body, es)) ([], [])).2

/-- The code of the name with the given words, where `code` is the next code and `last` are the words of the last
name. -/
def find? (name : List (List Char)) (code : Nat) (last : List (List Char)) : List (Char × List Char) → Option Nat
  | [] => none
  | (mark, body) :: es =>
      if mark = '=' then find? name (Number.natOfDigits 16 body) last es
      else
        let words := last.take (mark.toNat - 'a'.toNat) ++ (if body.isEmpty then [] else splitOn ' ' body)
        if words = name then some code else find? name (code + 1) words es

def tables : List String := [alphabets, symbols, syllables, scripts, pictures, aliases]

def ideographRanges : List (Nat × Nat) :=
  [(0x3400, 0x4DBF), (0x4E00, 0x9FFF), (0x20000, 0x2A6DF), (0x2A700, 0x2B738), (0x2B740, 0x2B81D), (0x2B820, 0x2CEA1),
   (0x2CEB0, 0x2EBE0), (0x30000, 0x3134A)]

def codedNames : List (String × List (Nat × Nat)) :=
  [("CJK COMPATIBILITY IDEOGRAPH-", [(0xF900, 0xFA6D), (0xFA70, 0xFAD9), (0x2F800, 0x2FA1D)]),
   ("KHITAN SMALL SCRIPT CHARACTER-", [(0x18B00, 0x18CD5)]),
   ("NUSHU CHARACTER-", [(0x1B170, 0x1B2FB)])]

def isHexUpper (c : Char) : Bool := c.isDigit || ('A' ≤ c && c ≤ 'F')

def codeIn? (ranges : List (Nat × Nat)) (digits : List Char) : Option Nat :=
  let n := Number.natOfDigits 16 digits
  if (digits.length = 4 || digits.length = 5) && digits.all isHexUpper && ranges.any (fun r => r.1 ≤ n && n ≤ r.2) then
    some n
  else none

def after? (start : String) (cs : List Char) : Option (List Char) :=
  if start.toList.isPrefixOf cs then some (cs.drop start.length) else none

def ideograph? (name : List Char) : Option Nat :=
  (after? "CJK UNIFIED IDEOGRAPH-" name).bind (codeIn? ideographRanges)

/-- A name that ends in its code, which is written without zeros in front beyond four digits. -/
def coded? (name : List Char) : Option Nat :=
  codedNames.findSome? fun (start, ranges) =>
    match after? start name with
    | some digits => if digits.length = 5 && digits.head? = some '0' then none else codeIn? ranges digits
    | none => none

def initials : List String :=
  ["G", "GG", "N", "D", "DD", "R", "M", "B", "BB", "S", "SS", "", "J", "JJ", "C", "K", "T", "P", "H"]

def vowels : List String :=
  ["A", "AE", "YA", "YAE", "EO", "E", "YEO", "YE", "O", "WA", "WAE", "OE", "YO", "U", "WEO", "WE", "WI", "YU", "EU",
   "YI", "I"]

def finals : List String :=
  ["", "G", "GG", "GS", "N", "NJ", "NH", "D", "L", "LG", "LM", "LB", "LS", "LT", "LP", "LH", "M", "B", "BS", "S", "SS",
   "NG", "J", "C", "K", "T", "P", "H"]

def syllable? (name : List Char) : Option Nat := do
  let spelled ← after? "HANGUL SYLLABLE " name
  initials.zipIdx.findSome? fun (initial, i) => do
    let rest ← after? initial spelled
    vowels.zipIdx.findSome? fun (vowel, v) => do
      let rest ← after? vowel rest
      let f ← finals.findIdx? fun final => final.toList = rest
      return 0xAC00 + (i * 21 + v) * 28 + f

/-- The code of a name. Names are found in any case, except those of syllables and unified ideographs. -/
def code? (name : List Char) : Option Nat :=
  let capitals := name.map Char.toUpper
  syllable? name <|> ideograph? name <|> coded? capitals <|>
    tables.findSome? fun t => find? (splitOn ' ' capitals) 0 [] (entries t)

end CharName

def charOfName? (name : List Char) : Option Char := (CharName.code? name).map Char.ofNat

end Monotype.Text
