import Monotype.Yaml.Cursor
import Monotype.Yaml.Error

namespace Monotype.Yaml

/-- Join the breaks between two lines of a scalar: a single line feed becomes a blank. -/
def foldBreaks (first : List Char) (others : List Char) : List Char :=
  if first ≠ ['\n'] then first ++ others
  else if others.isEmpty then [' ']
  else others

def plainBreaks (fuel : Nat) (c : Cursor) : Option (List Char) × Cursor :=
  match fuel with
  | 0 => (some [], c)
  | fuel + 1 =>
      if c.peek = ' ' then plainBreaks fuel c.next
      else if isBreak c.peek then
        let (b, c) := c.lineBreak
        if c.atMarker then (none, c)
        else
          let (bs, c) := plainBreaks fuel c
          (bs.map (b ++ ·), c)
      else (some [], c)

def plainSpaces (c : Cursor) : List Char × Cursor × Bool :=
  let (blanks, c) := c.takeWhile (· == ' ')
  if isBreak c.peek then
    let (b, c) := c.lineBreak
    if c.atMarker then ([], c, true)
    else
      match plainBreaks (c.rest.length + 1) c with
      | (none, c) => ([], c, true)
      | (some bs, c) => (foldBreaks b bs, c, true)
  else (blanks, c, false)

def plainLength (inFlow : Bool) : List Char → Nat
  | [] => 0
  | x :: xs =>
      let after := xs.headD '\x00'
      if isGap x then 0
      else if x = ':' ∧ (isGap after ∨ (inFlow ∧ after ∈ [',', '[', ']', '{', '}'])) then 0
      else if inFlow ∧ x ∈ [',', '?', '[', ']', '{', '}'] then 0
      else plainLength inFlow xs + 1

/-- A plain scalar; `crossed` tells whether the cursor is on another line than the last word. -/
def plainLoop (fuel : Nat) (inFlow : Bool) (indent : Int) (spaces : List Char) (crossed : Bool) (c : Cursor) :
    List Char × Cursor × Bool :=
  match fuel with
  | 0 => ([], c, crossed)
  | fuel + 1 =>
      let n := plainLength inFlow c.rest
      if c.peek = '#' ∨ n = 0 then ([], c, crossed)
      else
        let word := c.rest.take n
        let (blanks, c, crossed) := plainSpaces (c.advance n)
        if blanks.isEmpty ∨ c.peek = '#' ∨ (¬inFlow ∧ (c.column : Int) < indent) then (spaces ++ word, c, crossed)
        else
          let (more, c, crossed) := plainLoop fuel inFlow indent blanks crossed c
          (spaces ++ word ++ more, c, crossed)

def plainScalar (inFlow : Bool) (indent : Int) (c : Cursor) : List Char × Cursor × Bool :=
  plainLoop (c.rest.length + 1) inFlow indent [] false c

def quotedBreaks (fuel : Nat) (c : Cursor) : Except Error (List Char × Cursor) :=
  match fuel with
  | 0 => .ok ([], c)
  | fuel + 1 =>
      if c.atMarker then malformed
      else
        let c := c.skipWhile fun x => x == ' ' || x == '\t'
        if isBreak c.peek then do
          let (b, c) := c.lineBreak
          let (bs, c) ← quotedBreaks fuel c
          return (b ++ bs, c)
        else .ok ([], c)

def quotedSpaces (c : Cursor) : Except Error (List Char × Cursor) :=
  let (blanks, c) := c.takeWhile fun x => x == ' ' || x == '\t'
  if c.peek = '\x00' then malformed
  else if isBreak c.peek then do
    let (b, c) := c.lineBreak
    let (bs, c) ← quotedBreaks (c.rest.length + 1) c
    return (foldBreaks b bs, c)
  else .ok (blanks, c)

def shortEscape? (x : Char) : Option Char :=
  match x with
  | '0' => some '\x00'
  | 'a' => some '\x07'
  | 'b' => some '\x08'
  | 't' => some '\t'
  | '\t' => some '\t'
  | 'n' => some '\n'
  | 'v' => some '\x0b'
  | 'f' => some '\x0c'
  | 'r' => some '\r'
  | 'e' => some '\x1b'
  | ' ' => some ' '
  | '"' => some '"'
  | '\\' => some '\\'
  | '/' => some '/'
  | 'N' => some '\x85'
  | '_' => some '\xa0'
  | 'L' => some '\u2028'
  | 'P' => some '\u2029'
  | _ => none

def escapeDigits? (x : Char) : Option Nat :=
  match x with
  | 'x' => some 2
  | 'u' => some 4
  | 'U' => some 8
  | _ => none

def quotedEscape (c : Cursor) : Except Error (List Char × Cursor) :=
  let x := c.peek
  match shortEscape? x, escapeDigits? x with
  | some y, _ => .ok ([y], c.next)
  | none, some count =>
      let ds := c.next.rest.take count
      let n := Number.natOfDigits 16 ds
      if ds.length ≠ count ∨ ¬ds.all (Number.isDigitOf 16) then malformed
      else if 0x10FFFF < n then .error (.fault (.code n))
      else if n.isValidChar then .ok ([Char.ofNat n], c.advance (count + 1))
      else malformed
  | none, none =>
      if isBreak x then
        let (_, c) := c.lineBreak
        quotedBreaks (c.rest.length + 1) c
      else malformed

def quotedLoop (fuel : Nat) (double : Bool) (c : Cursor) : Except Error (List Char × Cursor) :=
  match fuel with
  | 0 => malformed
  | fuel + 1 => do
      let x := c.peek
      let (chars, c) ← if isGap x then quotedSpaces c
        else if double && x == '\\' then quotedEscape c.next
        else if !double && x == '\'' && c.peek 1 == '\'' then .ok (['\''], c.advance 2)
        else if x == (if double then '"' else '\'') then return ([], c.next)
        else .ok ([x], c.next)
      let (more, c) ← quotedLoop fuel double c
      return (chars ++ more, c)

def quotedScalar (double : Bool) (c : Cursor) : Except Error (List Char × Cursor) :=
  quotedLoop (c.rest.length + 1) double c.next

inductive Chomping where
  | strip
  | clip
  | keep

def blockHeader (c : Cursor) : Except Error (Chomping × Option Nat × Cursor) := do
  let chomping? (x : Char) : Option Chomping :=
    if x = '+' then some .keep else if x = '-' then some .strip else none
  let increment (c : Cursor) : Except Error (Option Nat × Cursor) :=
    let x := c.peek
    if x = '0' then malformed
    else if x.isDigit then .ok (some (x.toNat - '0'.toNat), c.next)
    else .ok (none, c)
  let (chomping, indent, c) ← match chomping? c.peek with
    | some chomping => do
        let (indent, c) ← increment c.next
        pure (chomping, indent, c)
    | none => do
        let (indent, c) ← increment c
        match indent, chomping? c.peek with
        | some _, some chomping => pure (chomping, indent, c.next)
        | _, _ => pure (.clip, indent, c)
  if c.peek = ' ' ∨ isEnd c.peek then return (chomping, indent, c) else malformed

def ignoredLine (c : Cursor) : Except Error Cursor :=
  let c := c.skipWhile (· == ' ')
  let c := if c.peek = '#' then c.skipWhile fun x => !isEnd x else c
  if isEnd c.peek then .ok c.lineBreak.2 else malformed

def blockIndentation (fuel : Nat) (c : Cursor) : List Char × Nat × Cursor :=
  match fuel with
  | 0 => ([], 0, c)
  | fuel + 1 =>
      if c.peek = ' ' then
        let c := c.next
        let (bs, width, c') := blockIndentation fuel c
        (bs, max c.column width, c')
      else if isBreak c.peek then
        let (b, c) := c.lineBreak
        let (bs, width, c) := blockIndentation fuel c
        (b ++ bs, width, c)
      else ([], 0, c)

def skipIndent (indent : Nat) (c : Cursor) : Cursor :=
  let blanks := (c.rest.takeWhile (· == ' ')).length
  c.advance (min blanks (indent - c.column))

def blockBreaks (fuel : Nat) (indent : Nat) (c : Cursor) : List Char × Cursor :=
  match fuel with
  | 0 => ([], c)
  | fuel + 1 =>
      let c := skipIndent indent c
      if isBreak c.peek then
        let (b, c) := c.lineBreak
        let (bs, c) := blockBreaks fuel indent c
        (b ++ bs, c)
      else ([], c)

/-- The lines of a block scalar: the text, the break behind its last line, and the empty lines at its end. -/
def blockLines (fuel : Nat) (folded : Bool) (indent : Nat) (breaks : List Char) (c : Cursor) :
    List Char × List Char × List Char × Cursor :=
  match fuel with
  | 0 => ([], [], breaks, c)
  | fuel + 1 =>
      if c.column = indent ∧ c.peek ≠ '\x00' then
        let leading := c.peek ≠ ' ' ∧ c.peek ≠ '\t'
        let (text, c) := c.takeWhile fun x => !isEnd x
        let (b, c) := c.lineBreak
        let (bs, c) := blockBreaks (c.rest.length + 1) indent c
        if c.column = indent ∧ c.peek ≠ '\x00' then
          let indented := c.peek = ' ' ∨ c.peek = '\t'
          let joint :=
            if folded ∧ b = ['\n'] ∧ leading ∧ ¬indented then (if bs.isEmpty then [' '] else []) else b
          let (more, last, trailing, c) := blockLines fuel folded indent bs c
          (breaks ++ text ++ joint ++ more, last, trailing, c)
        else (breaks ++ text, b, bs, c)
      else ([], [], breaks, c)

def blockScalar (folded : Bool) (outer : Int) (c : Cursor) : Except Error (List Char × Cursor) := do
  let (chomping, increment, c) ← blockHeader c.next
  let c ← ignoredLine c
  let least := (max (outer + 1) 1).toNat
  let (breaks, indent, c) := match increment with
    | none =>
        let (bs, width, c) := blockIndentation (c.rest.length + 1) c
        (bs, max least width, c)
    | some n =>
        let indent := least + n - 1
        let (bs, c) := blockBreaks (c.rest.length + 1) indent c
        (bs, indent, c)
  let (text, last, trailing, c) := blockLines (c.rest.length + 1) folded indent breaks c
  match chomping with
  | .strip => return (text, c)
  | .clip => return (text ++ last, c)
  | .keep => return (text ++ last ++ trailing, c)

end Monotype.Yaml
