import Monotype.Yaml.Scalar

namespace Monotype.Yaml

inductive Token where
  | version (major : Nat)
  | tagHandle (handle replacement : String)
  | otherDirective
  | documentStart
  | documentEnd
  | blockSequenceStart
  | blockMappingStart
  | blockEnd
  | flowSequenceStart
  | flowSequenceEnd
  | flowMappingStart
  | flowMappingEnd
  | blockEntry
  | flowEntry
  | key
  | value
  | alias (name : String)
  | anchor (name : String)
  | tag (handle : Option String) (suffix : String)
  | scalar (text : String) (plain : Bool)
  deriving DecidableEq, Inhabited

/-- A place where a key may have started: the number of tokens before it and its position. A required key must
be followed by a colon. -/
structure PossibleKey where
  tokens : Nat
  index : Nat
  line : Nat
  column : Nat
  required : Bool

/-- The state of the lexer. There is at most one possible key on each level of flow collections; the first one
belongs to the innermost level. -/
structure Lexer where
  cursor : Cursor
  tokens : Array Token := #[]
  indent : Int := -1
  indents : List Int := []
  allowKey : Bool := true
  keys : List (Option PossibleKey) := [none]

namespace Lexer

def flowLevel (l : Lexer) : Nat := l.keys.length - 1

def inFlow (l : Lexer) : Bool := decide (0 < l.flowLevel)

def push (l : Lexer) (t : Token) : Lexer := { l with tokens := l.tokens.push t }

def insert (l : Lexer) (i : Nat) (t : Token) : Lexer :=
  { l with tokens := l.tokens.extract 0 i ++ #[t] ++ l.tokens.extract i l.tokens.size }

def dropKey (l : Lexer) : Except Error Lexer :=
  match l.keys with
  | some k :: keys => if k.required then malformed else .ok { l with keys := none :: keys }
  | _ => .ok l

/-- A key without a question mark takes one line and at most this many characters. -/
def maxKeyLength : Nat := 1024

def isFresh (l : Lexer) (k : PossibleKey) : Bool :=
  k.line == l.cursor.line && decide (l.cursor.index - k.index ≤ maxKeyLength)

def dropStaleKeys (l : Lexer) : Except Error Lexer := do
  let keys ← l.keys.mapM fun key =>
    match key with
    | none => pure none
    | some k => if l.isFresh k then pure (some k) else if k.required then malformed else pure none
  return { l with keys }

/-- The tokens in front of which no key can be put any more. -/
def certain (l : Lexer) : List Token :=
  let open? := l.keys.filterMap fun key => (key.filter l.isFresh).map (·.tokens)
  l.tokens.toList.take (open?.foldl min l.tokens.size)

def saveKey (l : Lexer) : Except Error Lexer := do
  if !l.allowKey then return l
  let l ← l.dropKey
  let c := l.cursor
  let required := !l.inFlow && l.indent == (c.column : Int)
  return { l with keys := some ⟨l.tokens.size, c.index, c.line, c.column, required⟩ :: l.keys.tail }

def unwind (l : Lexer) (column : Int) : Lexer :=
  if l.inFlow then l
  else
    let rec close (tokens : Array Token) (indent : Int) : List Int → Array Token × Int × List Int
      | [] => (tokens, indent, [])
      | outer :: indents =>
          if column < indent then close (tokens.push .blockEnd) outer indents else (tokens, indent, outer :: indents)
    let (tokens, indent, indents) := close l.tokens l.indent l.indents
    { l with tokens, indent, indents }

def indentTo (l : Lexer) (column : Nat) (at? : Nat) (t : Token) : Lexer :=
  if l.indent < column then { l.insert at? t with indent := column, indents := l.indent :: l.indents } else l

def skipBlank (fuel : Nat) (l : Lexer) : Lexer :=
  match fuel with
  | 0 => l
  | fuel + 1 =>
      let c := l.cursor.skipWhile (· == ' ')
      let c := if c.peek = '#' then c.skipWhile fun x => !isEnd x else c
      if isBreak c.peek then
        skipBlank fuel { l with cursor := c.lineBreak.2, allowKey := if l.inFlow then l.allowKey else true }
      else { l with cursor := c }

def isNameChar (c : Char) : Bool := c.isAlphanum || c == '-' || c == '_'

def anchorName (c : Cursor) : Except Error (String × Cursor) :=
  let (name, c) := c.next.takeWhile isNameChar
  let x := c.peek
  if name.isEmpty then malformed
  else if isGap x ∨ x ∈ ['?', ':', ',', ']', '}', '%', '@', '\x60'] then .ok (String.ofList name, c)
  else malformed

def tagHandle (c : Cursor) : Except Error (String × Cursor) :=
  if c.peek ≠ '!' then malformed
  else if c.peek 1 = ' ' then .ok ("!", c.next)
  else
    let (name, c') := c.next.takeWhile isNameChar
    if c'.peek = '!' then .ok (String.ofList ('!' :: name ++ ['!']), c'.next)
    else malformed

def isUriChar (c : Char) : Bool :=
  c.isAlphanum || "-;/?:@&=+$,_.!~*'()[]%".toList.contains c

def uriEscapes : List Char → List UInt8
  | '%' :: x :: y :: cs =>
      if Number.isDigitOf 16 x && Number.isDigitOf 16 y then
        UInt8.ofNat (Number.natOfDigits 16 [x, y]) :: uriEscapes cs
      else []
  | _ => []

def uriLoop (fuel : Nat) (c : Cursor) : Except Error (List Char × Cursor) :=
  match fuel with
  | 0 => .ok ([], c)
  | fuel + 1 =>
      let x := c.peek
      if !isUriChar x then .ok ([], c)
      else if x = '%' then
        let bytes := uriEscapes c.rest
        let c' := c.advance (3 * bytes.length)
        if bytes.isEmpty ∨ c'.peek = '%' then malformed
        else
          match String.fromUTF8? ⟨bytes.toArray⟩ with
          | some s => do
              let (more, c) ← uriLoop fuel c'
              return (s.toList ++ more, c)
          | none => malformed
      else do
        let (more, c) ← uriLoop fuel c.next
        return (x :: more, c)

def uri (c : Cursor) : Except Error (String × Cursor) := do
  let (cs, c') ← uriLoop (c.rest.length + 1) c
  if cs.isEmpty then malformed else return (String.ofList cs, c')

def readTag (c : Cursor) : Except Error (Token × Cursor) := do
  let (t, c) ←
    if c.peek 1 = '<' then do
      let (suffix, c) ← uri (c.advance 2)
      if c.peek = '>' then pure (Token.tag none suffix, c.next) else malformed
    else if isGap (c.peek 1) then pure (Token.tag none "!", c.next)
    else
      let word := (c.rest.drop 1).takeWhile fun x => !(x == ' ' || isEnd x)
      if word.contains '!' then do
        let (handle, c) ← tagHandle c
        let (suffix, c) ← uri c
        pure (Token.tag (some handle) suffix, c)
      else do
        let (suffix, c) ← uri c.next
        pure (Token.tag (some "!") suffix, c)
  if c.peek = ' ' ∨ isEnd c.peek then return (t, c) else malformed

def directiveNumber (c : Cursor) : Except Error (Nat × Cursor) :=
  let (ds, c) := c.takeWhile Char.isDigit
  if ds.isEmpty then malformed
  else
    match Number.readInt 10 ds with
    | .ok n => .ok (n.toNat, c)
    | .error f => .error (.fault (.number f))

def readDirective (c : Cursor) : Except Error (Token × Cursor) := do
  let (name, c) := c.next.takeWhile isNameChar
  if name.isEmpty ∨ ¬(c.peek = ' ' ∨ isEnd c.peek) then malformed
  let blank (x : Char) : Bool := x == ' '
  let (t, c) ←
    if name = "YAML".toList then do
      let (major, c) ← directiveNumber (c.skipWhile blank)
      if c.peek ≠ '.' then malformed
      let (_, c) ← directiveNumber c.next
      if c.peek = ' ' ∨ isEnd c.peek then pure (Token.version major, c) else malformed
    else if name = "TAG".toList then do
      let (handle, c) ← tagHandle (c.skipWhile blank)
      if c.peek ≠ ' ' then malformed
      let (replacement, c) ← uri (c.skipWhile blank)
      if c.peek = ' ' ∨ isEnd c.peek then pure (Token.tagHandle handle replacement, c) else malformed
    else pure (Token.otherDirective, c.skipWhile fun x => !isEnd x)
  return (t, ← ignoredLine c)

def startsPlain (inFlow : Bool) (c : Cursor) : Bool :=
  let x := c.peek
  (!isGap x && !"-?:,[]\x7b\x7d#&*!|>'\"%@\x60".toList.contains x) ||
    (!isGap (c.peek 1) && (x == '-' || (!inFlow && (x == '?' || x == ':'))))

def flowStart (l : Lexer) (t : Token) : Except Error Lexer := do
  let l ← l.saveKey
  return { l.push t with cursor := l.cursor.next, keys := none :: l.keys, allowKey := true }

def flowEnd (l : Lexer) (t : Token) : Except Error Lexer := do
  let l ← l.dropKey
  match l.keys with
  | _ :: k :: keys => return { l.push t with cursor := l.cursor.next, keys := k :: keys, allowKey := false }
  | _ => malformed

def blockEntry (l : Lexer) : Except Error Lexer := do
  if !l.inFlow && !l.allowKey then malformed
  let l := if l.inFlow then l else l.indentTo l.cursor.column l.tokens.size .blockSequenceStart
  let l ← { l with allowKey := true }.dropKey
  return { l.push .blockEntry with cursor := l.cursor.next }

def explicitKey (l : Lexer) : Except Error Lexer := do
  if !l.inFlow && !l.allowKey then malformed
  let l := if l.inFlow then l else l.indentTo l.cursor.column l.tokens.size .blockMappingStart
  let l ← { l with allowKey := !l.inFlow }.dropKey
  return { l.push .key with cursor := l.cursor.next }

/-- A colon: it makes a key of what stands before it, or follows an explicit key. -/
def valueIndicator (l : Lexer) : Except Error Lexer := do
  let l ← match l.keys with
    | some k :: keys =>
        let l := { l with keys := none :: keys }.insert k.tokens .key
        let l := if l.inFlow then l else l.indentTo k.column k.tokens .blockMappingStart
        pure { l with allowKey := false }
    | _ => do
        if !l.inFlow && !l.allowKey then malformed
        let l := if l.inFlow then l else l.indentTo l.cursor.column l.tokens.size .blockMappingStart
        { l with allowKey := !l.inFlow }.dropKey
  return { l.push .value with cursor := l.cursor.next }

def keyable (l : Lexer) (read : Cursor → Except Error (Token × Cursor × Bool)) : Except Error Lexer := do
  let l ← l.saveKey
  let (t, c, allowKey) ← read l.cursor
  return { l.push t with cursor := c, allowKey }

def blockText (l : Lexer) (folded : Bool) : Except Error Lexer := do
  let l ← { l with allowKey := true }.dropKey
  let (text, c) ← blockScalar folded l.indent l.cursor
  return { l.push (.scalar (String.ofList text) false) with cursor := c }

def boundary (l : Lexer) (read : Cursor → Except Error (Token × Cursor)) : Except Error Lexer := do
  let l ← (l.unwind (-1)).dropKey
  let (t, c) ← read l.cursor
  return { l.push t with cursor := c, allowKey := false }

def readToken (l : Lexer) : Except Error Lexer :=
  let c := l.cursor
  let x := c.peek
  let gap := isGap (c.peek 1)
  if x = '%' ∧ c.column = 0 then l.boundary readDirective
  else if c.column = 0 ∧ c.atMarker then
    l.boundary fun c => .ok (if x = '-' then .documentStart else .documentEnd, c.advance 3)
  else if x = '[' then l.flowStart .flowSequenceStart
  else if x = '{' then l.flowStart .flowMappingStart
  else if x = ']' then l.flowEnd .flowSequenceEnd
  else if x = '}' then l.flowEnd .flowMappingEnd
  else if x = ',' then do
    let l ← { l with allowKey := true }.dropKey
    return { l.push .flowEntry with cursor := c.next }
  else if x = '-' ∧ gap then l.blockEntry
  else if x = '?' ∧ (l.inFlow ∨ gap) then l.explicitKey
  else if x = ':' ∧ (l.inFlow ∨ gap) then l.valueIndicator
  else if x = '*' then
    l.keyable fun c => do
      let (name, c) ← anchorName c
      return (.alias name, c, false)
  else if x = '&' then
    l.keyable fun c => do
      let (name, c) ← anchorName c
      return (.anchor name, c, false)
  else if x = '!' then
    l.keyable fun c => do
      let (t, c) ← readTag c
      return (t, c, false)
  else if x = '|' ∧ ¬l.inFlow then l.blockText false
  else if x = '>' ∧ ¬l.inFlow then l.blockText true
  else if x = '\'' ∨ x = '"' then
    l.keyable fun c => do
      let (text, c) ← quotedScalar (x == '"') c
      return (.scalar (String.ofList text) false, c, false)
  else if startsPlain l.inFlow c then
    l.keyable fun c =>
      let (text, c, crossed) := plainScalar l.inFlow (l.indent + 1) c
      .ok (.scalar (String.ofList text) true, c, crossed)
  else malformed

def advance (l : Lexer) : Except Error (Lexer × Bool) := do
  let l ← (l.skipBlank (l.cursor.rest.length + 1)).dropStaleKeys
  let l := l.unwind l.cursor.column
  if l.cursor.rest.isEmpty then
    return (← (l.unwind (-1)).dropKey, true)
  return (← l.readToken, false)

end Lexer

/-- The tokens of a text, up to a fault if there is one. -/
structure Scan where
  tokens : List Token
  fault : Option Error := none

namespace Lexer

def loop (fuel : Nat) (l : Lexer) : Scan :=
  match fuel with
  | 0 => ⟨l.certain, some .malformed⟩
  | fuel + 1 =>
      match l.advance with
      | .error e => ⟨l.certain, some e⟩
      | .ok (l, ended) => if ended then ⟨l.tokens.toList, none⟩ else loop fuel l

end Lexer

def Scan.ofChars (cs : List Char) : Scan :=
  if !cs.all isAllowed then ⟨[], some .malformed⟩
  else
    let cursor : Cursor := { rest := cs }
    let cursor := if cursor.peek = '\ufeff' then cursor.next else cursor
    Lexer.loop (cs.length + 1) { cursor }

end Monotype.Yaml
