import Monotype.Literal.Term
import Monotype.Literal.Token

namespace Monotype.Literal

abbrev Reader := List Token → Option (Term × List Token)

inductive Rule where
  | expression
  | disjunction
  | inversion
  | operand
  | factor
  | primary

namespace Grammar

def reserved : List String :=
  ["False", "None", "True", "and", "as", "assert", "async", "await", "break", "class", "continue", "def", "del", "elif",
   "else", "except", "finally", "for", "from", "global", "if", "import", "in", "is", "lambda", "nonlocal", "not", "or",
   "pass", "raise", "return", "try", "while", "with", "yield"]

def isReserved (w : List Char) : Bool := reserved.contains (String.ofList w)

def startsWith (s : String) (ts : List Token) : Bool :=
  match ts with
  | .symbol s' :: _ => s == s'
  | .word w :: _ => s.toList == w
  | _ => false

def behind? (s : String) (ts : List Token) : Option (List Token) :=
  if startsWith s ts then some ts.tail else none

def loop (step : Term → List Token → Option (Option (Term × List Token))) (fuel : Nat) (t : Term) (ts : List Token) :
    Option (Term × List Token) :=
  match fuel with
  | 0 => some (t, ts)
  | fuel + 1 => do
      match ← step t ts with
      | none => return (t, ts)
      | some (t, ts) => loop step fuel t ts

/-- Terms with commas between them, up to a closing symbol; a comma may come last. The terms so far are turned
around. -/
def items (item : Reader) (closing : String) (fuel : Nat) (acc : List Term) (ts : List Token) :
    Option (List Term × List Token) :=
  match fuel with
  | 0 => none
  | fuel + 1 =>
      if startsWith closing ts then some (acc.reverse, ts.tail)
      else do
        let (t, ts) ← item ts
        if startsWith closing ts then return ((t :: acc).reverse, ts.tail)
        else items item closing fuel (t :: acc) (← behind? "," ts)

variable (self : Rule → Reader)

def starred : Reader := fun ts => do
  let (t, ts) ← self .operand ts
  return (.starred t, ts)

def named : Reader
  | .word w :: .symbol ":=" :: ts => do
      if isReserved w then none
      else
        let (t, ts) ← self .expression ts
        return (.above [.name w, t], ts)
  | ts => self .expression ts

def member : Reader
  | .symbol "*" :: ts => starred self ts
  | ts => named self ts

def startsClause (ts : List Token) : Bool := startsWith "for" ts || startsWith "async" ts

def target : Reader
  | .symbol "*" :: ts => do
      let (t, ts) ← self .primary ts
      if t.isTarget then return (.starred t, ts) else none
  | ts => do
      let (t, ts) ← self .primary ts
      if t.isTarget then return (t, ts) else none

def conditions (fuel : Nat) (acc : List Term) (ts : List Token) : Option (List Term × List Token) :=
  match fuel with
  | 0 => none
  | fuel + 1 =>
      if startsWith "if" ts then do
        let (t, ts) ← self .disjunction ts.tail
        conditions fuel (t :: acc) ts
      else some (acc, ts)

def clauses (fuel : Nat) (acc : List Term) (ts : List Token) : Option (Term × List Token) :=
  match fuel with
  | 0 => none
  | fuel + 1 => do
      let ts ← behind? "for" (if startsWith "async" ts then ts.tail else ts)
      let (targets, ts) ← items (target self) "in" ts.length [] ts
      if targets.isEmpty then none
      else
        let (range, ts) ← self .disjunction ts
        let (acc, ts) ← conditions self (ts.length + 1) (range :: targets ++ acc) ts
        if startsClause ts then clauses fuel acc ts else return (.above acc, ts)

def comprehension (closing : String) (acc : List Term) (ts : List Token) : Option (Term × List Token) := do
  if acc.any Term.isStarred then none
  else
    let (t, ts) ← clauses self (ts.length + 1) acc ts
    return (t, ← behind? closing ts)

def membersBehind (closing : String) (first : Term) (ts : List Token) : Option (List Term × List Token) :=
  if startsWith closing ts then some ([first], ts.tail)
  else do items (member self) closing (ts.length + 1) [first] (← behind? "," ts)

def yielded (ts : List Token) : Option (Term × List Token) := do
  if startsWith "from" ts then
    let (t, ts) ← self .expression ts.tail
    return (.above [t], ← behind? ")" ts)
  else
    let item : Reader := fun ts => if startsWith "*" ts then starred self ts.tail else self .expression ts
    let (us, ts) ← items item ")" (ts.length + 1) [] ts
    return (.above us, ts)

def round (ts : List Token) : Option (Term × List Token) :=
  if startsWith ")" ts then some (.tuple [], ts.tail)
  else if startsWith "yield" ts then yielded self ts.tail
  else do
    let (t, ts) ← member self ts
    if startsClause ts then comprehension self ")" [t] ts
    else if startsWith ")" ts then
      if t.isStarred then none else return (t, ts.tail)
    else
      let (us, ts) ← membersBehind self ")" t ts
      return (.tuple us, ts)

def square (ts : List Token) : Option (Term × List Token) :=
  if startsWith "]" ts then some (.list [], ts.tail)
  else do
    let (t, ts) ← member self ts
    if startsClause ts then comprehension self "]" [t] ts
    else
      let (us, ts) ← membersBehind self "]" t ts
      return (.list us, ts)

def entry (ts : List Token) : Option ((Term × Term) × List Token) :=
  if startsWith "**" ts then do
    let (t, ts) ← self .operand ts.tail
    return ((.above [], t), ts)
  else do
    let (k, ts) ← self .expression ts
    let (t, ts) ← self .expression (← behind? ":" ts)
    return ((k, t), ts)

def entries (fuel : Nat) (acc : List (Term × Term)) (ts : List Token) : Option (Term × List Token) :=
  match fuel with
  | 0 => none
  | fuel + 1 =>
      if startsWith "\x7d" ts then some (.dict acc.reverse, ts.tail)
      else do
        let (e, ts) ← entry self ts
        if startsWith "\x7d" ts then return (.dict (e :: acc).reverse, ts.tail)
        else entries fuel (e :: acc) (← behind? "," ts)

def startsBinding : List Token → Bool
  | .word _ :: .symbol ":=" :: _ => true
  | _ => false

def curly (ts : List Token) : Option (Term × List Token) :=
  if startsWith "\x7d" ts || startsWith "**" ts then entries self (ts.length + 1) [] ts
  else do
    let (t, rest) ← member self ts
    if startsWith ":" rest then
      if t.isStarred || startsBinding ts then none
      else
        let (v, rest) ← self .expression rest.tail
        if startsClause rest then comprehension self "\x7d" [t, v] rest
        else if startsWith "\x7d" rest then return (.dict [(t, v)], rest.tail)
        else entries self (rest.length + 1) [(t, v)] (← behind? "," rest)
    else if startsClause rest then comprehension self "\x7d" [t] rest
    else
      let (us, rest) ← membersBehind self "\x7d" t rest
      return (.set us, rest)

def constant? (w : List Char) : Option Value :=
  if w = "None".toList then some .null
  else if w = "True".toList then some (.bool true)
  else if w = "False".toList then some (.bool false)
  else none

def pieceTerm : Piece → Term
  | .text codes => .value (.ofCodes codes)
  | .bytes bs => .value (.bytes bs)
  | .formatted => .other 1

def atom : Reader
  | .number v :: ts => some (.value v, ts)
  | .text p :: ts => some (pieceTerm p, ts)
  | .word w :: ts =>
      match constant? w with
      | some v => some (.value v, ts)
      | none => if isReserved w then none else some (.name w, ts)
  | .symbol s :: ts =>
      if s = "(" then round self ts
      else if s = "[" then square self ts
      else if s = "\x7b" then curly self ts
      else if s = "..." then some (.value .ellipsis, ts)
      else none
  | _ => none

/-- How far the arguments of a call have come: names, and then dictionaries, end those by position. -/
inductive Phase where
  | positions
  | names
  | entries
  deriving DecidableEq

def argument (phase : Phase) (ts : List Token) : Option (Term × Phase × List Token) :=
  match ts with
  | .symbol "*" :: ts => do
      if phase = .entries then none
      else
        let (t, ts) ← self .expression ts
        return (t, phase, ts)
  | .symbol "**" :: ts => do
      let (t, ts) ← self .expression ts
      return (t, .entries, ts)
  | .word w :: .symbol "=" :: ts => do
      if isReserved w then none
      else
        let (t, ts) ← self .expression ts
        return (t, if phase = .positions then .names else phase, ts)
  | ts => do
      if phase ≠ .positions then none
      else
        let (t, ts) ← named self ts
        return (t, phase, ts)

def arguments (fuel : Nat) (phase : Phase) (acc : List Term) (ts : List Token) : Option (List Term × List Token) :=
  match fuel with
  | 0 => none
  | fuel + 1 =>
      if startsWith ")" ts then some (acc, ts.tail)
      else do
        let (t, phase', rest) ← argument self phase ts
        if startsClause rest then
          if acc.isEmpty ∧ phase' = .positions ∧ ¬startsWith "*" ts then
            let (t, rest) ← comprehension self ")" [t] rest
            return ([t], rest)
          else none
        else if startsWith ")" rest then return (t :: acc, rest.tail)
        else arguments fuel phase' (t :: acc) (← behind? "," rest)

def bound (ts : List Token) : Option (List Term × List Token) :=
  if startsWith ":" ts || startsWith "," ts || startsWith "]" ts then some ([], ts)
  else do
    let (t, ts) ← self .expression ts
    return ([t], ts)

def bounds (acc : List Term) (ts : List Token) : Option (Term × List Token) := do
  let (stop, ts) ← bound self ts
  if startsWith ":" ts then
    let (step, ts) ← bound self ts.tail
    return (.above (acc ++ stop ++ step), ts)
  else return (.above (acc ++ stop), ts)

def slice : Reader
  | .symbol ":" :: ts => bounds self [] ts
  | .symbol "*" :: ts => do
      let (t, ts) ← self .expression ts
      return (.starred t, ts)
  | .word w :: .symbol ":=" :: ts => named self (.word w :: .symbol ":=" :: ts)
  | ts => do
      let (t, ts) ← self .expression ts
      if startsWith ":" ts then bounds self [t] ts.tail else return (t, ts)

def trailer (t : Term) (ts : List Token) : Option (Option (Term × List Token)) :=
  match ts with
  | .symbol "." :: .word w :: ts => if isReserved w then none else some (some (.access (t.depth + 1), ts))
  | .symbol "." :: _ => none
  | .symbol "(" :: ts => do
      let (us, ts) ← arguments self (ts.length + 1) .positions [] ts
      return some (t.call us, ts)
  | .symbol "[" :: ts => do
      let (us, ts) ← items (slice self) "]" (ts.length + 1) [] ts
      if us.isEmpty then none else return some (.access (Term.depths (t :: us) + 1), ts)
  | _ => some none

def primary : Reader := fun ts => do
  let (t, ts) ← atom self ts
  loop (trailer self) ts.length t ts

def power : Reader := fun ts => do
  let (t, ts) ←
    if startsWith "await" ts then do
      let (t, ts) ← primary self ts.tail
      pure (Term.above [t], ts)
    else primary self ts
  if startsWith "**" ts then
    let (u, ts) ← self .factor ts.tail
    return (.above [t, u], ts)
  else return (t, ts)

def factor : Reader := fun ts => do
  if startsWith "+" ts || startsWith "-" ts then
    let (t, rest) ← self .factor ts.tail
    return (t.sign (startsWith "-" ts), rest)
  else if startsWith "~" ts then
    let (t, rest) ← self .factor ts.tail
    return (.above [t], rest)
  else power self ts

def operators : List (List String) :=
  [["|"], ["^"], ["&"], ["<<", ">>"], ["+", "-"], ["*", "/", "//", "%", "@"]]

def binary (levels : List (List String)) : Reader :=
  match levels with
  | [] => factor self
  | ops :: levels => fun ts => do
      let (t, ts) ← binary levels ts
      loop (fun t ts =>
        match ops.find? (startsWith · ts) with
        | none => some none
        | some op => do
            let (u, ts) ← binary levels ts.tail
            return some (if op = "+" ∨ op = "-" then t.add (op = "-") u else .above [t, u], ts)) ts.length t ts

def operand : Reader := binary self operators

def behindComparison? (ts : List Token) : Option (List Token) :=
  if ["==", "!=", "<", "<=", ">", ">=", "in"].any (startsWith · ts) then some ts.tail
  else if startsWith "is" ts then some (if startsWith "not" ts.tail then ts.tail.tail else ts.tail)
  else if startsWith "not" ts then behind? "in" ts.tail
  else none

/-- Terms between operators that make one term without a value. -/
def chain (item : Reader) (behind : List Token → Option (List Token)) : Reader := fun ts => do
  let (t, ts) ← item ts
  match behind ts with
  | none => return (t, ts)
  | some rest =>
      let (u, rest) ← item rest
      loop (fun t ts =>
        match behind ts with
        | none => some none
        | some ts => do
            let (u, ts) ← item ts
            return some (.other (max t.depth (u.depth + 1)), ts)) rest.length (.above [t, u]) rest

def inversion : Reader := fun ts => do
  if startsWith "not" ts then
    let (t, ts) ← self .inversion ts.tail
    return (.above [t], ts)
  else chain (operand self) behindComparison? ts

def disjunction : Reader := chain (chain (inversion self) (behind? "and")) (behind? "or")

structure Parameters where
  any : Bool := false
  defaults : Bool := false
  slash : Bool := false
  star : Bool := false
  bare : Bool := false
  terms : List Term := []

def parameter (p : Parameters) (ts : List Token) : Option (Parameters × List Token) := do
  if startsWith "=" ts then
    let (t, ts) ← self .expression ts.tail
    return ({ p with any := true, defaults := true, bare := false, terms := t :: p.terms }, ts)
  else if p.defaults ∧ ¬p.star then none
  else return ({ p with any := true, bare := false }, ts)

def parameters (fuel : Nat) (p : Parameters) (ts : List Token) : Option (Parameters × List Token) :=
  let next (p : Parameters) (ts : List Token) : Option (Parameters × List Token) :=
    match fuel with
    | 0 => none
    | fuel + 1 => if startsWith ":" ts then parameters fuel p ts else do parameters fuel p (← behind? "," ts)
  match ts with
  | .symbol ":" :: ts => if p.bare then none else some (p, ts)
  | .symbol "/" :: ts => if p.slash ∨ p.star ∨ ¬p.any then none else next { p with slash := true } ts
  | .symbol "*" :: .word w :: ts => if p.star ∨ isReserved w then none else next { p with star := true } ts
  | .symbol "*" :: ts => if p.star ∨ ¬startsWith "," ts then none else next { p with star := true, bare := true } ts
  | .symbol "**" :: .word w :: ts => do
      if p.bare ∨ isReserved w then none
      else
        let ts ← behind? ":" (if startsWith "," ts then ts.tail else ts)
        return (p, ts)
  | .word w :: ts => do
      if isReserved w then none
      else
        let (p, ts) ← parameter self p ts
        next p ts
  | _ => none

def function : Reader := fun ts => do
  let (p, ts) ← parameters self (ts.length + 1) {} ts
  let (t, ts) ← self .expression ts
  return (.above (t :: p.terms), ts)

def expression : Reader := fun ts => do
  if startsWith "lambda" ts then function self ts.tail
  else
    let (t, ts) ← disjunction self ts
    if startsWith "if" ts then
      let (u, ts) ← disjunction self ts.tail
      let (v, ts) ← self .expression (← behind? "else" ts)
      return (.above [t, u, v], ts)
    else return (t, ts)

/-- The rules, nested at most as deep as there is fuel. -/
def rule (fuel : Nat) (r : Rule) : Reader :=
  match fuel with
  | 0 => fun _ => none
  | fuel + 1 =>
      match r with
      | .expression => expression (rule fuel)
      | .disjunction => disjunction (rule fuel)
      | .inversion => inversion (rule fuel)
      | .operand => operand (rule fuel)
      | .factor => factor (rule fuel)
      | .primary => primary (rule fuel)

/-- A whole list of tokens as an expression, or as a tuple of expressions with commas between them. -/
def whole? (ts : List Token) : Option Term :=
  let item := rule (ts.length + 2) .expression
  match item ts with
  | some (t, []) => some t
  | some (t, rest) => do
      let (us, rest) ← items item ";" (rest.length + 1) [t] (← behind? "," (rest ++ [.symbol ";"]))
      if rest.isEmpty then some (.tuple us) else none
  | none => none

end Grammar

end Monotype.Literal
