namespace Monotype

/-- A finite number is `mantissa * 2 ^ exponent`, with the least exponent that 53 bits and the bound of
`-1074` allow. -/
inductive Binary64 where
  | nan
  | infinite (negative : Bool)
  | finite (negative : Bool) (mantissa : Nat) (exponent : Int)
  deriving DecidableEq, Inhabited

namespace Binary64

def leastExponent : Int := -1074

def greatestExponent : Int := 971

def zero (negative : Bool) : Binary64 := finite negative 0 leastExponent

def negate : Binary64 → Binary64
  | nan => nan
  | infinite s => infinite !s
  | finite s m e => finite (!s) m e

def isZero : Binary64 → Bool
  | finite _ m _ => m == 0
  | _ => false

/-- Equality of values: both zeros are equal, and what is no number equals nothing. -/
def same (x y : Binary64) : Bool :=
  match x, y with
  | nan, _ => false
  | _, nan => false
  | x, y => decide (x = y) || (x.isZero && y.isZero)

/-- The quotient rounded to the nearest number, a half to the even one. -/
def roundDiv (n d : Nat) : Nat :=
  let q := n / d
  let r := n % d
  if d < 2 * r then q + 1
  else if 2 * r = d then q + q % 2
  else q

def scale (n d : Nat) (k : Int) : Nat × Nat :=
  if 0 ≤ k then (n * Nat.pow 2 k.toNat, d) else (n, d * Nat.pow 2 (-k).toNat)

def ofRatio (negative : Bool) (n d : Nat) : Binary64 :=
  if n = 0 then zero negative
  else
    let guess : Int := (n.log2 : Int) - d.log2 - 52
    let (a, b) := scale n d (-guess)
    let guess := if a / b < Nat.pow 2 52 then guess - 1 else guess
    let e := max guess leastExponent
    let (a, b) := scale n d (-e)
    let m := roundDiv a b
    let (m, e) := if m = Nat.pow 2 53 then (Nat.pow 2 52, e + 1) else (m, e)
    if greatestExponent < e then infinite negative else finite negative m e

def ofDecimal (negative : Bool) (n : Nat) (e : Int) : Binary64 :=
  let size : Int := (Nat.toDigits 10 n).length + e
  if n = 0 then zero negative
  else if 310 < size then infinite negative
  else if size < -330 then zero negative
  else if 0 ≤ e then ofRatio negative (n * Nat.pow 10 e.toNat) 1
  else ofRatio negative n (Nat.pow 10 (-e).toNat)

def ofInt (n : Int) : Binary64 := ofRatio (decide (n < 0)) n.natAbs 1

def isFinite : Binary64 → Bool
  | finite _ _ _ => true
  | _ => false

def add (x y : Binary64) : Binary64 :=
  match x, y with
  | finite s m e, finite t n f =>
      let low := min e f
      let signed (s : Bool) (m : Nat) (e : Int) : Int :=
        let k : Int := Int.ofNat (m * Nat.pow 2 (e - low).toNat)
        if s then -k else k
      let sum := signed s m e + signed t n f
      if sum = 0 then zero (s && t)
      else
        let (a, b) := scale sum.natAbs 1 low
        ofRatio (decide (sum < 0)) a b
  | finite _ _ _, y => y
  | infinite s, infinite t => if s = t then infinite s else nan
  | infinite _, nan => nan
  | infinite s, finite _ _ _ => infinite s
  | nan, _ => nan

def mulNat (x : Binary64) (k : Nat) : Binary64 :=
  match x with
  | finite s m e =>
      let (a, b) := scale (m * k) 1 e
      ofRatio s a b
  | infinite s => if k = 0 then nan else infinite s
  | nan => nan

def toInt? : Binary64 → Option Int
  | finite s m e =>
      let d := Nat.pow 2 (-e).toNat
      let n := Int.ofNat (m * Nat.pow 2 e.toNat / d)
      if m % d = 0 then some (if s then -n else n) else none
  | _ => none

end Binary64

end Monotype
