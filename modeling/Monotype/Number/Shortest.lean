import Monotype.Number.Binary64

namespace Monotype.Binary64

structure Decimal where
  digits : List Char
  point : Int
  deriving DecidableEq

def quarters (m : Nat) (e : Int) : Nat × Nat :=
  let low := if m = Nat.pow 2 52 ∧ leastExponent < e then 4 * m - 1 else 4 * m - 2
  (low, 4 * m + 2)

def roundsTo (m : Nat) (e : Int) (n : Nat) (k : Int) : Bool :=
  let (low, high) := quarters m e
  let unit := scale 1 1 (e - 2)
  let ten := (Nat.pow 10 k.toNat, Nat.pow 10 (-k).toNat)
  let left := n * ten.1 * unit.2
  let lowEnd := low * unit.1 * ten.2
  let highEnd := high * unit.1 * ten.2
  if m % 2 = 0 then decide (lowEnd ≤ left) && decide (left ≤ highEnd)
  else decide (lowEnd < left) && decide (left < highEnd)

/-- Of the two neighbours of `v * 10 ^ w` on the grid of `10 ^ k`, the one that is rounded to `m * 2 ^ e`; the
nearer one if both are, and the even one halfway. -/
def gridPoint? (m : Nat) (e : Int) (v : Nat) (w k : Int) : Option Nat :=
  let d := Nat.pow 10 (k - w).toNat
  let v := v * Nat.pow 10 (w - k).toNat
  let low := v / d
  match roundsTo m e low k, roundsTo m e (low + 1) k with
  | true, true => some (roundDiv v d)
  | true, false => some low
  | false, true => some (low + 1)
  | false, false => none

def trimZeros (ds : List Char) : List Char := (ds.reverse.dropWhile (· == '0')).reverse

def shortest (m : Nat) (e : Int) : Decimal :=
  let (v, w) : Nat × Int := if 0 ≤ e then (m * Nat.pow 2 e.toNat, 0) else (m * Nat.pow 5 (-e).toNat, e)
  let point : Int := (Nat.toDigits 10 v).length - 1 + w
  let candidates := (List.range 17).filterMap fun (i : Nat) =>
    (gridPoint? m e v w (point - i)).map fun n => (n, point - i)
  match candidates.head? with
  | none => ⟨[], 0⟩
  | some (n, k) =>
      let digits := Nat.toDigits 10 n
      ⟨trimZeros digits, k + digits.length - 1⟩

/-- How a number is written: from `positionalFrom` up to below `positionalBelow` powers of ten without an
exponent, and whole numbers with a closing `.0` if `fraction` is set. -/
structure Format where
  positionalFrom : Int
  positionalBelow : Int
  fraction : Bool

def writePositional (f : Format) (d : Decimal) : List Char :=
  if d.point < 0 then '0' :: '.' :: List.replicate (-d.point - 1).toNat '0' ++ d.digits
  else
    let places := d.point.toNat + 1
    let whole := d.digits.take places ++ List.replicate (places - d.digits.length) '0'
    match d.digits.drop places with
    | [] => if f.fraction then whole ++ ['.', '0'] else whole
    | rest => whole ++ '.' :: rest

def writeExponent (d : Decimal) : List Char :=
  let lead := match d.digits with
    | [] => ['0']
    | [c] => [c]
    | c :: cs => c :: '.' :: cs
  let power := Nat.toDigits 10 d.point.natAbs
  lead ++ 'e' :: (if d.point < 0 then '-' else '+') :: (List.replicate (2 - power.length) '0' ++ power)

def write (f : Format) (x : Binary64) : String :=
  match x with
  | nan => "nan"
  | infinite s => if s then "-inf" else "inf"
  | finite s m e =>
      let d := if m = 0 then ⟨['0'], 0⟩ else shortest m e
      let body :=
        if f.positionalFrom ≤ d.point ∧ d.point < f.positionalBelow then writePositional f d else writeExponent d
      String.ofList (if s then '-' :: body else body)

end Monotype.Binary64
