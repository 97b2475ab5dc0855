import Monotype.Text.Quoted

namespace Monotype.Text.Utf8

inductive Reason where
  | start
  | continuation
  | ended
  deriving DecidableEq

def Reason.text : Reason → String
  | start => "invalid start byte"
  | continuation => "invalid continuation byte"
  | ended => "unexpected end of data"

structure Error where
  position : Nat
  bytes : List UInt8
  reason : Reason
  deriving DecidableEq

def Error.place (e : Error) : String :=
  match e.bytes with
  | [b] => "byte 0x" ++ String.ofList (hexDigits 2 b.toNat) ++ " in position " ++ toString e.position
  | bs => "bytes in position " ++ toString e.position ++ "-" ++ toString (e.position + bs.length - 1)

def Error.message (e : Error) : String := "'utf-8' codec can't decode " ++ e.place ++ ": " ++ e.reason.text

/-- What a first byte announces: how many bytes follow, its own bits, and the bounds of the next byte. They keep
out long forms, surrogates and numbers beyond the last code point. -/
structure Lead where
  more : Nat
  bits : Nat
  low : Nat := 0x80
  high : Nat := 0xBF

def lead? (b : Nat) : Option Lead :=
  if b < 0x80 then some { more := 0, bits := b }
  else if b < 0xC2 then none
  else if b < 0xE0 then some { more := 1, bits := b - 0xC0 }
  else if b < 0xF0 then
    some { more := 2, bits := b - 0xE0, low := if b = 0xE0 then 0xA0 else 0x80, high := if b = 0xED then 0x9F else 0xBF }
  else if b < 0xF5 then
    some { more := 3, bits := b - 0xF0, low := if b = 0xF0 then 0x90 else 0x80, high := if b = 0xF4 then 0x8F else 0xBF }
  else none

def follow (low high bits : Nat) : Nat → List UInt8 → Except (Reason × Nat) (Nat × List UInt8)
  | 0, bs => .ok (bits, bs)
  | _ + 1, [] => .error (.ended, 0)
  | n + 1, b :: bs =>
      if low ≤ b.toNat ∧ b.toNat ≤ high then
        match follow 0x80 0xBF (bits * 64 + (b.toNat - 0x80)) n bs with
        | .ok r => .ok r
        | .error (reason, good) => .error (reason, good + 1)
      else .error (.continuation, 0)

theorem follow_length {low high bits n m : Nat} {bs rest : List UInt8}
    (h : follow low high bits n bs = .ok (m, rest)) : rest.length ≤ bs.length := by
  induction n generalizing low high bits bs with
  | zero => simp [follow] at h; simp [h.2]
  | succ n ih =>
      cases bs with
      | nil => simp [follow] at h
      | cons b bs =>
          rw [follow] at h
          split at h
          · split at h
            · rename_i r hr
              cases h
              exact Nat.le_succ_of_le (ih hr)
            · cases h
          · cases h

def decodeFrom (position : Nat) (bs : List UInt8) : Except Error (List Char) :=
  match bs with
  | [] => .ok []
  | b :: rest =>
      match lead? b.toNat with
      | none => .error ⟨position, [b], .start⟩
      | some l =>
          match _h : follow l.low l.high l.bits l.more rest with
          | .error (reason, good) => .error ⟨position, b :: rest.take good, reason⟩
          | .ok (n, rest) => do return Char.ofNat n :: (← decodeFrom (position + 1 + l.more) rest)
termination_by bs.length
decreasing_by
  have := follow_length _h
  simp_wf
  omega

def decode (bs : List UInt8) : Except Error (List Char) := decodeFrom 0 bs

end Monotype.Text.Utf8
