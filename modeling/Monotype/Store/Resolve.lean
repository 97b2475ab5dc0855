import Monotype.Store.Basic

namespace Monotype.Store

def headWithin (s : Store) : Nat → Ty → Except StoreError Ty
  | _, .con f args => .ok (.con f args)
  | 0, .var id => do
      let t ← s.slot id
      if t = .var id then .ok t else .error .cyclic
  | hops + 1, .var id => do
      let t ← s.slot id
      if t = .var id then .ok t else headWithin s hops t

def head (s : Store) (t : Ty) : Except StoreError Ty := s.headWithin s.size t

def reachesWithin (s : Store) (target : Int) : Nat → Int → Except StoreError Bool
  | 0, id => do
      let t ← s.slot id
      if t = .var id then .ok (decide (id = target)) else .error .cyclic
  | hops + 1, id => do
      let t ← s.slot id
      if t = .var id then .ok (decide (id = target)) else t.anyVarM (reachesWithin s target hops)

/-- Whether the unbound variable `target` is reached from `t`. -/
def occurs (s : Store) (target : Int) (t : Ty) : Except StoreError Bool :=
  t.anyVarM (s.reachesWithin target s.size)

def resolveWithin (s : Store) : Nat → Int → Except StoreError Ty
  | 0, id => do
      let t ← s.slot id
      if t = .var id then .ok t else .error .cyclic
  | hops + 1, id => do
      let t ← s.slot id
      if t = .var id then .ok t else t.substituteM (resolveWithin s hops)

def substitute (s : Store) (t : Ty) : Except StoreError Ty :=
  t.substituteM (s.resolveWithin s.size)

end Monotype.Store
