import Monotype.Literal.Evaluation
import Mathlib.Tactic.Common

namespace Monotype.Literal

def fault? {α : Type} : Except Error α → Option Error
  | .ok _ => none
  | .error e => some e

theorem fault?_eq_some_iff {α : Type} {r : Except Error α} {e : Error} : fault? r = some e ↔ r = .error e := by
  cases r <;> simp [fault?]

theorem fault?_bind {α β : Type} {r : Except Error α} {f : α → Except Error β} {first rest : List Error}
    (hr : fault? r = first.head?) (hf : ∀ a, r = .ok a → fault? (f a) = rest.head?) :
    fault? (r >>= f) = (first ++ rest).head? := by
  cases r with
  | error e =>
      rw [List.head?_append, ← hr]
      rfl
  | ok a =>
      rw [List.head?_append, ← hr]
      exact hf a rfl

theorem exists_of_bind_ok {α β : Type} {r : Except Error α} {f : α → Except Error β} {b : β} (h : (r >>= f) = .ok b) :
    ∃ a, r = .ok a ∧ f a = .ok b := by
  cases r with
  | error e => cases h
  | ok a => exact ⟨a, rfl, h⟩

theorem fault?_map {α β : Type} (r : Except Error α) (f : α → β) : fault? (r >>= fun a => pure (f a)) = fault? r := by
  cases r <;> rfl

namespace Term

mutual

/-- The kind of the part that keeps the value of a term from being a key. -/
def unhashable? : Term → Option String
  | value v => v.unhashable?
  | signed v => v.unhashable?
  | list _ => some "list"
  | set _ => some "set"
  | dict _ => some "dict"
  | tuple ts => unhashableIn? ts
  | _ => none

def unhashableIn? : List Term → Option String
  | [] => none
  | t :: ts => t.unhashable?.or (unhashableIn? ts)

end

def keyFault (t : Term) : List Error := (t.unhashable?.map .unhashable).toList

mutual

/-- The faults of a term from left to right. Elements and keys are checked one by one, a key behind the value of its
entry. -/
def faults : Term → List Error
  | value _ => []
  | signed _ => []
  | sum _ re (.complex _ _) => (fault? (real re)).toList
  | list ts => faultsIn ts
  | tuple ts => faultsIn ts
  | set ts => elementFaults ts
  | dict es => entryFaults es
  | _ => [.malformed]

def faultsIn : List Term → List Error
  | [] => []
  | t :: ts => t.faults ++ faultsIn ts

def elementFaults : List Term → List Error
  | [] => []
  | t :: ts => t.faults ++ (t.keyFault ++ elementFaults ts)

def entryFaults : List (Term × Term) → List Error
  | [] => []
  | (k, t) :: es => k.faults ++ (t.faults ++ (k.keyFault ++ entryFaults es))

end

mutual

theorem unhashable?_of_eval {t : Term} {v : Value} (h : t.eval = .ok v) : v.unhashable? = t.unhashable? := by
  match t with
  | value _ | signed _ =>
      cases h
      rfl
  | sum negative re im =>
      cases im with
      | complex _ im =>
          rw [eval] at h
          obtain ⟨x, -, hv⟩ := exists_of_bind_ok h
          cases hv
          cases negative <;> rfl
      | _ => cases h
  | list _ | set _ | dict _ =>
      rw [eval] at h
      obtain ⟨vs, -, hv⟩ := exists_of_bind_ok h
      cases hv
      rfl
  | tuple ts =>
      rw [eval] at h
      obtain ⟨vs, hvs, hv⟩ := exists_of_bind_ok h
      cases hv
      exact unhashableIn?_of_evalAll hvs
  | name _ | starred _ | access _ | other _ => cases h

theorem unhashableIn?_of_evalAll {ts : List Term} {vs : List Value} (h : evalAll ts = .ok vs) :
    Value.unhashableIn? vs = unhashableIn? ts := by
  match ts with
  | [] =>
      cases h
      rfl
  | t :: ts =>
      rw [evalAll] at h
      obtain ⟨v, hv, h⟩ := exists_of_bind_ok h
      obtain ⟨vs, hvs, h⟩ := exists_of_bind_ok h
      cases h
      rw [Value.unhashableIn?, unhashableIn?, unhashable?_of_eval hv, unhashableIn?_of_evalAll hvs]

end

theorem fault?_checkKey {t : Term} {v : Value} (h : t.eval = .ok v) : fault? (checkKey v) = t.keyFault.head? := by
  rw [checkKey, keyFault, ← unhashable?_of_eval h]
  cases v.unhashable? <;> rfl

mutual

theorem fault?_eval (t : Term) : fault? t.eval = t.faults.head? := by
  match t with
  | value _ | signed _ => rfl
  | sum negative re im =>
      cases im with
      | complex _ im =>
          rw [eval, fault?_map, faults]
          cases fault? (real re) <;> rfl
      | _ => rfl
  | list ts | tuple ts => rw [eval, fault?_map, fault?_evalAll, faults]
  | set ts => rw [eval, fault?_map, fault?_evalSet, faults]
  | dict es => rw [eval, fault?_map, fault?_evalEntries, faults]
  | name _ | starred _ | access _ | other _ => rfl

theorem fault?_evalAll (ts : List Term) : fault? (evalAll ts) = (faultsIn ts).head? := by
  match ts with
  | [] => rfl
  | t :: ts =>
      rw [evalAll, faultsIn]
      refine fault?_bind (fault?_eval t) fun v _ => ?_
      rw [fault?_map, fault?_evalAll]

theorem fault?_evalSet (acc : List Value) (ts : List Term) : fault? (evalSet acc ts) = (elementFaults ts).head? := by
  match ts with
  | [] => rfl
  | t :: ts =>
      rw [evalSet, elementFaults]
      -- What has been collected so far has no part in the faults: an element is checked before it is looked for there.
      refine fault?_bind (fault?_eval t) fun v hv => ?_
      refine fault?_bind (fault?_checkKey hv) fun _ _ => ?_
      exact fault?_evalSet _ ts

theorem fault?_evalEntries (acc : List (Value × Value)) (es : List (Term × Term)) :
    fault? (evalEntries acc es) = (entryFaults es).head? := by
  match es with
  | [] => rfl
  | (k, t) :: es =>
      rw [evalEntries, entryFaults]
      refine fault?_bind (fault?_eval k) fun key hkey => ?_
      refine fault?_bind (fault?_eval t) fun v _ => ?_
      refine fault?_bind (fault?_checkKey hkey) fun _ _ => ?_
      exact fault?_evalEntries _ es

end

end Term

/-- The fault that a text ends with: it is no expression, or one that is nested too deep, or it has a first fault. -/
def firstFault? (limit : Nat) (source : String) : Option Error :=
  match parse? source with
  | some t => if limit < t.depth then some .tooDeep else t.faults.head?
  | none => some .malformed

theorem fault?_read (limit : Nat) (source : String) : fault? (read limit source) = firstFault? limit source := by
  rw [read, firstFault?]
  cases parse? source with
  | none => rfl
  | some t =>
      by_cases hdepth : limit < t.depth
      · simp only [if_pos hdepth, fault?]
      · simp only [if_neg hdepth, t.fault?_eval]

theorem read_error_iff {limit : Nat} {source : String} {e : Error} :
    read limit source = .error e ↔ firstFault? limit source = some e := by
  rw [← fault?_read, fault?_eq_some_iff]

end Monotype.Literal
