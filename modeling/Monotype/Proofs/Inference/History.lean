import Monotype.Proofs.Inference.Emission
import Monotype.Proofs.Store.Run

namespace Monotype

open Store

theorem Store.Reachable.allocate {s : Store} (h : s.Reachable) (k : Nat) : (s.allocate k).Reachable := by
  induction k with
  | zero => exact h
  | succ k ih => exact ih.fresh

namespace Session

inductive Request where
  | infer (e : Expr)
  | solve
  | substitute (t : Ty)
  | fresh
  | constrain (left right : Ty)
  | extend (name : String) (t : Ty)
  | push
  | pop
  | lookup (name : String)

/-- The session after a request, which may have failed. Looking up a name only reads the environment. -/
def serve (s : Session) : Request → Session
  | .infer e => final (infer e s)
  | .solve => final (solve s)
  | .substitute t => final (substitute t s)
  | .fresh => final (fresh s)
  | .constrain left right => final (constrain left right s)
  | .extend name t => final (extend name t s)
  | .push => final (push s)
  | .pop => final (pop s)
  | .lookup _ => s

theorem final_emit (r : Emission) (s : Session) : final (emit r s) = s.add r := by
  unfold emit
  cases r.outcome <;> rfl

theorem store_final_solve (s : Session) :
    (final (solve s)).store = (final (s.equations.toList.forM Unifier.solve
      { store := s.store, trace := s.trace.push (.solving s.equations.size) })).store := by
  rw [solve_eq]
  split
  · next h => rw [h]; rfl
  · next h => rw [h]; rfl

theorem serve_reachable {s : Session} (h : s.store.Reachable) (r : Request) : (s.serve r).store.Reachable := by
  cases r with
  | infer e =>
      rw [serve, infer_eq_emit, final_emit]
      exact h.allocate _
  | solve =>
      rw [serve, store_final_solve]
      exact Reachable.solveAll s.equations.toList h
  | substitute t =>
      rw [serve, substitute]
      cases s.store.substitute t <;> exact h
  | fresh => exact h.fresh
  | constrain | extend | push | lookup => exact h
  | pop =>
      rw [serve, pop]
      cases s.env.pop <;> exact h

theorem serve_all_reachable {s : Session} (h : s.store.Reachable) (rs : List Request) :
    (rs.foldl serve s).store.Reachable := by
  induction rs generalizing s with
  | nil => exact h
  | cons r rs ih => exact ih (serve_reachable h r)

end Session

namespace Unifier

inductive Request where
  | fresh
  | unify (left right : Ty)
  | solve (e : Equation)

def serve (u : Unifier) : Request → Unifier
  | .fresh => { u with store := u.store.fresh }
  | .unify left right => final (unify left right u)
  | .solve e => final (solve e u)

theorem serve_all_reachable {u : Unifier} (h : u.store.Reachable) (rs : List Request) :
    (rs.foldl serve u).store.Reachable := by
  induction rs generalizing u with
  | nil => exact h
  | cons r rs ih =>
      apply ih
      cases r with
      | fresh => exact h.fresh
      | unify left right => exact h.unify left right
      | solve e => exact h.unify e.left e.right

end Unifier

/-- After every history, of a session as of a store alone, each variable in a slot has a slot itself and no variable
is bound through itself. -/
theorem wellFormed_after_history :
    (∀ (base : Scope) (rs : List Session.Request), (rs.foldl Session.serve (Session.start base)).store.WellFormed) ∧
      ∀ rs : List Unifier.Request, (rs.foldl Unifier.serve {}).store.WellFormed := by
  constructor
  · intro base rs
    exact (Session.serve_all_reachable (s := Session.start base) .empty rs).wellFormed
  · intro rs
    exact (Unifier.serve_all_reachable (u := {}) .empty rs).wellFormed

end Monotype
