import Monotype.Inference.Session
import Monotype.Proofs.Store.Comparison
import Mathlib.Logic.Function.Basic

namespace Monotype

namespace Session

/-- Infer by recursion on the expression: a function before its argument, and the scope of a body closed behind it. -/
def inferDirect : Expr → InferM Ty
  | .var x => lookup x
  | .app f a => do applyTo (← inferDirect f) (inferDirect a)
  | .abs x b => do
      let parameter ← fresh
      let result ← inScope do
        extend x parameter
        inferDirect b
      return .fn parameter result
  | .const c => throw (.untyped c)

theorem inferPending_eq (e : Expr) (pending : List (InferM Ty)) :
    inferPending e pending = inferDirect e >>= fun t => pending.foldlM applyTo t := by
  induction e generalizing pending with
  | var x => rw [inferPending, inferDirect]
  | app f a ihf iha =>
      have ha : inferPending a [] = inferDirect a := by
        rw [iha]
        exact bind_pure _
      rw [inferPending, ihf, ha, inferDirect, bind_assoc]
      simp only [List.foldlM_cons]
  | abs x b ih =>
      have hb : inferPending b [] = inferDirect b := by
        rw [ih]
        exact bind_pure _
      simp only [inferPending, inferDirect, hb, bind_assoc, pure_bind]
  | const c => rfl

theorem infer_eq_inferDirect (e : Expr) : infer e = inferDirect e := by
  rw [infer, inferPending_eq]
  exact bind_pure _

end Session

namespace Store

def allocate (s : Store) : Nat → Store
  | 0 => s
  | k + 1 => (s.allocate k).fresh

@[simp] theorem size_fresh (s : Store) : s.fresh.size = s.size + 1 := by simp [fresh, size]

@[simp] theorem size_allocate (s : Store) (k : Nat) : (s.allocate k).size = s.size + k := by
  induction k with
  | zero => rfl
  | succ k ih => rw [allocate, size_fresh, ih, Nat.add_assoc]

theorem allocate_allocate (s : Store) (j k : Nat) : (s.allocate j).allocate k = s.allocate (j + k) := by
  induction k with
  | zero => rfl
  | succ k ih => rw [allocate, ih, ← Nat.add_assoc, allocate]

theorem fresh_allocate (s : Store) (k : Nat) : s.fresh.allocate k = s.allocate (k + 1) := by
  rw [Nat.add_comm]
  exact s.allocate_allocate 1 k

theorem WellFormed.allocate {s : Store} (hs : s.WellFormed) (k : Nat) : (s.allocate k).WellFormed := by
  induction k with
  | zero => exact hs
  | succ k ih => exact ih.fresh

theorem solves_fresh {s : Store} {σ : Int → Ty} : s.fresh.Solves σ ↔ s.Solves σ := by
  constructor
  · intro h i t ht
    refine h i t ?_
    rw [slot?_fresh, if_neg, ht]
    rintro rfl
    have hlt := (allocated_of_slot? ht).2
    omega
  · intro h i t ht
    rw [slot?_fresh] at ht
    split at ht
    · cases ht
      rw [Ty.apply_var]
    · exact h i t ht

theorem solves_allocate {s : Store} {σ : Int → Ty} {k : Nat} : (s.allocate k).Solves σ ↔ s.Solves σ := by
  induction k with
  | zero => exact Iff.rfl
  | succ k ih => exact solves_fresh.trans ih

end Store

namespace Environment

theorem lookup_push_extend (env : Environment) (x : String) (t : Ty) :
    (env.push.extend x t).lookup = Function.update env.lookup x (some t) := by
  funext y
  by_cases h : y = x
  · subst h
    simp [lookup, push, extend, scopes, Entries.put, Entries.get?]
  · have hne : x ≠ y := fun he => h he.symm
    simp [lookup, push, extend, scopes, Entries.put, Entries.get?, h, hne]

end Environment

/-- The outcome of inferring an expression, the number of new slots, and the equations and events in their order. -/
structure Emission where
  outcome : Except InferError Ty
  slots : Nat := 0
  equations : List Equation := []
  events : List Event := []

namespace Emission

def followedBy (r q : Emission) : Emission :=
  ⟨q.outcome, r.slots + q.slots, r.equations ++ q.equations, r.events ++ q.events⟩

def application (function argument : Ty) (result : Nat) : Emission :=
  let equation : Equation := ⟨function, .fn argument (.var result)⟩
  ⟨.ok (.var result), 1, [equation], [.fresh result, .constraint equation]⟩

def andThen (r : Emission) (f : Ty → Emission) : Emission :=
  match r.outcome with
  | .ok t => r.followedBy (f t)
  | .error _ => r

end Emission

/-- What inferring adds where names have the types `Γ` and `n` is the next variable. -/
def Expr.emission (Γ : String → Option Ty) (n : Nat) : Expr → Emission
  | .var x =>
      match Γ x with
      | some t => ⟨.ok t, 0, [], []⟩
      | none => ⟨.error (.unbound x), 0, [], [.unbound x]⟩
  | .app f a =>
      let r := f.emission Γ n
      r.andThen fun t =>
        let q := a.emission Γ (n + r.slots)
        q.andThen fun u => .application t u (n + r.slots + q.slots)
  | .abs x b =>
      let r := b.emission (Function.update Γ x (some (.var n))) (n + 1)
      ⟨r.outcome.map (.fn (.var n)), r.slots + 1, r.equations, .fresh n :: r.events⟩
  | .const c => ⟨.error (.untyped c), 0, [], []⟩

namespace Session

def add (s : Session) (r : Emission) : Session :=
  { s with
    store := s.store.allocate r.slots
    equations := s.equations ++ r.equations.toArray
    trace := s.trace ++ r.events.toArray }

def emit (r : Emission) : InferM Ty := fun s =>
  match r.outcome with
  | .ok t => .ok t (s.add r)
  | .error e => .error e (s.add r)

theorem size_add (s : Session) (r : Emission) : (s.add r).store.size = s.store.size + r.slots :=
  Store.size_allocate s.store r.slots

theorem add_add (s : Session) (r q : Emission) : (s.add r).add q = s.add (r.followedBy q) := by
  simp [add, Emission.followedBy, Store.allocate_allocate]

theorem emit_andThen {m : InferM Ty} {f : Ty → InferM Ty} {s : Session} {r : Emission} {g : Ty → Emission}
    (hm : m s = emit r s) (hf : ∀ t, f t (s.add r) = emit (g t) (s.add r)) :
    (m >>= f) s = emit (r.andThen g) s := by
  unfold emit Emission.andThen at *
  cases hr : r.outcome with
  | error e =>
      rw [hr] at hm
      rw [bind_of_error hm]
      simp [hr]
  | ok t =>
      rw [hr] at hm
      rw [bind_of_ok hm, hf t]
      simp only [Emission.followedBy, add_add]

theorem lookup_eq (x : String) (s : Session) :
    lookup x s =
      match s.env.lookup x with
      | some t => .ok t s
      | none => .error (.unbound x) { s with trace := s.trace.push (.unbound x) } := by
  change (match s.env.lookup x with
    | some t => return t
    | none => do
        tell (.unbound x)
        throw (.unbound x) : InferM Ty) s = _
  cases s.env.lookup x <;> rfl

theorem application_eq (function argument : Ty) (s : Session) :
    (do let result ← fresh
        constrain function (.fn argument result)
        return result : InferM Ty) s = emit (.application function argument s.store.size) s := by
  simp [emit, Emission.application, add, Store.allocate]
  rfl

theorem inScope_eq {α : Type} (act : InferM α) (s : Session) :
    inScope act s =
      match act { s with env := s.env.push } with
      | .ok a s => (do pop; return a : InferM α) s
      | .error e s => (do pop; throw e : InferM α) s := by
  have hpush : push s = .ok () { s with env := s.env.push } := rfl
  exact bind_of_ok hpush

theorem inScope_extend {m : InferM Ty} {x : String} {t : Ty} {s : Session} {r : Emission}
    (h : m { s with env := s.env.push.extend x t } = emit r { s with env := s.env.push.extend x t }) :
    inScope (do extend x t; m) s = emit r s := by
  -- The scope of a body is closed on both ways out, so that only what the body emits is left of it.
  have hbody : (do extend x t; m : InferM Ty) { s with env := s.env.push } =
      emit r { s with env := s.env.push.extend x t } := h
  rw [inScope_eq, hbody]
  unfold emit
  cases r.outcome <;> rfl

/-- Inferring an expression does exactly what its emission says, and leaves the environment as it was. -/
theorem inferDirect_eq_emit (e : Expr) (s : Session) :
    inferDirect e s = emit (e.emission s.env.lookup s.store.size) s := by
  induction e generalizing s with
  | var x =>
      rw [inferDirect, Expr.emission, lookup_eq]
      cases s.env.lookup x <;> simp [emit, add, Store.allocate]
  | app f a ihf iha =>
      rw [inferDirect, Expr.emission]
      refine emit_andThen (ihf s) fun t => ?_
      have ha := iha (s.add (f.emission s.env.lookup s.store.size))
      rw [size_add] at ha
      refine emit_andThen ha fun u => ?_
      rw [application_eq, size_add, size_add]
  | abs x b ih =>
      rw [inferDirect, Expr.emission]
      let s' : Session := { s with store := s.store.fresh, trace := s.trace.push (.fresh s.store.size) }
      have hb := ih { s' with env := s.env.push.extend x (.var s.store.size) }
      rw [Environment.lookup_push_extend, Store.size_fresh] at hb
      have hscope := inScope_extend (s := s') hb
      have hfresh : fresh s = .ok (.var s.store.size) s' := rfl
      refine (bind_of_ok hfresh).trans ?_
      generalize b.emission (Function.update s.env.lookup x (some (.var s.store.size))) (s.store.size + 1) = r at hscope
      have hadd : s'.add r = s.add ⟨r.outcome.map (.fn (.var s.store.size)), r.slots + 1, r.equations,
          .fresh s.store.size :: r.events⟩ := by
        simp [add, s', Store.fresh_allocate]
      unfold emit at hscope ⊢
      rw [hadd] at hscope
      cases hr : r.outcome with
      | ok t =>
          rw [hr] at hscope
          exact bind_of_ok hscope
      | error e =>
          rw [hr] at hscope
          exact bind_of_error hscope
  | const c => simp [emit, add, Store.allocate, Expr.emission, inferDirect]; rfl

theorem infer_eq_emit (e : Expr) (s : Session) :
    infer e s = emit (e.emission s.env.lookup s.store.size) s := by
  rw [infer_eq_inferDirect, inferDirect_eq_emit]

theorem infer_ok_iff {e : Expr} {s s' : Session} {t : Ty} :
    infer e s = .ok t s' ↔
      (e.emission s.env.lookup s.store.size).outcome = .ok t ∧ s' = s.add (e.emission s.env.lookup s.store.size) := by
  rw [infer_eq_emit, emit]
  cases (e.emission s.env.lookup s.store.size).outcome <;> simp [eq_comm]

theorem solve_eq (s : Session) :
    solve s =
      match s.equations.toList.forM Unifier.solve
          { store := s.store, trace := s.trace.push (.solving s.equations.size) } with
      | .ok _ u =>
          .ok () { s with store := u.store, trace := u.trace.push (.solved u.steps), equations := #[], solved := true }
      | .error e u => .error (.unify e) { s with store := u.store, trace := u.trace } := rfl

end Session

end Monotype
