import Monotype.Proofs.Inference.Leaves

namespace Monotype

theorem Store.slots_allocate (s : Store) (k : Nat) :
    (s.allocate k).slots = s.slots ++ ((List.range' s.size k).map fun i : Nat => Ty.var i).toArray := by
  induction k with
  | zero => simp [allocate]
  | succ k ih =>
      have hnext : (s.allocate k).nextId = (s.size + k : Nat) := congrArg Int.ofNat (s.size_allocate k)
      rw [allocate, fresh, hnext, ih, List.range'_1_concat]
      simp

namespace Expr

theorem countP_nodes_app (p : Expr → Bool) (f a : Expr) :
    (app f a).nodes.countP p = f.nodes.countP p + a.nodes.countP p + if p (app f a) then 1 else 0 := by
  rw [nodes, List.countP_cons, List.countP_append]

theorem countP_nodes_abs (p : Expr → Bool) (x : String) (b : Expr) :
    (abs x b).nodes.countP p = b.nodes.countP p + if p (abs x b) then 1 else 0 := by
  rw [nodes, List.countP_cons]

theorem emission_counts {e : Expr} {Γ : Context} {n : Nat} {t : Ty} (h : (e.emission Γ n).outcome = .ok t) :
    (e.emission Γ n).slots = e.nodes.countP isApp + e.nodes.countP isAbs ∧
      (e.emission Γ n).equations.length = e.nodes.countP isApp := by
  induction e generalizing Γ n t with
  | var x =>
      rw [emission] at h ⊢
      cases hx : Γ x with
      | some u => exact ⟨rfl, rfl⟩
      | none => simp [hx] at h
  | app f a ihf iha =>
      obtain ⟨p, u, hf, ha⟩ := emission_app_ok h
      obtain ⟨hfslots, hfequations⟩ := ihf hf
      obtain ⟨haslots, haequations⟩ := iha ha
      have happ : isApp (app f a) = true := rfl
      have habs : isAbs (app f a) = false := rfl
      rw [emission_app hf ha]
      simp only [Emission.followedBy, Emission.application, countP_nodes_app, happ, habs, List.length_append,
        List.length_singleton, Bool.false_eq_true, if_true, if_false]
      omega
  | abs x b ih =>
      obtain ⟨r, hb, _⟩ := emission_abs_ok h
      obtain ⟨hslots, hequations⟩ := ih hb
      have happ : isApp (abs x b) = false := rfl
      have habs : isAbs (abs x b) = true := rfl
      simp only [emission, countP_nodes_abs, happ, habs, Bool.false_eq_true, if_true, if_false]
      omega
  | const c => cases h

end Expr

namespace Session

theorem add_eq (s : Session) (r : Emission) :
    s.add r =
      { s with
        store := ⟨s.store.slots ++ ((List.range' s.store.size r.slots).map fun i : Nat => Ty.var i).toArray⟩
        equations := s.equations ++ r.equations.toArray
        trace := s.trace ++ r.events.toArray } := by
  rw [add, ← Store.slots_allocate]

/-- Whatever the session is, inferring only adds to it: new slots, which are unbound, behind the old ones, equations and
events behind the old ones, and nothing to the scopes of its environment. It ends with a type, and has then added a slot
for each application and abstraction and an equation for each application; or it stops at a name without a type or at
a constant. -/
theorem infer_appends (e : Expr) (s : Session) :
    ∃ (k : Nat) (qs : List Equation) (events : List Event),
      let after : Session :=
        { s with
          store := ⟨s.store.slots ++ ((List.range' s.store.size k).map fun i : Nat => Ty.var i).toArray⟩
          equations := s.equations ++ qs.toArray
          trace := s.trace ++ events.toArray }
      (∃ t, infer e s = .ok t after ∧
          k = e.nodes.countP Expr.isApp + e.nodes.countP Expr.isAbs ∧ qs.length = e.nodes.countP Expr.isApp) ∨
        (∃ x, infer e s = .error (.unbound x) after) ∨ ∃ c, infer e s = .error (.untyped c) after := by
  have hinfer := infer_eq_emit e s
  generalize hr : e.emission s.env.lookup s.store.size = r at hinfer
  refine ⟨r.slots, r.equations, r.events, ?_⟩
  intro after
  rw [emit, add_eq] at hinfer
  cases ho : r.outcome with
  | ok t =>
      rw [ho] at hinfer
      rw [← hr] at ho
      obtain ⟨hslots, hequations⟩ := Expr.emission_counts ho
      rw [hr] at hslots hequations
      exact .inl ⟨t, hinfer, hslots, hequations⟩
  | error err =>
      rw [ho] at hinfer
      rw [← hr, Expr.emission_error_iff] at ho
      obtain ⟨x, rfl⟩ | ⟨c, _, rfl⟩ := Leaf.first_fault_cases ho
      · exact .inr (.inl ⟨x, hinfer⟩)
      · exact .inr (.inr ⟨c, hinfer⟩)

end Session

end Monotype
