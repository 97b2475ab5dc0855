import Monotype.Proofs.Inference.Leaves
import Monotype.Proofs.Store.Termination

namespace Monotype

namespace Store

variable {s : Store} {i : Int} {t : Ty} (k : Nat)

theorem allocated_allocate (h : s.Allocated i) : (s.allocate k).Allocated i := by
  induction k with
  | zero => exact h
  | succ k ih => exact allocated_fresh.2 (.inl ih)

theorem slot?_allocate (h : s.Allocated i) : (s.allocate k).slot? i = s.slot? i := by
  induction k with
  | zero => rfl
  | succ k ih =>
      have hlt := (allocated_allocate k h).2
      rw [allocate, slot?_fresh, if_neg (by omega), ih]

theorem assign_allocate (h : s.Allocated i) (t : Ty) : (s.assign i t).allocate k = (s.allocate k).assign i t := by
  induction k with
  | zero => rfl
  | succ k ih =>
      obtain ⟨hlow, hlt⟩ := allocated_allocate k h
      have hslot : i.toNat < (s.allocate k).slots.size := by
        unfold nextId at hlt
        omega
      rw [allocate, allocate, ih, fresh, assign, assign, fresh, nextId, nextId, Array.size_setIfInBounds]
      congr 1
      grind

theorem value_allocate (hs : s.WellFormed) (h : s.Allocated i) : (s.allocate k).value i = s.value i := by
  induction i using hs.induction with
  | step i ih =>
      obtain ⟨t, ht⟩ := allocated_iff.1 h
      have ht' : (s.allocate k).slot? i = some t := by rw [slot?_allocate k h, ht]
      by_cases hne : t = .var i
      · subst hne
        rw [value_unbound ht, value_unbound ht']
      · rw [value_eq hs ht, value_eq (hs.allocate k) ht']
        exact Ty.apply_congr fun j hj => ih j ⟨t, ht, hne, hj⟩ (hs.covers i t ht j hj)

theorem Covers.allocate (h : s.Covers t) : (s.allocate k).Covers t := fun i hi => allocated_allocate k (h i hi)

theorem apply_value_allocate (hs : s.WellFormed) (ht : s.Covers t) :
    t.apply (s.allocate k).value = t.apply s.value :=
  Ty.apply_congr fun i hi => value_allocate k hs (ht i hi)

theorem occurs_allocate (hs : s.WellFormed) (ht : s.Covers t) (target : Int) :
    (s.allocate k).occurs target t = s.occurs target t := by
  rw [occurs_eq (hs.allocate k) target (ht.allocate k), occurs_eq hs target ht, apply_value_allocate k hs ht]

theorem substitute_allocate (hs : s.WellFormed) (ht : s.Covers t) : (s.allocate k).substitute t = s.substitute t := by
  rw [substitute_eq (hs.allocate k) (ht.allocate k), substitute_eq hs ht, apply_value_allocate k hs ht]

theorem Heads.allocate {res : Except StoreError Ty} (h : Heads s t res) (hs : s.Closed) (ht : s.Covers t) :
    Heads (s.allocate k) t res := by
  induction h with
  | con f args => exact .con f args
  | unallocated h => exact absurd (Covers.var.1 ht) (not_allocated_of_slot? h)
  | unbound h => exact .unbound (by rw [slot?_allocate k (allocated_of_slot? h), h])
  | bound h hne _ ih => exact .bound (by rw [slot?_allocate k (allocated_of_slot? h), h]) hne (ih (hs _ _ h))

theorem head_allocate (hs : s.WellFormed) (ht : s.Covers t) : (s.allocate k).head t = s.head t := by
  have h : Heads s t (s.head t) := ((ends_head hs t).1 _).2 rfl
  exact ((ends_head (hs.allocate k) t).1 _).1 (h.allocate k hs.covers ht)

end Store

namespace Unifier

open Store

variable {s : Store} (k : Nat)

theorem VarMove.allocate (hs : s.WellFormed) {i : Int} (hi : s.Allocated i) {other : Ty} (ho : s.Covers other)
    {m : Move} (h : VarMove s i other m) : VarMove (s.allocate k) i other m := by
  have hslot := slot?_allocate k hi
  have hhead := head_allocate k hs ho
  have hoccurs := occurs_allocate k hs ho i
  have hsubst := substitute_allocate k hs ho
  cases h with
  | unallocated hn => exact absurd hi hn
  | follow ht hne => exact .follow (hslot.trans ht) hne
  | headFault hb hh => exact .headFault (hslot.trans hb) (hhead.trans hh)
  | chain hb hh => exact .chain (hslot.trans hb) (hhead.trans hh)
  | occursFault hb hh hne hf => exact .occursFault (hslot.trans hb) (hhead.trans hh) hne (hoccurs.trans hf)
  | infinite hb hh hne hf ht =>
      exact .infinite (hslot.trans hb) (hhead.trans hh) hne (hoccurs.trans hf) (hsubst.trans ht)
  | infiniteFault hb hh hne hf ht =>
      exact .infiniteFault (hslot.trans hb) (hhead.trans hh) hne (hoccurs.trans hf) (hsubst.trans ht)
  | bind hb hh hne hf => exact .bind (hslot.trans hb) (hhead.trans hh) hne (hoccurs.trans hf)

theorem Compares.allocate (hs : s.WellFormed) {l r : Ty} (hl : s.Covers l) (hr : s.Covers r) {m : Move}
    (h : Compares s l r m) : Compares (s.allocate k) l r m := by
  have hargs {f : String} {as : List Ty} (hf : s.Covers (.con f as)) :
      Ty.substituteArgsM ((s.allocate k).resolveWithin (s.allocate k).size) as =
        Ty.substituteArgsM (s.resolveWithin s.size) as := by
    rw [substituteArgsM_eq hs fun a ha => hf.arg ha,
      substituteArgsM_eq (hs.allocate k) fun a ha => (hf.arg ha).allocate k]
    exact congrArg _ (List.map_congr_left fun a ha => apply_value_allocate k hs (hf.arg ha))
  cases h with
  | same i => exact .same i
  | left hne h => exact .left hne (h.allocate k hs (Covers.var.1 hl) hr)
  | right h => exact .right (h.allocate k hs (Covers.var.1 hr) hl)
  | args h => exact .args h
  | clash h ha hb => exact .clash h ((hargs hl).trans ha) ((hargs hr).trans hb)
  | leftFault h ha => exact .leftFault h ((hargs hl).trans ha)
  | rightFault h ha hb => exact .rightFault h ((hargs hl).trans ha) ((hargs hr).trans hb)

/-- Both succeed or both fail with one error, and the second store is the first one with `k` more slots. -/
def Grown : Outcome → Outcome → Prop
  | .ok _ u, .ok _ v => v.store = u.store.allocate k
  | .error e u, .error e' v => e' = e ∧ v.store = u.store.allocate k
  | _, _ => False

variable {k}

theorem Grown.ok {a : Unit} {u : Unifier} {res : Outcome} (h : Grown k (.ok a u) res) :
    ∃ v, res = .ok () v ∧ v.store = u.store.allocate k := by
  cases res with
  | ok b v => exact ⟨v, rfl, h⟩
  | error err v => exact h.elim

theorem Grown.error {err : UnifyError} {u : Unifier} {res : Outcome} (h : Grown k (.error err u) res) :
    ∃ v, res = .error err v ∧ v.store = u.store.allocate k := by
  cases res with
  | ok b v => exact h.elim
  | error err' v =>
      obtain ⟨rfl, hv⟩ := h
      exact ⟨v, rfl, hv⟩

theorem Run.grown {u v : Unifier} {ps : List (Ty × Ty)} {res : Outcome} (h : Run u ps res) (hu : u.store.WellFormed)
    (hcov : ∀ p ∈ ps, u.store.Covers p.1 ∧ u.store.Covers p.2) (hv : v.store = u.store.allocate k) :
    ∃ res', Run v ps res' ∧ Grown k res res' := by
  induction h generalizing v with
  | done u => exact ⟨_, .done v, hv⟩
  | @next u l r ps rest res h _ ih =>
      obtain ⟨⟨hl, hr⟩, hrest⟩ := List.forall_mem_cons.1 hcov
      have hcmp := h.allocate k hu hl hr
      rw [← hv] at hcmp
      obtain ⟨res', hrun, hres⟩ :=
        ih hu (List.forall_mem_append.2 ⟨h.next_covers hu hl hr, hrest⟩) (v := v.ticked) hv
      exact ⟨res', .next hcmp hrun, hres⟩
  | @bind u l r i t rest res h _ ih =>
      obtain ⟨⟨hl, hr⟩, hrest⟩ := List.forall_mem_cons.1 hcov
      have hi := h.bind_inv.1
      have hext := Extends.assign hi t
      have hcmp := h.allocate k hu hl hr
      rw [← hv] at hcmp
      have hstore : (v.ticked.assigned i t).store = (u.ticked.assigned i t).store.allocate k := by
        simp [hv, assign_allocate k (allocated_of_slot? hi)]
      obtain ⟨res', hrun, hres⟩ := ih (h.wellFormed_assign hu)
        (fun p hp => ⟨hext.covers_iff.2 (hrest p hp).1, hext.covers_iff.2 (hrest p hp).2⟩) hstore
      exact ⟨res', .bind hcmp hrun, hres⟩
  | @fail u l r event e rest h =>
      obtain ⟨⟨hl, hr⟩, _⟩ := List.forall_mem_cons.1 hcov
      have hcmp := h.allocate k hu hl hr
      rw [← hv] at hcmp
      exact ⟨_, .fail hcmp, rfl, by simp [hv]⟩

theorem grown_unify {l r : Ty} {u v : Unifier} (hu : u.store.WellFormed) (hl : u.store.Covers l) (hr : u.store.Covers r)
    (hv : v.store = u.store.allocate k) : Grown k (unify l r u) (unify l r v) := by
  have hwf : v.store.WellFormed := by
    rw [hv]
    exact hu.allocate k
  obtain ⟨res, hrun, hres⟩ := (run_unify l r hu).grown hu (by simpa using ⟨hl, hr⟩) hv
  rwa [(run_iff hwf).1 hrun]

theorem grown_solveAll {es : List Equation} {u v : Unifier} (hu : u.store.WellFormed)
    (hcov : ∀ e ∈ es, u.store.Covers e.left ∧ u.store.Covers e.right) (hv : v.store = u.store.allocate k) :
    Grown k (es.forM solve u) (es.forM solve v) := by
  induction es generalizing u v with
  | nil => exact hv
  | cons e es ih =>
      obtain ⟨⟨hl, hr⟩, hes⟩ := List.forall_mem_cons.1 hcov
      have hfirst : Grown k (solve e u) (solve e v) := grown_unify hu hl hr hv
      change Grown k ((solve e >>= fun _ => es.forM solve) u) ((solve e >>= fun _ => es.forM solve) v)
      cases hsu : solve e u with
      | error err u' =>
          rw [hsu] at hfirst
          obtain ⟨v', hsv, hv'⟩ := hfirst.error
          rw [bind_of_error hsu, bind_of_error hsv]
          exact ⟨rfl, hv'⟩
      | ok a u' =>
          rw [hsu] at hfirst
          obtain ⟨v', hsv, hv'⟩ := hfirst.ok
          rw [bind_of_ok hsu, bind_of_ok hsv]
          obtain ⟨hext, hwf, _⟩ := unify_ok hu hsu
          exact ih hwf (fun q hq => ⟨hext.covers_iff.2 (hes q hq).1, hext.covers_iff.2 (hes q hq).2⟩) hv'

end Unifier

namespace Session

inductive Phase where
  | infer (e : Expr)
  | solve

/-- A run up to its first error: the unsolved types that it has returned, the phase that failed, and the session that is
left. -/
structure Transcript where
  types : List Ty := []
  stopped : Option (Phase × InferError) := none
  session : Session

def transcript (s : Session) : List Phase → Transcript
  | [] => { session := s }
  | .infer e :: ps =>
      match infer e s with
      | .ok t s =>
          let rest := s.transcript ps
          { rest with types := t :: rest.types }
      | .error err s => { stopped := some (.infer e, err), session := s }
  | .solve :: ps =>
      match solve s with
      | .ok _ s => s.transcript ps
      | .error err s => { stopped := some (.solve, err), session := s }

theorem transcript_infer {e : Expr} {s s' : Session} {t : Ty} (h : infer e s = .ok t s') (ps : List Phase) :
    s.transcript (.infer e :: ps) = { s'.transcript ps with types := t :: (s'.transcript ps).types } := by
  rw [transcript, h]

def unifier (s : Session) : Unifier := { store := s.store, trace := s.trace.push (.solving s.equations.size) }

theorem transcript_solve_ok {s : Session} {u : Unifier} (h : s.equations.toList.forM Unifier.solve s.unifier = .ok () u)
    (ps : List Phase) :
    s.transcript (.solve :: ps) = transcript
      { s with store := u.store, trace := u.trace.push (.solved u.steps), equations := #[], solved := true } ps := by
  have hsolve := solve_eq s
  rw [← unifier, h] at hsolve
  rw [transcript, hsolve]

theorem transcript_solve_error {s : Session} {u : Unifier} {err : UnifyError}
    (h : s.equations.toList.forM Unifier.solve s.unifier = .error err u) (ps : List Phase) :
    s.transcript (.solve :: ps) =
      ⟨[], some (.solve, .unify err), { s with store := u.store, trace := u.trace }⟩ := by
  have hsolve := solve_eq s
  rw [← unifier, h] at hsolve
  rw [transcript, hsolve]

/-- The runs return the same types as far as both go. Both come to their end with one table of slots, or both stop
while they solve, with one error and the same content of every slot that the shorter table has. -/
def Transcript.Agrees (early late : Transcript) : Prop :=
  early.types <+: late.types ∧
    (early.stopped = none ∧ late.stopped = none ∧ early.types = late.types ∧ early.session.store = late.session.store ∨
      ∃ err, early.stopped = some (.solve, err) ∧ late.stopped = some (.solve, err) ∧
        ∀ i, early.session.store.Allocated i → late.session.store.slot? i = early.session.store.slot? i)

theorem agrees_solve {s s' : Session} (hs : s.store.WellFormed)
    (hcov : ∀ q ∈ s.equations.toList, s.store.Covers q.left ∧ s.store.Covers q.right) {u : Unifier}
    (hu : u.store = s.store) {es : List Equation} (h : es.forM Unifier.solve s'.unifier = .ok () u)
    (hes : s'.equations.toList = es ++ s.equations.toList) :
    (s.transcript [.solve]).Agrees (s'.transcript [.solve]) := by
  have hgrown : Unifier.Grown 0 _ _ := Unifier.grown_solveAll (u := s.unifier) (v := u) hs hcov hu
  have hlate : s'.equations.toList.forM Unifier.solve s'.unifier = s.equations.toList.forM Unifier.solve u := by
    rw [hes, Unifier.solveAll_append]
    exact bind_of_ok h
  rw [← hlate] at hgrown
  cases hearly : s.equations.toList.forM Unifier.solve s.unifier with
  | ok a x =>
      rw [hearly] at hgrown
      obtain ⟨y, hy, hstore⟩ := hgrown.ok
      rw [transcript_solve_ok hearly, transcript_solve_ok hy]
      exact ⟨List.prefix_rfl, .inl ⟨rfl, rfl, rfl, hstore.symm⟩⟩
  | error err x =>
      rw [hearly] at hgrown
      obtain ⟨y, hy, hstore⟩ := hgrown.error
      rw [transcript_solve_error hearly, transcript_solve_error hy]
      exact ⟨List.prefix_rfl, .inr ⟨_, rfl, rfl, fun i _ => congrArg (·.slot? i) hstore⟩⟩

theorem Transcript.Agrees.cons {early late : Transcript} (h : early.Agrees late) (t : Ty) :
    Transcript.Agrees { early with types := t :: early.types } { late with types := t :: late.types } := by
  obtain ⟨htypes, ⟨hearly, hlate, heq, hstore⟩ | hstop⟩ := h
  · exact ⟨List.cons_prefix_cons.2 ⟨rfl, htypes⟩, .inl ⟨hearly, hlate, congrArg (t :: ·) heq, hstore⟩⟩
  · exact ⟨List.cons_prefix_cons.2 ⟨rfl, htypes⟩, .inr hstop⟩

theorem agrees_infer {s s' : Session} (hs : s.store.WellFormed)
    (hcov : ∀ q ∈ s.equations.toList, s.store.Covers q.left ∧ s.store.Covers q.right)
    (henv : Context.Below s.env.lookup s.store.size) {e : Expr} {t : Ty} (h : infer e s = .ok t s') :
    (s.transcript [.solve, .infer e, .solve]).Agrees (s.transcript [.infer e, .solve]) := by
  -- Solved late, the pending equations find the slots of the expression above their own, and leave those alone.
  obtain ⟨ho, rfl⟩ := infer_ok_iff.1 h
  have hbelow := (Expr.emission_below henv ho).2
  rw [transcript_infer h]
  generalize hr : e.emission s.env.lookup s.store.size = r at *
  have hlate : (s.add r).equations.toList = s.equations.toList ++ r.equations := by simp [add]
  have hgrown : Unifier.Grown r.slots _ _ :=
    Unifier.grown_solveAll (u := s.unifier) (v := (s.add r).unifier) hs hcov rfl
  cases hfirst : s.equations.toList.forM Unifier.solve s.unifier with
  | error err x =>
      rw [hfirst] at hgrown
      obtain ⟨y, hy, hstore⟩ := hgrown.error
      have hall : (s.add r).equations.toList.forM Unifier.solve (s.add r).unifier = .error err y := by
        rw [hlate, Unifier.solveAll_append]
        exact bind_of_error hy
      rw [transcript_solve_error hfirst, transcript_solve_error hall]
      refine ⟨List.nil_prefix, .inr ⟨_, rfl, rfl, fun i hi => ?_⟩⟩
      exact (congrArg (·.slot? i) hstore).trans (Store.slot?_allocate r.slots hi)
  | ok a x =>
      rw [hfirst] at hgrown
      obtain ⟨y, hy, hstore⟩ := hgrown.ok
      obtain ⟨hext, hwf, _⟩ := Unifier.solveAll_ok hs hfirst
      have hsize : x.store.size = s.store.size := hext.size
      rw [transcript_solve_ok hfirst]
      -- the bindings made so far do not change what the expression adds
      let s₁ : Session :=
        { s with store := x.store, trace := x.trace.push (.solved x.steps), equations := #[], solved := true }
      have hinfer : infer e s₁ = .ok t (s₁.add r) := by
        have hr₁ : e.emission s₁.env.lookup s₁.store.size = r := by rw [← hr, ← hsize]
        refine infer_ok_iff.2 ?_
        rw [hr₁]
        exact ⟨ho, rfl⟩
      rw [transcript_infer hinfer]
      have hequations : (s₁.add r).equations.toList = r.equations := by simp [add, s₁]
      have hsecond : ((s₁.add r).transcript [.solve]).Agrees ((s.add r).transcript [.solve]) := by
        refine agrees_solve (hwf.allocate r.slots) (fun q hq => ?_) hstore hy (by rw [hequations, hlate])
        have hn : (s₁.add r).store.size = s.store.size + r.slots := by rw [size_add, hsize]
        rw [hequations] at hq
        exact ⟨Store.covers_of_below (hbelow q hq).1 hn, Store.covers_of_below (hbelow q hq).2 hn⟩
      exact hsecond.cons t

theorem types_transcript_solve (s : Session) : (s.transcript [.solve]).types = [] := by
  cases h : s.equations.toList.forM Unifier.solve s.unifier with
  | ok a u => rw [transcript_solve_ok h]; rfl
  | error err u => rw [transcript_solve_error h]

theorem infer_start_ok {base : Scope} {e : Expr} {t : Ty} {s : Session} (h : infer e (start base) = .ok t s) :
    (e.emissionIn base).outcome = .ok t ∧ s = e.gathered base := by
  rwa [infer_ok_iff, lookup_start] at h

/-- Two expressions are inferred, and their equations are solved after each of them or all at the end: the types, the
table of slots and the error do not depend on it. -/
theorem solve_early_or_late {base : Scope} (hbase : base.Ground) {e₁ e₂ : Expr} {t₁ t : Ty} {s₁ s : Session}
    (h₁ : infer e₁ (start base) = .ok t₁ s₁) (h₂ : infer e₂ (start base) = .ok t s) :
    let early := (start base).transcript [.infer e₁, .solve, .infer e₂, .solve]
    let late := (start base).transcript [.infer e₁, .infer e₂, .solve]
    [t₁] <+: early.types ∧ late.types.length = 2 ∧ early.Agrees late := by
  intro early late
  obtain ⟨ho₁, rfl⟩ := infer_start_ok h₁
  have hlookup : (e₁.gathered base).env.lookup = Entries.get? base := lookup_start base
  -- the second expression is inferred after the first one as it is alone, since the same names have types
  obtain ⟨t₂, ho₂⟩ := Expr.emission_ok_of_named (fun _ hx => hx) (infer_start_ok h₂).1 (e₁.gathered base).store.size
  rw [← hlookup] at ho₂
  have h := infer_ok_iff.2 ⟨ho₂, rfl⟩
  have hagrees : early.Agrees late := by
    have hcov := (Expr.covers_emission hbase ho₁).2
    rw [← Expr.toList_equations_gathered] at hcov
    have henv : Context.Below (e₁.gathered base).env.lookup (e₁.gathered base).store.size := by
      rw [hlookup]
      exact hbase.below _
    have hrest := agrees_infer (Expr.wellFormed_solving e₁ base) hcov henv h
    simpa only [early, late, transcript_infer h₁] using hrest.cons t₁
  refine ⟨?_, ?_, hagrees⟩
  · simp [early, transcript_infer h₁]
  · simp [late, transcript_infer h₁, transcript_infer h, types_transcript_solve]

theorem solve_early_or_late_successor :
    let base : Scope := [("one", .con "Int" []), ("succ", .fn (.con "Int" []) (.con "Int" []))]
    let e : Expr := .abs "x" (.app (.var "succ") (.var "x"))
    let early (e' : Expr) := (start base).transcript [.infer e, .solve, .infer e', .solve]
    let late (e' : Expr) := (start base).transcript [.infer e, .infer e', .solve]
    let passing : Expr := .app (.var "succ") (.var "one")
    let failing : Expr := .app (.var "one") (.var "one")
    base.Ground ∧ (∀ e' ∈ [e, passing, failing], ∃ t s, infer e' (start base) = .ok t s) ∧
      ((early passing).stopped = none ∧ (early passing).Agrees (late passing)) ∧
      (early failing).stopped.isSome ∧ (early failing).Agrees (late failing) := by
  intro base e early late passing failing
  have hbase : base.Ground := by decide
  have h : infer e (start base) = .ok _ _ := rfl
  have hpassing : infer passing (start base) = .ok _ _ := rfl
  have hfailing : infer failing (start base) = .ok _ _ := rfl
  refine ⟨hbase, ?_, ⟨by decide +kernel, ?_⟩, by decide +kernel, ?_⟩
  · simpa using ⟨⟨_, _, h⟩, ⟨_, _, hpassing⟩, ⟨_, _, hfailing⟩⟩
  · exact (solve_early_or_late hbase h hpassing).2.2
  · exact (solve_early_or_late hbase h hfailing).2.2

end Session

end Monotype
