import Monotype.Proofs.Store.Run

namespace Monotype

open Store

namespace Unifier

variable {s : Store} {σ : Int → Ty}

theorem VarMove.next_iff (hs : s.WellFormed) {i : Int} {other : Ty} {ps : List (Ty × Ty)}
    (h : VarMove s i other (.next ps)) (hσ : s.Solves σ) :
    σ i = other.apply σ ↔ ∀ p ∈ ps, p.1.apply σ = p.2.apply σ := by
  cases h with
  | follow ht hne => simp [hσ i _ ht]
  | chain hi hh =>
      rcases head_cases hs other with ⟨t, ht, hhead⟩ | ⟨j, _, _, he⟩
      · obtain rfl : Ty.var i = t := Except.ok.inj (hh.symm.trans ht)
        simp [← hhead.1 σ hσ]
      · rw [hh] at he
        cases he

theorem Compares.next_iff (hs : s.WellFormed) {l r : Ty} {ps : List (Ty × Ty)}
    (h : Compares s l r (.next ps)) (hσ : s.Solves σ) :
    l.apply σ = r.apply σ ↔ ∀ p ∈ ps, p.1.apply σ = p.2.apply σ := by
  cases h with
  | same i => simp
  | left hne h => exact h.next_iff hs hσ
  | right h => rw [eq_comm, Ty.apply_var, h.next_iff hs hσ]
  | args h => rw [Ty.apply_con, Ty.apply_con, Ty.con.injEq, ← Ty.map_apply_eq_iff h]; simp

theorem Compares.solves_assign {l r : Ty} {i : Int} {t : Ty} (h : Compares s l r (.bind i t)) :
    (s.assign i t).Solves σ ↔ s.Solves σ ∧ l.apply σ = r.apply σ := by
  obtain ⟨hi, _, hlr⟩ := h.bind_inv
  rw [Store.solves_assign hi]
  rcases hlr with ⟨rfl, rfl⟩ | ⟨rfl, rfl⟩
  · rw [Ty.apply_var]
  · rw [Ty.apply_var, eq_comm (a := σ i)]

theorem Compares.next_covers (hs : s.WellFormed) {l r : Ty} {ps : List (Ty × Ty)}
    (h : Compares s l r (.next ps)) (hl : s.Covers l) (hr : s.Covers r) :
    ∀ p ∈ ps, s.Covers p.1 ∧ s.Covers p.2 := by
  cases h with
  | same i => simp
  | left hne h =>
      cases h with
      | follow ht _ => simpa using ⟨hs.covers _ _ ht, hr⟩
      | chain => simp
  | right h =>
      cases h with
      | follow ht _ => simpa using ⟨hs.covers _ _ ht, hl⟩
      | chain => simp
  | args h =>
      intro p hp
      obtain ⟨ha, hb⟩ := List.of_mem_zip hp
      exact ⟨hl.arg ha, hr.arg hb⟩

/-- The error tells of the two types, and not of a look at the store that went wrong. -/
def Refutes (e : UnifyError) : Prop := ∀ e', e ≠ .store e'

theorem ne_of_occurs (hs : s.WellFormed) {i : Int} {other h : Ty} (hcov : s.Covers other)
    (hh : s.head other = .ok h) (hne : h ≠ .var i) (ho : s.occurs i other = .ok true) (hσ : s.Solves σ) :
    σ i ≠ other.apply σ := by
  have hmem : i ∈ (other.apply s.value).vars := by
    rw [occurs_eq hs i hcov] at ho
    simpa using ho
  have hhead : s.IsHead other h := by
    rcases head_cases hs other with ⟨t, ht, hhead⟩ | ⟨j, _, _, he⟩
    · rwa [← Except.ok.inj (ht.symm.trans hh)]
    · rw [hh] at he
      cases he
  have hvalue : h.apply s.value = other.apply s.value := hhead.1 _ (value_solves hs)
  rw [← hσ.apply_resolved hs other, ← hvalue]
  rw [← hvalue] at hmem
  cases h with
  | con f args =>
      rw [Ty.apply_con] at hmem ⊢
      exact Ty.apply_ne_of_occurs σ hmem
  | var k =>
      rw [Ty.apply_var, value_unbound (hhead.2 k rfl), Ty.mem_vars_var] at hmem
      exact absurd (congrArg Ty.var hmem.symm) hne

theorem VarMove.fail_refutes (hs : s.WellFormed) {i : Int} {other : Ty} (hi : s.Allocated i)
    (ho : s.Covers other) {event : Option Event} {e : UnifyError} (h : VarMove s i other (.fail event e)) :
    Refutes e ∧ ∀ σ, s.Solves σ → σ i ≠ other.apply σ := by
  cases h with
  | unallocated hn => exact absurd hi hn
  | headFault _ hh =>
      rcases head_cases hs other with ⟨t, ht, _⟩ | ⟨j, hj, hn, _⟩
      · rw [hh] at ht
        cases ht
      · exact absurd (ho j hj) hn
  | occursFault _ _ _ he =>
      obtain ⟨j, hj, hn, _⟩ := occurs_error hs he
      exact absurd (ho j hj) hn
  | infiniteFault _ _ _ _ he =>
      obtain ⟨j, hj, hn, _⟩ := substitute_error hs he
      exact absurd (ho j hj) hn
  | infinite _ hh hne htrue _ => exact ⟨nofun, fun σ hσ => ne_of_occurs hs ho hh hne htrue hσ⟩

theorem substituteArgs_ne_error (hs : s.WellFormed) {f : String} {args : List Ty} (h : s.Covers (.con f args))
    (e : StoreError) : Ty.substituteArgsM (s.resolveWithin s.size) args ≠ .error e := by
  intro he
  obtain ⟨a, ha, he⟩ := Ty.substituteArgsM_error he
  obtain ⟨i, hi, hn, _⟩ := substitute_error hs he
  exact hn (h.arg ha i hi)

theorem Compares.fail_refutes (hs : s.WellFormed) {l r : Ty} (hl : s.Covers l) (hr : s.Covers r)
    {event : Option Event} {e : UnifyError} (h : Compares s l r (.fail event e)) :
    Refutes e ∧ ∀ σ, s.Solves σ → l.apply σ ≠ r.apply σ := by
  cases h with
  | left hne h => exact h.fail_refutes hs (Covers.var.1 hl) hr
  | right h =>
      obtain ⟨he, hσ⟩ := h.fail_refutes hs (Covers.var.1 hr) hl
      exact ⟨he, fun σ hsol => (hσ σ hsol).symm⟩
  | clash h ha hb =>
      refine ⟨nofun, fun σ _ heq => h ?_⟩
      rw [Ty.apply_con, Ty.apply_con, Ty.con.injEq] at heq
      exact ⟨heq.1, by simpa using congrArg List.length heq.2⟩
  | leftFault h ha => exact absurd ha (substituteArgs_ne_error hs hl _)
  | rightFault h ha hb => exact absurd hb (substituteArgs_ne_error hs hr _)

theorem Run.solves_iff {u : Unifier} {ps : List (Ty × Ty)} {res : Outcome} (h : Run u ps res)
    (hu : u.store.WellFormed) {u' : Unifier} (hres : res = .ok () u') :
    u'.store.Solves σ ↔ u.store.Solves σ ∧ ∀ p ∈ ps, p.1.apply σ = p.2.apply σ := by
  induction h with
  | done u =>
      cases hres
      simp
  | @next u l r ps rest res h _ ih =>
      rw [ih hu hres, store_ticked]
      refine and_congr_right fun hσ => ?_
      rw [List.forall_mem_append, ← h.next_iff hu hσ, List.forall_mem_cons]
  | bind h _ ih =>
      rw [ih (h.wellFormed_assign hu) hres, store_assigned, store_ticked, h.solves_assign, List.forall_mem_cons,
        and_assoc]
  | fail h => cases hres

theorem Run.refutes {u : Unifier} {ps : List (Ty × Ty)} {res : Outcome} (h : Run u ps res)
    (hu : u.store.WellFormed) (hcov : ∀ p ∈ ps, u.store.Covers p.1 ∧ u.store.Covers p.2)
    {e : UnifyError} {u' : Unifier} (hres : res = .error e u') :
    Refutes e ∧ ∀ σ, u.store.Solves σ → ¬ ∀ p ∈ ps, p.1.apply σ = p.2.apply σ := by
  induction h with
  | done u => cases hres
  | @next u l r ps rest res h _ ih =>
      obtain ⟨hlr, hrest⟩ := List.forall_mem_cons.1 hcov
      have hps := h.next_covers hu hlr.1 hlr.2
      obtain ⟨he, hσ⟩ := ih hu (List.forall_mem_append.2 ⟨hps, hrest⟩) hres
      refine ⟨he, fun σ hsol hall => hσ σ hsol ?_⟩
      obtain ⟨heq, hall⟩ := List.forall_mem_cons.1 hall
      exact List.forall_mem_append.2 ⟨(h.next_iff hu hsol).1 heq, hall⟩
  | @bind u l r i t rest res h _ ih =>
      have hext := Extends.assign h.bind_inv.1 t
      have hrest := (List.forall_mem_cons.1 hcov).2
      obtain ⟨he, hσ⟩ := ih (h.wellFormed_assign hu)
        (fun p hp => ⟨hext.covers_iff.2 (hrest p hp).1, hext.covers_iff.2 (hrest p hp).2⟩) hres
      refine ⟨he, fun σ hsol hall => ?_⟩
      obtain ⟨heq, hall⟩ := List.forall_mem_cons.1 hall
      exact hσ σ (h.solves_assign.2 ⟨hsol, heq⟩) hall
  | fail h =>
      cases hres
      obtain ⟨hlr, _⟩ := List.forall_mem_cons.1 hcov
      obtain ⟨he, hσ⟩ := h.fail_refutes hu hlr.1 hlr.2
      exact ⟨he, fun σ hsol hall => hσ σ hsol (List.forall_mem_cons.1 hall).1⟩

theorem unify_ok {l r : Ty} {u u' : Unifier} (hu : u.store.WellFormed) (h : unify l r u = .ok () u') :
    u.store.Extends u'.store ∧ u'.store.WellFormed ∧
      ∀ σ, u'.store.Solves σ ↔ u.store.Solves σ ∧ l.apply σ = r.apply σ := by
  have hrun := run_unify l r hu
  rw [h] at hrun
  refine ⟨hrun.extends, hrun.wellFormed hu, fun σ => ?_⟩
  rw [hrun.solves_iff hu rfl]
  simp

theorem unify_error {l r : Ty} {u u' : Unifier} {e : UnifyError} (hu : u.store.WellFormed)
    (hl : u.store.Covers l) (hr : u.store.Covers r) (h : unify l r u = .error e u') :
    Refutes e ∧ ∀ σ, u.store.Solves σ → l.apply σ ≠ r.apply σ := by
  have hrun := run_unify l r hu
  rw [h] at hrun
  have hcov : ∀ p ∈ [(l, r)], u.store.Covers p.1 ∧ u.store.Covers p.2 := by simpa using ⟨hl, hr⟩
  obtain ⟨he, hσ⟩ := hrun.refutes hu hcov rfl
  exact ⟨he, fun σ hsol heq => hσ σ hsol (by simpa using heq)⟩

theorem solveAll_append (es fs : List Equation) :
    (es ++ fs).forM solve = (do es.forM solve; fs.forM solve : UnifyM Unit) :=
  List.forM_append

theorem solveAll_ok {es : List Equation} {u u' : Unifier} (hu : u.store.WellFormed)
    (h : es.forM solve u = .ok () u') :
    u.store.Extends u'.store ∧ u'.store.WellFormed ∧
      ∀ σ, u'.store.Solves σ ↔ u.store.Solves σ ∧ ∀ e ∈ es, e.Holds σ := by
  induction es generalizing u with
  | nil =>
      cases h
      exact ⟨.refl _, hu, by simp⟩
  | cons e es ih =>
      change (solve e >>= fun _ => es.forM solve) u = _ at h
      cases hfirst : solve e u with
      | error err v =>
          rw [bind_of_error hfirst] at h
          cases h
      | ok a v =>
          rw [bind_of_ok hfirst] at h
          obtain ⟨hext, hv, hsol⟩ := unify_ok hu hfirst
          obtain ⟨hext', hu', hsol'⟩ := ih hv h
          refine ⟨hext.trans hext', hu', fun σ => ?_⟩
          rw [hsol', hsol, List.forall_mem_cons, and_assoc]
          rfl

theorem solveAll_error {es : List Equation} {u u' : Unifier} {err : UnifyError} (hu : u.store.WellFormed)
    (hcov : ∀ e ∈ es, u.store.Covers e.left ∧ u.store.Covers e.right) (h : es.forM solve u = .error err u') :
    Refutes err ∧ ∀ σ, u.store.Solves σ → ¬ ∀ e ∈ es, e.Holds σ := by
  induction es generalizing u with
  | nil => cases h
  | cons e es ih =>
      change (solve e >>= fun _ => es.forM solve) u = _ at h
      obtain ⟨he, hes⟩ := List.forall_mem_cons.1 hcov
      cases hfirst : solve e u with
      | error err' v =>
          rw [bind_of_error hfirst] at h
          cases h
          obtain ⟨herr, hne⟩ := unify_error hu he.1 he.2 hfirst
          exact ⟨herr, fun σ hσ hall => hne σ hσ (List.forall_mem_cons.1 hall).1⟩
      | ok a v =>
          rw [bind_of_ok hfirst] at h
          obtain ⟨hext, hv, hsol⟩ := unify_ok hu hfirst
          obtain ⟨herr, hno⟩ := ih hv
            (fun q hq => ⟨hext.covers_iff.2 (hes q hq).1, hext.covers_iff.2 (hes q hq).2⟩) h
          refine ⟨herr, fun σ hσ hall => ?_⟩
          obtain ⟨heq, hall⟩ := List.forall_mem_cons.1 hall
          exact hno σ ((hsol σ).2 ⟨hσ, heq⟩) hall

end Unifier

theorem Store.WellFormed.substitute_eq_of_solved {s : Store} (hs : s.WellFormed) {a b : Ty} (ha : s.Covers a)
    (hb : s.Covers b) (h : ∀ σ, s.Solves σ → a.apply σ = b.apply σ) : s.substitute a = s.substitute b := by
  rw [substitute_eq hs ha, substitute_eq hs hb, h _ (value_solves hs)]

theorem Store.Solves.apply_eq_of_substitute {s : Store} (hs : s.WellFormed) {σ : Int → Ty} (hσ : s.Solves σ)
    {a b : Ty} (ha : s.Covers a) (hb : s.Covers b) (h : s.substitute a = s.substitute b) :
    a.apply σ = b.apply σ := by
  rw [substitute_eq hs ha, substitute_eq hs hb] at h
  rw [← hσ.apply_resolved hs a, ← hσ.apply_resolved hs b, Except.ok.inj h]

/-- Unification computes exactly the solutions that make its two sides equal, and fails only if there are none. -/
theorem Store.Reachable.unify_solutions {s : Store} (hs : s.Reachable) {l r : Ty} (hl : s.Covers l)
    (hr : s.Covers r) (steps : Nat) (trace : Trace) :
    match Unifier.unify l r ⟨s, steps, trace⟩ with
    | .ok _ u =>
        (∀ σ, u.store.Solves σ ↔ s.Solves σ ∧ l.apply σ = r.apply σ) ∧
          (∃ t, u.store.substitute l = .ok t ∧ u.store.substitute r = .ok t) ∧
          ∀ a b, s.Covers a → s.Covers b → s.substitute a = s.substitute b →
            u.store.substitute a = u.store.substitute b
    | .error (.mismatch ..) _ | .error (.infinite ..) _ => ∀ σ, ¬ (s.Solves σ ∧ l.apply σ = r.apply σ)
    | .error (.store _) _ => False := by
  have hwf := hs.wellFormed
  have herror {e : UnifyError} {u : Unifier} (h : Unifier.unify l r ⟨s, steps, trace⟩ = .error e u) :=
    Unifier.unify_error hwf hl hr h
  split
  · next u h =>
      obtain ⟨hext, hwf', hsol⟩ := Unifier.unify_ok hwf h
      refine ⟨hsol, ⟨l.apply u.store.value, ?_, ?_⟩, fun a b ha hb hab => ?_⟩
      · exact substitute_eq hwf' (hext.covers_iff.2 hl)
      · rw [← substitute_eq hwf' (hext.covers_iff.2 hl)]
        exact hwf'.substitute_eq_of_solved (hext.covers_iff.2 hr) (hext.covers_iff.2 hl)
          fun σ hσ => ((hsol σ).1 hσ).2.symm
      · refine hwf'.substitute_eq_of_solved (hext.covers_iff.2 ha) (hext.covers_iff.2 hb) fun σ hσ => ?_
        exact ((hsol σ).1 hσ).1.apply_eq_of_substitute hwf ha hb hab
  · next h => exact fun σ hσ => (herror h).2 σ hσ.1 hσ.2
  · next h => exact fun σ hσ => (herror h).2 σ hσ.1 hσ.2
  · next e _ h => exact (herror h).1 e rfl

theorem Store.Reachable.unify_solutions_bound :
    let s : Store := ⟨#[.fn (.var 1) (.var 2), .var 1, .var 2]⟩
    let l : Ty := .var 0
    let r : Ty := .fn (.con "Int" []) (.var 1)
    s.Reachable ∧ s.Covers l ∧ s.Covers r ∧
      ∀ σ, Solves ⟨#[.fn (.var 1) (.var 2), .con "Int" [], .var 1]⟩ σ ↔ s.Solves σ ∧ l.apply σ = r.apply σ := by
  intro s l r
  have hs : s.Reachable :=
    .unify (u := ⟨(({} : Store).fresh.fresh).fresh, 0, #[]⟩) (.fresh (.fresh (.fresh .empty))) l (.fn (.var 1) (.var 2))
  have hl : s.Covers l := by decide
  have hr : s.Covers r := by decide
  exact ⟨hs, hl, hr, (hs.unify_solutions hl hr 0 #[]).1⟩

end Monotype
