import Monotype.Proofs.Store.Solutions
import Monotype.Proofs.Store.Termination

namespace Monotype

open Store

theorem Store.Extends.solves {s s' : Store} (h : s.Extends s') {σ : Int → Ty} (hσ : s'.Solves σ) : s.Solves σ := by
  intro i t ht
  by_cases hne : t = .var i
  · rw [hne, Ty.apply_var]
  · exact hσ i t (h.kept i t ht hne)

namespace Unifier

variable {s s' : Store}

def Settled (s : Store) (p : Ty × Ty) : Prop := p.1.apply s.value = p.2.apply s.value

theorem settled_iff (hs : s.WellFormed) {l r : Ty} (hl : s.Covers l) (hr : s.Covers r) :
    Settled s (l, r) ↔ s.substitute l = s.substitute r := by
  rw [substitute_eq hs hl, substitute_eq hs hr, Except.ok.injEq]
  exact Iff.rfl

theorem Compares.not_settled (hs : s.WellFormed) {l r : Ty} {i : Int} {t : Ty} (h : Compares s l r (.bind i t)) :
    ¬ Settled s (l, r) := by
  -- A variable is bound only to a type that it does not occur in, so the two are not equal yet.
  obtain ⟨hi, ho, hlr⟩ := h.bind_inv
  have hne : t.apply s.value ≠ .var i := by
    intro he
    rw [occurs_eq hs i (covers_of_occurs_false ho), he] at ho
    simp at ho
  unfold Settled
  rcases hlr with ⟨rfl, rfl⟩ | ⟨rfl, rfl⟩
  · rw [Ty.apply_var, value_unbound hi]
    exact hne.symm
  · rw [Ty.apply_var, value_unbound hi]
    exact hne

theorem Run.settled {u : Unifier} {ps : List (Ty × Ty)} {res : Outcome} (h : Run u ps res) (hu : u.store.WellFormed)
    (hcov : ∀ p ∈ ps, u.store.Covers p.1 ∧ u.store.Covers p.2) (hps : ∀ p ∈ ps, Settled u.store p) :
    ∃ v, res = .ok () v ∧ v.store = u.store := by
  induction h with
  | done u => exact ⟨u, rfl, rfl⟩
  | next h _ ih =>
      obtain ⟨⟨hl, hr⟩, hcov⟩ := List.forall_mem_cons.1 hcov
      obtain ⟨hlr, hps⟩ := List.forall_mem_cons.1 hps
      refine ih hu (List.forall_mem_append.2 ⟨h.next_covers hu hl hr, hcov⟩) (List.forall_mem_append.2 ⟨?_, hps⟩)
      exact (h.next_iff hu (value_solves hu)).1 hlr
  | bind h _ _ => exact absurd (List.forall_mem_cons.1 hps).1 (h.not_settled hu)
  | fail h =>
      obtain ⟨hl, hr⟩ := (List.forall_mem_cons.1 hcov).1
      exact absurd (List.forall_mem_cons.1 hps).1 ((h.fail_refutes hu hl hr).2 _ (value_solves hu))

theorem Run.append {u v : Unifier} {ps rest : List (Ty × Ty)} {first res : Outcome} (h : Run u ps first)
    (hfirst : first = .ok () v) (hrest : Run v rest res) : Run u (ps ++ rest) res := by
  induction h with
  | done u =>
      cases hfirst
      exact hrest
  | next h _ ih =>
      have hrun := ih hfirst
      rw [List.append_assoc] at hrun
      exact .next h hrun
  | bind h _ ih => exact .bind h (ih hfirst)
  | fail h => cases hfirst

theorem exists_run_settled {ps : List (Ty × Ty)} {u : Unifier} (hu : u.store.WellFormed)
    (hcov : ∀ p ∈ ps, u.store.Covers p.1 ∧ u.store.Covers p.2) (hps : ∀ p ∈ ps, Settled u.store p) :
    ∃ v, Run u ps (.ok () v) ∧ v.store = u.store := by
  induction ps generalizing u with
  | nil => exact ⟨u, .done u, rfl⟩
  | cons p ps ih =>
      obtain ⟨hp, hcov⟩ := List.forall_mem_cons.1 hcov
      obtain ⟨hsettled, hps⟩ := List.forall_mem_cons.1 hps
      have hrun := run_unify p.1 p.2 hu
      obtain ⟨v, hv, hstore⟩ := hrun.settled hu (by simpa using hp) (by simpa using hsettled)
      rw [← hstore] at hu hcov hps
      obtain ⟨w, hw, hend⟩ := ih hu hcov hps
      exact ⟨w, hrun.append hv hw, hend.trans hstore⟩

/-- Comparing `l` with `r` goes down to comparing `a` with `b`, which stand at `path` in what `l` and `r` resolve to.
All that is compared before is settled. The sides are exchanged each time that a bound variable on the right is
followed, since its binding is compared first; `turned` tells whether `a` belongs to `r` in the end. -/
inductive Descends (s : Store) : Ty → Ty → List Nat → Bool → Ty → Ty → Prop
  | here (a b) : Descends s a b [] false a b
  | left {i t r path turned a b} (hr : r ≠ .var i) (ht : s.slot? i = some t) (hne : t ≠ .var i)
      (h : Descends s t r path turned a b) : Descends s (.var i) r path turned a b
  | right {f as j t path turned a b} (ht : s.slot? j = some t) (hne : t ≠ .var j)
      (h : Descends s t (.con f as) path turned a b) : Descends s (.con f as) (.var j) path (!turned) a b
  | arg {f as bs before x y after path turned a b} (hlen : as.length = bs.length)
      (hzip : as.zip bs = before ++ (x, y) :: after) (hbefore : ∀ q ∈ before, Settled s q)
      (h : Descends s x y path turned a b) :
      Descends s (.con f as) (.con f bs) (before.length :: path) turned a b

/-- Comparing the two types goes down to a pair that fails with `e`. -/
def Stuck (s : Store) (l r : Ty) (e : UnifyError) : Prop :=
  ∃ path turned a b event, Descends s l r path turned a b ∧ Compares s a b (.fail event e)

/-- The first pairs of the row are settled, and the next one is stuck. -/
def Blocked (s : Store) (ps : List (Ty × Ty)) (e : UnifyError) : Prop :=
  ∃ before l r after, ps = before ++ (l, r) :: after ∧ (∀ q ∈ before, Settled s q) ∧ Stuck s l r e

variable {e : UnifyError}

theorem Blocked.cons {p : Ty × Ty} {ps : List (Ty × Ty)} (hp : Settled s p) (h : Blocked s ps e) :
    Blocked s (p :: ps) e := by
  obtain ⟨before, l, r, after, rfl, hbefore, hstuck⟩ := h
  exact ⟨p :: before, l, r, after, rfl, List.forall_mem_cons.2 ⟨hp, hbefore⟩, hstuck⟩

theorem append_eq_cases {α : Type} {ps rest before after : List α} {q : α} (h : ps ++ rest = before ++ q :: after) :
    (∃ tail, ps = before ++ q :: tail) ∨ ∃ front, before = ps ++ front ∧ rest = front ++ q :: after := by
  rcases List.append_eq_append_iff.1 h with ⟨front, hbefore, hrest⟩ | ⟨tail, hps, htail⟩
  · exact .inr ⟨front, hbefore, hrest⟩
  · cases tail with
    | nil => exact .inr ⟨[], by simpa using hps.symm, htail.symm⟩
    | cons p tail =>
        obtain ⟨rfl, -⟩ := List.cons.inj htail
        exact .inl ⟨tail, hps⟩

theorem eq_of_singleton_eq {α : Type} {p q : α} {before after : List α} (h : [p] = before ++ q :: after) : q = p := by
  cases before with
  | nil => exact (List.cons.inj h).1.symm
  | cons b before => simp at h

theorem Compares.stuck {l r : Ty} {ps : List (Ty × Ty)} (h : Compares s l r (.next ps)) (hext : s.Extends s')
    (hps : Blocked s' ps e) : Stuck s' l r e := by
  obtain ⟨before, x, y, after, hsplit, hbefore, path, turned, a, b, event, hd, hfail⟩ := hps
  cases h with
  | same i => simp at hsplit
  | left hr h =>
      cases h with
      | chain => simp at hsplit
      | follow ht hne =>
          obtain ⟨rfl, rfl⟩ := Prod.mk.inj (eq_of_singleton_eq hsplit)
          exact ⟨_, _, a, b, event, .left hr (hext.kept _ _ ht hne) hne hd, hfail⟩
  | right h =>
      cases h with
      | chain => simp at hsplit
      | follow ht hne =>
          obtain ⟨rfl, rfl⟩ := Prod.mk.inj (eq_of_singleton_eq hsplit)
          exact ⟨_, _, a, b, event, .right (hext.kept _ _ ht hne) hne hd, hfail⟩
  | args hlen => exact ⟨_, _, a, b, event, .arg hlen hsplit hbefore hd, hfail⟩

theorem Run.blocked {u u' : Unifier} {ps : List (Ty × Ty)} {res : Outcome} (h : Run u ps res)
    (hu : u.store.WellFormed) (hres : res = .error e u') : Blocked u'.store ps e := by
  induction h with
  | done u => cases hres
  | @next u l r ps rest res h hrun ih =>
      have hext : u.store.Extends u'.store := by simpa [hres, final] using hrun.extends
      have hend : u'.store.WellFormed := by simpa [hres, final] using hrun.wellFormed hu
      obtain ⟨before, x, y, after, hsplit, hbefore, hstuck⟩ := ih hu hres
      -- the failure lies below this pair, or all that the pair leads to has been settled
      rcases append_eq_cases hsplit with ⟨tail, hps⟩ | ⟨front, rfl, hrest⟩
      · have hpair := h.stuck hext ⟨before, x, y, tail, hps, hbefore, hstuck⟩
        exact ⟨[], l, r, rest, rfl, by simp, hpair⟩
      · obtain ⟨hps, hfront⟩ := List.forall_mem_append.1 hbefore
        have hlr : Settled u'.store (l, r) := (h.next_iff hu (hext.solves (value_solves hend))).2 hps
        exact .cons hlr ⟨front, x, y, after, hrest, hfront, hstuck⟩
  | @bind u l r i t rest res h hrun ih =>
      have hwf := h.wellFormed_assign hu
      have hext : (u.store.assign i t).Extends u'.store := by simpa [hres, final] using hrun.extends
      have hend : u'.store.WellFormed := by simpa [hres, final] using hrun.wellFormed hwf
      have hlr : Settled u'.store (l, r) := (h.solves_assign.1 (hext.solves (value_solves hend))).2
      exact .cons hlr (ih hwf hres)
  | @fail u l r event e rest h =>
      cases hres
      rw [← store_ticked, ← store_told u.ticked event] at h
      exact ⟨[], l, r, rest, rfl, by simp, [], false, l, r, event, .here l r, h⟩

theorem Descends.run {l r : Ty} {path : List Nat} {turned : Bool} {a b : Ty} (h : Descends s l r path turned a b)
    {event : Option Event} (hfail : Compares s a b (.fail event e)) (hs : s.WellFormed) (hl : s.Covers l)
    (hr : s.Covers r) {u : Unifier} (hu : u.store = s) (rest : List (Ty × Ty)) :
    ∃ v, Run u ((l, r) :: rest) (.error e v) ∧ v.store = s := by
  -- Going down again meets settled pairs only, and the failure.
  induction h generalizing u rest with
  | here a b =>
      rw [← hu] at hfail
      exact ⟨_, .fail hfail, by simpa using hu⟩
  | left hne' ht hne _ ih =>
      obtain ⟨v, hrun, hv⟩ := ih hfail (hs.covers _ _ ht) hr (u := u.ticked) hu rest
      rw [← hu] at ht
      exact ⟨v, .next (.left hne' (.follow ht hne)) hrun, hv⟩
  | right ht hne _ ih =>
      obtain ⟨v, hrun, hv⟩ := ih hfail (hs.covers _ _ ht) hl (u := u.ticked) hu rest
      rw [← hu] at ht
      exact ⟨v, .next (.right (.follow ht hne)) hrun, hv⟩
  | @arg f as bs before x y after _ _ a b hlen hzip hbefore _ ih =>
      have hcov : ∀ q ∈ before ++ (x, y) :: after, s.Covers q.1 ∧ s.Covers q.2 := by
        rw [← hzip]
        intro q hq
        obtain ⟨hx, hy⟩ := List.of_mem_zip hq
        exact ⟨hl.arg hx, hr.arg hy⟩
      obtain ⟨hfront, hback⟩ := List.forall_mem_append.1 hcov
      obtain ⟨⟨hx, hy⟩, -⟩ := List.forall_mem_cons.1 hback
      subst hu
      obtain ⟨v, hrun, hv⟩ := exists_run_settled (u := u.ticked) hs hfront hbefore
      obtain ⟨w, hdown, hw⟩ := ih hfail hx hy (u := v) hv (after ++ rest)
      refine ⟨w, .next (.args hlen) ?_, hw⟩
      rw [hzip, List.append_assoc]
      exact hrun.append rfl hdown

variable {l r : Ty} {u u' v : Unifier}

theorem unify_settled (hu : u.store.WellFormed) (hl : u.store.Covers l) (hr : u.store.Covers r)
    (h : Settled u.store (l, r)) : ∃ v, unify l r u = .ok () v ∧ v.store = u.store :=
  (run_unify l r hu).settled hu (by simpa using ⟨hl, hr⟩) (by simpa using h)

theorem unify_failed (hu : u.store.WellFormed) (h : unify l r u = .error e u') :
    u.store.Extends u'.store ∧ u'.store.WellFormed ∧ Stuck u'.store l r e := by
  have hrun := (run_iff hu).2 h
  obtain ⟨before, x, y, after, hsplit, -, hstuck⟩ := hrun.blocked hu rfl
  obtain ⟨rfl, rfl⟩ := Prod.mk.inj (eq_of_singleton_eq hsplit)
  exact ⟨hrun.extends, hrun.wellFormed hu, hstuck⟩

theorem unify_again (hu : u.store.WellFormed) (hl : u.store.Covers l) (hr : u.store.Covers r)
    (h : unify l r u = .error e u') (hv : v.store = u'.store) : ∃ w, unify l r v = .error e w ∧ w.store = v.store := by
  obtain ⟨hext, hwf, path, turned, a, b, event, hd, hfail⟩ := unify_failed hu h
  rw [← hv] at hext hwf hd hfail
  obtain ⟨w, hagain, hw⟩ := hd.run hfail hwf (hext.covers_iff.2 hl) (hext.covers_iff.2 hr) rfl []
  exact ⟨w, (run_iff hwf).1 hagain, hw⟩

variable {es : List Equation}

theorem exists_failing (h : es.forM solve u = .error e u') :
    ∃ done q rest v, es = done ++ q :: rest ∧ done.forM solve u = .ok () v ∧ solve q v = .error e u' := by
  induction es generalizing u with
  | nil => cases h
  | cons p es ih =>
      change (solve p >>= fun _ => es.forM solve) u = _ at h
      cases hfirst : solve p u with
      | error e' v =>
          rw [bind_of_error hfirst] at h
          cases h
          exact ⟨[], p, es, u, rfl, rfl, hfirst⟩
      | ok a v =>
          rw [bind_of_ok hfirst] at h
          obtain ⟨done, q, rest, w, rfl, hdone, hq⟩ := ih h
          exact ⟨p :: done, q, rest, w, rfl, (bind_of_ok hfirst).trans hdone, hq⟩

theorem solveAll_settled (hu : u.store.WellFormed) (hcov : ∀ q ∈ es, u.store.Covers q.left ∧ u.store.Covers q.right)
    (h : ∀ q ∈ es, Settled u.store (q.left, q.right)) : ∃ v, es.forM solve u = .ok () v ∧ v.store = u.store := by
  induction es generalizing u with
  | nil => exact ⟨u, rfl, rfl⟩
  | cons q es ih =>
      obtain ⟨⟨hl, hr⟩, hcov⟩ := List.forall_mem_cons.1 hcov
      obtain ⟨hq, hes⟩ := List.forall_mem_cons.1 h
      obtain ⟨v, hv, hstore⟩ := unify_settled hu hl hr hq
      rw [← hstore] at hu hcov hes
      obtain ⟨w, hw, hend⟩ := ih hu hcov hes
      have hfirst : solve q u = .ok () v := hv
      exact ⟨w, (bind_of_ok hfirst).trans hw, hend.trans hstore⟩

theorem settled_of_failing (hu : u.store.WellFormed) (h : es.forM solve u = .ok () v) {q : Equation}
    (hq : solve q v = .error e u') :
    u.store.Extends u'.store ∧ u'.store.WellFormed ∧ ∀ p ∈ es, Settled u'.store (p.left, p.right) := by
  obtain ⟨hext, hv, hsol⟩ := solveAll_ok hu h
  obtain ⟨hext', hend, -⟩ := unify_failed hv hq
  exact ⟨hext.trans hext', hend, ((hsol _).1 (hext'.solves (value_solves hend))).2⟩

theorem solveAll_again (hu : u.store.WellFormed) (hcov : ∀ q ∈ es, u.store.Covers q.left ∧ u.store.Covers q.right)
    (h : es.forM solve u = .error e u') (hv : v.store = u'.store) :
    ∃ w, es.forM solve v = .error e w ∧ w.store = v.store := by
  obtain ⟨done, q, rest, x, rfl, hdone, hq⟩ := exists_failing h
  obtain ⟨hcovDone, hcovRest⟩ := List.forall_mem_append.1 hcov
  obtain ⟨⟨hl, hr⟩, -⟩ := List.forall_mem_cons.1 hcovRest
  obtain ⟨hextDone, hx, -⟩ := solveAll_ok hu hdone
  obtain ⟨hext, hend, hsettled⟩ := settled_of_failing hu hdone hq
  rw [← hv] at hext hend hsettled
  obtain ⟨y, hy, hstore⟩ := solveAll_settled hend (by simpa only [hext.covers_iff] using hcovDone) hsettled
  obtain ⟨w, hw, hstore'⟩ :=
    unify_again hx (hextDone.covers_iff.2 hl) (hextDone.covers_iff.2 hr) hq (hstore.trans hv)
  have hfail : solve q y = .error e w := hw
  refine ⟨w, ?_, hstore'.trans hstore⟩
  rw [solveAll_append]
  exact (bind_of_ok hy).trans (bind_of_error hfail)

end Unifier

end Monotype
