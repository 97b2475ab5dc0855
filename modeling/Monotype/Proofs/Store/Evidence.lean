import Monotype.Proofs.Store.Conflict
import Monotype.Proofs.Store.Rearrangement
import Mathlib.Data.Sym.Sym2

namespace Monotype

namespace Ty

def isVar : Ty → Bool
  | var _ => true
  | con _ _ => false

def subterm? : Ty → List Nat → Option Ty
  | t, [] => some t
  | var _, _ :: _ => none
  | con _ args, k :: path => args[k]?.bind fun a => a.subterm? path

/-- At every step of the path the arguments to its left are the same in both types. -/
def SameLeftOf (t u : Ty) (path : List Nat) : Prop :=
  ∀ above k below, path = above ++ k :: below →
    ∀ j < k, ∃ a, t.subterm? (above ++ [j]) = some a ∧ u.subterm? (above ++ [j]) = some a

variable {f g : String} {as bs : List Ty} {k : Nat} {path : List Nat} {t u x y : Ty}

@[simp] theorem subterm?_nil (t : Ty) : t.subterm? [] = some t := by rw [subterm?]

theorem subterm?_cons (h : as[k]? = some x) : (con f as).subterm? (k :: path) = x.subterm? path := by
  rw [subterm?, h, Option.bind_some]

theorem exists_subterm?_var {i : Int} (h : i ∈ t.vars) : ∃ path, t.subterm? path = some (.var i) := by
  induction t with
  | var j =>
      obtain rfl := mem_vars_var.1 h
      exact ⟨[], subterm?_nil _⟩
  | con f args ih =>
      obtain ⟨a, ha, hi⟩ := mem_vars_con.1 h
      obtain ⟨k, hk⟩ := List.mem_iff_getElem?.1 ha
      obtain ⟨path, hpath⟩ := ih a ha hi
      exact ⟨k :: path, (subterm?_cons hk).trans hpath⟩

theorem sameLeftOf_nil (t u : Ty) : t.SameLeftOf u [] := by
  intro above k below h
  simp at h

theorem SameLeftOf.symm (h : t.SameLeftOf u path) : u.SameLeftOf t path := by
  intro above k below hpath j hj
  obtain ⟨a, ht, hu⟩ := h above k below hpath j hj
  exact ⟨a, hu, ht⟩

theorem SameLeftOf.cons (hx : as[k]? = some x) (hy : bs[k]? = some y)
    (hleft : ∀ j < k, ∃ a, as[j]? = some a ∧ bs[j]? = some a) (h : x.SameLeftOf y path) :
    (con f as).SameLeftOf (con g bs) (k :: path) := by
  intro above m below hpath j hj
  cases above with
  | nil =>
      obtain ⟨rfl, -⟩ := List.cons.inj hpath
      obtain ⟨a, ha, hb⟩ := hleft j hj
      exact ⟨a, subterm?_cons ha, subterm?_cons hb⟩
  | cons n above =>
      obtain ⟨rfl, htail⟩ := List.cons.inj hpath
      obtain ⟨a, ha, hb⟩ := h above m below htail j hj
      exact ⟨a, (subterm?_cons hx).trans ha, (subterm?_cons hy).trans hb⟩

end Ty

open Store

namespace Unifier

variable {s : Store} {l r a b : Ty} {path : List Nat} {turned : Bool}

theorem getElem?_of_zip {as bs : List Ty} {before after : List (Ty × Ty)} {x y : Ty}
    (h : as.zip bs = before ++ (x, y) :: after) : as[before.length]? = some x ∧ bs[before.length]? = some y := by
  have hpair : (as.zip bs)[before.length]? = some (x, y) := by simp [h]
  exact List.getElem?_zip_eq_some.1 hpair

theorem getElem?_apply {as : List Ty} {k : Nat} {x : Ty} (h : as[k]? = some x) (σ : Int → Ty) :
    (as.map (Ty.apply σ))[k]? = some (x.apply σ) := by
  simp [h]

theorem Descends.subterms (h : Descends s l r path turned a b) (hs : s.WellFormed) :
    (l.apply s.value).subterm? path = some ((if turned then b else a).apply s.value) ∧
      (r.apply s.value).subterm? path = some ((if turned then a else b).apply s.value) := by
  induction h with
  | here a b => simp
  | left _ ht _ _ ih =>
      rw [Ty.apply_var, value_eq hs ht]
      exact ih
  | @right f as j t path turned a b ht _ _ ih =>
      rw [Ty.apply_var, value_eq hs ht]
      cases turned <;> exact ih.symm
  | arg _ hzip _ _ ih =>
      obtain ⟨hx, hy⟩ := getElem?_of_zip hzip
      rw [Ty.apply_con, Ty.apply_con, Ty.subterm?_cons (getElem?_apply hx _), Ty.subterm?_cons (getElem?_apply hy _)]
      exact ih

theorem Descends.sameLeftOf (h : Descends s l r path turned a b) (hs : s.WellFormed) :
    (l.apply s.value).SameLeftOf (r.apply s.value) path := by
  induction h with
  | here a b => exact Ty.sameLeftOf_nil _ _
  | left _ ht _ _ ih =>
      rw [Ty.apply_var, value_eq hs ht]
      exact ih
  | right ht _ _ ih =>
      rw [Ty.apply_var, value_eq hs ht]
      exact ih.symm
  | @arg f as bs before x y after path turned a b hlen hzip hbefore _ ih =>
      obtain ⟨hx, hy⟩ := getElem?_of_zip hzip
      rw [Ty.apply_con, Ty.apply_con]
      refine ih.cons (getElem?_apply hx _) (getElem?_apply hy _) fun j hj => ?_
      -- a pair in front of the one that is followed is settled
      have hj' : (as.zip bs)[j]? = some before[j] := by
        rw [hzip, List.getElem?_append_left hj, List.getElem?_eq_getElem hj]
      obtain ⟨ha, hb⟩ := List.getElem?_zip_eq_some.1 hj'
      have hsettled : Settled s before[j] := hbefore _ (List.getElem_mem hj)
      refine ⟨_, getElem?_apply ha _, ?_⟩
      rw [getElem?_apply hb, hsettled]

theorem Descends.covers (h : Descends s l r path turned a b) (hs : s.WellFormed) (hl : s.Covers l) (hr : s.Covers r) :
    s.Covers a ∧ s.Covers b := by
  induction h with
  | here a b => exact ⟨hl, hr⟩
  | left _ ht _ _ ih => exact ih (hs.covers _ _ ht) hr
  | right ht _ _ ih => exact ih (hs.covers _ _ ht) hl
  | @arg f as bs before x y after path turned a b hlen hzip hbefore _ ih =>
      obtain ⟨hx, hy⟩ := getElem?_of_zip hzip
      exact ih (hl.arg (List.mem_of_getElem? hx)) (hr.arg (List.mem_of_getElem? hy))

theorem exists_descent {u u' : Unifier} {e : UnifyError} (hu : u.store.WellFormed) (hl : u.store.Covers l)
    (hr : u.store.Covers r) (h : unify l r u = .error e u') :
    u'.store.WellFormed ∧ u'.store.Covers l ∧ u'.store.Covers r ∧ ∃ path turned a b event,
      Descends u'.store l r path turned a b ∧ u'.store.Covers a ∧ u'.store.Covers b ∧
        Compares u'.store a b (.fail event e) := by
  obtain ⟨hext, hwf, path, turned, a, b, event, hd, hfail⟩ := unify_failed hu h
  rw [← hext.covers_iff] at hl hr
  obtain ⟨ha, hb⟩ := hd.covers hwf hl hr
  exact ⟨hwf, hl, hr, path, turned, a, b, event, hd, ha, hb, hfail⟩

end Unifier

/-- The two resolved types are those that the error is about, in either order, and they cannot be equal: their
constructors differ as the error says, or one of them is an unbound variable inside the other. -/
def UnifyError.Tells (s : Store) (a b : Ty) : UnifyError → Prop
  | mismatch f as g bs =>
      s(a, b) = s(.con f as, .con g bs) ∧
        (mismatchReason f g = "constructor" ∧ f ≠ g ∨ mismatchReason f g = "arity" ∧ f = g ∧ as.length ≠ bs.length)
  | infinite i t => s(a, b) = s(.var i, t) ∧ s.Unbound i ∧ ∃ path, path ≠ [] ∧ t.subterm? path = some (.var i)
  | store _ => False

theorem UnifyError.Tells.symm {s : Store} {a b : Ty} {e : UnifyError} (h : e.Tells s a b) : e.Tells s b a := by
  cases e with
  | mismatch f as g bs => exact ⟨Sym2.eq_swap.trans h.1, h.2⟩
  | infinite i t => exact ⟨Sym2.eq_swap.trans h.1, h.2⟩
  | store e => exact h

theorem UnifyError.mismatchReason_cases {f g : String} {m n : Nat} (h : ¬ (f = g ∧ m = n)) :
    mismatchReason f g = "constructor" ∧ f ≠ g ∨ mismatchReason f g = "arity" ∧ f = g ∧ m ≠ n := by
  by_cases hfg : f = g
  · exact .inr ⟨if_pos hfg, hfg, fun hmn => h ⟨hfg, hmn⟩⟩
  · exact .inl ⟨if_neg hfg, hfg⟩

namespace Unifier

variable {s : Store} {l r a b : Ty} {path : List Nat} {turned : Bool} {event : Option Event} {e : UnifyError}

theorem substituteArgsM_value (hs : s.WellFormed) {f : String} {args us : List Ty} (h : s.Covers (.con f args))
    (hus : Ty.substituteArgsM (s.resolveWithin s.size) args = .ok us) : us = args.map (Ty.apply s.value) := by
  rw [substituteArgsM_eq hs fun a ha => h.arg ha] at hus
  exact (Except.ok.inj hus).symm

theorem VarMove.tells (hs : s.WellFormed) {i : Int} {other : Ty} (hi : s.Allocated i) (ho : s.Covers other)
    (h : VarMove s i other (.fail event e)) : e.Tells s (s.value i) (other.apply s.value) := by
  have hrefutes := (h.fail_refutes hs hi ho).1
  cases h with
  | unallocated | headFault | occursFault | infiniteFault => exact absurd rfl (hrefutes _)
  | infinite hi hh hne htrue ht =>
      have hself := ne_of_occurs hs ho hh hne htrue (value_solves hs)
      rw [occurs_eq hs i ho, Except.ok.injEq, decide_eq_true_eq] at htrue
      rw [substitute_eq hs ho, Except.ok.injEq] at ht
      obtain ⟨path, hpath⟩ := Ty.exists_subterm?_var htrue
      rw [value_unbound hi] at hself ⊢
      refine ⟨by rw [ht], hi, path, ?_, by rw [← ht, hpath]⟩
      rintro rfl
      rw [Ty.subterm?_nil] at hpath
      exact hself (Option.some.inj hpath).symm

theorem Compares.tells (hs : s.WellFormed) (ha : s.Covers a) (hb : s.Covers b) (h : Compares s a b (.fail event e)) :
    e.Tells s (a.apply s.value) (b.apply s.value) := by
  have hrefutes := (h.fail_refutes hs ha hb).1
  cases h with
  | left _ h => exact h.tells hs (Covers.var.1 ha) hb
  | right h => exact (h.tells hs (Covers.var.1 hb) ha).symm
  | clash h has hbs =>
      rw [substituteArgsM_value hs ha has, substituteArgsM_value hs hb hbs]
      refine ⟨by rw [Ty.apply_con, Ty.apply_con], ?_⟩
      simpa using UnifyError.mismatchReason_cases h
  | leftFault | rightFault => exact absurd rfl (hrefutes _)

end Unifier

/-- A failed unification gives genuine evidence. In the store that is left, the two types have the types of the error at
one path, in either order; and all arguments to the left of the path are equal there, so that it leads to the first
conflict. -/
theorem Store.Reachable.unify_evidence {s : Store} (hs : s.Reachable) {l r : Ty} (hl : s.Covers l) (hr : s.Covers r)
    {steps : Nat} {trace : Trace} {e : UnifyError} {u : Unifier}
    (h : Unifier.unify l r ⟨s, steps, trace⟩ = .error e u) :
    ∃ left right path a b, u.store.substitute l = .ok left ∧ u.store.substitute r = .ok right ∧
      left.subterm? path = some a ∧ right.subterm? path = some b ∧ left.SameLeftOf right path ∧
      e.Tells u.store a b := by
  obtain ⟨hwf, hl', hr', path, turned, a, b, event, hd, ha, hb, hfail⟩ :=
    Unifier.exists_descent (u := ⟨s, steps, trace⟩) hs.wellFormed hl hr h
  obtain ⟨hleft, hright⟩ := hd.subterms hwf
  refine ⟨_, _, path, _, _, substitute_eq hwf hl', substitute_eq hwf hr', hleft, hright, hd.sameLeftOf hwf, ?_⟩
  have htells := hfail.tells hwf ha hb
  cases turned with
  | false => exact htells
  | true => exact htells.symm

theorem Store.Reachable.unify_evidence_bound :
    let int : Ty := .con "Int" []
    let bool : Ty := .con "Bool" []
    let s : Store := ⟨#[.fn (.var 1) int, .var 1, .var 2]⟩
    let l : Ty := .con "Pair" [.var 2, .var 0]
    let r : Ty := .con "Pair" [bool, .fn int (.var 2)]
    let left : Ty := .con "Pair" [bool, .fn int int]
    let right : Ty := .con "Pair" [bool, .fn int bool]
    let mismatch : UnifyError := .mismatch "Bool" [] "Int" []
    let infinite : UnifyError := .infinite 1 (.fn (.var 1) int)
    s.Reachable ∧ s.Covers l ∧ s.Covers r ∧ s.Covers (.var 1) ∧ s.Covers (.var 0) ∧
      (∃ u path a b, Unifier.unify l r ⟨s, 0, #[]⟩ = .error mismatch u ∧ left.subterm? path = some a ∧
        right.subterm? path = some b ∧ left.SameLeftOf right path ∧ mismatch.Tells u.store a b) ∧
      ∃ u path a b, Unifier.unify (.var 1) (.var 0) ⟨s, 0, #[]⟩ = .error infinite u ∧
        (Ty.var 1).subterm? path = some a ∧ (Ty.fn (.var 1) int).subterm? path = some b ∧
        infinite.Tells u.store a b := by
  intro int bool s l r left right mismatch infinite
  have hs : s.Reachable :=
    .unify (u := ⟨({} : Store).fresh.fresh.fresh, 0, #[]⟩) (.fresh (.fresh (.fresh .empty))) (.var 0) (.fn (.var 1) int)
  have hl : s.Covers l := by decide
  have hr : s.Covers r := by decide
  have hone : s.Covers (.var 1) := by decide
  have hzero : s.Covers (.var 0) := by decide
  have hmismatch : Unifier.unify l r ⟨s, 0, #[]⟩ = .error mismatch _ := rfl
  have hinfinite : Unifier.unify (.var 1) (.var 0) ⟨s, 0, #[]⟩ = .error infinite _ := rfl
  refine ⟨hs, hl, hr, hone, hzero, ?_, ?_⟩
  · obtain ⟨t, u, path, a, b, ht, hu, ha, hb, hsame, htells⟩ := hs.unify_evidence hl hr hmismatch
    obtain rfl : left = t := Except.ok.inj ht
    obtain rfl : right = u := Except.ok.inj hu
    exact ⟨_, path, a, b, hmismatch, ha, hb, hsame, htells⟩
  · obtain ⟨t, u, path, a, b, ht, hu, ha, hb, -, htells⟩ := hs.unify_evidence hone hzero hinfinite
    obtain rfl : .var 1 = t := Except.ok.inj ht
    obtain rfl : .fn (.var 1) int = u := Except.ok.inj hu
    exact ⟨_, path, a, b, hinfinite, ha, hb, htells⟩

namespace Store

def argument? (s : Store) (t : Ty) (k : Nat) : Option Ty :=
  match s.head t with
  | .ok (.con _ args) => args[k]?
  | _ => none

/-- Whether the sides are exchanged where the comparison of two types goes down a path. A variable on the right is
exchanged for what it is bound to, which then stands on the left. -/
def exchanged (s : Store) : Ty → Ty → List Nat → Bool
  | _, r, [] => r.isVar
  | l, r, k :: path =>
      let sides := if r.isVar then (r, l) else (l, r)
      match s.argument? sides.1 k, s.argument? sides.2 k with
      | some x, some y => r.isVar ^^ s.exchanged x y path
      | _, _ => r.isVar

variable {s : Store}

theorem head_bound (hs : s.WellFormed) {i : Int} {t : Ty} (ht : s.slot? i = some t) (hne : t ≠ .var i) :
    s.head (.var i) = s.head t :=
  ((ends_head hs (.var i)).1 _).1 (.bound ht hne (((ends_head hs t).1 _).2 rfl))

theorem argument?_bound (hs : s.WellFormed) {i : Int} {t : Ty} (ht : s.slot? i = some t) (hne : t ≠ .var i) (k : Nat) :
    s.argument? (.var i) k = s.argument? t k := by
  rw [argument?, head_bound hs ht hne, argument?]

theorem argument?_con (s : Store) (f : String) (args : List Ty) (k : Nat) : s.argument? (.con f args) k = args[k]? := by
  rw [argument?, head, headWithin_con]

end Store

namespace Unifier

variable {s : Store} {l r a b : Ty} {path : List Nat} {turned : Bool}

theorem Descends.exchanged_eq (h : Descends s l r path turned a b) (hs : s.WellFormed) (hb : b.isVar = false) :
    s.exchanged l r path = turned := by
  induction h with
  | here a b => exact hb
  | @left i t r path turned a b _ ht hne _ ih =>
      rw [← ih hb]
      cases path with
      | nil => simp [exchanged]
      | cons k path => cases hr : r.isVar <;> simp [exchanged, hr, argument?_bound hs ht hne]
  | @right f as j t path turned a b ht hne _ ih =>
      rw [← ih hb]
      cases path with
      | nil => simp [exchanged, Ty.isVar]
      | cons k path =>
          simp only [exchanged, Ty.isVar, if_true, Bool.false_eq_true, if_false, argument?_bound hs ht hne]
          cases s.argument? t k <;> cases s.argument? (.con f as) k <;> simp
  | arg _ hzip _ _ ih =>
      obtain ⟨hx, hy⟩ := getElem?_of_zip hzip
      rw [← ih hb]
      simp [exchanged, Ty.isVar, argument?_con, hx, hy]

theorem Descends.not_turned (h : Descends s l r path turned a b) (hr : ∀ i ∈ r.vars, s.Unbound i) : turned = false := by
  induction h with
  | here a b => rfl
  | left _ _ _ _ ih => exact ih hr
  | right ht hne _ _ => exact absurd (Option.some.inj (ht.symm.trans (hr _ (by simp)))) hne
  | arg _ hzip _ _ ih =>
      have hy := List.mem_of_getElem? (getElem?_of_zip hzip).2
      exact ih fun i hi => hr i (Ty.mem_vars_con.2 ⟨_, hy, hi⟩)

theorem Compares.mismatch_inv (hs : s.WellFormed) (ha : s.Covers a) (hb : s.Covers b) {event : Option Event}
    {f g : String} {as bs : List Ty} (h : Compares s a b (.fail event (.mismatch f as g bs))) :
    b.isVar = false ∧ a.apply s.value = .con f as ∧ b.apply s.value = .con g bs := by
  cases h with
  | left _ h => cases h
  | right h => cases h
  | clash h has hbs =>
      rw [substituteArgsM_value hs ha has, substituteArgsM_value hs hb hbs]
      simp [Ty.isVar]

end Unifier

/-- A mismatch tells the two types at the first conflict, the left one first unless the sides have been exchanged on the
way there. They are not exchanged where the right type has no bound variable. -/
theorem Store.Reachable.unify_sides {s : Store} (hs : s.Reachable) {l r : Ty} (hl : s.Covers l) (hr : s.Covers r)
    {steps : Nat} {trace : Trace} {f g : String} {as bs : List Ty} {u : Unifier}
    (h : Unifier.unify l r ⟨s, steps, trace⟩ = .error (.mismatch f as g bs) u) :
    ∃ left right path, u.store.substitute l = .ok left ∧ u.store.substitute r = .ok right ∧
      left.SameLeftOf right path ∧
      (if u.store.exchanged l r path then left.subterm? path = some (.con g bs) ∧ right.subterm? path = some (.con f as)
        else left.subterm? path = some (.con f as) ∧ right.subterm? path = some (.con g bs)) ∧
      ((∀ i ∈ r.vars, u.store.Unbound i) → u.store.exchanged l r path = false) := by
  obtain ⟨hwf, hl', hr', path, turned, a, b, event, hd, ha, hb, hfail⟩ :=
    Unifier.exists_descent (u := ⟨s, steps, trace⟩) hs.wellFormed hl hr h
  obtain ⟨hvar, hfirst, hsecond⟩ := hfail.mismatch_inv hwf ha hb
  have hends := hd.subterms hwf
  refine ⟨_, _, path, substitute_eq hwf hl', substitute_eq hwf hr', hd.sameLeftOf hwf, ?_, ?_⟩
  · rw [hd.exchanged_eq hwf hvar, ← hfirst, ← hsecond]
    cases turned <;> exact hends
  · rw [hd.exchanged_eq hwf hvar]
    exact hd.not_turned

example :
    let s : Store := ⟨#[.con "Bool" [], .var 1]⟩
    let l : Ty := .fn (.con "Int" []) (.con "Int" [])
    let r : Ty := .fn (.var 0) (.var 1)
    s.exchanged l r [0] = true ∧ s.exchanged r l [0] = false := by decide

theorem Store.Reachable.unify_sides_function :
    let int : Ty := .con "Int" []
    let bool : Ty := .con "Bool" []
    let s : Store := ⟨#[bool, .var 1]⟩
    let l : Ty := .fn int int
    let r : Ty := .fn (.var 0) (.var 1)
    let e : UnifyError := .mismatch "Bool" [] "Int" []
    s.Reachable ∧ s.Covers l ∧ s.Covers r ∧
      (∃ u path, Unifier.unify l r ⟨s, 0, #[]⟩ = .error e u ∧
        if u.store.exchanged l r path then l.subterm? path = some int ∧ (Ty.fn bool (.var 1)).subterm? path = some bool
        else l.subterm? path = some bool ∧ (Ty.fn bool (.var 1)).subterm? path = some int) ∧
      ∃ u path, Unifier.unify r l ⟨s, 0, #[]⟩ = .error e u ∧ (Ty.fn bool (.var 1)).subterm? path = some bool ∧
        l.subterm? path = some int := by
  intro int bool s l r e
  have hs : s.Reachable := .unify (u := ⟨({} : Store).fresh.fresh, 0, #[]⟩) (.fresh (.fresh .empty)) (.var 0) bool
  have hl : s.Covers l := by decide
  have hr : s.Covers r := by decide
  have hright : Unifier.unify l r ⟨s, 0, #[]⟩ = .error e _ := rfl
  have hleft : Unifier.unify r l ⟨s, 0, #[]⟩ = .error e _ := rfl
  refine ⟨hs, hl, hr, ?_, ?_⟩
  · obtain ⟨t, u, path, ht, hu, -, hsides, -⟩ := hs.unify_sides hl hr hright
    obtain rfl : l = t := Except.ok.inj ht
    obtain rfl : .fn bool (.var 1) = u := Except.ok.inj hu
    exact ⟨_, path, hright, hsides⟩
  · obtain ⟨t, u, path, ht, hu, -, hsides, hkept⟩ := hs.unify_sides hr hl hleft
    obtain rfl : .fn bool (.var 1) = t := Except.ok.inj ht
    obtain rfl : l = u := Except.ok.inj hu
    rw [if_neg (by simp [hkept (by decide)])] at hsides
    exact ⟨_, path, hleft, hsides⟩

theorem Store.Reachable.unify_sides_not_kept :
    let s : Store := ⟨#[.con "Int" []]⟩
    let l : Ty := .con "Bool" []
    let r : Ty := .var 0
    s.Reachable ∧ s.Covers l ∧ s.Covers r ∧
      ∃ u, Unifier.unify l r ⟨s, 0, #[]⟩ = .error (.mismatch "Int" [] "Bool" []) u ∧
        ¬ ∃ left right path, u.store.substitute l = .ok left ∧ u.store.substitute r = .ok right ∧
          left.subterm? path = some (.con "Int" []) ∧ right.subterm? path = some (.con "Bool" []) := by
  intro s l r
  have hs : s.Reachable := .unify (u := ⟨({} : Store).fresh, 0, #[]⟩) (.fresh .empty) (.var 0) (.con "Int" [])
  refine ⟨hs, by decide, by decide, _, rfl, ?_⟩
  rintro ⟨left, right, path, hleft, -, hint, -⟩
  obtain rfl : l = left := Except.ok.inj hleft
  cases path with
  | nil => simp [l] at hint
  | cons k path => simp [l, Ty.subterm?] at hint

end Monotype
