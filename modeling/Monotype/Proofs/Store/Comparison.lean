import Monotype.Proofs.Store.Resolution
import Monotype.Store.Unify

namespace Monotype

section

variable {ε σ α β : Type} {x : EStateM ε σ α} {f : α → EStateM ε σ β} {s s' : σ}

theorem bind_of_ok {a : α} (h : x s = .ok a s') : (x >>= f) s = f a s' := by
  change EStateM.bind x f s = _
  rw [EStateM.bind, h]

theorem bind_of_error {e : ε} (h : x s = .error e s') : (x >>= f) s = .error e s' := by
  change EStateM.bind x f s = _
  rw [EStateM.bind, h]

def final : EStateM.Result ε σ α → σ
  | .ok _ s => s
  | .error _ s => s

end

namespace Unifier

inductive Move where
  | next (pairs : List (Ty × Ty))
  | bind (id : Int) (t : Ty)
  | fail (event : Option Event) (e : UnifyError)

/-- Comparing a variable with another type than itself. -/
inductive VarMove (s : Store) (i : Int) (other : Ty) : Move → Prop
  | unallocated (hi : ¬ s.Allocated i) : VarMove s i other (.fail none (.store (.unallocated i)))
  | follow {t} (ht : s.slot? i = some t) (hne : t ≠ .var i) : VarMove s i other (.next [(t, other)])
  | headFault {e} (hi : s.slot? i = some (.var i)) (hh : s.head other = .error e) :
      VarMove s i other (.fail none (.store e))
  | chain (hi : s.slot? i = some (.var i)) (hh : s.head other = .ok (.var i)) : VarMove s i other (.next [])
  | occursFault {h e} (hi : s.slot? i = some (.var i)) (hh : s.head other = .ok h) (hne : h ≠ .var i)
      (ho : s.occurs i other = .error e) : VarMove s i other (.fail none (.store e))
  | infinite {h t} (hi : s.slot? i = some (.var i)) (hh : s.head other = .ok h) (hne : h ≠ .var i)
      (ho : s.occurs i other = .ok true) (ht : s.substitute other = .ok t) :
      VarMove s i other (.fail (some (.occursCheckFailed i other)) (.infinite i t))
  | infiniteFault {h e} (hi : s.slot? i = some (.var i)) (hh : s.head other = .ok h) (hne : h ≠ .var i)
      (ho : s.occurs i other = .ok true) (ht : s.substitute other = .error e) :
      VarMove s i other (.fail (some (.occursCheckFailed i other)) (.store e))
  | bind {h} (hi : s.slot? i = some (.var i)) (hh : s.head other = .ok h) (hne : h ≠ .var i)
      (ho : s.occurs i other = .ok false) : VarMove s i other (.bind i other)

/-- A variable on the left comes first. Two constructors are compared argument by argument. -/
inductive Compares (s : Store) : Ty → Ty → Move → Prop
  | same (i) : Compares s (.var i) (.var i) (.next [])
  | left {i r m} (hne : r ≠ .var i) (h : VarMove s i r m) : Compares s (.var i) r m
  | right {f as j m} (h : VarMove s j (.con f as) m) : Compares s (.con f as) (.var j) m
  | args {f as bs} (h : as.length = bs.length) : Compares s (.con f as) (.con f bs) (.next (as.zip bs))
  | clash {f as g bs as' bs'} (h : ¬ (f = g ∧ as.length = bs.length))
      (ha : Ty.substituteArgsM (s.resolveWithin s.size) as = .ok as')
      (hb : Ty.substituteArgsM (s.resolveWithin s.size) bs = .ok bs') :
      Compares s (.con f as) (.con g bs) (.fail none (.mismatch f as' g bs'))
  | leftFault {f as g bs e} (h : ¬ (f = g ∧ as.length = bs.length))
      (ha : Ty.substituteArgsM (s.resolveWithin s.size) as = .error e) :
      Compares s (.con f as) (.con g bs) (.fail none (.store e))
  | rightFault {f as g bs as' e} (h : ¬ (f = g ∧ as.length = bs.length))
      (ha : Ty.substituteArgsM (s.resolveWithin s.size) as = .ok as')
      (hb : Ty.substituteArgsM (s.resolveWithin s.size) bs = .error e) :
      Compares s (.con f as) (.con g bs) (.fail none (.store e))

def ticked (u : Unifier) : Unifier := { u with steps := u.steps + 1 }

def told (u : Unifier) : Option Event → Unifier
  | none => u
  | some e => { u with trace := u.trace.push e }

def assigned (u : Unifier) (i : Int) (t : Ty) : Unifier :=
  { u with store := u.store.assign i t, trace := u.trace.push (.bound i t) }

@[simp] theorem store_ticked (u : Unifier) : u.ticked.store = u.store := rfl

@[simp] theorem store_told (u : Unifier) (event : Option Event) : (u.told event).store = u.store := by
  cases event <;> rfl

@[simp] theorem store_assigned (u : Unifier) (i : Int) (t : Ty) :
    (u.assigned i t).store = u.store.assign i t := rfl

/-- Carry out a move, where `next` unifies the pairs that are left. -/
def Move.act (next : Ty → Ty → UnifyM Unit) : Move → UnifyM Unit
  | .next ps => ps.forM fun p => next p.1 p.2
  | .bind i t => fun u => .ok () (u.assigned i t)
  | .fail event e => fun u => .error e (u.told event)

variable {α : Type} (next : Ty → Ty → UnifyM Unit)

theorem ask_ok {f : Store → Except StoreError α} {u : Unifier} {a : α} (h : f u.store = .ok a) :
    ask f u = .ok a u := by
  rw [ask, h]

theorem ask_error {f : Store → Except StoreError α} {u : Unifier} {e : StoreError}
    (h : f u.store = .error e) : ask f u = .error (.store e) u := by
  rw [ask, h]

theorem bind_assigned {u : Unifier} {i : Int} (h : u.store.Allocated i) (t : Ty) :
    Unifier.bind i t u = .ok () (u.assigned i t) := by
  have ha : ask (·.bind i t) (u.told (some (.bound i t))) = .ok (u.store.assign i t) (u.told (some (.bound i t))) :=
    ask_ok (Store.bind_eq h t)
  exact bind_of_ok ha

theorem act_follow (t other : Ty) (u : Unifier) : (Move.next [(t, other)]).act next u = next t other u := by
  change (next t other >>= fun _ => pure ()) u = _
  rw [bind_pure]

theorem unifyVar_act (i : Int) (other : Ty) (u : Unifier) :
    ∃ m, VarMove u.store i other m ∧ unifyVar next i other u = m.act next u := by
  unfold unifyVar
  by_cases hi : u.store.Allocated i
  · obtain ⟨t, ht⟩ := Store.allocated_iff.1 hi
    rw [bind_of_ok (ask_ok (Store.slot_eq_ok_iff.2 ht))]
    by_cases hne : t = .var i
    · subst hne
      rw [if_neg (not_not.2 rfl)]
      cases hh : u.store.head other with
      | error e => exact ⟨_, .headFault ht hh, bind_of_error (ask_error hh)⟩
      | ok h =>
          rw [bind_of_ok (ask_ok hh)]
          by_cases hn : h = .var i
          · rw [if_pos hn]
            exact ⟨_, .chain ht (hn ▸ hh), rfl⟩
          · rw [if_neg hn]
            cases ho : u.store.occurs i other with
            | error e => exact ⟨_, .occursFault ht hh hn ho, bind_of_error (ask_error ho)⟩
            | ok b =>
                rw [bind_of_ok (ask_ok ho)]
                cases b with
                | false => exact ⟨_, .bind ht hh hn ho, bind_assigned hi other⟩
                | true =>
                    cases hs : u.store.substitute other with
                    | error e =>
                        refine ⟨_, .infiniteFault ht hh hn ho hs, ?_⟩
                        have ha : ask (·.substitute other) (u.told (some (.occursCheckFailed i other))) = _ :=
                          ask_error hs
                        exact (bind_of_ok rfl).trans (bind_of_error ha)
                    | ok t =>
                        refine ⟨_, .infinite ht hh hn ho hs, ?_⟩
                        have ha : ask (·.substitute other) (u.told (some (.occursCheckFailed i other))) = _ :=
                          ask_ok hs
                        exact (bind_of_ok rfl).trans (bind_of_ok ha)
    · rw [if_pos hne]
      exact ⟨_, .follow ht hne, (act_follow next t other u).symm⟩
  · refine ⟨_, .unallocated hi, ?_⟩
    exact bind_of_error (ask_error (Store.slot_eq_error_iff.2 ⟨hi, rfl⟩))

theorem unifyStepArgs_eq {as bs : List Ty} (h : as.length = bs.length) :
    unifyStepArgs next as bs = (as.zip bs).forM fun p => unifyStep next p.1 p.2 := by
  induction as generalizing bs with
  | nil =>
      cases bs with
      | nil => rw [unifyStepArgs.eq_def]; rfl
      | cons b bs => simp at h
  | cons a as ih =>
      cases bs with
      | nil => simp at h
      | cons b bs =>
          rw [unifyStepArgs, ih (Nat.succ.inj h)]
          rfl

theorem mismatch_fail {f : String} {as : List Ty} {g : String} {bs : List Ty}
    (h : ¬ (f = g ∧ as.length = bs.length)) (u : Unifier) :
    ∃ e, Compares u.store (.con f as) (.con g bs) (.fail none e) ∧ mismatch f as g bs u = .error e u := by
  unfold mismatch
  cases ha : Ty.substituteArgsM (u.store.resolveWithin u.store.size) as with
  | error e => exact ⟨_, .leftFault h ha, bind_of_error (ask_error ha)⟩
  | ok as' =>
      rw [bind_of_ok (ask_ok ha)]
      cases hb : Ty.substituteArgsM (u.store.resolveWithin u.store.size) bs with
      | error e => exact ⟨_, .rightFault h ha hb, bind_of_error (ask_error hb)⟩
      | ok bs' => exact ⟨_, .clash h ha hb, bind_of_ok (ask_ok hb)⟩

theorem unifyStep_var (i : Int) (r : Ty) (u : Unifier) :
    unifyStep next (.var i) r u = if r = .var i then .ok () u.ticked else unifyVar next i r u.ticked := by
  rw [unifyStep]
  change (if r = .var i then pure () else unifyVar next i r) u.ticked = _
  split <;> rfl

theorem unifyStep_con_var (f : String) (as : List Ty) (j : Int) (u : Unifier) :
    unifyStep next (.con f as) (.var j) u = unifyVar next j (.con f as) u.ticked := by
  rw [unifyStep]
  rfl

theorem unifyStep_con_con (f : String) (as : List Ty) (g : String) (bs : List Ty) (u : Unifier) :
    unifyStep next (.con f as) (.con g bs) u =
      if f = g ∧ as.length = bs.length then unifyStepArgs next as bs u.ticked else mismatch f as g bs u.ticked := by
  rw [unifyStep]
  change (if f = g ∧ as.length = bs.length then unifyStepArgs next as bs else mismatch f as g bs) u.ticked = _
  split <;> rfl

end Unifier

end Monotype
