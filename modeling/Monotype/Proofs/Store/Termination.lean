import Monotype.Proofs.Store.Run

namespace Monotype.Store

open Relation

variable {s : Store}

/-- Follow bindings to an unbound variable or a constructor. -/
inductive Heads (s : Store) : Ty → Except StoreError Ty → Prop
  | con (f args) : Heads s (.con f args) (.ok (.con f args))
  | unallocated {i} (h : s.slot? i = none) : Heads s (.var i) (.error (.unallocated i))
  | unbound {i} (h : s.slot? i = some (.var i)) : Heads s (.var i) (.ok (.var i))
  | bound {i t res} (h : s.slot? i = some t) (hne : t ≠ .var i) (hrest : Heads s t res) : Heads s (.var i) res

/-- Search a row of types from the left for an unbound variable, and stop where it is found. -/
inductive Reaches (s : Store) (target : Int) : List Ty → Except StoreError Bool → Prop
  | nil : Reaches s target [] (.ok false)
  | unallocated {i rest} (h : s.slot? i = none) : Reaches s target (.var i :: rest) (.error (.unallocated i))
  | found {rest} (h : s.slot? target = some (.var target)) : Reaches s target (.var target :: rest) (.ok true)
  | other {i rest res} (h : s.slot? i = some (.var i)) (hne : i ≠ target) (hrest : Reaches s target rest res) :
      Reaches s target (.var i :: rest) res
  | bound {i t rest res} (h : s.slot? i = some t) (hne : t ≠ .var i) (hrest : Reaches s target (t :: rest) res) :
      Reaches s target (.var i :: rest) res
  | con {f args rest res} (hrest : Reaches s target (args ++ rest) res) : Reaches s target (.con f args :: rest) res

/-- Replace the variables of a row of types from the left. -/
inductive Resolves (s : Store) : List Ty → Except StoreError (List Ty) → Prop
  | nil : Resolves s [] (.ok [])
  | unallocated {i rest} (h : s.slot? i = none) : Resolves s (.var i :: rest) (.error (.unallocated i))
  | unbound {i rest res} (h : s.slot? i = some (.var i)) (hrest : Resolves s rest res) :
      Resolves s (.var i :: rest) (res.map (.var i :: ·))
  | bound {i t rest res} (h : s.slot? i = some t) (hne : t ≠ .var i) (hrest : Resolves s (t :: rest) res) :
      Resolves s (.var i :: rest) res
  | con {f args us rest res} (hargs : Resolves s args (.ok us)) (hrest : Resolves s rest res) :
      Resolves s (.con f args :: rest) (res.map (.con f us :: ·))
  | fault {f args e rest} (hargs : Resolves s args (.error e)) : Resolves s (.con f args :: rest) (.error e)

theorem slot?_cases (s : Store) (i : Int) :
    s.slot? i = none ∨ s.slot? i = some (.var i) ∨ ∃ t, s.slot? i = some t ∧ t ≠ .var i := by
  cases h : s.slot? i with
  | none => exact .inl rfl
  | some t =>
      by_cases ht : t = .var i
      · exact .inr (.inl (by rw [ht]))
      · exact .inr (.inr ⟨t, rfl, ht⟩)

theorem not_allocated_of_slot? {i : Int} (h : s.slot? i = none) : ¬ s.Allocated i := by
  intro hi
  obtain ⟨t, ht⟩ := allocated_iff.1 hi
  rw [h] at ht
  cases ht

def Missing (s : Store) (e : StoreError) : Prop := ∃ i, ¬ s.Allocated i ∧ e = .unallocated i

/-- The rules come to this answer and no other, and it is no failure but for a variable without a slot. -/
def Ends {α : Type} (s : Store) (rules : Except StoreError α → Prop) (answer : Except StoreError α) : Prop :=
  (∀ res, rules res ↔ answer = res) ∧ ∀ e, answer = .error e → s.Missing e

theorem Heads.unique {t : Ty} {res res' : Except StoreError Ty} (h : Heads s t res) (h' : Heads s t res') :
    res = res' := by
  induction h with
  | con f args => cases h'; rfl
  | unallocated h => cases h' <;> simp_all
  | unbound h => cases h' <;> simp_all
  | bound h hne _ ih =>
      cases h' with
      | unallocated h' => simp_all
      | unbound h' => simp_all
      | bound h' _ hrest' =>
          obtain rfl := Option.some.inj (h.symm.trans h')
          exact ih hrest'

theorem Reaches.unique {target : Int} {ts : List Ty} {res res' : Except StoreError Bool}
    (h : Reaches s target ts res) (h' : Reaches s target ts res') : res = res' := by
  induction h with
  | nil => cases h'; rfl
  | unallocated h => cases h' <;> simp_all
  | found h => cases h' <;> simp_all
  | other h hne _ ih =>
      cases h' with
      | unallocated | found | bound => simp_all
      | other _ _ hrest' => exact ih hrest'
  | bound h hne _ ih =>
      cases h' with
      | unallocated | found | other => simp_all
      | bound h' _ hrest' =>
          obtain rfl := Option.some.inj (h.symm.trans h')
          exact ih hrest'
  | con _ ih =>
      cases h' with
      | con hrest' => exact ih hrest'

theorem Resolves.unique {ts : List Ty} {res res' : Except StoreError (List Ty)} (h : Resolves s ts res)
    (h' : Resolves s ts res') : res = res' := by
  induction h generalizing res' with
  | nil => cases h'; rfl
  | unallocated h => cases h' <;> simp_all
  | unbound h _ ih =>
      cases h' with
      | unallocated | bound => simp_all
      | unbound _ hrest' => rw [ih hrest']
  | bound h hne _ ih =>
      cases h' with
      | unallocated | unbound => simp_all
      | bound h' _ hrest' =>
          obtain rfl := Option.some.inj (h.symm.trans h')
          exact ih hrest'
  | con _ _ ihargs ih =>
      cases h' with
      | con hargs' hrest' =>
          obtain rfl := Except.ok.inj (ihargs hargs')
          rw [ih hrest']
      | fault hargs' => cases ihargs hargs'
  | fault _ ihargs =>
      cases h' with
      | con hargs' _ => cases ihargs hargs'
      | fault hargs' => rw [Except.error.inj (ihargs hargs')]

theorem heads_of_headWithin {hops : Nat} {t : Ty} (h : s.headWithin hops t ≠ .error .cyclic) :
    Heads s t (s.headWithin hops t) := by
  match t with
  | .con f args =>
      rw [headWithin_con]
      exact .con f args
  | .var i =>
      rcases s.slot?_cases i with hi | hi | ⟨t, hi, hne⟩
      · rw [headWithin_unallocated (not_allocated_of_slot? hi)]
        exact .unallocated hi
      · rw [headWithin_unbound hi]
        exact .unbound hi
      · cases hops with
        | zero => exact absurd (by rw [headWithin]; exact look_bound _ _ hi hne) h
        | succ hops =>
            rw [headWithin_bound hi hne] at h ⊢
            exact .bound hi hne (heads_of_headWithin h)

/-- The search of `ts` comes to `first`, whatever stands behind `ts`. -/
def Finds (s : Store) (target : Int) (ts : List Ty) : Except StoreError Bool → Prop
  | .ok false => ∀ rest res, Reaches s target rest res → Reaches s target (ts ++ rest) res
  | .ok true => ∀ rest, Reaches s target (ts ++ rest) (.ok true)
  | .error e => e = .cyclic ∨ ∀ rest, Reaches s target (ts ++ rest) (.error e)

namespace Finds

variable {target : Int} {ts us : List Ty} {first second : Except StoreError Bool}

theorem append (h : Finds s target ts first) (h' : Finds s target us second) :
    Finds s target (ts ++ us) (first >>= fun b => if b = true then pure true else second) := by
  match first with
  | .error e => exact h.imp_right fun h rest => by simpa using h (us ++ rest)
  | .ok true => exact fun rest => by simpa using h (us ++ rest)
  | .ok false =>
      change Finds s target (ts ++ us) second
      match second with
      | .error e => exact h'.imp_right fun h' rest => by simpa using h _ _ (h' rest)
      | .ok true => exact fun rest => by simpa using h _ _ (h' rest)
      | .ok false => exact fun rest res hrest => by simpa using h _ _ (h' rest res hrest)

theorem of_rule (us : List Ty)
    (hrule : ∀ rest res, Reaches s target (us ++ rest) res → Reaches s target (ts ++ rest) res)
    (h : Finds s target us first) : Finds s target ts first := by
  match first with
  | .error e => exact h.imp_right fun h rest => hrule _ _ (h rest)
  | .ok true => exact fun rest => hrule _ _ (h rest)
  | .ok false => exact fun rest res hrest => hrule _ _ (h rest res hrest)

end Finds

theorem finds_anyVarM {target : Int} {p : Int → Except StoreError Bool} (hp : ∀ i, Finds s target [.var i] (p i))
    (t : Ty) : Finds s target [t] (t.anyVarM p) := by
  induction t with
  | var i =>
      rw [Ty.anyVarM]
      exact hp i
  | con f args ih =>
      rw [Ty.anyVarM]
      refine .of_rule args (fun rest res h => .con h) ?_
      induction args with
      | nil =>
          rw [Ty.anyVarArgsM]
          exact fun rest res h => h
      | cons a as ihas =>
          rw [Ty.anyVarArgsM]
          exact (ih a List.mem_cons_self).append (ihas fun b hb => ih b (List.mem_cons_of_mem a hb))

theorem finds_reachesWithin (s : Store) (target : Int) (hops : Nat) (i : Int) :
    Finds s target [.var i] (s.reachesWithin target hops i) := by
  rcases s.slot?_cases i with hi | hi | ⟨t, hi, hne⟩
  · rw [reachesWithin_unallocated target (not_allocated_of_slot? hi)]
    exact .inr fun rest => .unallocated hi
  · rw [reachesWithin_unbound target hi]
    by_cases hit : i = target
    · subst hit
      simpa [Finds] using fun rest => Reaches.found hi
    · simpa [Finds, hit] using fun rest res hrest => Reaches.other hi hit hrest
  · cases hops with
    | zero =>
        rw [reachesWithin, look_bound _ _ hi hne]
        exact .inl rfl
    | succ hops =>
        rw [reachesWithin_bound target hi hne]
        exact .of_rule [t] (fun rest res h => .bound hi hne h)
          (finds_anyVarM (finds_reachesWithin s target hops) t)

def Gives (s : Store) (ts : List Ty) : Except StoreError (List Ty) → Prop
  | .ok us => ∀ rest res, Resolves s rest res → Resolves s (ts ++ rest) (res.map (us ++ ·))
  | .error e => e = .cyclic ∨ ∀ rest, Resolves s (ts ++ rest) (.error e)

namespace Gives

variable {ts us : List Ty} {t : Ty}

theorem nil : Gives s [] (.ok []) := by
  intro rest res h
  cases res <;> exact h

theorem cons {first : Except StoreError Ty} {second : Except StoreError (List Ty)}
    (h : Gives s [t] (first.map ([·]))) (h' : Gives s ts second) :
    Gives s (t :: ts) (do let u ← first; let us ← second; return u :: us) := by
  match first with
  | .error e => exact h.imp_right fun h rest => h (ts ++ rest)
  | .ok u =>
      match second with
      | .error e => exact h'.imp_right fun h' rest => h _ _ (h' rest)
      | .ok us =>
          intro rest res hrest
          have hrow := h _ _ (h' rest res hrest)
          cases res <;> exact hrow

theorem con {first : Except StoreError (List Ty)} (h : Gives s ts first) (f : String) :
    Gives s [.con f ts] (first.map fun us => [.con f us]) := by
  match first with
  | .error e =>
      refine h.imp_right fun h rest => ?_
      have hargs := h []
      rw [List.append_nil] at hargs
      exact .fault hargs
  | .ok us =>
      intro rest res hrest
      have hargs := h [] _ .nil
      rw [List.append_nil] at hargs
      change Resolves s ts (.ok (us ++ [])) at hargs
      rw [List.append_nil] at hargs
      exact .con hargs hrest

end Gives

theorem gives_substituteM {p : Int → Except StoreError Ty} (hp : ∀ i, Gives s [.var i] ((p i).map ([·]))) (t : Ty) :
    Gives s [t] ((t.substituteM p).map ([·])) := by
  induction t with
  | var i =>
      rw [Ty.substituteM]
      exact hp i
  | con f args ih =>
      have hargs : Gives s args (Ty.substituteArgsM p args) := by
        induction args with
        | nil =>
            rw [Ty.substituteArgsM]
            exact .nil
        | cons a as ihas =>
            rw [Ty.substituteArgsM]
            exact (ih a List.mem_cons_self).cons (ihas fun b hb => ih b (List.mem_cons_of_mem a hb))
      rw [Ty.substituteM]
      have hcon := hargs.con f
      cases h : Ty.substituteArgsM p args <;> (rw [h] at hcon; exact hcon)

theorem gives_resolveWithin (s : Store) (hops : Nat) (i : Int) :
    Gives s [.var i] ((s.resolveWithin hops i).map ([·])) := by
  rcases s.slot?_cases i with hi | hi | ⟨t, hi, hne⟩
  · rw [resolveWithin_unallocated (not_allocated_of_slot? hi)]
    exact .inr fun rest => .unallocated hi
  · rw [resolveWithin_unbound hi]
    exact fun rest res hrest => .unbound hi hrest
  · cases hops with
    | zero =>
        rw [resolveWithin, look_bound _ _ hi hne]
        exact .inl rfl
    | succ hops =>
        rw [resolveWithin_bound hi hne]
        have h := gives_substituteM (gives_resolveWithin s hops) t
        cases hres : t.substituteM (s.resolveWithin hops) with
        | error e =>
            rw [hres] at h
            exact h.imp_right fun h rest => .bound hi hne (h rest)
        | ok u =>
            rw [hres] at h
            exact fun rest res hrest => .bound hi hne (h rest res hrest)

theorem head_error (hs : s.WellFormed) {t : Ty} {e : StoreError} (h : s.head t = .error e) : s.Missing e := by
  rcases head_cases hs t with ⟨u, hu, _⟩ | ⟨i, _, hi, he⟩
  · cases h.symm.trans hu
  · exact ⟨i, hi, Except.error.inj (h.symm.trans he)⟩

theorem ends_head (hs : s.WellFormed) (t : Ty) : s.Ends (Heads s t) (s.head t) := by
  have hend : Heads s t (s.head t) := by
    apply heads_of_headWithin
    intro hc
    obtain ⟨i, _, hi⟩ := head_error hs hc
    cases hi
  exact ⟨fun res => ⟨hend.unique, fun h => h ▸ hend⟩, fun e he => head_error hs he⟩

theorem ends_occurs (hs : s.WellFormed) (target : Int) (t : Ty) :
    s.Ends (Reaches s target [t]) (s.occurs target t) := by
  have herror (e : StoreError) (he : s.occurs target t = .error e) : s.Missing e := by
    obtain ⟨i, _, hi⟩ := occurs_error hs he
    exact ⟨i, hi⟩
  have hend : Reaches s target [t] (s.occurs target t) := by
    have h : Finds s target [t] (s.occurs target t) := finds_anyVarM (s.finds_reachesWithin target s.size) t
    match ho : s.occurs target t with
    | .ok true => rw [ho] at h; exact h []
    | .ok false => rw [ho] at h; exact h [] _ .nil
    | .error e =>
        rw [ho] at h
        obtain ⟨i, _, rfl⟩ := herror e ho
        exact h.resolve_left nofun []
  exact ⟨fun res => ⟨hend.unique, fun h => h ▸ hend⟩, herror⟩

theorem ends_substitute (hs : s.WellFormed) (t : Ty) :
    s.Ends (fun res => Resolves s [t] (res.map ([·]))) (s.substitute t) := by
  have herror (e : StoreError) (he : s.substitute t = .error e) : s.Missing e := by
    obtain ⟨i, _, hi⟩ := substitute_error hs he
    exact ⟨i, hi⟩
  have hend : Resolves s [t] ((s.substitute t).map ([·])) := by
    have h : Gives s [t] ((s.substitute t).map ([·])) := gives_substituteM (s.gives_resolveWithin s.size) t
    cases ht : s.substitute t with
    | ok u => rw [ht] at h; exact h [] _ .nil
    | error e =>
        rw [ht] at h
        obtain ⟨i, _, rfl⟩ := herror e ht
        exact h.resolve_left nofun []
  refine ⟨fun res => ⟨fun h => ?_, fun h => h ▸ hend⟩, herror⟩
  have heq := hend.unique h
  cases ht : s.substitute t <;> cases res <;> simp_all [Except.map]

def Chains (s : Store) (i j : Int) : Prop := s.slot? i = some (.var j) ∧ j ≠ i

theorem exists_next {r : Int → Int → Prop} {i : Int} (h : TransGen r i i) : ∃ j, r i j ∧ TransGen r j j := by
  obtain ⟨j, hij, hji⟩ := TransGen.head'_iff.1 h
  exact ⟨j, hij, .tail' hji hij⟩

theorem not_cycle_of_unbound {i : Int} (h : s.slot? i = some (.var i)) : ¬ TransGen s.Binds i i := by
  intro hcycle
  obtain ⟨j, ⟨t, ht, hne, _⟩, _⟩ := exists_next hcycle
  exact hne (Option.some.inj (ht.symm.trans h))

theorem not_cycle_of_slot {i : Int} {t : Ty} (h : s.slot? i = some t) (ht : ∀ j ∈ t.vars, ¬ TransGen s.Binds j j) :
    ¬ TransGen s.Binds i i := by
  intro hcycle
  obtain ⟨j, ⟨u, hu, _, hj⟩, hcycle⟩ := exists_next hcycle
  obtain rfl := Option.some.inj (hu.symm.trans h)
  exact ht j hj hcycle

theorem forall_vars_var {P : Int → Prop} {i : Int} (h : P i) : ∀ j ∈ (Ty.var i).vars, P j := by
  intro j hj
  rwa [Ty.mem_vars_var.1 hj]

def Closed (s : Store) : Prop := ∀ i t, s.slot? i = some t → s.Covers t

theorem Heads.not_cycle {t : Ty} {res : Except StoreError Ty} (h : Heads s t res) {i : Int} (ht : t = .var i) :
    ¬ TransGen s.Chains i i := by
  intro hcycle
  induction h generalizing i with
  | con f args => cases ht
  | unallocated h | unbound h =>
      cases ht
      obtain ⟨j, ⟨hj, hne⟩, _⟩ := exists_next hcycle
      simp_all
  | bound h _ _ ih =>
      cases ht
      obtain ⟨j, ⟨hj, _⟩, hcycle⟩ := exists_next hcycle
      exact ih (Option.some.inj (h.symm.trans hj)) hcycle

theorem Resolves.not_cycle {ts : List Ty} {res : Except StoreError (List Ty)} (h : Resolves s ts res) (hs : s.Closed)
    (hts : ∀ t ∈ ts, s.Covers t) : (∃ us, res = .ok us) ∧ ∀ t ∈ ts, ∀ i ∈ t.vars, ¬ TransGen s.Binds i i := by
  -- Rows whose variables all have slots are never at fault, so only a row without cycles is done.
  induction h with
  | nil => exact ⟨⟨[], rfl⟩, by simp⟩
  | unallocated h =>
      have hi := Covers.var.1 (hts _ List.mem_cons_self)
      exact absurd hi (not_allocated_of_slot? h)
  | unbound h _ ih =>
      obtain ⟨⟨us, rfl⟩, hrest⟩ := ih (List.forall_mem_cons.1 hts).2
      exact ⟨⟨_, rfl⟩, List.forall_mem_cons.2 ⟨forall_vars_var (not_cycle_of_unbound h), hrest⟩⟩
  | bound h _ _ ih =>
      obtain ⟨hok, hall⟩ := ih (List.forall_mem_cons.2 ⟨hs _ _ h, (List.forall_mem_cons.1 hts).2⟩)
      obtain ⟨hslot, hrest⟩ := List.forall_mem_cons.1 hall
      exact ⟨hok, List.forall_mem_cons.2 ⟨forall_vars_var (not_cycle_of_slot h hslot), hrest⟩⟩
  | con _ _ ihargs ih =>
      obtain ⟨hcon, hrest⟩ := List.forall_mem_cons.1 hts
      obtain ⟨⟨us, rfl⟩, hrest⟩ := ih hrest
      have hargs := (ihargs fun a ha => hcon.arg ha).2
      refine ⟨⟨_, rfl⟩, List.forall_mem_cons.2 ⟨fun i hi => ?_, hrest⟩⟩
      obtain ⟨a, ha, hi⟩ := Ty.mem_vars_con.1 hi
      exact hargs a ha i hi
  | fault _ ihargs =>
      obtain ⟨⟨us, hus⟩, _⟩ := ihargs fun a ha => (hts _ List.mem_cons_self).arg ha
      cases hus

theorem Reaches.not_cycle {target : Int} {ts : List Ty} {res : Except StoreError Bool} (h : Reaches s target ts res)
    (hs : s.Closed) (hts : ∀ t ∈ ts, s.Covers t) (htarget : s.slot? target ≠ some (.var target)) :
    ∀ t ∈ ts, ∀ i ∈ t.vars, ¬ TransGen s.Binds i i := by
  -- A search that cannot find its target has to see the whole row.
  induction h with
  | nil => simp
  | unallocated h =>
      have hi := Covers.var.1 (hts _ List.mem_cons_self)
      exact absurd hi (not_allocated_of_slot? h)
  | found h => exact absurd h htarget
  | other h _ _ ih =>
      have hrest := ih (List.forall_mem_cons.1 hts).2
      exact List.forall_mem_cons.2 ⟨forall_vars_var (not_cycle_of_unbound h), hrest⟩
  | bound h _ _ ih =>
      have hall := ih (List.forall_mem_cons.2 ⟨hs _ _ h, (List.forall_mem_cons.1 hts).2⟩)
      obtain ⟨hslot, hrest⟩ := List.forall_mem_cons.1 hall
      exact List.forall_mem_cons.2 ⟨forall_vars_var (not_cycle_of_slot h hslot), hrest⟩
  | con _ ih =>
      obtain ⟨hcon, hrest⟩ := List.forall_mem_cons.1 hts
      have hall := ih (List.forall_mem_append.2 ⟨fun a ha => hcon.arg ha, hrest⟩)
      obtain ⟨hargs, hrest⟩ := List.forall_mem_append.1 hall
      refine List.forall_mem_cons.2 ⟨fun i hi => ?_, hrest⟩
      obtain ⟨a, ha, hi⟩ := Ty.mem_vars_con.1 hi
      exact hargs a ha i hi

end Monotype.Store

namespace Monotype.Unifier

open Relation Store

variable {s : Store}

theorem VarMove.unique {i : Int} {other : Ty} {m m' : Move} (h : VarMove s i other m) (h' : VarMove s i other m') :
    m = m' := by
  cases h <;> cases h' <;> simp_all [allocated_iff]

theorem Compares.unique {l r : Ty} {m m' : Move} (h : Compares s l r m) (h' : Compares s l r m') : m = m' := by
  cases h with
  | same i =>
      cases h' with
      | same => rfl
      | left hne _ => exact absurd rfl hne
  | left hne h =>
      cases h' with
      | same => exact absurd rfl hne
      | left _ h' => exact h.unique h'
  | right h =>
      cases h' with
      | right h' => exact h.unique h'
  | args | clash | leftFault | rightFault => cases h' <;> simp_all

theorem Run.unique {u : Unifier} {ps : List (Ty × Ty)} {res res' : Outcome} (h : Run u ps res) (h' : Run u ps res') :
    res = res' := by
  induction h with
  | done u => cases h'; rfl
  | next h _ ih =>
      cases h' with
      | next h' hrun' =>
          obtain rfl := Move.next.inj (h.unique h')
          exact ih hrun'
      | bind h' | fail h' => cases h.unique h'
  | bind h _ ih =>
      cases h' with
      | bind h' hrun' =>
          obtain ⟨rfl, rfl⟩ := Move.bind.inj (h.unique h')
          exact ih hrun'
      | next h' | fail h' => cases h.unique h'
  | fail h =>
      cases h' with
      | fail h' =>
          obtain ⟨rfl, rfl⟩ := Move.fail.inj (h.unique h')
          rfl
      | next h' | bind h' => cases h.unique h'

theorem run_iff {u : Unifier} (hu : u.store.WellFormed) {l r : Ty} {res : Outcome} :
    Run u [(l, r)] res ↔ unify l r u = res :=
  ⟨(run_unify l r hu).unique, fun h => h ▸ run_unify l r hu⟩

def Stated (s : Store) (e : UnifyError) : Prop := ∀ e', e = .store e' → s.Missing e'

theorem VarMove.stated (hs : s.WellFormed) {i : Int} {other : Ty} {event : Option Event} {e : UnifyError}
    (h : VarMove s i other (.fail event e)) : Stated s e := by
  intro e' he
  cases h with
  | unallocated hi =>
      cases he
      exact ⟨i, hi, rfl⟩
  | headFault _ hh =>
      cases he
      exact head_error hs hh
  | occursFault _ _ _ ho =>
      cases he
      exact (ends_occurs hs i other).2 _ ho
  | infinite => cases he
  | infiniteFault _ _ _ _ ht =>
      cases he
      exact (ends_substitute hs other).2 _ ht

theorem substituteArgsM_stated (hs : s.WellFormed) {args : List Ty} {e : StoreError}
    (h : Ty.substituteArgsM (s.resolveWithin s.size) args = .error e) : Stated s (.store e) := by
  intro e' he
  cases he
  obtain ⟨a, _, ha⟩ := Ty.substituteArgsM_error h
  exact (ends_substitute hs a).2 _ ha

theorem Compares.stated (hs : s.WellFormed) {l r : Ty} {event : Option Event} {e : UnifyError}
    (h : Compares s l r (.fail event e)) : Stated s e := by
  cases h with
  | left _ h | right h => exact h.stated hs
  | clash => exact nofun
  | leftFault _ ha => exact substituteArgsM_stated hs ha
  | rightFault _ _ hb => exact substituteArgsM_stated hs hb

theorem Run.stated {u u' : Unifier} {ps : List (Ty × Ty)} {res : Outcome} {e : UnifyError} (h : Run u ps res)
    (hu : u.store.WellFormed) (hres : res = .error e u') : Stated u.store e := by
  induction h with
  | done u => cases hres
  | next h _ ih => exact ih hu hres
  | bind h _ ih =>
      intro e' he
      obtain ⟨i, hi, he⟩ := ih (h.wellFormed_assign hu) hres e' he
      exact ⟨i, fun ha => hi (allocated_assign.2 ha), he⟩
  | fail h =>
      cases hres
      exact h.stated hu

/-- The comparison of pairs passes through the store `s'`. -/
inductive Visits : Unifier → List (Ty × Ty) → Store → Prop
  | here (u ps) : Visits u ps u.store
  | next {u l r ps rest s'} (h : Compares u.store l r (.next ps)) (hrest : Visits u.ticked (ps ++ rest) s') :
      Visits u ((l, r) :: rest) s'
  | bind {u l r i t rest s'} (h : Compares u.store l r (.bind i t))
      (hrest : Visits (u.ticked.assigned i t) rest s') : Visits u ((l, r) :: rest) s'

theorem Compares.bind_left {l r : Ty} {i : Int} {t : Ty} (h : Compares s l r (.bind i t)) :
    Compares s (.var i) t (.bind i t) := by
  cases h with
  | left hne h =>
      cases h with
      | bind hi hh hn ho => exact .left hne (.bind hi hh hn ho)
  | right h =>
      cases h with
      | bind hi hh hn ho => exact .left nofun (.bind hi hh hn ho)

theorem Compares.reachable_assign (hs : s.Reachable) {l r : Ty} {i : Int} {t : Ty} (h : Compares s l r (.bind i t)) :
    (s.assign i t).Reachable := by
  have hunify := (run_iff (u := ⟨s, 0, #[]⟩) hs.wellFormed).1 (.bind h.bind_left (.done _))
  have hreachable := Reachable.unify (u := ⟨s, 0, #[]⟩) hs (.var i) t
  rwa [hunify] at hreachable

theorem Visits.reachable {u : Unifier} {ps : List (Ty × Ty)} {s' : Store} (h : Visits u ps s')
    (hu : u.store.Reachable) : s'.Reachable := by
  induction h with
  | here u ps => exact hu
  | next _ _ ih => exact ih hu
  | bind h _ ih => exact ih (h.reachable_assign hu)

theorem Compares.follows {i j : Int} (hij : s.Chains i j) {f : String} {args : List Ty} {m : Move}
    (h : Compares s (.var i) (.con f args) m) : m = .next [(.var j, .con f args)] :=
  h.unique (.left nofun (.follow hij.1 (by simpa using hij.2)))

theorem Run.not_cycle {u : Unifier} {ps : List (Ty × Ty)} {res : Outcome} (h : Run u ps res) {i : Int} {f : String}
    {args : List Ty} {rest : List (Ty × Ty)} (hps : ps = (.var i, .con f args) :: rest) :
    ¬ TransGen u.store.Chains i i := by
  -- A chain of variables that comes back is followed for ever.
  intro hcycle
  obtain ⟨j, hij, hnext⟩ := exists_next hcycle
  induction h generalizing i j with
  | done => cases hps
  | next h _ ih =>
      cases hps
      obtain rfl := Move.next.inj (h.follows hij)
      obtain ⟨k, hjk, hknext⟩ := exists_next hnext
      exact ih rfl hnext k hjk hknext
  | bind h | fail h =>
      cases hps
      cases h.follows hij

end Monotype.Unifier

namespace Monotype.Store

open Relation Unifier

/-- Where only new variables and unifications have been, every walk along bindings and every unification ends, with its
answer or with an error that it is known for. The stores on the way of a unification are of this kind too. No bound
makes the walks end: around a cycle none of them does. -/
theorem Reachable.walks_end :
    (∀ s : Store, s.Reachable →
      (∀ t, s.Ends (Heads s t) (s.head t)) ∧
      (∀ target t, s.Ends (Reaches s target [t]) (s.occurs target t)) ∧
      (∀ t, s.Ends (fun res => Resolves s [t] (res.map ([·]))) (s.substitute t)) ∧
      ∀ l r steps trace,
        (∀ res, Run ⟨s, steps, trace⟩ [(l, r)] res ↔ Unifier.unify l r ⟨s, steps, trace⟩ = res) ∧
          (∀ e u, Unifier.unify l r ⟨s, steps, trace⟩ = .error e u → Stated s e) ∧
          ∀ s', Visits ⟨s, steps, trace⟩ [(l, r)] s' → s'.Reachable) ∧
    ∀ s : Store, s.Closed → ∀ i, TransGen s.Binds i i →
      (∀ target res, s.slot? target ≠ some (.var target) → ¬ Reaches s target [.var i] res) ∧
      (∀ res, ¬ Resolves s [.var i] res) ∧
      (TransGen s.Chains i i →
        (∀ res, ¬ Heads s (.var i) res) ∧
          ∀ steps trace f args res, ¬ Run ⟨s, steps, trace⟩ [(.var i, .con f args)] res) := by
  constructor
  · intro s hs
    have hwf := hs.wellFormed
    refine ⟨ends_head hwf, ends_occurs hwf, ends_substitute hwf, fun l r steps trace => ⟨?_, ?_, ?_⟩⟩
    · exact fun res => run_iff hwf
    · intro e u h
      exact ((run_iff hwf).2 h).stated hwf rfl
    · exact fun s' h => h.reachable hs
  · intro s hs i hcycle
    have hcov : ∀ t ∈ [Ty.var i], s.Covers t := by
      obtain ⟨j, hij, _⟩ := exists_next hcycle
      simpa using Covers.var.2 hij.bound.allocated
    refine ⟨fun target res htarget h => ?_, fun res h => ?_, fun hchain => ⟨fun res h => ?_, ?_⟩⟩
    · exact h.not_cycle hs hcov htarget _ List.mem_cons_self i (by simp) hcycle
    · exact (h.not_cycle hs hcov).2 _ List.mem_cons_self i (by simp) hcycle
    · exact h.not_cycle rfl hchain
    · exact fun steps trace f args res h => h.not_cycle rfl hchain

theorem Reachable.walks_end_bound :
    let s : Store := ⟨#[.fn (.var 1) (.var 2), .var 1, .var 2]⟩
    let l : Ty := .var 0
    let r : Ty := .fn (.var 7) (.var 1)
    let c : Store := ⟨#[.var 1, .var 0]⟩
    s.Reachable ∧ Heads s l (.ok (.fn (.var 1) (.var 2))) ∧ Reaches s 2 [l] (.ok true) ∧
      Resolves s [r] (.error (.unallocated 7)) ∧
      (∃ u, Run ⟨s, 0, #[]⟩ [(l, r)] (.error (.store (.unallocated 7)) u)) ∧
      c.Closed ∧ TransGen c.Chains 0 0 ∧ ∀ res, ¬ Heads c (.var 0) res := by
  intro s l r c
  have hs : s.Reachable :=
    .unify (u := ⟨(({} : Store).fresh.fresh).fresh, 0, #[]⟩) (.fresh (.fresh (.fresh .empty))) l (.fn (.var 1) (.var 2))
  obtain ⟨hhead, hoccurs, hsubstitute, hunify⟩ := walks_end.1 s hs
  have hclosed : c.Closed := by
    intro i t h
    obtain ⟨hlow, hhigh⟩ : 0 ≤ i ∧ i < 2 := allocated_of_slot? h
    obtain rfl | rfl : i = 0 ∨ i = 1 := by omega
    · cases h
      decide
    · cases h
      decide
  have hchain : TransGen c.Chains 0 0 := .tail (.single ⟨rfl, by decide⟩) (b := 1) ⟨rfl, by decide⟩
  have hcycle : TransGen c.Binds 0 0 := TransGen.mono (fun i j h => ⟨_, h.1, by simpa using h.2, by simp⟩) _ _ hchain
  obtain ⟨_, _, hloop⟩ := walks_end.2 c hclosed 0 hcycle
  exact ⟨hs, ((hhead l).1 _).2 rfl, ((hoccurs 2 l).1 _).2 rfl, ((hsubstitute r).1 (.error (.unallocated 7))).2 rfl,
    ⟨_, ((hunify l r 0 #[]).1 _).2 rfl⟩, hclosed, hchain, (hloop hchain).1⟩

end Monotype.Store
