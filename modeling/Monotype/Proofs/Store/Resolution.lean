import Monotype.Proofs.Store.Depth
import Monotype.Store.Resolve

namespace Monotype.Store

open Relation

variable {s : Store}

/-- What a variable stands for; the variable itself if that cannot be told. -/
def value (s : Store) (i : Int) : Ty :=
  match s.resolveWithin s.size i with
  | .ok t => t
  | .error _ => .var i

/-- The assignment makes every variable equal to its slot. -/
def Solves (s : Store) (σ : Int → Ty) : Prop := ∀ i t, s.slot? i = some t → σ i = t.apply σ

section

variable {β : Type} {i : Int} (f g : Ty → Except StoreError β)

theorem look_unbound (h : s.slot? i = some (.var i)) :
    (do let t ← s.slot i; if t = .var i then f t else g t) = f (.var i) := by
  rw [slot_eq_ok_iff.2 h]
  exact if_pos rfl

theorem look_bound {t : Ty} (h : s.slot? i = some t) (hne : t ≠ .var i) :
    (do let t ← s.slot i; if t = .var i then f t else g t) = g t := by
  rw [slot_eq_ok_iff.2 h]
  exact if_neg hne

theorem look_unallocated (h : ¬ s.Allocated i) :
    (do let t ← s.slot i; if t = .var i then f t else g t) = Except.error (.unallocated i) := by
  rw [slot_eq_error_iff.2 ⟨h, rfl⟩]
  rfl

end

theorem resolveWithin_unbound {i : Int} (h : s.slot? i = some (.var i)) (hops : Nat) :
    s.resolveWithin hops i = .ok (.var i) := by
  cases hops <;> (rw [resolveWithin]; exact look_unbound _ _ h)

theorem resolveWithin_bound {i : Int} {t : Ty} (h : s.slot? i = some t) (hne : t ≠ .var i) (hops : Nat) :
    s.resolveWithin (hops + 1) i = t.substituteM (s.resolveWithin hops) := by
  rw [resolveWithin]
  exact look_bound _ _ h hne

theorem resolveWithin_unallocated {i : Int} (h : ¬ s.Allocated i) (hops : Nat) :
    s.resolveWithin hops i = .error (.unallocated i) := by
  cases hops <;> (rw [resolveWithin]; exact look_unallocated _ _ h)

/-- The answer does not depend on the number of hops, as soon as there are as many as the variable is deep. -/
theorem exists_resolved (hs : s.WellFormed) {i : Int} (hi : s.Allocated i) :
    ∃ t, ∀ hops, s.depth i ≤ hops → s.resolveWithin hops i = .ok t := by
  induction i using hs.induction with
  | step i ih =>
      obtain ⟨t, ht⟩ := allocated_iff.1 hi
      by_cases hne : t = .var i
      · subst hne
        exact ⟨.var i, fun hops _ => resolveWithin_unbound ht hops⟩
      · have hedge (j : Int) (hj : j ∈ t.vars) : s.Binds i j := ⟨t, ht, hne, hj⟩
        choose! σ hσ using fun j hj => ih j (hedge j hj) (hs.covers i t ht j hj)
        refine ⟨t.apply σ, fun hops hops_le => ?_⟩
        have hpos := depth_pos ⟨t, ht, hne⟩
        obtain ⟨hops, rfl⟩ := Nat.exists_eq_succ_of_ne_zero (by omega : hops ≠ 0)
        rw [resolveWithin_bound ht hne]
        apply Ty.substituteM_ok
        intro j hj
        have hlt := depth_lt hs (hedge j hj)
        exact hσ j hj hops (by omega)

theorem resolveWithin_eq (hs : s.WellFormed) {i : Int} (hi : s.Allocated i) {hops : Nat}
    (h : s.depth i ≤ hops) : s.resolveWithin hops i = .ok (s.value i) := by
  obtain ⟨t, ht⟩ := exists_resolved hs hi
  rw [ht hops h, value, ht s.size (s.depth_le_size i)]

theorem value_unallocated {i : Int} (h : ¬ s.Allocated i) : s.value i = .var i := by
  rw [value, resolveWithin_unallocated h]

theorem value_unbound {i : Int} (h : s.slot? i = some (.var i)) : s.value i = .var i := by
  rw [value, resolveWithin_unbound h]

theorem value_eq (hs : s.WellFormed) {i : Int} {t : Ty} (ht : s.slot? i = some t) :
    s.value i = t.apply s.value := by
  by_cases hne : t = .var i
  · rw [hne, Ty.apply_var]
  · have hi := allocated_of_slot? ht
    have hle : s.depth i ≤ s.size + 1 := (s.depth_le_size i).trans (Nat.le_succ _)
    have he := resolveWithin_eq hs hi hle
    have hsub : t.substituteM (s.resolveWithin s.size) = .ok (t.apply s.value) :=
      Ty.substituteM_ok fun j hj => resolveWithin_eq hs (hs.covers i t ht j hj) (s.depth_le_size j)
    rw [resolveWithin_bound ht hne, hsub] at he
    exact (Except.ok.inj he).symm

theorem substitute_eq (hs : s.WellFormed) {t : Ty} (ht : s.Covers t) : s.substitute t = .ok (t.apply s.value) :=
  Ty.substituteM_ok fun i hi => resolveWithin_eq hs (ht i hi) (s.depth_le_size i)

theorem substituteArgsM_eq (hs : s.WellFormed) {args : List Ty} (h : ∀ a ∈ args, s.Covers a) :
    Ty.substituteArgsM (s.resolveWithin s.size) args = .ok (args.map (Ty.apply s.value)) :=
  Ty.substituteArgsM_ok fun a ha => substitute_eq hs (h a ha)

theorem resolveWithin_error (hs : s.WellFormed) {i : Int} {e : StoreError}
    (h : s.resolveWithin s.size i = .error e) : ¬ s.Allocated i ∧ e = .unallocated i := by
  by_cases hi : s.Allocated i
  · rw [resolveWithin_eq hs hi (s.depth_le_size i)] at h
    cases h
  · rw [resolveWithin_unallocated hi] at h
    cases h
    exact ⟨hi, rfl⟩

theorem substitute_error (hs : s.WellFormed) {t : Ty} {e : StoreError} (h : s.substitute t = .error e) :
    ∃ i ∈ t.vars, ¬ s.Allocated i ∧ e = .unallocated i := by
  obtain ⟨i, hi, he⟩ := Ty.substituteM_error h
  exact ⟨i, hi, resolveWithin_error hs he⟩

theorem reachesWithin_unbound (target : Int) {i : Int} (h : s.slot? i = some (.var i)) (hops : Nat) :
    s.reachesWithin target hops i = .ok (decide (i = target)) := by
  cases hops <;> (rw [reachesWithin]; exact look_unbound _ _ h)

theorem reachesWithin_bound (target : Int) {i : Int} {t : Ty} (h : s.slot? i = some t) (hne : t ≠ .var i)
    (hops : Nat) : s.reachesWithin target (hops + 1) i = t.anyVarM (s.reachesWithin target hops) := by
  rw [reachesWithin]
  exact look_bound _ _ h hne

theorem reachesWithin_unallocated (target : Int) {i : Int} (h : ¬ s.Allocated i) (hops : Nat) :
    s.reachesWithin target hops i = .error (.unallocated i) := by
  cases hops <;> (rw [reachesWithin]; exact look_unallocated _ _ h)

theorem any_mem_vars_value (s : Store) (target : Int) (t : Ty) :
    t.vars.any (fun i => decide (target ∈ (s.value i).vars)) = decide (target ∈ (t.apply s.value).vars) := by
  rw [Bool.eq_iff_iff]
  simp [Ty.mem_vars_apply]

theorem reachesWithin_eq (hs : s.WellFormed) (target : Int) {i : Int} (hi : s.Allocated i) {hops : Nat}
    (h : s.depth i ≤ hops) : s.reachesWithin target hops i = .ok (decide (target ∈ (s.value i).vars)) := by
  induction hops generalizing i with
  | zero =>
      obtain ⟨t, ht⟩ := allocated_iff.1 hi
      by_cases hne : t = .var i
      · subst hne
        rw [reachesWithin_unbound target ht, value_unbound ht]
        simp [eq_comm]
      · have hpos := depth_pos ⟨t, ht, hne⟩
        omega
  | succ hops ih =>
      obtain ⟨t, ht⟩ := allocated_iff.1 hi
      by_cases hne : t = .var i
      · subst hne
        rw [reachesWithin_unbound target ht, value_unbound ht]
        simp [eq_comm]
      · rw [reachesWithin_bound target ht hne, value_eq hs ht, ← any_mem_vars_value]
        apply Ty.anyVarM_ok
        intro j hj
        have hlt := depth_lt hs ⟨t, ht, hne, hj⟩
        exact ih (hs.covers i t ht j hj) (by omega)

theorem occurs_eq (hs : s.WellFormed) (target : Int) {t : Ty} (ht : s.Covers t) :
    s.occurs target t = .ok (decide (target ∈ (t.apply s.value).vars)) := by
  rw [occurs, Ty.anyVarM_ok fun i hi => reachesWithin_eq hs target (ht i hi) (s.depth_le_size i)]
  rw [any_mem_vars_value]

theorem occurs_error (hs : s.WellFormed) {target : Int} {t : Ty} {e : StoreError}
    (h : s.occurs target t = .error e) : ∃ i ∈ t.vars, ¬ s.Allocated i ∧ e = .unallocated i := by
  obtain ⟨i, hi, he⟩ := Ty.anyVarM_error h
  refine ⟨i, hi, ?_⟩
  by_cases ha : s.Allocated i
  · rw [reachesWithin_eq hs target ha (s.depth_le_size i)] at he
    cases he
  · rw [reachesWithin_unallocated target ha] at he
    cases he
    exact ⟨ha, rfl⟩

theorem covers_of_occurs_false {target : Int} {t : Ty} (h : s.occurs target t = .ok false) : s.Covers t := by
  -- A negative answer has looked at every variable, so all of them have slots.
  intro i hi
  have he := Ty.anyVarM_false h i hi
  by_contra ha
  rw [reachesWithin_unallocated target ha] at he
  cases he

theorem mem_vars_value_of_path (hs : s.WellFormed) {i j : Int} (h : s.slot? i = some (.var i))
    (hji : ReflTransGen s.Binds j i) : i ∈ (s.value j).vars := by
  induction hji using ReflTransGen.head_induction_on with
  | refl => rw [value_unbound h, Ty.mem_vars_var]
  | head hjk _ ih =>
      obtain ⟨t, ht, _, hk⟩ := hjk
      rw [value_eq hs ht, Ty.mem_vars_apply]
      exact ⟨_, hk, ih⟩

/-- Whatever is put for the unbound variables, the resolved types make a solution. -/
theorem solves_value (hs : s.WellFormed) (τ : Int → Ty) : s.Solves fun i => (s.value i).apply τ := by
  intro i t ht
  change (s.value i).apply τ = _
  rw [value_eq hs ht, Ty.apply_apply]

theorem value_solves (hs : s.WellFormed) : s.Solves s.value := by
  have hsol := solves_value hs Ty.var
  simp only [Ty.apply_id] at hsol
  exact hsol

theorem Solves.apply_value (hs : s.WellFormed) {σ : Int → Ty} (h : s.Solves σ) (i : Int) :
    (s.value i).apply σ = σ i := by
  induction i using hs.induction with
  | step i ih =>
      by_cases hi : s.Allocated i
      · obtain ⟨t, ht⟩ := allocated_iff.1 hi
        by_cases hne : t = .var i
        · subst hne
          rw [value_unbound ht, Ty.apply_var]
        · rw [value_eq hs ht, Ty.apply_apply, h i t ht]
          exact Ty.apply_congr fun j hj => ih j ⟨t, ht, hne, hj⟩
      · rw [value_unallocated hi, Ty.apply_var]

theorem Solves.apply_resolved (hs : s.WellFormed) {σ : Int → Ty} (h : s.Solves σ) (t : Ty) :
    (t.apply s.value).apply σ = t.apply σ := by
  rw [Ty.apply_apply]
  exact Ty.apply_congr fun i _ => h.apply_value hs i

theorem headWithin_con (hops : Nat) (f : String) (args : List Ty) :
    s.headWithin hops (.con f args) = .ok (.con f args) := by
  cases hops <;> rw [headWithin]

theorem headWithin_unbound {i : Int} (h : s.slot? i = some (.var i)) (hops : Nat) :
    s.headWithin hops (.var i) = .ok (.var i) := by
  cases hops <;> (rw [headWithin]; exact look_unbound _ _ h)

theorem headWithin_bound {i : Int} {t : Ty} (h : s.slot? i = some t) (hne : t ≠ .var i) (hops : Nat) :
    s.headWithin (hops + 1) (.var i) = s.headWithin hops t := by
  rw [headWithin]
  exact look_bound _ _ h hne

theorem headWithin_unallocated {i : Int} (h : ¬ s.Allocated i) (hops : Nat) :
    s.headWithin hops (.var i) = .error (.unallocated i) := by
  cases hops <;> (rw [headWithin]; exact look_unallocated _ _ h)

/-- To a solution the head is the same as the type. A variable at the head is unbound. -/
def IsHead (s : Store) (t h : Ty) : Prop :=
  (∀ σ, s.Solves σ → h.apply σ = t.apply σ) ∧ ∀ i, h = .var i → s.slot? i = some (.var i)

theorem isHead_con (s : Store) (f : String) (args : List Ty) : s.IsHead (.con f args) (.con f args) :=
  ⟨fun _ _ => rfl, fun _ h => nomatch h⟩

theorem isHead_unbound {i : Int} (h : s.slot? i = some (.var i)) : s.IsHead (.var i) (.var i) :=
  ⟨fun _ _ => rfl, fun _ hj => by cases hj; exact h⟩

theorem IsHead.bound {i : Int} {t h : Ty} (ht : s.slot? i = some t) (hh : s.IsHead t h) : s.IsHead (.var i) h := by
  refine ⟨fun σ hσ => ?_, hh.2⟩
  rw [hh.1 σ hσ, Ty.apply_var, hσ i t ht]

theorem exists_headWithin (hs : s.WellFormed) {i : Int} (hi : s.Allocated i) {hops : Nat} (h : s.depth i ≤ hops) :
    ∃ t, s.headWithin hops (.var i) = .ok t ∧ s.IsHead (.var i) t := by
  induction i using hs.induction generalizing hops with
  | step i ih =>
      obtain ⟨t, ht⟩ := allocated_iff.1 hi
      by_cases hne : t = .var i
      · subst hne
        exact ⟨.var i, headWithin_unbound ht hops, isHead_unbound ht⟩
      · have hpos := depth_pos ⟨t, ht, hne⟩
        obtain ⟨hops, rfl⟩ := Nat.exists_eq_succ_of_ne_zero (by omega : hops ≠ 0)
        rw [headWithin_bound ht hne]
        cases t with
        | con f args => exact ⟨_, headWithin_con hops f args, (s.isHead_con f args).bound ht⟩
        | var j =>
            have hij : s.Binds i j := ⟨_, ht, hne, by simp⟩
            have hle : s.depth j ≤ hops := by
              have hlt := depth_lt hs hij
              omega
            obtain ⟨u, hu, hhead⟩ := ih j hij (hs.covers i _ ht j (by simp)) hle
            exact ⟨u, hu, hhead.bound ht⟩

theorem head_cases (hs : s.WellFormed) (t : Ty) :
    (∃ h, s.head t = .ok h ∧ s.IsHead t h) ∨
      ∃ i ∈ t.vars, ¬ s.Allocated i ∧ s.head t = .error (.unallocated i) := by
  cases t with
  | con f args => exact .inl ⟨_, headWithin_con s.size f args, s.isHead_con f args⟩
  | var i =>
      by_cases hi : s.Allocated i
      · exact .inl (exists_headWithin hs hi (s.depth_le_size i))
      · exact .inr ⟨i, by simp, hi, headWithin_unallocated hi s.size⟩

theorem solves_assign {i : Int} (h : s.slot? i = some (.var i)) {t : Ty} {σ : Int → Ty} :
    (s.assign i t).Solves σ ↔ s.Solves σ ∧ σ i = t.apply σ := by
  have hi := allocated_of_slot? h
  constructor
  · intro hσ
    refine ⟨fun j u hu => ?_, hσ i t (by rw [slot?_assign hi, if_pos rfl])⟩
    by_cases hj : j = i
    · subst hj
      rw [h] at hu
      cases hu
      rw [Ty.apply_var]
    · exact hσ j u (by rw [slot?_assign hi, if_neg hj, hu])
  · rintro ⟨hσ, he⟩ j u hu
    rw [slot?_assign hi] at hu
    split at hu
    · next hj =>
        cases hu
        rw [hj, he]
    · exact hσ j u hu

end Monotype.Store
