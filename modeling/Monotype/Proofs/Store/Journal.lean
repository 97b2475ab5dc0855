import Monotype.Proofs.Store.Rearrangement
import Monotype.Proofs.Store.Termination

namespace Monotype

namespace Store

def replay (s : Store) (bs : List (Int × Ty)) : Except StoreError Store :=
  bs.foldlM (fun s b => s.bind b.1 b.2) s

/-- From the first store to the second one unbound variables are bound in turn, none of them to itself. -/
inductive Writes : Store → List (Int × Ty) → Store → Prop
  | nil (s) : Writes s [] s
  | cons {s i t bs s'} (hi : s.Unbound i) (hne : t ≠ .var i) (h : Writes (s.assign i t) bs s') :
      Writes s ((i, t) :: bs) s'

variable {s s' s'' : Store} {bs cs : List (Int × Ty)} {i j : Int} {t : Ty}

@[simp] theorem replay_nil (s : Store) : s.replay [] = .ok s := rfl

theorem replay_cons (hi : s.Allocated i) (t : Ty) (bs : List (Int × Ty)) :
    s.replay ((i, t) :: bs) = (s.assign i t).replay bs := by
  rw [replay, List.foldlM_cons, bind_eq hi]
  rfl

theorem unbound_assign (hi : s.Unbound i) (hne : t ≠ .var i) : (s.assign i t).Unbound j ↔ j ≠ i ∧ s.Unbound j := by
  unfold Unbound
  rw [slot?_assign (allocated_of_slot? hi)]
  by_cases hj : j = i
  · subst hj
    simp [hne]
  · simp [hj]

theorem Writes.extends (h : Writes s bs s') : s.Extends s' := by
  induction h with
  | nil s => exact .refl s
  | cons hi _ _ ih => exact (Extends.assign hi _).trans ih

theorem Writes.append (h : Writes s bs s') (h' : Writes s' cs s'') : Writes s (bs ++ cs) s'' := by
  induction h with
  | nil s => exact h'
  | cons hi hne _ ih => exact .cons hi hne (ih h')

theorem Writes.replay_eq (h : Writes s bs s') : s.replay bs = .ok s' := by
  induction h with
  | nil s => rfl
  | cons hi _ _ ih => rw [replay_cons (allocated_of_slot? hi), ih]

theorem Writes.of_mem (h : Writes s bs s') (hmem : (i, t) ∈ bs) :
    s.Unbound i ∧ t ≠ .var i ∧ s'.slot? i = some t := by
  induction h with
  | nil s => cases hmem
  | @cons s j u bs s' hj hne hrest ih =>
      rcases List.mem_cons.1 hmem with he | hmem
      · cases he
        have hslot : (s.assign i t).slot? i = some t := by rw [slot?_assign (allocated_of_slot? hj), if_pos rfl]
        exact ⟨hj, hne, hrest.extends.kept i t hslot hne⟩
      · obtain ⟨hi, hrest⟩ := ih hmem
        exact ⟨((unbound_assign hj hne).1 hi).2, hrest⟩

theorem Writes.slot?_eq (h : Writes s bs s') (hi : i ∉ bs.map Prod.fst) : s'.slot? i = s.slot? i := by
  induction h with
  | nil s => rfl
  | @cons s j u bs s' hj _ _ ih =>
      rw [List.map_cons, List.mem_cons, not_or] at hi
      rw [ih hi.2, slot?_assign (allocated_of_slot? hj), if_neg hi.1]

theorem Writes.nodup (h : Writes s bs s') : (bs.map Prod.fst).Nodup := by
  induction h with
  | nil s => exact .nil
  | @cons s i t bs s' hi hne hrest ih =>
      -- What is bound later on is unbound after the first binding, so it is another variable.
      refine List.nodup_cons.2 ⟨fun hmem => ?_, ih⟩
      obtain ⟨⟨j, u⟩, hju, rfl⟩ := List.mem_map.1 hmem
      exact ((unbound_assign hi hne).1 (hrest.of_mem hju).1).1 rfl

theorem Writes.mem_iff (h : Writes s bs s') : (i, t) ∈ bs ↔ s'.slot? i = some t ∧ s.slot? i ≠ some t := by
  constructor
  · intro hmem
    obtain ⟨hi, hne, hslot⟩ := h.of_mem hmem
    refine ⟨hslot, fun he => hne ?_⟩
    exact Option.some.inj (he.symm.trans hi)
  · rintro ⟨hslot, hne⟩
    by_cases hi : i ∈ bs.map Prod.fst
    · obtain ⟨⟨j, u⟩, hju, rfl⟩ := List.mem_map.1 hi
      obtain rfl : u = t := Option.some.inj ((h.of_mem hju).2.2.symm.trans hslot)
      exact hju
    · exact absurd ((h.slot?_eq hi).symm.trans hslot) hne

end Store

namespace Unifier

open Store

variable {s : Store} {u v : Unifier} {l r : Ty} {ps : List (Ty × Ty)} {res : Outcome}

theorem Compares.bind_ne {i : Int} {t : Ty} (h : Compares s l r (.bind i t)) : t ≠ .var i := by
  cases h with
  | left hne h =>
      cases h with
      | bind => exact hne
  | right h =>
      cases h with
      | bind => nofun

theorem Compares.fail_event {event : Option Event} {e : UnifyError} (h : Compares s l r (.fail event e)) :
    ∃ fault : Option (Int × Ty), event = fault.map fun b => .occursCheckFailed b.1 b.2 := by
  cases h with
  | left _ h | right h =>
      cases h with
      | infinite | infiniteFault => exact ⟨some (_, _), rfl⟩
      | unallocated | headFault | occursFault => exact ⟨none, rfl⟩
  | clash | leftFault | rightFault => exact ⟨none, rfl⟩

theorem toList_trace_told (u : Unifier) (event : Option Event) :
    (u.told event).trace.toList = u.trace.toList ++ event.toList := by
  cases event <;> simp [told]

theorem toList_trace_assigned (u : Unifier) (i : Int) (t : Ty) :
    (u.assigned i t).trace.toList = u.trace.toList ++ [.bound i t] := by
  simp [assigned]

/-- An event for each binding, and one for a failed occurs check behind them. -/
def journal (bs : List (Int × Ty)) (fault : Option (Int × Ty)) : List Event :=
  bs.map (fun b => .bound b.1 b.2) ++ (fault.map fun b => .occursCheckFailed b.1 b.2).toList

/-- What is added on the way from `u` to an outcome: bindings are written and told in turn, and a failed occurs check is
told where the outcome is a failure. -/
structure Records (u : Unifier) (res : Outcome) (bs : List (Int × Ty)) (fault : Option (Int × Ty)) : Prop where
  writes : Writes u.store bs (final res).store
  trace : (final res).trace.toList = u.trace.toList ++ journal bs fault
  failed : fault ≠ none → ∃ e, res = .error e (final res)

theorem Records.refl (u : Unifier) : Records u (.ok () u) [] none :=
  ⟨.nil _, by simp [final, journal], absurd rfl⟩

theorem Records.append {bs cs : List (Int × Ty)} {fault : Option (Int × Ty)} {a : Unit}
    (h : Records u (.ok a v) bs none) (h' : Records v res cs fault) : Records u res (bs ++ cs) fault := by
  refine ⟨h.writes.append h'.writes, ?_, h'.failed⟩
  have htrace : v.trace.toList = _ := h.trace
  rw [h'.trace, htrace]
  simp [journal]

theorem Records.fault_eq_none {bs : List (Int × Ty)} {fault : Option (Int × Ty)} {a : Unit}
    (h : Records u (.ok a v) bs fault) : fault = none := by
  by_contra hne
  obtain ⟨e, he⟩ := h.failed hne
  cases he

theorem visits_done {s' : Store} : Visits u [] s' ↔ s' = u.store := by
  constructor
  · rintro ⟨⟩
    rfl
  · rintro rfl
    exact .here u []

theorem Compares.visits_next {rest : List (Ty × Ty)} {s' : Store} (h : Compares u.store l r (.next ps)) :
    Visits u ((l, r) :: rest) s' ↔ Visits u.ticked (ps ++ rest) s' := by
  constructor
  · rintro (_ | ⟨h', hrest⟩ | ⟨h', _⟩)
    · exact .here u.ticked _
    · obtain rfl := Move.next.inj (h.unique h')
      exact hrest
    · cases h.unique h'
  · exact .next h

theorem Compares.visits_bind {i : Int} {t : Ty} {rest : List (Ty × Ty)} {s' : Store}
    (h : Compares u.store l r (.bind i t)) :
    Visits u ((l, r) :: rest) s' ↔ s' = u.store ∨ Visits (u.ticked.assigned i t) rest s' := by
  constructor
  · rintro (_ | ⟨h', _⟩ | ⟨h', hrest⟩)
    · exact .inl rfl
    · cases h.unique h'
    · obtain ⟨rfl, rfl⟩ := Move.bind.inj (h.unique h')
      exact .inr hrest
  · rintro (rfl | hrest)
    · exact .here u _
    · exact .bind h hrest

theorem Compares.visits_fail {event : Option Event} {e : UnifyError} {rest : List (Ty × Ty)} {s' : Store}
    (h : Compares u.store l r (.fail event e)) : Visits u ((l, r) :: rest) s' ↔ s' = u.store := by
  constructor
  · rintro (_ | ⟨h', _⟩ | ⟨h', _⟩)
    · rfl
    · cases h.unique h'
    · cases h.unique h'
  · rintro rfl
    exact .here u _

/-- A run records what it does. The stores on its way are those after the first few of its bindings. -/
theorem Run.records (h : Run u ps res) :
    ∃ bs fault, Records u res bs fault ∧ ∀ s', Visits u ps s' ↔ ∃ cs, cs <+: bs ∧ u.store.replay cs = .ok s' := by
  have hnil (s s' : Store) : (∃ cs, cs <+: [] ∧ s.replay cs = .ok s') ↔ s' = s := by
    simp [eq_comm]
  induction h with
  | done u =>
      refine ⟨[], none, .refl u, fun s' => ?_⟩
      rw [visits_done, hnil]
  | next h _ ih =>
      obtain ⟨bs, fault, hrecords, hvisits⟩ := ih
      refine ⟨bs, fault, ⟨hrecords.writes, hrecords.trace, hrecords.failed⟩, fun s' => ?_⟩
      rw [h.visits_next, hvisits]
      rfl
  | @bind u l r i t rest res h _ ih =>
      obtain ⟨bs, fault, ⟨hwrites, htrace, hfailed⟩, hvisits⟩ := ih
      have hi := h.bind_inv.1
      refine ⟨(i, t) :: bs, fault, ⟨.cons hi h.bind_ne hwrites, ?_, hfailed⟩, fun s' => ?_⟩
      · rw [htrace, toList_trace_assigned]
        simp [ticked, journal]
      -- The store before the binding replays nothing of the journal, and each later one replays its first entry.
      · rw [h.visits_bind, hvisits]
        simp only [List.prefix_cons_iff, or_and_right, exists_or, ← hnil u.store s']
        refine or_congr (by simp) ?_
        constructor
        · rintro ⟨cs, hcs, hs'⟩
          exact ⟨(i, t) :: cs, ⟨cs, rfl, hcs⟩, (replay_cons (allocated_of_slot? hi) t cs).trans hs'⟩
        · rintro ⟨_, ⟨cs, rfl, hcs⟩, hs'⟩
          exact ⟨cs, hcs, (replay_cons (allocated_of_slot? hi) t cs).symm.trans hs'⟩
  | @fail u l r event e rest h =>
      obtain ⟨fault, rfl⟩ := h.fail_event
      refine ⟨[], fault, ⟨?_, toList_trace_told _ _, fun _ => ⟨e, rfl⟩⟩, fun s' => ?_⟩
      · simpa [final] using Writes.nil u.store
      · rw [h.visits_fail, hnil]

end Unifier

end Monotype
