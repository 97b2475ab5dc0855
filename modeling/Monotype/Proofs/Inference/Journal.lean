import Monotype.Proofs.Inference.History
import Monotype.Proofs.Inference.Schedule
import Monotype.Proofs.Store.Journal

namespace Monotype

open Store

def Event.binding? : Event → Option (Int × Ty)
  | bound i t => some (i, t)
  | _ => none

namespace Trace

def bindings (trace : Trace) : List (Int × Ty) := trace.toList.filterMap Event.binding?

theorem bindings_append {events : List Event} (h : ∀ event ∈ events, event.binding? = none) (trace : Trace) :
    bindings (trace ++ events.toArray) = trace.bindings := by
  simpa [bindings] using h

theorem bindings_push {event : Event} (h : event.binding? = none) (trace : Trace) :
    bindings (trace.push event) = trace.bindings := by
  simp [bindings, h]

end Trace

theorem Store.Writes.allocate {s s' : Store} {bs : List (Int × Ty)} (h : Writes s bs s') (k : Nat) :
    Writes (s.allocate k) bs (s'.allocate k) := by
  induction h with
  | nil s => exact .nil _
  | @cons s i t bs s' hi hne _ ih =>
      have halloc := allocated_of_slot? hi
      refine .cons ((slot?_allocate k halloc).trans hi) hne ?_
      rwa [← assign_allocate k halloc]

namespace Unifier

theorem filterMap_journal (bs : List (Int × Ty)) (fault : Option (Int × Ty)) :
    (journal bs fault).filterMap Event.binding? = bs := by
  have hbound : Event.binding? ∘ (fun b : Int × Ty => .bound b.1 b.2) = some := rfl
  rw [journal, List.filterMap_append, List.filterMap_map, hbound, List.filterMap_some]
  cases fault <;> exact List.append_nil bs

theorem Records.bindings_eq {u : Unifier} {res : Outcome} {bs : List (Int × Ty)} {fault : Option (Int × Ty)}
    (h : Records u res bs fault) : (final res).trace.bindings = u.trace.bindings ++ bs := by
  rw [Trace.bindings, h.trace, List.filterMap_append, filterMap_journal]
  rfl

theorem solveAll_records (es : List Equation) {u : Unifier} (hu : u.store.WellFormed) :
    ∃ bs fault, Records u (es.forM solve u) bs fault := by
  induction es generalizing u with
  | nil => exact ⟨[], none, .refl u⟩
  | cons e es ih =>
      have hrun := run_unify e.left e.right hu
      obtain ⟨bs, fault, hfirst, -⟩ := hrun.records
      have hwf := hrun.wellFormed hu
      change Records u (solve e u) bs fault at hfirst
      change (final (solve e u)).store.WellFormed at hwf
      change ∃ bs fault, Records u ((solve e >>= fun _ => es.forM solve) u) bs fault
      cases he : solve e u with
      | error err v =>
          rw [he] at hfirst
          rw [bind_of_error he]
          exact ⟨bs, fault, hfirst⟩
      | ok a v =>
          rw [he] at hfirst hwf
          -- Only the last unification of all can tell of a failed occurs check.
          obtain rfl := hfirst.fault_eq_none
          obtain ⟨cs, fault, hrest⟩ := ih hwf
          rw [bind_of_ok he]
          exact ⟨bs ++ cs, fault, hfirst.append hrest⟩

end Unifier

theorem Emission.mem_events_andThen {r : Emission} {g : Ty → Emission} {event : Event}
    (h : event ∈ (r.andThen g).events) : event ∈ r.events ∨ ∃ t, event ∈ (g t).events := by
  unfold andThen at h
  split at h
  · next t _ =>
      rcases List.mem_append.1 h with h | h
      · exact .inl h
      · exact .inr ⟨t, h⟩
  · exact .inl h

theorem Expr.binding?_of_mem_events {e : Expr} {Γ : Context} {n : Nat} {event : Event}
    (h : event ∈ (e.emission Γ n).events) : event.binding? = none := by
  induction e generalizing Γ n with
  | var x =>
      rw [emission] at h
      split at h
      · cases h
      · rw [List.mem_singleton.1 h]
        rfl
  | app f a ihf iha =>
      rcases Emission.mem_events_andThen h with h | ⟨t, h⟩
      · exact ihf h
      · rcases Emission.mem_events_andThen h with h | ⟨u, h⟩
        · exact iha h
        · rcases List.mem_pair.1 h with rfl | rfl <;> rfl
  | abs x b ih =>
      rcases List.mem_cons.1 h with rfl | h
      · rfl
      · exact ih h
  | const c => cases h

namespace Session

variable {s s' : Session}

/-- The bindings of the trace lead from a table of unbound variables to the table of the session. -/
def Recorded (s : Session) : Prop := Writes (({} : Store).allocate s.store.size) s.trace.bindings s.store

theorem recorded_start (base : Scope) : (start base).Recorded := .nil {}

theorem Recorded.grow (h : s.Recorded) {k : Nat} (hstore : s'.store = s.store.allocate k)
    (htrace : s'.trace.bindings = s.trace.bindings) : s'.Recorded := by
  have hgrown := h.allocate k
  rw [allocate_allocate] at hgrown
  rwa [Recorded, hstore, htrace, size_allocate]

theorem recorded_infer (h : s.Recorded) (e : Expr) : (final (infer e s)).Recorded := by
  rw [infer_eq_emit, final_emit]
  exact h.grow rfl (Trace.bindings_append (fun _ => Expr.binding?_of_mem_events) s.trace)

theorem recorded_solve (h : s.Recorded) (hs : s.store.WellFormed) : (final (solve s)).Recorded := by
  obtain ⟨bs, fault, hrecords⟩ := Unifier.solveAll_records s.equations.toList (u := s.unifier) hs
  have hsize := hrecords.writes.extends.size
  have hbindings := hrecords.bindings_eq
  have hstart : s.unifier.trace.bindings = s.trace.bindings := Trace.bindings_push rfl s.trace
  have hwrites := h.append hrecords.writes
  rw [← hstart, ← hbindings] at hwrites
  change _ = s.store.size at hsize
  rw [← hsize] at hwrites
  rw [solve_eq, ← unifier]
  cases hres : s.equations.toList.forM Unifier.solve s.unifier with
  | error e u =>
      rw [hres] at hwrites
      exact hwrites
  | ok a u =>
      rw [hres] at hwrites
      exact Recorded.grow (s := { s with store := u.store, trace := u.trace }) (k := 0) hwrites rfl
        (Trace.bindings_push rfl u.trace)

theorem recorded_serve (h : s.Recorded) (hs : s.store.WellFormed) (r : Request) : (s.serve r).Recorded := by
  cases r with
  | infer e => exact recorded_infer h e
  | solve => exact recorded_solve h hs
  | substitute t =>
      rw [serve, substitute]
      cases s.store.substitute t <;> exact h
  | fresh => exact h.grow (k := 1) rfl (Trace.bindings_push rfl s.trace)
  | constrain left right => exact h.grow (k := 0) rfl (Trace.bindings_push rfl s.trace)
  | extend | push | lookup => exact h
  | pop =>
      rw [serve, pop]
      cases s.env.pop <;> exact h

theorem recorded_serve_all (hs : s.store.Reachable) (h : s.Recorded) (rs : List Request) :
    (rs.foldl serve s).Recorded := by
  induction rs generalizing s with
  | nil => exact h
  | cons r rs ih => exact ih (serve_reachable hs r) (recorded_serve h hs.wellFormed r)

/-- No variable is bound twice, and the bindings of the trace rebuild the table. -/
def Rebuilt (s : Session) : Prop :=
  (s.trace.bindings.map Prod.fst).Nodup ∧
    (({} : Store).allocate s.store.size).replay s.trace.bindings = .ok s.store

theorem rebuilt_serve_all (base : Scope) (rs : List Request) : (rs.foldl serve (start base)).Rebuilt := by
  have h := recorded_serve_all (s := start base) .empty (recorded_start base) rs
  exact ⟨h.nodup, h.replay_eq⟩

end Session

namespace Expr

open Session

theorem final_infer_start (e : Expr) (base : Scope) : final (infer e (start base)) = e.gathered base := by
  rw [infer_eq_emit, final_emit, lookup_start]
  rfl

theorem final_inferIn (e : Expr) (base : Scope) :
    final (e.inferIn base) = e.gathered base ∨ final (e.inferIn base) = final (solve (e.gathered base)) := by
  have hstart : (e.gathered base).unifier = e.solving base := rfl
  rw [inferIn_eq, solve_eq, ← unifier, hstart, toList_equations_gathered]
  cases (e.emissionIn base).outcome with
  | error err => exact .inl rfl
  | ok unsolved =>
      right
      cases (e.emissionIn base).equations.forM Unifier.solve (e.solving base) with
      | error err u => rfl
      | ok a u =>
          dsimp only
          cases u.store.substitute unsolved <;> rfl

theorem rebuilt_inferIn (e : Expr) (base : Scope) : (final (e.inferIn base)).Rebuilt := by
  have hgathered := final_infer_start e base
  rcases final_inferIn e base with h | h
  · rw [h, ← hgathered]
    exact rebuilt_serve_all base [.infer e]
  · rw [h, ← hgathered]
    exact rebuilt_serve_all base [.infer e, .solve]

theorem slots_of_inferIn {e : Expr} {base : Scope} {res : Inferred} {s : Session} (h : e.inferIn base = .ok res s) :
    res.slots = s.store.slots.toList := by
  rw [inferIn_eq] at h
  split at h
  · split at h
    · split at h
      · cases h
        rfl
      · cases h
    · cases h
  · cases h

end Expr

/-- Whether a unification succeeds or fails, it writes each slot at most once and only if the variable is unbound. Its
events are one for each slot that differs afterwards, with what the slot holds, in the order of the stores on its way;
a failed occurs check is told once and last, and only where the unification fails. So in every history of a session, and
in every inference, no variable is bound twice, and the table can be rebuilt from the trace. -/
theorem bindings_journaled :
    (∀ u : Unifier, u.store.Reachable → ∀ l r,
      let after := final (Unifier.unify l r u)
      after.store.size = u.store.size ∧
      (∀ i t, u.store.slot? i = some t → t ≠ .var i → after.store.slot? i = some t) ∧
      (∀ i, after.store.slot? i ≠ u.store.slot? i → u.store.slot? i = some (.var i)) ∧
      ∃ (bs : List (Int × Ty)) (fault : Option (Int × Ty)),
        after.trace.toList = u.trace.toList ++ Unifier.journal bs fault ∧
        (fault ≠ none → ∃ e, Unifier.unify l r u = .error e after) ∧
        (bs.map Prod.fst).Nodup ∧
        (∀ i t, (i, t) ∈ bs ↔ after.store.slot? i = some t ∧ u.store.slot? i ≠ some t) ∧
        u.store.replay bs = .ok after.store ∧
        ∀ s, Unifier.Visits u [(l, r)] s ↔ ∃ cs, cs <+: bs ∧ u.store.replay cs = .ok s) ∧
    (∀ (base : Scope) (rs : List Session.Request), (rs.foldl Session.serve (Session.start base)).Rebuilt) ∧
    ∀ (e : Expr) (base : Scope), (final (e.inferIn base)).Rebuilt ∧
      ∀ res s, e.inferIn base = .ok res s → res.slots = s.store.slots.toList := by
  refine ⟨fun u hu l r => ?_, Session.rebuilt_serve_all, fun e base => ⟨e.rebuilt_inferIn base, ?_⟩⟩
  · obtain ⟨bs, fault, hrecords, hvisits⟩ := (Unifier.run_unify l r hu.wellFormed).records
    have hwrites := hrecords.writes
    have hext := hwrites.extends
    refine ⟨hext.size, hext.kept, fun i hi => ?_, bs, fault, hrecords.trace, hrecords.failed, hwrites.nodup,
      fun i t => hwrites.mem_iff, hwrites.replay_eq, hvisits⟩
    by_cases hmem : i ∈ bs.map Prod.fst
    · obtain ⟨⟨j, t⟩, hjt, rfl⟩ := List.mem_map.1 hmem
      exact (hwrites.of_mem hjt).1
    · exact absurd (hwrites.slot?_eq hmem) hi
  · exact fun res s => Expr.slots_of_inferIn

theorem bindings_journaled_infinite :
    let list (t : Ty) : Ty := .con "List" [t]
    let int : Ty := .con "Int" []
    let u : Unifier := { store := ({} : Store).fresh.fresh.fresh }
    let l : Ty := .con "Triple" [.var 0, int, .var 2]
    let r : Ty := .con "Triple" [list (.var 1), .var 1, list (.var 2)]
    let after := final (Unifier.unify l r u)
    u.store.Reachable ∧ after.trace = #[.bound 0 (list (.var 1)), .bound 1 int, .occursCheckFailed 2 (list (.var 2))] ∧
      (∃ e, Unifier.unify l r u = .error e after) ∧
      (∀ i t, (i, t) ∈ [(0, list (.var 1)), (1, int)] ↔ after.store.slot? i = some t ∧ u.store.slot? i ≠ some t) ∧
      u.store.replay [(0, list (.var 1)), (1, int)] = .ok after.store := by
  intro list int u l r after
  have hu : u.store.Reachable := .fresh (.fresh (.fresh .empty))
  obtain ⟨-, -, -, bs, fault, htrace, hfailed, -, hmem, hreplay, -⟩ := bindings_journaled.1 u hu l r
  have hbs := congrArg (List.filterMap Event.binding?) htrace
  change [(0, list (.var 1)), (1, int)] = List.filterMap Event.binding? ([] ++ _) at hbs
  rw [List.nil_append, Unifier.filterMap_journal] at hbs
  subst hbs
  refine ⟨hu, rfl, hfailed ?_, hmem, hreplay⟩
  rintro rfl
  have hlength := congrArg List.length htrace
  cases hlength

end Monotype
