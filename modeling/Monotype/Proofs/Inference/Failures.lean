import Monotype.Proofs.Expr.RoundTrip
import Monotype.Proofs.Inference.Leaves
import Monotype.Proofs.Settings.Merging
import Monotype.Proofs.Store.Rearrangement

namespace Monotype

def Scope.Spellable (base : Scope) : Prop := ∀ entry ∈ base, entry.2.Spellable

theorem Scope.Spellable.ground {base : Scope} (h : base.Spellable) : base.Ground :=
  fun entry hentry => (h entry hentry).vars_eq_nil

namespace Settings

theorem spellable_of_ofEntries {data : Entries} {s : Settings} (h : ofEntries data = .ok s) : s.prelude.Spellable := by
  obtain ⟨es, _, _, _, hes, _⟩ := exists_sections h
  exact spellable_of_readPrelude hes

theorem ground_of_ofEntries {data : Entries} {s : Settings} (h : ofEntries data = .ok s) : s.prelude.Ground :=
  (spellable_of_ofEntries h).ground

theorem of_merges {P : Settings → Prop} (hread : ∀ data s, ofEntries data = .ok s → P s) {s s' : Settings} (hs : P s)
    {os : List Entries} (h : os.foldlM merge s = .ok s') : P s' := by
  induction os generalizing s with
  | nil =>
      cases h
      exact hs
  | cons o os ih =>
      rw [List.foldlM_cons] at h
      cases hnext : s.merge o with
      | error e => rw [hnext] at h; cases h
      | ok next =>
          rw [hnext] at h
          refine ih ?_ h
          rw [merge] at hnext
          split at hnext
          · cases hnext
            exact hs
          · exact hread _ _ hnext

theorem ground_of_merges {s s' : Settings} {os : List Entries} (hs : s.prelude.Ground)
    (h : os.foldlM merge s = .ok s') : s'.prelude.Ground :=
  of_merges (fun _ _ => ground_of_ofEntries) hs h

end Settings

/-- The failures that are told to the user: a name without a type, and equations without a solution. -/
def InferError.Documented : InferError → Prop
  | unbound _ => True
  | unify (.mismatch _ _ _ _) => True
  | unify (.infinite _ _) => True
  | _ => False

theorem Unifier.Refutes.documented {err : UnifyError} (h : Refutes err) : (InferError.unify err).Documented := by
  cases err with
  | mismatch _ _ _ _ => trivial
  | infinite _ _ => trivial
  | store e => exact absurd rfl (h e)

namespace Expr

theorem Named.const_notMem_leaves {e : Expr} (he : e.Named) (params : List String) (c : Constant) :
    .const c ∉ e.leaves params := by
  induction e generalizing params with
  | var x => simp [leaves]
  | app f a ihf iha =>
      rw [leaves, List.mem_append, not_or]
      exact ⟨ihf he.1 params, iha he.2 params⟩
  | abs x b ih => exact ih he.2 (x :: params)
  | const d => cases he

theorem unbound_of_emission {e : Expr} (he : e.Named) {Γ : Context} {n : Nat} {err : InferError}
    (h : (e.emission Γ n).outcome = .error err) : ∃ x, err = .unbound x := by
  -- What is read from a text has no constants, and only those have no rule.
  obtain ⟨x, rfl⟩ | ⟨c, hc, _⟩ := Leaf.first_fault_cases (emission_error_iff.1 h)
  · exact ⟨x, rfl⟩
  · exact absurd hc (he.const_notMem_leaves [] c)

variable {e : Expr} {base : Scope}

theorem documented_of_inferIn (he : e.Named) (hbase : base.Ground) {err : InferError} {s : Session}
    (h : e.inferIn base = .error err s) : err.Documented := by
  rw [inferIn_eq] at h
  split at h
  · next unsolved ho =>
      split at h
      · next u hu =>
          obtain ⟨hext, hwf, _⟩ := Unifier.solveAll_ok (wellFormed_solving e base) hu
          have hcov := hext.covers_iff.2 (covers_emission hbase ho).1
          rw [Store.substitute_eq hwf hcov] at h
          cases h
      · next err' u hu =>
          cases h
          exact (Unifier.solveAll_error (wellFormed_solving e base) (covers_emission hbase ho).2 hu).1.documented
  · next err' ho =>
      cases h
      obtain ⟨x, rfl⟩ := unbound_of_emission he ho
      trivial

end Expr

/-- Every variable has a slot, and those of the resolved type are unbound. -/
structure Inferred.Scoped (res : Inferred) : Prop where
  unsolved : res.unsolved.Below res.slots.length
  resolved : res.resolved.Below res.slots.length
  equations : ∀ q ∈ res.equations, q.Below res.slots.length
  slots : ∀ t ∈ res.slots, t.Below res.slots.length
  unbound : ∀ i ∈ res.resolved.vars, res.slots[i.toNat]? = some (.var i)

namespace Store

variable {s : Store}

theorem slot?_of_mem {t : Ty} (h : t ∈ s.slots.toList) : ∃ i, s.slot? i = some t := by
  obtain ⟨n, hn⟩ := List.mem_iff_getElem?.1 h
  refine ⟨n, ?_⟩
  rw [slot?, if_neg (by omega), Int.toNat_natCast, ← Array.getElem?_toList, hn]

theorem Unbound.getElem? {i : Int} (h : s.Unbound i) : s.slots.toList[i.toNat]? = some (.var i) := by
  rw [Unbound, slot?] at h
  split at h
  · cases h
  · rw [Array.getElem?_toList, h]

end Store

namespace Expr

variable {e : Expr} {base : Scope}

theorem tables_of_inferIn {res : Inferred} {s : Session} (h : e.inferIn base = .ok res s) {u : Unifier}
    (hu : (e.emissionIn base).equations.forM Unifier.solve (e.solving base) = .ok () u) :
    res.equations = (e.emissionIn base).equations ∧ res.slots = u.store.slots.toList := by
  obtain ⟨v, ho, hv, ht⟩ := inferIn_ok h
  obtain ⟨-, rfl⟩ := EStateM.Result.ok.inj (hu.symm.trans hv)
  have heq := inferIn_eq e base
  simp only [ho, hu, ht] at heq
  rw [h] at heq
  obtain ⟨hres, -⟩ := EStateM.Result.ok.inj heq
  exact ⟨congrArg Inferred.equations hres, congrArg Inferred.slots hres⟩

theorem scoped_of_inferIn (hbase : base.Ground) {res : Inferred} {s : Session} (h : e.inferIn base = .ok res s) :
    res.Scoped := by
  obtain ⟨u, ho, hu, ht⟩ := inferIn_ok h
  obtain ⟨hequations, hslots⟩ := tables_of_inferIn h hu
  obtain ⟨hext, hwf, _⟩ := Unifier.solveAll_ok (wellFormed_solving e base) hu
  obtain ⟨hstart, hsides⟩ := covers_emission hbase ho
  have hunsolved : u.store.Covers res.unsolved := hext.covers_iff.2 hstart
  have hfree : ∀ i ∈ res.resolved.vars, u.store.Unbound i := fun i => Store.unbound_of_substitute hwf hunsolved ht
  obtain ⟨unsolved, resolved, equations, slots⟩ := res
  dsimp only at hequations hslots
  subst hequations hslots
  constructor
  · exact hunsolved
  · exact fun i hi => Store.allocated_of_slot? (hfree i hi)
  · exact fun q hq => ⟨hext.covers_iff.2 (hsides q hq).1, hext.covers_iff.2 (hsides q hq).2⟩
  · intro t ht
    obtain ⟨i, hi⟩ := Store.slot?_of_mem ht
    exact hwf.covers i t hi
  · exact fun i hi => (hfree i hi).getElem?

/-- Settings give environments without variables. In such an environment a text is refused for its syntax, for an
unbound name or for its types, and only if it has no type; or else there is a result in which every variable has a
slot. -/
theorem inferIn_failures :
    (∀ (data : Settings.Entries) (s s' : Settings) (os : List Settings.Entries),
        Settings.ofEntries data = .ok s → os.foldlM Settings.merge s = .ok s' → s'.prelude.Ground) ∧
      ∀ base : Scope, base.Ground → ∀ file source,
        (∃ err, Expr.parse file source = .error err) ∨
          ∃ e, Expr.parse file source = .ok e ∧
            ((∃ res s, e.inferIn base = .ok res s ∧ res.Scoped) ∨
              ∃ err s, e.inferIn base = .error err s ∧ err.Documented ∧ ∀ t, ¬ HasType (Entries.get? base) e t) := by
  refine ⟨fun data s s' os h hos => Settings.ground_of_merges (Settings.ground_of_ofEntries h) hos, ?_⟩
  intro base hbase file source
  cases he : Expr.parse file source with
  | error err => exact .inl ⟨err, rfl⟩
  | ok e =>
      refine .inr ⟨e, rfl, ?_⟩
      cases h : e.inferIn base with
      | ok res s => exact .inl ⟨res, s, rfl, scoped_of_inferIn hbase h⟩
      | error err s =>
          refine .inr ⟨err, s, rfl, documented_of_inferIn (named_of_parse he) hbase h, fun t ht => ?_⟩
          obtain ⟨res, s', hok, _⟩ := exists_inferIn hbase ht
          rw [h] at hok
          cases hok

theorem inferIn_failures_merged :
    let data : Settings.Entries := [(.text "prelude", .dict [(.text "one", .text "Int")])]
    let overrides : Settings.Entries := [(.text "prelude", .dict [(.text "one", .text "Bool")])]
    let s : Settings := ⟨[("one", .con "Int" [])], {}⟩
    let s' : Settings := ⟨[("one", .con "Bool" [])], {}⟩
    let e : Expr := .app (.var "one") (.var "one")
    Settings.ofEntries data = .ok s ∧ [overrides].foldlM Settings.merge s = .ok s' ∧ s'.prelude.Ground ∧
      Expr.parse "<expr>" "one one" = .ok e ∧
      ∃ err t, e.inferIn s'.prelude = .error err t ∧ err.Documented ∧ ∀ t, ¬ HasType (Entries.get? s'.prelude) e t := by
  intro data overrides s s' e
  have hint : Ty.parse "Int" = .ok (.con "Int" []) := by decide +kernel
  have hbool : Ty.parse "Bool" = .ok (.con "Bool" []) := by decide +kernel
  have hdata : Settings.ofEntries data = .ok s := by
    refine Settings.ofEntries_ok_iff.2 ⟨?_, rfl⟩
    have hsection : Settings.section? data "prelude" = some [(.text "one", .text "Int")] := rfl
    simp [hsection, Settings.preludeOf, Settings.readPrelude, Value.isTooLong, Value.render, hint, s]
  have hmerge : s.merge overrides = .ok s' := by
    change Settings.ofEntries (Settings.deepUpdate s.toEntries overrides) = .ok s'
    refine Settings.ofEntries_ok_iff.2 ⟨?_, rfl⟩
    have hsection : Settings.section? (Settings.deepUpdate s.toEntries overrides) "prelude" =
      some [(.text "one", .text "Bool")] := rfl
    simp [hsection, Settings.preludeOf, Settings.readPrelude, Value.isTooLong, Value.render, hbool, s']
  have hmerges : [overrides].foldlM Settings.merge s = .ok s' := by simp [hmerge]
  have hground := inferIn_failures.1 data s s' [overrides] hdata hmerges
  have hparse : Expr.parse "<expr>" "one one" = .ok e := by decide +kernel
  have hanswer : e.answer s'.prelude = .error (.unify (.mismatch "Bool" [] "Fun" [.con "Bool" [], .var 0])) := by
    decide +kernel
  obtain ⟨t, hinfer⟩ := inferIn_of_answer_error hanswer
  rcases inferIn_failures.2 s'.prelude hground "<expr>" "one one" with ⟨err, herr⟩ | ⟨e', he', h⟩
  · rw [hparse] at herr
    cases herr
  · obtain rfl : e = e' := Except.ok.inj (hparse.symm.trans he')
    rcases h with ⟨res, t', hok, _⟩ | h
    · rw [hinfer] at hok
      cases hok
    · exact ⟨hdata, hmerges, hground, hparse, h⟩

end Expr

end Monotype
