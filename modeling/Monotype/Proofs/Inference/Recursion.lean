import Monotype.Proofs.Inference.Emission

namespace Monotype

namespace Expr

def head : Expr → Expr
  | app f _ => f.head
  | e => e

def arguments : Expr → List Expr
  | app f a => f.arguments ++ [a]
  | _ => []

theorem isApp_head (e : Expr) : e.head.isApp = false := by
  induction e with
  | app f a ihf _ => exact ihf
  | var | abs | const => rfl

theorem foldl_arguments (e : Expr) : e.arguments.foldl app e.head = e := by
  induction e with
  | app f a ihf _ => rw [arguments, head, List.foldl_append, ihf, List.foldl_cons, List.foldl_nil]
  | var | abs | const => rfl

end Expr

namespace Session

abbrev Outcome := EStateM.Result InferError Session Ty

def told (s : Session) (e : Event) : Session := { s with trace := s.trace.push e }

def allocated (s : Session) : Session := { s.told (.fresh s.store.nextId) with store := s.store.fresh }

def equated (s : Session) (q : Equation) : Session := { s.told (.constraint q) with equations := s.equations.push q }

/-- The session in which a body is inferred: the parameter is a new variable, in a scope of its own. -/
def entered (s : Session) (x : String) : Session :=
  { s.allocated with env := s.env.push.extend x (.var s.store.nextId) }

/-- One rule for each way in which an expression is inferred or fails to be. A failure ends what is around it, but the
scope of a body is left either way. -/
inductive Infers : Session → Expr → Outcome → Prop
  | found {s x t} (h : s.env.lookup x = some t) : Infers s (.var x) (.ok t s)
  | unbound {s x} (h : s.env.lookup x = none) : Infers s (.var x) (.error (.unbound x) (s.told (.unbound x)))
  | app {s s₁ s₂ f a t u} (hf : Infers s f (.ok t s₁)) (ha : Infers s₁ a (.ok u s₂)) :
      Infers s (.app f a)
        (.ok (.var s₂.store.nextId) (s₂.allocated.equated ⟨t, .fn u (.var s₂.store.nextId)⟩))
  | function {s s₁ f a e} (hf : Infers s f (.error e s₁)) : Infers s (.app f a) (.error e s₁)
  | argument {s s₁ s₂ f a t e} (hf : Infers s f (.ok t s₁)) (ha : Infers s₁ a (.error e s₂)) :
      Infers s (.app f a) (.error e s₂)
  | abs {s s₁ x b t env} (hb : Infers (s.entered x) b (.ok t s₁)) (henv : s₁.env.pop = .ok env) :
      Infers s (.abs x b) (.ok (.fn (.var s.store.nextId) t) { s₁ with env })
  | body {s s₁ x b e env} (hb : Infers (s.entered x) b (.error e s₁)) (henv : s₁.env.pop = .ok env) :
      Infers s (.abs x b) (.error e { s₁ with env })
  | const (s c) : Infers s (.const c) (.error (.untyped c) s)

theorem pop_entered (s : Session) (x : String) : (s.entered x).env.pop = .ok s.env := rfl

theorem Infers.env_eq {s : Session} {e : Expr} {res : Outcome} (h : Infers s e res) : (final res).env = s.env := by
  induction h with
  | found | unbound | const => rfl
  | app _ _ ihf iha => exact iha.trans ihf
  | function _ ih => exact ih
  | argument _ _ ihf iha => exact iha.trans ihf
  | @abs s s₁ x b t env _ henv ih | @body s s₁ x b e env _ henv ih =>
      change s₁.env = (s.entered x).env at ih
      rw [ih, pop_entered] at henv
      exact (Except.ok.inj henv).symm

theorem exists_infers (e : Expr) (s : Session) : ∃ res, Infers s e res := by
  induction e generalizing s with
  | var x =>
      cases h : s.env.lookup x with
      | some t => exact ⟨_, .found h⟩
      | none => exact ⟨_, .unbound h⟩
  | app f a ihf iha =>
      obtain ⟨_ | _, hf⟩ := ihf s
      · next t s₁ =>
          obtain ⟨_ | _, ha⟩ := iha s₁
          · exact ⟨_, .app hf ha⟩
          · exact ⟨_, .argument hf ha⟩
      · exact ⟨_, .function hf⟩
  | abs x b ih =>
      obtain ⟨res, hb⟩ := ih (s.entered x)
      -- A body leaves the environment as it finds it, so there is a scope to leave.
      have henv : (final res).env.pop = .ok s.env := by rw [hb.env_eq, pop_entered]
      cases res with
      | ok t s₁ => exact ⟨_, .abs hb henv⟩
      | error e s₁ => exact ⟨_, .body hb henv⟩
  | const c => exact ⟨_, .const s c⟩

theorem pop_ok {s : Session} {env : Environment} (h : s.env.pop = .ok env) : pop s = .ok () { s with env } := by
  rw [pop, h]

theorem inScope_of_ok {α : Type} {act : InferM α} {s s₁ : Session} {a : α} {env : Environment}
    (h : act { s with env := s.env.push } = .ok a s₁) (henv : s₁.env.pop = .ok env) :
    inScope act s = .ok a { s₁ with env } := by
  rw [inScope_eq, h]
  exact bind_of_ok (pop_ok henv)

theorem inScope_of_error {α : Type} {act : InferM α} {s s₁ : Session} {e : InferError} {env : Environment}
    (h : act { s with env := s.env.push } = .error e s₁) (henv : s₁.env.pop = .ok env) :
    inScope act s = .error e { s₁ with env } := by
  rw [inScope_eq, h]
  exact bind_of_ok (pop_ok henv)

theorem fresh_eq (s : Session) : fresh s = .ok (.var s.store.nextId) s.allocated := rfl

theorem Infers.inferDirect_eq {s : Session} {e : Expr} {res : Outcome} (h : Infers s e res) :
    inferDirect e s = res := by
  induction h with
  | found h => rw [inferDirect, lookup_eq, h]
  | unbound h =>
      rw [inferDirect, lookup_eq, h]
      rfl
  | app _ _ ihf iha => exact (bind_of_ok ihf).trans (bind_of_ok iha)
  | function _ ih => exact bind_of_error ih
  | argument _ _ ihf iha => exact (bind_of_ok ihf).trans (bind_of_error iha)
  | @abs s _ _ _ _ _ _ henv ih => exact (bind_of_ok s.fresh_eq).trans (bind_of_ok (inScope_of_ok ih henv))
  | @body s _ _ _ _ _ _ henv ih => exact (bind_of_ok s.fresh_eq).trans (bind_of_error (inScope_of_error ih henv))
  | const s c => rfl

theorem infer_eq_iff {e : Expr} {s : Session} {res : Outcome} : infer e s = res ↔ Infers s e res := by
  obtain ⟨res', h⟩ := exists_infers e s
  rw [infer_eq_inferDirect, h.inferDirect_eq]
  constructor
  · rintro rfl
    exact h
  · intro h'
    rw [← h.inferDirect_eq, h'.inferDirect_eq]

theorem inferPending_row (e : Expr) (pending : List (InferM Ty)) :
    inferPending e pending = inferPending e.head (e.arguments.map infer ++ pending) := by
  induction e generalizing pending with
  | app f a ihf _ =>
      rw [inferPending, ihf, Expr.head, Expr.arguments, List.map_append, List.append_assoc]
      rfl
  | var | abs | const => rfl

theorem infer_row (e : Expr) :
    infer e = (do e.arguments.foldlM (fun t a => applyTo t (infer a)) (← infer e.head)) := by
  rw [infer, inferPending_row, List.append_nil, inferPending_eq, ← infer_eq_inferDirect]
  simp only [List.foldlM_map]

/-- For every session and every expression, also one with constants in it, the walk has the outcome of the recursion and
of the rules: the same type or the same error, and the same store, equations, environment and events. What it does
is to infer the head of a row first, and then its arguments in their order. -/
theorem infer_recursive (e : Expr) (s : Session) :
    infer e s = inferDirect e s ∧ (∀ res, infer e s = res ↔ Infers s e res) ∧
      e.head.isApp = false ∧ e.arguments.foldl .app e.head = e ∧
      infer e s = (do e.arguments.foldlM (fun t a => applyTo t (infer a)) (← infer e.head) : InferM Ty) s := by
  refine ⟨congrFun (infer_eq_inferDirect e) s, fun res => infer_eq_iff, e.isApp_head, e.foldl_arguments, ?_⟩
  exact congrFun (infer_row e) s

end Session

end Monotype
