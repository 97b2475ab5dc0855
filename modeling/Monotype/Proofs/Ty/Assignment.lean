import Monotype.Ty.Basic
import Mathlib.Tactic.Common

namespace Monotype.Ty

@[elab_as_elim, induction_eliminator]
theorem induction {P : Ty → Prop} (var : ∀ i, P (.var i))
    (con : ∀ f args, (∀ a ∈ args, P a) → P (.con f args)) (t : Ty) : P t :=
  @Ty.rec P (fun args => ∀ a ∈ args, P a) var con (by simp) (fun a as ha has => by simpa using ⟨ha, has⟩) t

mutual

/-- The type with every variable replaced as `σ` says, all at once. -/
def apply (σ : Int → Ty) : Ty → Ty
  | var i => σ i
  | con f args => con f (applyArgs σ args)

def applyArgs (σ : Int → Ty) : List Ty → List Ty
  | [] => []
  | a :: as => apply σ a :: applyArgs σ as

end

theorem applyArgs_eq_map (σ : Int → Ty) (args : List Ty) : applyArgs σ args = args.map (apply σ) := by
  induction args with
  | nil => rfl
  | cons a as ih => rw [applyArgs, ih, List.map_cons]

@[simp] theorem apply_var (σ : Int → Ty) (i : Int) : (var i).apply σ = σ i := by rw [apply]

@[simp] theorem apply_con (σ : Int → Ty) (f : String) (args : List Ty) :
    (con f args).apply σ = con f (args.map (apply σ)) := by
  rw [apply, applyArgs_eq_map]

@[simp] theorem apply_fn (σ : Int → Ty) (p r : Ty) : (fn p r).apply σ = fn (p.apply σ) (r.apply σ) := by
  simp [fn]

theorem varsArgs_eq_flatMap (args : List Ty) : varsArgs args = args.flatMap vars := by
  induction args with
  | nil => rfl
  | cons a as ih => rw [varsArgs, ih, List.flatMap_cons]

@[simp] theorem mem_vars_var {i j : Int} : i ∈ (var j).vars ↔ i = j := by simp [vars]

@[simp] theorem mem_vars_con {i : Int} {f : String} {args : List Ty} :
    i ∈ (con f args).vars ↔ ∃ a ∈ args, i ∈ a.vars := by
  rw [vars, varsArgs_eq_flatMap, List.mem_flatMap]

@[simp] theorem mem_vars_fn {i : Int} {p r : Ty} : i ∈ (fn p r).vars ↔ i ∈ p.vars ∨ i ∈ r.vars := by
  simp [fn]

theorem apply_congr {σ τ : Int → Ty} {t : Ty} (h : ∀ i ∈ t.vars, σ i = τ i) : t.apply σ = t.apply τ := by
  induction t with
  | var i => simpa using h i (by simp)
  | con f args ih =>
      rw [apply_con, apply_con]
      congr 1
      apply List.map_congr_left
      intro a ha
      exact ih a ha fun i hi => h i (mem_vars_con.2 ⟨a, ha, hi⟩)

theorem apply_id (t : Ty) : t.apply var = t := by
  induction t with
  | var i => simp
  | con f args ih => rw [apply_con, List.map_congr_left ih, List.map_id']

theorem apply_eq_self {σ : Int → Ty} {t : Ty} (h : ∀ i ∈ t.vars, σ i = var i) : t.apply σ = t := by
  rw [apply_congr h, apply_id]

theorem apply_apply (σ τ : Int → Ty) (t : Ty) : (t.apply σ).apply τ = t.apply fun i => (σ i).apply τ := by
  induction t with
  | var i => simp
  | con f args ih =>
      simp only [apply_con, List.map_map]
      congr 1
      exact List.map_congr_left ih

theorem mem_vars_apply {σ : Int → Ty} {t : Ty} {j : Int} :
    j ∈ (t.apply σ).vars ↔ ∃ i ∈ t.vars, j ∈ (σ i).vars := by
  induction t with
  | var i => simp
  | con f args ih =>
      simp only [apply_con, mem_vars_con, List.mem_map]
      constructor
      · rintro ⟨_, ⟨a, ha, rfl⟩, hj⟩
        obtain ⟨i, hi, hj⟩ := (ih a ha).1 hj
        exact ⟨i, ⟨a, ha, hi⟩, hj⟩
      · rintro ⟨i, ⟨a, ha, hi⟩, hj⟩
        exact ⟨a.apply σ, ⟨a, ha, rfl⟩, (ih a ha).2 ⟨i, hi, hj⟩⟩

/-- Every constructor has a name with property `P`. -/
inductive Over (P : String → Prop) : Ty → Prop
  | var (i : Int) : Over P (.var i)
  | con {f args} (hf : P f) (hargs : ∀ a ∈ args, Over P a) : Over P (.con f args)

theorem Over.mono {P Q : String → Prop} (hPQ : ∀ f, P f → Q f) {t : Ty} (h : t.Over P) : t.Over Q := by
  induction h with
  | var i => exact .var i
  | con hf _ ih => exact .con (hPQ _ hf) ih

theorem sizeOf_apply_le (σ : Int → Ty) {t : Ty} {i : Int} (h : i ∈ t.vars) :
    sizeOf (σ i) ≤ sizeOf (t.apply σ) := by
  induction t with
  | var j =>
      obtain rfl := mem_vars_var.1 h
      simp
  | con f args ih =>
      obtain ⟨a, ha, hi⟩ := mem_vars_con.1 h
      have hle := ih a ha hi
      have hlt := List.sizeOf_lt_of_mem (List.mem_map_of_mem (f := apply σ) ha)
      rw [apply_con, con.sizeOf_spec]
      omega

/-- A variable never equals a type around it: the type stays larger under every assignment. -/
theorem apply_ne_of_occurs (σ : Int → Ty) {f : String} {args : List Ty} {i : Int}
    (h : i ∈ (con f args).vars) : σ i ≠ (con f args).apply σ := by
  intro he
  obtain ⟨a, ha, hi⟩ := mem_vars_con.1 h
  have hle := sizeOf_apply_le σ hi
  have hlt := List.sizeOf_lt_of_mem (List.mem_map_of_mem (f := apply σ) ha)
  rw [he, apply_con, con.sizeOf_spec] at hle
  omega

theorem map_apply_eq_iff {σ : Int → Ty} {as bs : List Ty} (h : as.length = bs.length) :
    as.map (apply σ) = bs.map (apply σ) ↔ ∀ p ∈ as.zip bs, p.1.apply σ = p.2.apply σ := by
  induction as generalizing bs with
  | nil => cases bs <;> simp_all
  | cons a as ih =>
      cases bs with
      | nil => simp at h
      | cons b bs => simp [ih (Nat.succ.inj h)]

section

variable {ε : Type}

theorem substituteArgsM_ok {f : Int → Except ε Ty} {σ : Int → Ty} {args : List Ty}
    (h : ∀ a ∈ args, a.substituteM f = .ok (a.apply σ)) :
    substituteArgsM f args = .ok (args.map (apply σ)) := by
  induction args with
  | nil => rw [substituteArgsM, List.map_nil]
  | cons a as ih =>
      rw [substituteArgsM, h a List.mem_cons_self, ih fun b hb => h b (List.mem_cons_of_mem a hb)]
      rfl

theorem substituteM_ok {f : Int → Except ε Ty} {σ : Int → Ty} {t : Ty}
    (h : ∀ i ∈ t.vars, f i = .ok (σ i)) : t.substituteM f = .ok (t.apply σ) := by
  induction t with
  | var i => rw [substituteM, h i (by simp), apply_var]
  | con g args ih =>
      have hargs : substituteArgsM f args = .ok (args.map (apply σ)) :=
        substituteArgsM_ok fun a ha => ih a ha fun i hi => h i (mem_vars_con.2 ⟨a, ha, hi⟩)
      rw [substituteM, hargs, apply_con]
      rfl

theorem substituteArgsM_error {f : Int → Except ε Ty} {args : List Ty} {e : ε}
    (h : substituteArgsM f args = .error e) : ∃ a ∈ args, a.substituteM f = .error e := by
  induction args with
  | nil => simp [substituteArgsM] at h
  | cons a as ih =>
      rw [substituteArgsM] at h
      cases ha : a.substituteM f with
      | error e' =>
          rw [ha] at h
          cases h
          exact ⟨a, List.mem_cons_self, ha⟩
      | ok b =>
          cases has : substituteArgsM f as with
          | error e' =>
              rw [ha, has] at h
              cases h
              obtain ⟨c, hc, he⟩ := ih has
              exact ⟨c, List.mem_cons_of_mem a hc, he⟩
          | ok bs =>
              rw [ha, has] at h
              cases h

theorem substituteM_error {f : Int → Except ε Ty} {t : Ty} {e : ε}
    (h : t.substituteM f = .error e) : ∃ i ∈ t.vars, f i = .error e := by
  induction t with
  | var i => exact ⟨i, by simp, by rwa [substituteM] at h⟩
  | con g args ih =>
      rw [substituteM] at h
      cases hargs : substituteArgsM f args with
      | ok bs =>
          rw [hargs] at h
          cases h
      | error e' =>
          rw [hargs] at h
          cases h
          obtain ⟨a, ha, he⟩ := substituteArgsM_error hargs
          obtain ⟨i, hi, he⟩ := ih a ha he
          exact ⟨i, mem_vars_con.2 ⟨a, ha, hi⟩, he⟩

theorem anyM_append (p : Int → Except ε Bool) (xs ys : List Int) :
    (xs ++ ys).anyM p = (xs.anyM p >>= fun b => if b = true then pure true else ys.anyM p) := by
  induction xs with
  | nil => rfl
  | cons x xs ih =>
      rw [List.cons_append, List.anyM, List.anyM, ih]
      cases p x with
      | error e => rfl
      | ok b => cases b <;> rfl

theorem anyVarM_eq_anyM (p : Int → Except ε Bool) (t : Ty) : t.anyVarM p = t.vars.anyM p := by
  induction t with
  | var i =>
      rw [anyVarM, vars, List.anyM]
      cases p i with
      | error e => rfl
      | ok b => cases b <;> rfl
  | con f args ih =>
      rw [anyVarM, vars]
      induction args with
      | nil => rw [anyVarArgsM, varsArgs]; rfl
      | cons a as ihas =>
          rw [anyVarArgsM, varsArgs, anyM_append, ih a List.mem_cons_self,
            ihas fun b hb => ih b (List.mem_cons_of_mem a hb)]

theorem anyVarM_ok {p : Int → Except ε Bool} {q : Int → Bool} {t : Ty}
    (h : ∀ i ∈ t.vars, p i = .ok (q i)) : t.anyVarM p = .ok (t.vars.any q) := by
  rw [anyVarM_eq_anyM]
  generalize t.vars = is at h
  induction is with
  | nil => rfl
  | cons i is ih =>
      rw [List.anyM, h i List.mem_cons_self, List.any_cons]
      cases hq : q i with
      | true => rfl
      | false => exact ih fun j hj => h j (List.mem_cons_of_mem i hj)

theorem anyVarM_false {p : Int → Except ε Bool} {t : Ty} (h : t.anyVarM p = .ok false) :
    ∀ i ∈ t.vars, p i = .ok false := by
  rw [anyVarM_eq_anyM] at h
  generalize t.vars = is at h
  induction is with
  | nil => simp
  | cons i is ih =>
      rw [List.anyM] at h
      cases hp : p i with
      | error e => rw [hp] at h; cases h
      | ok b =>
          cases b with
          | true => rw [hp] at h; cases h
          | false =>
              rw [hp] at h
              simpa [hp] using ih h

theorem anyVarM_error {p : Int → Except ε Bool} {t : Ty} {e : ε} (h : t.anyVarM p = .error e) :
    ∃ i ∈ t.vars, p i = .error e := by
  rw [anyVarM_eq_anyM] at h
  generalize t.vars = is at h
  induction is with
  | nil => cases h
  | cons i is ih =>
      rw [List.anyM] at h
      cases hp : p i with
      | error e' =>
          rw [hp] at h
          cases h
          exact ⟨i, List.mem_cons_self, hp⟩
      | ok b =>
          cases b with
          | true => rw [hp] at h; cases h
          | false =>
              rw [hp] at h
              obtain ⟨j, hj, he⟩ := ih h
              exact ⟨j, List.mem_cons_of_mem i hj, he⟩

end

end Monotype.Ty

def Monotype.Equation.Holds (e : Equation) (σ : Int → Ty) : Prop := e.left.apply σ = e.right.apply σ
