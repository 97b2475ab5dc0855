import Monotype.Expr.Printer
import Monotype.Proofs.Expr.Cutting

namespace Monotype

open Text Lexer

namespace Lexer

theorem Word.nameChar {cs : List Char} (h : Word cs) : ∀ c ∈ cs, NameChar c := by
  obtain ⟨c, ds, rfl, hc, hds⟩ := h
  exact List.forall_mem_cons.2 ⟨.inl hc, hds⟩

theorem Word.append_inj {cs ds rest rest' : List Char} (hcs : Word cs) (hds : Word ds) (hrest : NameEnds rest)
    (hrest' : NameEnds rest') (h : cs ++ rest = ds ++ rest') : cs = ds ∧ rest = rest' := by
  have hword : cs = ds := by
    rw [← takeWhile_word hcs.nameChar hrest, h, takeWhile_word hds.nameChar hrest']
  subst hword
  exact ⟨rfl, List.append_cancel_left h⟩

theorem Word.ne_leftParen {cs rest rest' : List Char} (h : Word cs) : cs ++ rest ≠ '(' :: rest' := by
  obtain ⟨c, ds, rfl, hc, -⟩ := h
  intro heq
  rw [List.cons_append, List.cons.injEq] at heq
  rw [heq.1] at hc
  simp [NameStart] at hc

end Lexer

namespace Expr

def Worded : Expr → Prop
  | var x => Word x.toList
  | app f a => f.Worded ∧ a.Worded
  | abs x b => Word x.toList ∧ b.Worded
  | const _ => False

def outlineChars (depth : Nat) : Expr → List Char
  | var x => (indent depth).toList ++ x.toList
  | app f a =>
      (indent depth).toList ++ ("(app\n".toList ++
        (outlineChars (depth + 1) f ++ '\n' :: (outlineChars (depth + 1) a ++ [')'])))
  | abs x b =>
      (indent depth).toList ++ ("(fun\n".toList ++
        ((indent (depth + 1)).toList ++ (x.toList ++ '\n' :: (outlineChars (depth + 1) b ++ [')']))))
  | const _ => []

theorem outlineAt_eq {e : Expr} (he : e.Worded) (depth : Nat) (close : String) :
    outlineAt depth close e = .ok (String.ofList (outlineChars depth e ++ close.toList)) := by
  induction e generalizing depth close with
  | var x =>
      refine congrArg Except.ok (String.toList_inj.1 ?_)
      simp [outlineChars]
  | app f a ihf iha =>
      rw [outlineAt, ihf he.1, iha he.2]
      refine congrArg Except.ok (String.toList_inj.1 ?_)
      simp [outlineChars]
  | abs x b ih =>
      rw [outlineAt, ih he.2]
      refine congrArg Except.ok (String.toList_inj.1 ?_)
      simp [outlineChars]
  | const c => exact he.elim

theorem nameEnds_newline (cs : List Char) : NameEnds ('\n' :: cs) := by
  simp [NameEnds, NameChar, NameStart]

theorem nameEnds_rightParen (cs : List Char) : NameEnds (')' :: cs) := by
  simp [NameEnds, NameChar, NameStart]

/-- An outline can be cut off from whatever does not go on with a name. -/
theorem outlineChars_append_inj {e₁ e₂ : Expr} (h₁ : e₁.Worded) (h₂ : e₂.Worded) {depth : Nat} {r₁ r₂ : List Char}
    (hr₁ : NameEnds r₁) (hr₂ : NameEnds r₂) (h : outlineChars depth e₁ ++ r₁ = outlineChars depth e₂ ++ r₂) :
    e₁ = e₂ ∧ r₁ = r₂ := by
  induction e₁ generalizing e₂ depth r₁ r₂ with
  | const c => exact h₁.elim
  | var x =>
      cases e₂ with simp only [outlineChars, List.append_assoc, List.append_right_inj] at h
      | const c => exact h₂.elim
      | var y =>
          obtain ⟨hname, hrest⟩ := Word.append_inj h₁ h₂ hr₁ hr₂ h
          exact ⟨congrArg var (String.toList_inj.1 hname), hrest⟩
      | app g b => exact absurd h h₁.ne_leftParen
      | abs y b => exact absurd h h₁.ne_leftParen
  | app f a ihf iha =>
      cases e₂ with
        simp only [outlineChars, List.append_assoc, List.cons_append, List.nil_append, List.append_right_inj] at h
      | const c => exact h₂.elim
      | var y => exact absurd h.symm h₂.ne_leftParen
      | app g b =>
          -- A line feed follows both functions, and a closing parenthesis both arguments.
          obtain ⟨rfl, harg⟩ := ihf h₁.1 h₂.1 (nameEnds_newline _) (nameEnds_newline _) h
          obtain ⟨rfl, hrest⟩ := iha h₁.2 h₂.2 (nameEnds_rightParen _) (nameEnds_rightParen _) (List.cons.inj harg).2
          exact ⟨rfl, (List.cons.inj hrest).2⟩
      | abs y b => simp at h
  | abs x b ih =>
      cases e₂ with
        simp only [outlineChars, List.append_assoc, List.cons_append, List.nil_append, List.append_right_inj] at h
      | const c => exact h₂.elim
      | var y => exact absurd h.symm h₂.ne_leftParen
      | app g a => simp at h
      | abs y c =>
          obtain ⟨hname, hbody⟩ := Word.append_inj h₁.1 h₂.1 (nameEnds_newline _) (nameEnds_newline _) h
          obtain rfl := String.toList_inj.1 hname
          obtain ⟨rfl, hrest⟩ := ih h₁.2 h₂.2 (nameEnds_rightParen _) (nameEnds_rightParen _) (List.cons.inj hbody).2
          exact ⟨rfl, (List.cons.inj hrest).2⟩

theorem same_iff {e₁ e₂ : Expr} (h : e₁.Worded) : e₁.same e₂ = true ↔ e₁ = e₂ := by
  induction e₁ generalizing e₂ with
  | const c => exact h.elim
  | var x => cases e₂ <;> simp [same]
  | app f a ihf iha => cases e₂ <;> simp [same, ihf h.1, iha h.2]
  | abs x b ih => cases e₂ <;> simp [same, ih h.2]

/-- Every expression whose names are words has an outline, and it is the outline of no other one. -/
theorem outline_eq_iff {e₁ e₂ : Expr} (h₁ : e₁.Worded) (h₂ : e₂.Worded) :
    ∃ t₁ t₂, e₁.outline = .ok t₁ ∧ e₂.outline = .ok t₂ ∧ (t₁ = t₂ ↔ e₁ = e₂) ∧ (t₁ = t₂ ↔ e₁.same e₂ = true) := by
  have hiff : String.ofList (outlineChars 0 e₁ ++ "".toList) = String.ofList (outlineChars 0 e₂ ++ "".toList) ↔
      e₁ = e₂ := by
    constructor
    · intro h
      exact (outlineChars_append_inj h₁ h₂ (by simp [NameEnds]) (by simp [NameEnds]) (String.ofList_inj.1 h)).1
    · rintro rfl
      rfl
  exact ⟨_, _, outlineAt_eq h₁ 0 "", outlineAt_eq h₂ 0 "", hiff, hiff.trans (same_iff h₁).symm⟩

theorem outline_eq_iff_grouping :
    let e₁ : Expr := .app (.app (.var "f") (.var "fun")) (.var "x_1")
    let e₂ : Expr := .app (.var "f") (.app (.var "fun") (.var "x_1"))
    (e₁.Worded ∧ e₂.Worded) ∧
      ∃ t₁ t₂, e₁.outline = .ok t₁ ∧ e₂.outline = .ok t₂ ∧ (t₁ = t₂ ↔ e₁ = e₂) ∧ (t₁ = t₂ ↔ e₁.same e₂ = true) := by
  intro e₁ e₂
  have h₁ : e₁.Worded := by simp [e₁, Worded, Word, NameStart, NameChar]
  have h₂ : e₂.Worded := by simp [e₂, Worded, Word, NameStart, NameChar]
  exact ⟨⟨h₁, h₂⟩, outline_eq_iff h₁ h₂⟩

end Expr

end Monotype
