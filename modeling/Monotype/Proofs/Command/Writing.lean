import Monotype.Command.Run
import Monotype.Proofs.Expr.RoundTrip
import Monotype.Proofs.Inference.Constructors
import Monotype.Proofs.Ty.Reading

namespace Monotype

namespace Text

/-- Nothing stands behind the last line feed. -/
def Whole (cs : List Char) : Prop := cs = [] ∨ ∃ ds, cs = ds ++ ['\n']

theorem Whole.append {cs ds : List Char} (hcs : Whole cs) (hds : Whole ds) : Whole (cs ++ ds) := by
  rcases hds with rfl | ⟨es, rfl⟩
  · rwa [List.append_nil]
  · exact .inr ⟨cs ++ es, (List.append_assoc ..).symm⟩

theorem lines_cons {c : Char} (hc : c ≠ '\n') {cs line : List Char} {rest : List (List Char)}
    (h : lines cs = line :: rest) : lines (c :: cs) = (c :: line) :: rest := by
  rw [lines, h]
  exact hc

theorem lines_ne_nil {cs : List Char} (h : cs ≠ []) : lines cs ≠ [] := by
  rw [lines.eq_def]
  split
  · exact absurd rfl h
  · exact List.cons_ne_nil _ _
  · split <;> exact List.cons_ne_nil _ _

theorem lines_line {line : List Char} (h : '\n' ∉ line) : lines (line ++ ['\n']) = [line ++ ['\n']] := by
  induction line with
  | nil => rfl
  | cons c line ih =>
      rw [List.mem_cons, not_or] at h
      exact lines_cons (Ne.symm h.1) (ih h.2)

theorem lines_append (ds cs : List Char) : lines (ds ++ ['\n'] ++ cs) = lines (ds ++ ['\n']) ++ lines cs := by
  induction ds with
  | nil => rfl
  | cons d ds ih =>
      by_cases hd : d = '\n'
      · subst hd
        change ['\n'] :: lines (ds ++ ['\n'] ++ cs) = ['\n'] :: (lines (ds ++ ['\n']) ++ lines cs)
        rw [ih]
      · cases h : lines (ds ++ ['\n']) with
        | nil => exact absurd h (lines_ne_nil (by simp))
        | cons line rest =>
            rw [h] at ih
            exact (lines_cons hd ih).trans (congrArg (· ++ lines cs) (lines_cons hd h)).symm

theorem getLast?_lines {before line : List Char} (hbefore : Whole before) (h : '\n' ∉ line) :
    (lines (before ++ (line ++ ['\n']))).getLast? = some (line ++ ['\n']) := by
  rcases hbefore with rfl | ⟨ds, rfl⟩
  · rw [List.nil_append, lines_line h]
    rfl
  · rw [lines_append, lines_line h, List.getLast?_append]
    rfl

end Text

namespace Ty

section

variable {c : Char} {name : Int → String}

theorem not_mem_renderTail (hc : c ∉ [',', ' ']) {as : List Ty} (h : ∀ a ∈ as, c ∉ (a.renderWith name).toList) :
    c ∉ (renderTail name as).toList := by
  induction as with
  | nil => simp [renderTail]
  | cons a as ih =>
      obtain ⟨ha, has⟩ := List.forall_mem_cons.1 h
      simp only [List.mem_cons, List.not_mem_nil, or_false, not_or] at hc
      simp [renderTail, ha, ih has, hc]

theorem Over.not_mem_renderWith (hc : isNameChar c = false) (hpunctuation : c ∉ ['[', ']', ',', ' '])
    (hname : ∀ i, c ∉ (name i).toList) {t : Ty} (h : t.Over IsName) : c ∉ (t.renderWith name).toList := by
  induction h with
  | var i =>
      rw [renderWith]
      exact hname i
  | @con f args hf _ ih =>
      have hf := hf.not_mem hc
      cases args with
      | nil => rwa [renderWith]
      | cons a as =>
          obtain ⟨ha, has⟩ := List.forall_mem_cons.1 ih
          simp only [List.mem_cons, List.not_mem_nil, or_false, not_or] at hpunctuation
          have htail := not_mem_renderTail (by simp [hpunctuation]) has
          simp [renderWith, hf, ha, htail, hpunctuation]

end

def IsMark (c : Char) : Prop := c = '\n' ∨ c = ':'

theorem IsMark.not_mem_varName {c : Char} (hc : IsMark c) (i : Int) : c ∉ (varName i).toList := by
  intro h
  have hcases := mem_varName h
  rcases hc with rfl | rfl <;> revert hcases <;> decide

theorem IsMark.not_mem_displayName {c : Char} (hc : IsMark c) (n : Nat) : c ∉ (displayName n).toList := by
  intro h
  have hcases := mem_displayName h
  rcases hc with rfl | rfl <;> revert hcases <;> decide

end Ty

/-- A type on display is part of one line, and no report. -/
theorem Settings.not_mem_showTy (s : Settings) {t : Ty} (h : t.Over Ty.IsName) {c : Char} (hc : Ty.IsMark c) :
    c ∉ (s.showTy t).toList := by
  have hname : Ty.isNameChar c = false := by rcases hc with rfl | rfl <;> decide +kernel
  have hpunctuation : c ∉ ['[', ']', ',', ' '] := by rcases hc with rfl | rfl <;> decide
  rw [showTy]
  split
  · exact h.not_mem_renderWith hname hpunctuation fun i => hc.not_mem_displayName _
  · exact h.not_mem_renderWith hname hpunctuation hc.not_mem_varName

namespace Expr

theorem not_mem_name {x : String} (h : Text.IsName x) : '\n' ∉ x.toList := by
  obtain ⟨⟨c, cs, hx, hc, hcs⟩, _⟩ := h
  have hfeed : ¬ Text.NameChar '\n' := by
    rw [← Lexer.isNameChar_iff]
    decide
  rw [hx, List.mem_cons, not_or]
  exact ⟨fun he => hfeed (.inl (he ▸ hc)), fun hmem => hfeed (hcs _ hmem)⟩

theorem not_mem_parenthesize {b : Bool} {text : String} (h : '\n' ∉ text.toList) :
    '\n' ∉ (parenthesize b text).toList := by
  cases b <;> simp [parenthesize, h]

theorem not_mem_renderAt {e : Expr} (he : e.Named) (b : Bool) : '\n' ∉ (renderAt b e).toList := by
  have harrow (b : Bool) : '\n' ∉ (arrow b).toList := by cases b <;> decide
  induction e generalizing b with
  | var x => simp [renderAt, harrow, not_mem_name he]
  | const c => exact he.elim
  | app f a ihf iha =>
      have hf := not_mem_parenthesize (b := f.isAbs) (ihf he.1 false)
      have ha := not_mem_parenthesize (b := a.isAbs || a.isApp) (iha he.2 false)
      simp [renderAt, harrow, hf, ha]
  | abs x body ih =>
      have hopen : '\n' ∉ (if b then " " else "fun ").toList := by cases b <;> decide
      simp [renderAt, hopen, not_mem_name he.1, ih he.2 true]

end Expr

namespace Command

/-- The action does nothing but write some lines. -/
def WritesLines (act : CommandM Unit) : Prop :=
  ∃ text : String, Text.Whole text.toList ∧ ∀ r, act r = .ok () { r with stdout := r.stdout ++ text }

namespace WritesLines

theorem writeLine (text : String) : WritesLines (writeLine text) :=
  ⟨text ++ "\n", .inr ⟨text.toList, by simp⟩, fun _ => rfl⟩

theorem nothing : WritesLines (pure ()) := ⟨"", .inl rfl, fun r => by simp; rfl⟩

theorem seq {a b : CommandM Unit} (ha : WritesLines a) (hb : WritesLines b) : WritesLines (do a; b) := by
  obtain ⟨x, hx, ha⟩ := ha
  obtain ⟨y, hy, hb⟩ := hb
  refine ⟨x ++ y, by simpa using hx.append hy, fun r => ?_⟩
  rw [← String.append_assoc]
  exact (bind_of_ok (ha r)).trans (hb _)

theorem forM {α : Type} {f : α → CommandM Unit} (h : ∀ a, WritesLines (f a)) (as : List α) :
    WritesLines (as.forM f) := by
  induction as with
  | nil => exact nothing
  | cons a as ih => exact (h a).seq ih

theorem writeConstraints (r : Inferred) : WritesLines (writeConstraints r) :=
  (writeLine _).seq <| (forM (fun _ => writeLine _) _).seq <| (writeLine _).seq <| forM (fun _ => writeLine _) _

end WritesLines

end Command

end Monotype
