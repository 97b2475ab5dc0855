import Monotype.Expr.Basic
import Monotype.Expr.Token

namespace Monotype

inductive Terminal where
  | name (x : String)
  | function
  | arrow
  | leftParen
  | rightParen
  deriving DecidableEq

def Token.terminal (t : Token) : Terminal :=
  match t.kind with
  | .name => .name t.text
  | .function => .function
  | .arrow => .arrow
  | .leftParen => .leftParen
  | .rightParen => .rightParen

namespace Grammar

inductive Category where
  | expr
  | atom
  | atoms
  | abs

/-- The rules `expr := atom atom*`, `atom := NAME | "(" expr ")" | abs` and `abs := "fun" NAME NAME* "=>" expr`. -/
inductive Derives : Category → List Terminal → Prop
  | expr {us vs} (first : Derives .atom us) (rest : Derives .atoms vs) : Derives .expr (us ++ vs)
  | noAtoms : Derives .atoms []
  | moreAtoms {us vs} (first : Derives .atom us) (rest : Derives .atoms vs) : Derives .atoms (us ++ vs)
  | name (x) : Derives .atom [.name x]
  | group {us} (inner : Derives .expr us) : Derives .atom (.leftParen :: us ++ [.rightParen])
  | function {us} (h : Derives .abs us) : Derives .atom us
  | abs (x) (xs : List String) {us} (body : Derives .expr us) :
      Derives .abs (.function :: .name x :: xs.map .name ++ .arrow :: us)

mutual

/-- The rule `expr := simple* (simple | abs)`, with the row taken apart from its front. -/
inductive Phrase where
  | last (s : Simple)
  | abs (x : String) (xs : List String) (body : Phrase)
  | cons (s : Simple) (rest : Phrase)

/-- The rule `simple := NAME | "(" expr ")"`. -/
inductive Simple where
  | name (x : String)
  | group (inner : Phrase)

end

mutual

def Phrase.yield : Phrase → List Terminal
  | .last s => s.yield
  | .abs x xs b => .function :: .name x :: xs.map .name ++ .arrow :: b.yield
  | .cons s r => s.yield ++ r.yield

def Simple.yield : Simple → List Terminal
  | .name x => [.name x]
  | .group d => .leftParen :: d.yield ++ [.rightParen]

end

def applied : Option Expr → Expr → Expr
  | none, e => e
  | some f, e => .app f e

mutual

/-- The tree of a derivation that continues a row. Application folds to the left. -/
def Phrase.treeAfter : Option Expr → Phrase → Expr
  | f, .last s => applied f s.tree
  | f, .abs x xs b => applied f ((x :: xs).foldr .abs (b.treeAfter none))
  | f, .cons s r => r.treeAfter (some (applied f s.tree))

def Simple.tree : Simple → Expr
  | .name x => .var x
  | .group d => d.treeAfter none

end

def Phrase.tree (d : Phrase) : Expr := d.treeAfter none

def restYield : Option Phrase → List Terminal
  | none => []
  | some d => d.yield

def restTree (e : Expr) : Option Phrase → Expr
  | none => e
  | some d => d.treeAfter (some e)

def joined (s : Simple) : Option Phrase → Phrase
  | none => .last s
  | some d => .cons s d

theorem yield_joined (s : Simple) (rest : Option Phrase) : (joined s rest).yield = s.yield ++ restYield rest := by
  cases rest with
  | none => rw [joined, Phrase.yield, restYield, List.append_nil]
  | some d => rw [joined, Phrase.yield, restYield]

theorem treeAfter_joined (f : Option Expr) (s : Simple) (rest : Option Phrase) :
    (joined s rest).treeAfter f = restTree (applied f s.tree) rest := by
  cases rest <;> rw [joined, Phrase.treeAfter, restTree]

namespace Phrase

def append : Phrase → Phrase → Phrase
  | .last s, e => .cons s e
  | .abs x xs b, e => .abs x xs (b.append e)
  | .cons s r, e => .cons s (r.append e)

theorem yield_append (d e : Phrase) : (d.append e).yield = d.yield ++ e.yield := by
  match d with
  | .last s => rw [append, yield, yield]
  | .abs x xs b => simp [append, yield, yield_append b e]
  | .cons s r => simp [append, yield, yield_append r e]

end Phrase

theorem exists_phrase {c : Category} {us : List Terminal} (h : Derives c us) :
    (∃ d : Phrase, d.yield = us) ∨ c = .atoms ∧ us = [] := by
  have hjoin {us vs : List Terminal} (hu : ∃ d : Phrase, d.yield = us)
      (hv : (∃ d : Phrase, d.yield = vs) ∨ vs = []) : ∃ d : Phrase, d.yield = us ++ vs := by
    obtain ⟨d, rfl⟩ := hu
    rcases hv with ⟨e, rfl⟩ | rfl
    · exact ⟨d.append e, d.yield_append e⟩
    · exact ⟨d, (List.append_nil _).symm⟩
  induction h with
  | expr _ _ ih ihs | moreAtoms _ _ ih ihs =>
      have hfirst := ih.resolve_right (by simp)
      exact .inl (hjoin hfirst (ihs.imp_right And.right))
  | noAtoms => exact .inr ⟨rfl, rfl⟩
  | name x => exact .inl ⟨.last (.name x), rfl⟩
  | group _ ih =>
      obtain ⟨d, rfl⟩ := ih.resolve_right (by simp)
      exact .inl ⟨.last (.group d), by rw [Phrase.yield, Simple.yield]⟩
  | function _ ih => exact .inl (ih.resolve_right (by simp))
  | abs x xs _ ih =>
      obtain ⟨d, rfl⟩ := ih.resolve_right (by simp)
      exact .inl ⟨.abs x xs d, by rw [Phrase.yield]⟩

theorem Derives.of_atom {us : List Terminal} (h : Derives .atom us) : Derives .expr us ∧ Derives .atoms us := by
  have hexpr := Derives.expr h .noAtoms
  have hatoms := Derives.moreAtoms h .noAtoms
  rw [List.append_nil] at hexpr hatoms
  exact ⟨hexpr, hatoms⟩

mutual

theorem Phrase.derives (d : Phrase) : Derives .expr d.yield ∧ Derives .atoms d.yield := by
  match d with
  | .last s => exact s.derives.of_atom
  | .abs x xs b => exact (Derives.function (.abs x xs b.derives.1)).of_atom
  | .cons s r => exact ⟨.expr s.derives r.derives.2, .moreAtoms s.derives r.derives.2⟩

theorem Simple.derives (s : Simple) : Derives .atom s.yield := by
  match s with
  | .name x => exact .name x
  | .group d => exact .group d.derives.1

end

theorem derives_iff {us : List Terminal} : Derives .expr us ↔ ∃ d : Phrase, d.yield = us := by
  constructor
  · intro h
    exact (exists_phrase h).resolve_right (by simp)
  · rintro ⟨d, rfl⟩
    exact d.derives.1

def Stops (us : List Terminal) : Prop := ∀ t ∈ us.head?, t = .arrow ∨ t = .rightParen

theorem stops_nil : Stops [] := by simp [Stops]

theorem stops_rightParen (us : List Terminal) : Stops (.rightParen :: us) := by simp [Stops]

theorem Simple.not_stops (s : Simple) (us : List Terminal) : ¬ Stops (s.yield ++ us) := by
  cases s <;> simp [Simple.yield, Stops]

theorem Phrase.not_stops (d : Phrase) (us : List Terminal) : ¬ Stops (d.yield ++ us) := by
  cases d with
  | last s => exact s.not_stops us
  | abs x xs b => simp [Phrase.yield, Stops]
  | cons s r =>
      rw [Phrase.yield, List.append_assoc]
      exact s.not_stops _

theorem names_inj {xs ys : List String} {us vs : List Terminal}
    (h : xs.map Terminal.name ++ .arrow :: us = ys.map Terminal.name ++ .arrow :: vs) : xs = ys ∧ us = vs := by
  induction xs generalizing ys with
  | nil => cases ys <;> simp_all
  | cons x xs ih =>
      cases ys with
      | nil => simp at h
      | cons y ys =>
          simp only [List.map_cons, List.cons_append, List.cons.injEq, Terminal.name.injEq] at h
          obtain ⟨rfl, hrest⟩ := h
          obtain ⟨rfl, rfl⟩ := ih hrest
          exact ⟨rfl, rfl⟩

mutual

/-- A row ends where no atom starts, so what follows it tells nothing new about it. -/
theorem Phrase.yield_inj (d e : Phrase) {us vs : List Terminal} (hu : Stops us) (hv : Stops vs)
    (h : d.yield ++ us = e.yield ++ vs) : d = e ∧ us = vs := by
  match d, e with
  | .last s, .last t =>
      obtain ⟨rfl, rfl⟩ := s.yield_inj t h
      exact ⟨rfl, rfl⟩
  | .cons s r, .cons t q =>
      simp only [Phrase.yield, List.append_assoc] at h
      obtain ⟨rfl, hrest⟩ := s.yield_inj t h
      obtain ⟨rfl, rfl⟩ := r.yield_inj q hu hv hrest
      exact ⟨rfl, rfl⟩
  | .abs x xs b, .abs y ys c =>
      simp only [Phrase.yield, List.cons_append, List.append_assoc, List.cons.injEq, Terminal.name.injEq,
        true_and] at h
      obtain ⟨rfl, hxs⟩ := h
      obtain ⟨rfl, hbody⟩ := names_inj hxs
      obtain ⟨rfl, rfl⟩ := b.yield_inj c hu hv hbody
      exact ⟨rfl, rfl⟩
  | .last s, .cons t q =>
      rw [Phrase.yield, Phrase.yield, List.append_assoc] at h
      obtain ⟨rfl, rfl⟩ := s.yield_inj t h
      exact absurd hu (q.not_stops vs)
  | .cons s r, .last t =>
      rw [Phrase.yield, Phrase.yield, List.append_assoc] at h
      obtain ⟨rfl, rfl⟩ := s.yield_inj t h
      exact absurd hv (r.not_stops us)
  | .abs .., .last t => cases t <;> simp [Phrase.yield, Simple.yield] at h
  | .abs .., .cons t _ => cases t <;> simp [Phrase.yield, Simple.yield] at h
  | .last s, .abs .. => cases s <;> simp [Phrase.yield, Simple.yield] at h
  | .cons s _, .abs .. => cases s <;> simp [Phrase.yield, Simple.yield] at h

theorem Simple.yield_inj (s t : Simple) {us vs : List Terminal} (h : s.yield ++ us = t.yield ++ vs) :
    s = t ∧ us = vs := by
  match s, t with
  | .name x, .name y => simpa [Simple.yield] using h
  | .group d, .group e =>
      simp only [Simple.yield, List.cons_append, List.append_assoc, List.nil_append, List.cons.injEq, true_and] at h
      obtain ⟨rfl, hrest⟩ := d.yield_inj e (stops_rightParen us) (stops_rightParen vs) h
      exact ⟨rfl, by simpa using hrest⟩
  | .name _, .group _ => simp [Simple.yield] at h
  | .group _, .name _ => simp [Simple.yield] at h

end

theorem Phrase.yield_injective : Function.Injective Phrase.yield := by
  intro d e h
  exact (d.yield_inj e stops_nil stops_nil (congrArg (· ++ []) h)).1

end Grammar

end Monotype
