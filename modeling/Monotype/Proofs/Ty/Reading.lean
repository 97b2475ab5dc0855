import Monotype.Proofs.Ty.Assignment
import Monotype.Ty.Parser
import Mathlib.Data.List.TakeWhile

namespace Monotype.Ty

open Text

/-- A letter or an underscore, and then letters, numerals and underscores. -/
def IsName (f : String) : Prop := ∃ c cs, f.toList = c :: cs ∧ isNameStart c = true ∧ ∀ d ∈ cs, isNameChar d = true

theorem IsName.not_mem {f : String} {c : Char} (hf : IsName f) (hc : isNameChar c = false) : c ∉ f.toList := by
  obtain ⟨d, ds, hfs, hd, hds⟩ := hf
  rw [hfs]
  intro hmem
  rcases List.mem_cons.1 hmem with rfl | hmem
  · simp [isNameChar, hd] at hc
  · rw [hds c hmem] at hc
    cases hc

/-- There are no variables, and all names can be written. -/
inductive Spellable : Ty → Prop
  | con {f args} (hf : IsName f) (hargs : ∀ a ∈ args, Spellable a) : Spellable (.con f args)

theorem Spellable.vars_eq_nil {t : Ty} (h : t.Spellable) : t.vars = [] := by
  induction h with
  | con _ _ ih =>
      rw [List.eq_nil_iff_forall_not_mem]
      intro i hi
      obtain ⟨a, ha, hia⟩ := mem_vars_con.1 hi
      rw [ih a ha] at hia
      cases hia

theorem isDigit_of_mem_toString {n : Nat} {c : Char} (h : c ∈ (toString n).toList) : c.isDigit = true :=
  Nat.isDigit_of_mem_toDigits (by decide) (by decide) (Nat.toList_repr ▸ h)

theorem varName_ofNat (n : Nat) : (varName n).toList = 't' :: (toString n).toList := String.toList_append

theorem varName_negSucc (n : Nat) : (varName (.negSucc n)).toList = 't' :: '-' :: (toString (n + 1)).toList := by
  rw [varName, String.toList_append]
  exact congrArg ('t' :: ·) String.toList_append

theorem mem_varName {i : Int} {c : Char} (h : c ∈ (varName i).toList) : c = 't' ∨ c = '-' ∨ c.isDigit = true := by
  cases i with
  | ofNat n =>
      rcases List.mem_cons.1 (varName_ofNat n ▸ h) with rfl | h
      · exact .inl rfl
      · exact .inr (.inr (isDigit_of_mem_toString h))
  | negSucc n =>
      rw [varName_negSucc, List.mem_cons, List.mem_cons] at h
      rcases h with rfl | rfl | h
      · exact .inl rfl
      · exact .inr (.inl rfl)
      · exact .inr (.inr (isDigit_of_mem_toString h))

theorem displayName_of_lt {n : Nat} (h : n < 26) :
    ∃ c : Char, (displayName n).toList = ['\'', c] ∧ c.isLower = true := by
  refine ⟨Char.ofNat ('a'.toNat + n), by simp [displayName, h], ?_⟩
  decide +revert +kernel

theorem displayName_of_le {n : Nat} (h : 26 ≤ n) : displayName n = varName n := if_neg (by omega)

theorem mem_displayName {n : Nat} {c : Char} (h : c ∈ (displayName n).toList) :
    c = '\'' ∨ c.isLower = true ∨ c = '-' ∨ c.isDigit = true := by
  rcases Nat.lt_or_ge n 26 with hn | hn
  · obtain ⟨d, hd, hlower⟩ := displayName_of_lt hn
    rw [hd, List.mem_cons, List.mem_singleton] at h
    rcases h with rfl | rfl
    · exact .inl rfl
    · exact .inr (.inl hlower)
  · rw [displayName_of_le hn] at h
    rcases mem_varName h with rfl | h
    · exact .inr (.inl (by decide))
    · exact .inr (.inr h)

def blanks : List Nat :=
  [9, 10, 11, 12, 13, 28, 29, 30, 31, 32, 0x85, 0xA0, 0x1680, 0x2000, 0x2001, 0x2002, 0x2003, 0x2004, 0x2005, 0x2006,
    0x2007, 0x2008, 0x2009, 0x200A, 0x2028, 0x2029, 0x202F, 0x205F, 0x3000]

theorem mem_blanks {c : Char} (h : isBlank c = true) : c.toNat ∈ blanks := by
  simp only [isBlank, Bool.or_eq_true, Bool.and_eq_true, decide_eq_true_eq, beq_iff_eq] at h
  simp only [blanks, List.mem_cons, List.not_mem_nil, or_false]
  omega

theorem not_isNameStart_of_blank : ∀ n ∈ blanks, isNameStart (Char.ofNat n) = false := by decide +kernel

theorem not_blank_of_isNameStart {c : Char} (h : isNameStart c = true) : isBlank c = false := by
  cases hc : isBlank c with
  | false => rfl
  | true =>
      have hnot := not_isNameStart_of_blank c.toNat (mem_blanks hc)
      rw [Char.ofNat_toNat, h] at hnot
      cases hnot

def Token.symbol (t : Token) : Token.Kind × String := (t.kind, t.text)

/-- The text is cut into these symbols, wherever it stands. -/
def Lexes (cs : List Char) (us : List (Token.Kind × String)) : Prop :=
  ∀ offset, ∃ ts, lexFrom offset cs = .ok ts ∧ ts.map Token.symbol = us

def NameEnds (cs : List Char) : Prop := ∀ c ∈ cs.head?, isNameChar c = false

namespace Lexes

variable {cs : List Char} {us : List (Token.Kind × String)}

theorem nil : Lexes [] [] := fun offset => ⟨[], by rw [lexFrom.eq_def], rfl⟩

theorem blank {c : Char} (hc : isBlank c = true) (h : Lexes cs us) : Lexes (c :: cs) us := by
  intro offset
  obtain ⟨ts, hts, hus⟩ := h (offset + 1)
  exact ⟨ts, by rw [lexFrom.eq_def]; simp only [hc, hts, if_true], hus⟩

theorem punctuation {c : Char} {kind : Token.Kind} (hkind : punctuation? c = some kind) (hblank : isBlank c = false)
    (hname : isNameStart c = false) (h : Lexes cs us) : Lexes (c :: cs) ((kind, c.toString) :: us) := by
  intro offset
  obtain ⟨ts, hts, hus⟩ := h (offset + 1)
  refine ⟨⟨kind, c.toString, offset⟩ :: ts, ?_, ?_⟩
  · rw [lexFrom.eq_def]
    simp [hblank, hname, hkind, hts]
  · rw [List.map_cons, hus]
    rfl

theorem name {f : String} (hf : IsName f) (hcs : NameEnds cs) (h : Lexes cs us) :
    Lexes (f.toList ++ cs) ((.name, f) :: us) := by
  obtain ⟨c, word, hword, hc, hall⟩ := hf
  have htake : (word ++ cs).takeWhile isNameChar = word ∧ (word ++ cs).dropWhile isNameChar = cs := by
    rw [List.takeWhile_append_of_pos hall, List.dropWhile_append_of_pos hall]
    cases cs with
    | nil => simp
    | cons d cs => simp [hcs d rfl]
  intro offset
  obtain ⟨ts, hts, hus⟩ := h (offset + (c :: word).length)
  refine ⟨⟨.name, f, offset⟩ :: ts, ?_, ?_⟩
  · have hblank : ¬ isBlank c = true := by simp [not_blank_of_isNameStart hc]
    have hf : String.ofList (c :: word) = f := by rw [← hword, String.ofList_toList]
    rw [hword, List.cons_append, lexFrom.eq_def]
    dsimp only
    rw [if_neg hblank, if_pos hc, htake.1, htake.2, hts, hf]
    rfl
  · rw [List.map_cons, hus]
    rfl

end Lexes

/-- The text is a row of names, brackets and commas with blanks around them. A name reaches as far as it can. -/
inductive Splits : List Char → List (Token.Kind × String) → Prop
  | nil : Splits [] []
  | blank {c cs us} (hc : isBlank c = true) (rest : Splits cs us) : Splits (c :: cs) us
  | name {f cs us} (hf : IsName f) (hends : NameEnds cs) (rest : Splits cs us) :
      Splits (f.toList ++ cs) ((.name, f) :: us)
  | mark {c kind cs us} (hc : punctuation? c = some kind) (rest : Splits cs us) :
      Splits (c :: cs) ((kind, c.toString) :: us)

theorem punctuation?_cases {c : Char} {kind : Token.Kind} (h : punctuation? c = some kind) :
    c = '[' ∧ kind = .leftBracket ∨ c = ']' ∧ kind = .rightBracket ∨ c = ',' ∧ kind = .comma := by
  rw [punctuation?] at h
  split_ifs at h <;> simp_all

theorem nameEnds_dropWhile (cs : List Char) : NameEnds (cs.dropWhile isNameChar) := by
  intro c hc
  have hnot := List.head?_dropWhile_not isNameChar cs
  rw [Option.mem_def.1 hc] at hnot
  exact Bool.eq_false_iff.2 (by simpa using hnot)

theorem splits_of_lexFrom {offset : Nat} {cs : List Char} {ts : List Token} (h : lexFrom offset cs = .ok ts) :
    Splits cs (ts.map Token.symbol) := by
  fun_induction lexFrom offset cs generalizing ts with
  | case1 =>
      cases h
      exact .nil
  | case2 offset c rest hblank ih => exact .blank hblank (ih h)
  | case3 offset c rest hblank hname word =>
      rename_i ih
      cases hrest : lexFrom (offset + word.length) (rest.dropWhile isNameChar) with
      | error e => rw [hrest] at h; cases h
      | ok us =>
          rw [hrest] at h
          cases h
          have hword : word ++ rest.dropWhile isNameChar = c :: rest := by
            rw [List.cons_append, List.takeWhile_append_dropWhile]
          have hf : IsName (String.ofList word) :=
            ⟨c, rest.takeWhile isNameChar, String.toList_ofList, hname, fun d hd => List.mem_takeWhile_imp hd⟩
          have hsplits := Splits.name hf (nameEnds_dropWhile rest) (ih hrest)
          rwa [String.toList_ofList, hword] at hsplits
  | case4 => cases h
  | case5 offset c rest hblank hname kind hkind ih =>
      cases hrest : lexFrom (offset + 1) rest with
      | error e => rw [hrest] at h; cases h
      | ok us =>
          rw [hrest] at h
          cases h
          exact .mark hkind (ih hrest)

theorem lexes_iff_splits {cs : List Char} {us : List (Token.Kind × String)} : Lexes cs us ↔ Splits cs us := by
  constructor
  · intro h
    obtain ⟨ts, hts, rfl⟩ := h 0
    exact splits_of_lexFrom hts
  · intro h
    induction h with
    | nil => exact .nil
    | blank hc _ ih => exact ih.blank hc
    | name hf hends _ ih => exact ih.name hf hends
    | mark hc _ ih =>
        obtain ⟨rfl, rfl⟩ | ⟨rfl, rfl⟩ | ⟨rfl, rfl⟩ := punctuation?_cases hc <;>
          exact ih.punctuation hc (by decide) (by decide)

def IsSymbol (u : Token.Kind × String) : Prop :=
  match u.1 with
  | .name => IsName u.2
  | .leftBracket => u.2 = "["
  | .rightBracket => u.2 = "]"
  | .comma => u.2 = ","

theorem Splits.isSymbol {cs : List Char} {us : List (Token.Kind × String)} (h : Splits cs us) :
    ∀ u ∈ us, IsSymbol u := by
  induction h with
  | nil => simp
  | blank _ _ ih => exact ih
  | name hf _ _ ih => exact List.forall_mem_cons.2 ⟨hf, ih⟩
  | mark hc _ ih =>
      refine List.forall_mem_cons.2 ⟨?_, ih⟩
      obtain ⟨rfl, rfl⟩ | ⟨rfl, rfl⟩ | ⟨rfl, rfl⟩ := punctuation?_cases hc <;> rfl

mutual

def symbols : Ty → List (Token.Kind × String)
  | var _ => []
  | con f [] => [(.name, f)]
  | con f (a :: as) => (.name, f) :: (.leftBracket, "[") :: (symbols a ++ (symbolsTail as ++ [(.rightBracket, "]")]))

def symbolsTail : List Ty → List (Token.Kind × String)
  | [] => []
  | a :: as => (.comma, ",") :: (symbols a ++ symbolsTail as)

end

theorem nameEnds_cons {c : Char} (hc : isNameChar c = false) (cs : List Char) : NameEnds (c :: cs) := by
  intro d hd
  obtain rfl : c = d := by simpa using hd
  exact hc

theorem nameEnds_renderTail (as : List Ty) {cs : List Char} (hcs : NameEnds cs) :
    NameEnds ((renderTail varName as).toList ++ cs) := by
  cases as with
  | nil => simpa [renderTail] using hcs
  | cons a as =>
      have hcomma : isNameChar ',' = false := by decide
      simpa [renderTail] using nameEnds_cons hcomma _

mutual

theorem lexes_render (t : Ty) (ht : t.Spellable) {cs : List Char} {us : List (Token.Kind × String)} (hcs : NameEnds cs)
    (h : Lexes cs us) : Lexes (t.render.toList ++ cs) (t.symbols ++ us) := by
  match t, ht with
  | con f [], .con hf _ =>
      rw [render, renderWith, symbols]
      exact Lexes.name hf hcs h
  | con f (a :: as), .con hf hargs =>
      have hclosing : NameEnds (']' :: cs) := nameEnds_cons (by decide) cs
      have hclose := Lexes.punctuation (c := ']') rfl (by decide) (by decide) h
      have htail := lexes_renderTail as (fun b hb => hargs b (List.mem_cons_of_mem a hb)) hclosing hclose
      have hfirst := lexes_render a (hargs a List.mem_cons_self) (nameEnds_renderTail as hclosing) htail
      have hopen := Lexes.punctuation (c := '[') rfl (by decide) (by decide) hfirst
      have hall := Lexes.name hf (nameEnds_cons (by decide) _) hopen
      simpa [render, renderWith, symbols] using hall

theorem lexes_renderTail (as : List Ty) (has : ∀ a ∈ as, a.Spellable) {cs : List Char}
    {us : List (Token.Kind × String)} (hcs : NameEnds cs) (h : Lexes cs us) :
    Lexes ((renderTail varName as).toList ++ cs) (symbolsTail as ++ us) := by
  match as with
  | [] => simpa [renderTail, symbolsTail] using h
  | a :: as =>
      have htail := lexes_renderTail as (fun b hb => has b (List.mem_cons_of_mem a hb)) hcs h
      have hfirst := lexes_render a (has a List.mem_cons_self) (nameEnds_renderTail as hcs) htail
      have hcomma := Lexes.punctuation (c := ',') rfl (by decide) (by decide) (hfirst.blank (c := ' ') (by decide))
      simpa [render, renderTail, symbolsTail] using hcomma

end

namespace Parser

def Holds (frames : List Frame) (t : Ty) (s : State) : Prop :=
  s = .complete frames t ∨ ∃ f, t = .con f [] ∧ s = .named frames f

theorem Holds.step_eq {frames : List Frame} {t : Ty} {s : State} (h : Holds frames t s) {u : Token}
    (hu : u.kind ≠ .leftBracket) : step s u = stepComplete frames t u := by
  rcases h with rfl | ⟨f, rfl, rfl⟩
  · rfl
  · cases hk : u.kind <;> simp_all [step]

theorem Holds.finish_eq {t : Ty} {s : State} (h : Holds [] t s) (stop : Nat) : finish stop s = .ok t := by
  rcases h with rfl | ⟨f, rfl, rfl⟩ <;> rfl

theorem foldlM_of_step {s s' : State} {u : Token} (h : step s u = .ok s') (ts : List Token) :
    (u :: ts).foldlM step s = ts.foldlM step s' := by
  rw [List.foldlM_cons, h]
  rfl

theorem foldlM_of_ok {s s' : State} {us : List Token} (h : us.foldlM step s = .ok s') (vs : List Token) :
    (us ++ vs).foldlM step s = vs.foldlM step s' := by
  rw [List.foldlM_append, h]
  rfl

mutual

theorem reads_type (t : Ty) (ht : t.Spellable) {ts : List Token} (h : ts.map Token.symbol = t.symbols)
    (frames : List Frame) : ∃ s, ts.foldlM step (.wanting frames) = .ok s ∧ Holds frames t s := by
  match t, ht with
  | con f [], .con _ _ =>
      rw [symbols] at h
      obtain ⟨u, rfl, hu⟩ := List.map_eq_singleton_iff.1 h
      obtain ⟨hkind, rfl⟩ := Prod.mk.inj hu
      exact ⟨.named frames u.text, foldlM_of_step (by simp [step, hkind]) [], .inr ⟨u.text, rfl, rfl⟩⟩
  | con f (a :: as), .con _ hargs =>
      rw [symbols] at h
      obtain ⟨u, ts, rfl, hu, h⟩ := List.map_eq_cons_iff.1 h
      obtain ⟨l, ts, rfl, hl, h⟩ := List.map_eq_cons_iff.1 h
      obtain ⟨us, vs, rfl, hus, hvs⟩ := List.map_eq_append_iff.1 h
      obtain ⟨hkind, rfl⟩ := Prod.mk.inj hu
      have hname : step (.wanting frames) u = .ok (.named frames u.text) := by simp [step, hkind]
      have hopen : step (.named frames u.text) l = .ok (.wanting (⟨u.text, []⟩ :: frames)) := by
        simp [step, (Prod.mk.inj hl).1]
      obtain ⟨s, hfirst, hs⟩ := reads_type a (hargs a List.mem_cons_self) hus (⟨u.text, []⟩ :: frames)
      have htail := reads_args as (fun b hb => hargs b (List.mem_cons_of_mem a hb)) hvs hs
      refine ⟨_, ?_, .inl rfl⟩
      rw [foldlM_of_step hname, foldlM_of_step hopen, foldlM_of_ok hfirst, htail]
      rfl

theorem reads_args (as : List Ty) (has : ∀ a ∈ as, a.Spellable) {ts : List Token}
    (h : ts.map Token.symbol = symbolsTail as ++ [(.rightBracket, "]")]) {frames : List Frame} {f : String}
    {done : List Ty} {t : Ty} {s : State} (hs : Holds (⟨f, done⟩ :: frames) t s) :
    ts.foldlM step s = .ok (.complete frames (.con f (done.reverse ++ t :: as))) := by
  match as with
  | [] =>
      rw [symbolsTail, List.nil_append] at h
      obtain ⟨u, rfl, hu⟩ := List.map_eq_singleton_iff.1 h
      have hkind : u.kind = .rightBracket := (Prod.mk.inj hu).1
      have hclose : step s u = .ok (.complete frames (.con f (t :: done).reverse)) := by
        rw [hs.step_eq (by simp [hkind])]
        simp [stepComplete, hkind]
      rw [foldlM_of_step hclose, List.reverse_cons]
      rfl
  | a :: as =>
      rw [symbolsTail, List.cons_append, List.append_assoc] at h
      obtain ⟨u, ts, rfl, hu, h⟩ := List.map_eq_cons_iff.1 h
      obtain ⟨us, vs, rfl, hus, hvs⟩ := List.map_eq_append_iff.1 h
      have hkind : u.kind = .comma := (Prod.mk.inj hu).1
      have hcomma : step s u = .ok (.wanting (⟨f, t :: done⟩ :: frames)) := by
        rw [hs.step_eq (by simp [hkind])]
        simp [stepComplete, hkind]
      obtain ⟨s', hnext, hs'⟩ := reads_type a (has a List.mem_cons_self) hus (⟨f, t :: done⟩ :: frames)
      have htail := reads_args as (fun b hb => has b (List.mem_cons_of_mem a hb)) hvs hs'
      rw [foldlM_of_step hcomma, foldlM_of_ok hnext, htail, List.reverse_cons, List.append_assoc]
      rfl

end

/-- The frames are open behind these symbols: each argument that is complete has a comma behind it. -/
inductive Opens : List Frame → List (Token.Kind × String) → Prop
  | nil : Opens [] []
  | cons {frames us f args} (outer : Opens frames us) (hf : IsName f) (hargs : ∀ a ∈ args, a.Spellable) :
      Opens (⟨f, args⟩ :: frames)
        (us ++ (.name, f) :: (.leftBracket, "[") :: args.reverse.flatMap fun a => a.symbols ++ [(.comma, ",")])

/-- The state is reached by these symbols, and all in it can be written. -/
inductive Follows : State → List (Token.Kind × String) → Prop
  | wanting {frames us} (h : Opens frames us) : Follows (.wanting frames) us
  | named {frames us f} (h : Opens frames us) (hf : IsName f) : Follows (.named frames f) (us ++ [(.name, f)])
  | complete {frames us t} (h : Opens frames us) (ht : t.Spellable) : Follows (.complete frames t) (us ++ t.symbols)

theorem symbols_concat (a : Ty) (as : List Ty) (t : Ty) :
    a.symbols ++ symbolsTail (as ++ [t]) =
      ((a :: as).flatMap fun a => a.symbols ++ [(.comma, ",")]) ++ t.symbols := by
  induction as generalizing a with
  | nil => simp [symbolsTail]
  | cons b as ih =>
      rw [List.cons_append, symbolsTail, ih b]
      simp

theorem symbols_con_concat (f : String) (args : List Ty) (t : Ty) :
    (con f (args ++ [t])).symbols = (.name, f) :: (.leftBracket, "[") ::
      ((args.flatMap fun a => a.symbols ++ [(.comma, ",")]) ++ t.symbols ++ [(.rightBracket, "]")]) := by
  cases args with
  | nil => simp [symbols, symbolsTail]
  | cons a as => rw [List.cons_append, symbols, ← List.append_assoc, symbols_concat]

theorem spellable_named {name : String} (h : IsName name) : (Ty.con name []).Spellable := .con h (by simp)

theorem follows_stepComplete {frames : List Frame} {us : List (Token.Kind × String)} {t : Ty} {u : Token} {s : State}
    (hopens : Opens frames us) (ht : t.Spellable) (hu : IsSymbol u.symbol) (h : stepComplete frames t u = .ok s) :
    Follows s (us ++ t.symbols ++ [u.symbol]) := by
  obtain ⟨kind, text, offset⟩ := u
  cases hopens with
  | nil => cases h
  | @cons frames us f args outer hf hargs =>
      have hall : ∀ a ∈ t :: args, a.Spellable := List.forall_mem_cons.2 ⟨ht, hargs⟩
      cases kind with
      | name | leftBracket => cases h
      | comma =>
          obtain rfl : text = "," := hu
          cases h
          simpa [Token.symbol] using Follows.wanting (.cons outer hf hall)
      | rightBracket =>
          obtain rfl : text = "]" := hu
          cases h
          have hcon : (con f (t :: args).reverse).Spellable := .con hf fun a ha => hall a (List.mem_reverse.1 ha)
          simpa [Token.symbol, symbols_con_concat] using Follows.complete outer hcon

theorem Follows.step {s s' : State} {us : List (Token.Kind × String)} {u : Token} (hs : Follows s us)
    (hu : IsSymbol u.symbol) (h : step s u = .ok s') : Follows s' (us ++ [u.symbol]) := by
  cases hs with
  | wanting hopens =>
      obtain ⟨kind, text, offset⟩ := u
      cases kind with
      | name =>
          cases h
          exact .named hopens hu
      | _ => cases h
  | named hopens hf =>
      rw [Parser.step] at h
      split at h
      next hkind =>
        cases h
        have hopen : u.symbol = (.leftBracket, "[") := by simpa [Token.symbol, IsSymbol, hkind] using hu
        simpa [hopen] using Follows.wanting (.cons hopens hf (List.forall_mem_nil _))
      -- With no bracket behind it the name is a whole type.
      next => simpa [symbols] using follows_stepComplete hopens (spellable_named hf) hu h
  | complete hopens ht => exact follows_stepComplete hopens ht hu h

theorem Follows.foldlM {s s' : State} {us : List (Token.Kind × String)} {ts : List Token} (hs : Follows s us)
    (hts : ∀ u ∈ ts.map Token.symbol, IsSymbol u) (h : ts.foldlM Parser.step s = .ok s') :
    Follows s' (us ++ ts.map Token.symbol) := by
  induction ts generalizing s us with
  | nil =>
      cases h
      simpa using hs
  | cons u ts ih =>
      cases hstep : Parser.step s u with
      | error e =>
          rw [List.foldlM_cons, hstep] at h
          cases h
      | ok next =>
          rw [foldlM_of_step hstep] at h
          obtain ⟨hu, hts⟩ := List.forall_mem_cons.1 hts
          rw [List.map_cons, List.append_cons]
          exact ih (hs.step hu hstep) hts h

theorem Follows.finish {stop : Nat} {s : State} {us : List (Token.Kind × String)} {t : Ty} (hs : Follows s us)
    (h : finish stop s = .ok t) : t.Spellable ∧ us = t.symbols := by
  cases hs with
  | wanting _ => cases h
  | named hopens hf =>
      cases hopens with
      | nil =>
          cases h
          exact ⟨spellable_named hf, by simp [symbols]⟩
      | cons => cases h
  | complete hopens ht =>
      cases hopens with
      | nil =>
          cases h
          exact ⟨ht, rfl⟩
      | cons => cases h

end Parser

theorem parseChars_ok_iff {cs : List Char} {t : Ty} :
    parseChars cs = .ok t ↔ ∃ ts s, lexFrom 0 cs = .ok ts ∧ ts.foldlM Parser.step (.wanting []) = .ok s ∧
      Parser.finish cs.length s = .ok t := by
  constructor
  · intro h
    cases hlex : lexFrom 0 cs with
    | error e => simp [parseChars, hlex, bind, Except.bind] at h
    | ok ts =>
        cases hread : ts.foldlM Parser.step (.wanting []) with
        | error e => simp [parseChars, hlex, hread, bind, Except.bind] at h
        | ok s => exact ⟨ts, s, rfl, hread, by simpa [parseChars, hlex, hread, bind, Except.bind] using h⟩
  · rintro ⟨ts, s, hlex, hread, hfinish⟩
    simp [parseChars, hlex, hread, hfinish, bind, Except.bind]

theorem parse_ok_iff {source : String} {t : Ty} :
    parse source = .ok t ↔ source.toList.all isBlank = false ∧ parseChars source.toList = .ok t := by
  rw [parse]
  cases source.toList.all isBlank <;> cases parseChars source.toList <;> simp [Except.mapError]

theorem splits_of_parse {source : String} {t : Ty} (h : parse source = .ok t) :
    t.Spellable ∧ Splits source.toList t.symbols := by
  obtain ⟨ts, s, hlex, hread, hfinish⟩ := parseChars_ok_iff.1 (parse_ok_iff.1 h).2
  have hsplits := splits_of_lexFrom hlex
  have hfollows := (Parser.Follows.wanting .nil).foldlM hsplits.isSymbol hread
  obtain ⟨ht, hsymbols⟩ := hfollows.finish hfinish
  exact ⟨ht, hsymbols ▸ hsplits⟩

theorem spellable_of_parse {source : String} {t : Ty} (h : parse source = .ok t) : t.Spellable := (splits_of_parse h).1

theorem symbols_ne_nil {t : Ty} (h : t.Spellable) : t.symbols ≠ [] := by
  obtain @⟨f, args, _, _⟩ := h
  cases args <;> simp [symbols]

theorem lexes_blanks {cs : List Char} (h : cs.all isBlank = true) : Lexes cs [] := by
  induction cs with
  | nil => exact .nil
  | cons c cs ih =>
      rw [List.all_cons, Bool.and_eq_true] at h
      exact (ih h.2).blank h.1

theorem Lexes.unique {cs : List Char} {us vs : List (Token.Kind × String)} (hu : Lexes cs us) (hv : Lexes cs vs) :
    us = vs := by
  obtain ⟨ts, hts, rfl⟩ := hu 0
  obtain ⟨ts', hts', rfl⟩ := hv 0
  rw [Except.ok.inj (hts.symm.trans hts')]

theorem parse_of_lexes {source : String} {t : Ty} (h : t.Spellable) (hlexes : Lexes source.toList t.symbols) :
    parse source = .ok t := by
  obtain ⟨ts, hlex, hsymbols⟩ := hlexes 0
  obtain ⟨s, hread, hs⟩ := Parser.reads_type t h hsymbols []
  refine parse_ok_iff.2 ⟨?_, parseChars_ok_iff.2 ⟨ts, s, hlex, hread, hs.finish_eq _⟩⟩
  rw [Bool.eq_false_iff]
  exact fun hblank => symbols_ne_nil h (hlexes.unique (lexes_blanks hblank))

theorem lexes_render_self {t : Ty} (h : t.Spellable) : Lexes t.render.toList t.symbols := by
  have hend : NameEnds [] := by simp [NameEnds]
  simpa using lexes_render t h hend .nil

theorem parse_render {t : Ty} (h : t.Spellable) : parse t.render = .ok t := parse_of_lexes h (lexes_render_self h)

/-- The type can be written, and the text has the names, brackets and commas that are written for it: it differs in the
blanks around them alone. -/
def Spells (source : String) (t : Ty) : Prop :=
  t.Spellable ∧ ∃ us, Splits source.toList us ∧ Splits t.render.toList us

theorem parse_ok_iff_spells {source : String} {t : Ty} : parse source = .ok t ↔ Spells source t := by
  constructor
  · intro h
    obtain ⟨ht, hsource⟩ := splits_of_parse h
    exact ⟨ht, t.symbols, hsource, lexes_iff_splits.1 (lexes_render_self ht)⟩
  · rintro ⟨ht, us, hsource, hrender⟩
    obtain rfl : t.symbols = us := (lexes_render_self ht).unique (lexes_iff_splits.2 hrender)
    exact parse_of_lexes ht (lexes_iff_splits.2 hsource)

/-- A text is read as the type that it spells, what is written for a type is read back, and a text that spells no type
is a syntax error. -/
theorem parse_spelling (source : String) :
    (∀ t, parse source = .ok t ↔ Spells source t) ∧ (∀ t, t.Spellable → parse t.render = .ok t) ∧
      ((∃ e, parse source = .error e) ↔ ∀ t, ¬ Spells source t) := by
  refine ⟨fun t => parse_ok_iff_spells, fun t => parse_render, ?_⟩
  simp only [← parse_ok_iff_spells]
  cases parse source <;> simp

theorem parse_spelling_blanks :
    let t := con "Fun" [con "Int" [], con "_é²" [con "a" [], con "b" []]]
    Spells "\tFun [Int,\n  _é²[a\u3000,b]] " t ∧ t.Spellable ∧ parse t.render = .ok t ∧ ∀ u, ¬ Spells "Fun[Int,]" u := by
  intro t
  have hread : parse "\tFun [Int,\n  _é²[a\u3000,b]] " = .ok t := by decide +kernel
  have hspells := ((parse_spelling _).1 t).1 hread
  have hfault : parse "Fun[Int,]" = .error (.at "Fun[Int,]" (.expected .name 8 (some "]"))) := by decide +kernel
  exact ⟨hspells, hspells.1, (parse_spelling "").2.1 t hspells.1, (parse_spelling _).2.2.1 ⟨_, hfault⟩⟩

end Monotype.Ty
