import Monotype.Proofs.Expr.Parsing
import Mathlib.Data.List.Basic
import Mathlib.Order.Bounds.Basic

namespace Monotype

namespace Lexer.Tokens

def kinds (ts : Tokens) : List (Option Token.Kind) := (ts.tokens.map Token.kind).map some ++ [none]

def starts (ts : Tokens) : List Position := ts.tokens.map (fun t => t.span.start) ++ [ts.stop]

end Lexer.Tokens

namespace Grammar

/-- The kinds of the tokens of an expression, up to the end. -/
def Sentence (ks : List (Option Token.Kind)) : Prop :=
  ∃ us, Derives .expr us ∧ ks = (us.map Terminal.kind).map some ++ [none]

/-- Some expression begins like this. -/
def Viable (ks : List (Option Token.Kind)) : Prop := ∃ rest, Sentence (ks ++ rest)

theorem Viable.of_append {ks ls : List (Option Token.Kind)} (h : Viable (ks ++ ls)) : Viable ks := by
  obtain ⟨rest, h⟩ := h
  exact ⟨ls ++ rest, by rwa [← List.append_assoc]⟩

theorem Viable.isLeast {ks : List (Option Token.Kind)} {k : Option Token.Kind} (h : Viable ks)
    (hk : ¬ Viable (ks ++ [k])) (ls : List (Option Token.Kind)) :
    IsLeast {n | ¬ Viable ((ks ++ k :: ls).take (n + 1))} ks.length := by
  constructor
  · rwa [Set.mem_ofPred_eq, List.take_length_add_append, List.take_succ_cons, List.take_zero]
  · intro n hn
    by_contra hlt
    rw [Set.mem_ofPred_eq, List.take_append_of_le_length (by omega)] at hn
    rw [← List.take_append_drop (n + 1) ks] at h
    exact hn h.of_append

theorem exists_name_of_kind {u : Terminal} (h : u.kind = .name) : ∃ x, u = .name x := by
  cases u with
  | name x => exact ⟨x, rfl⟩
  | _ => cases h

theorem eq_of_kind {u v : Terminal} (h : u.kind = v.kind) (hv : v.kind ≠ .name) : u = v := by
  cases v with
  | name x => exact absurd rfl hv
  | _ => cases u <;> simp_all [Terminal.kind]

theorem exists_names_of_kinds {us : List Terminal} {xs : List String}
    (h : us.map Terminal.kind = (xs.map Terminal.name).map Terminal.kind) :
    ∃ ys : List String, us = ys.map Terminal.name := by
  induction us generalizing xs with
  | nil => exact ⟨[], rfl⟩
  | cons u us ih =>
      cases xs with
      | nil => simp at h
      | cons x xs =>
          obtain ⟨hu, hus⟩ := List.cons.inj h
          obtain ⟨y, rfl⟩ := exists_name_of_kind hu
          obtain ⟨ys, rfl⟩ := ih hus
          exact ⟨y :: ys, rfl⟩

theorem Derives.of_kinds {c : Category} {us vs : List Terminal} (h : Derives c us)
    (hk : vs.map Terminal.kind = us.map Terminal.kind) : Derives c vs := by
  induction h generalizing vs with
  | expr _ _ ih ihs =>
      rw [List.map_append] at hk
      obtain ⟨ws, xs, rfl, hws, hxs⟩ := List.map_eq_append_iff.1 hk
      exact .expr (ih hws) (ihs hxs)
  | noAtoms =>
      obtain rfl : vs = [] := by simpa using hk
      exact .noAtoms
  | moreAtoms _ _ ih ihs =>
      rw [List.map_append] at hk
      obtain ⟨ws, xs, rfl, hws, hxs⟩ := List.map_eq_append_iff.1 hk
      exact .moreAtoms (ih hws) (ihs hxs)
  | name x =>
      obtain ⟨v, rfl, hv⟩ := List.map_eq_singleton_iff.1 hk
      obtain ⟨y, rfl⟩ := exists_name_of_kind hv
      exact .name y
  | group _ ih =>
      rw [List.cons_append, List.map_cons, List.map_append] at hk
      obtain ⟨l, vs, rfl, hl, hvs⟩ := List.map_eq_cons_iff.1 hk
      obtain ⟨ws, xs, rfl, hws, hxs⟩ := List.map_eq_append_iff.1 hvs
      obtain ⟨r, rfl, hr⟩ := List.map_eq_singleton_iff.1 hxs
      rw [eq_of_kind hl (by simp [Terminal.kind]), eq_of_kind hr (by simp [Terminal.kind])]
      exact .group (ih hws)
  | function _ ih => exact .function (ih hk)
  | abs x xs _ ih =>
      rw [List.cons_append, List.cons_append, List.map_cons, List.map_cons, List.map_append, List.map_cons] at hk
      obtain ⟨f, vs, rfl, hf, hrest⟩ := List.map_eq_cons_iff.1 hk
      obtain ⟨p, vs, rfl, hp, hrest⟩ := List.map_eq_cons_iff.1 hrest
      obtain ⟨ps, vs, rfl, hps, hrest⟩ := List.map_eq_append_iff.1 hrest
      obtain ⟨a, vs, rfl, ha, hbody⟩ := List.map_eq_cons_iff.1 hrest
      obtain ⟨y, rfl⟩ := exists_name_of_kind hp
      obtain ⟨ys, rfl⟩ := exists_names_of_kinds hps
      rw [eq_of_kind hf (by simp [Terminal.kind]), eq_of_kind ha (by simp [Terminal.kind])]
      exact .abs y ys (ih hbody)

theorem exists_rest {ks ls : List Token.Kind} {rest : List (Option Token.Kind)}
    (h : ks.map some ++ rest = ls.map some ++ [none]) : ∃ ms, ls = ks ++ ms ∧ rest = ms.map some ++ [none] := by
  induction ks generalizing ls with
  | nil => exact ⟨ls, rfl, h⟩
  | cons k ks ih =>
      cases ls with
      | nil => simp at h
      | cons l ls =>
          rw [List.map_cons, List.map_cons, List.cons_append, List.cons_append, List.cons.injEq, Option.some.injEq] at h
          obtain ⟨rfl, hrest⟩ := h
          obtain ⟨ms, rfl, rfl⟩ := ih hrest
          exact ⟨ms, rfl, rfl⟩

theorem map_kind_eq (ts : List Token) : ts.map Token.kind = (ts.map Token.terminal).map Terminal.kind := by
  rw [List.map_map]
  exact List.map_congr_left fun t _ => Token.kind_of_terminal rfl

variable {ts : List Token}

theorem viable_iff :
    Viable ((ts.map Token.kind).map some) ↔ ∃ us, Derives .expr (ts.map Token.terminal ++ us) := by
  constructor
  · rintro ⟨rest, us, hus, heq⟩
    obtain ⟨ms, hms, -⟩ := exists_rest heq
    obtain ⟨vs, ws, rfl, hvs, -⟩ := List.map_eq_append_iff.1 hms
    refine ⟨ws, hus.of_kinds ?_⟩
    rw [List.map_append, List.map_append, hvs, map_kind_eq]
  · rintro ⟨us, hus⟩
    refine ⟨(us.map Terminal.kind).map some ++ [none], _, hus, ?_⟩
    rw [List.map_append, List.map_append, ← map_kind_eq, List.append_assoc]

theorem viable_end_iff :
    Viable ((ts.map Token.kind).map some ++ [none]) ↔ Derives .expr (ts.map Token.terminal) := by
  constructor
  · rintro ⟨rest, us, hus, heq⟩
    rw [List.append_assoc] at heq
    obtain ⟨ms, hms, hrest⟩ := exists_rest heq
    cases ms with
    | nil =>
        rw [List.append_nil, map_kind_eq] at hms
        exact hus.of_kinds hms.symm
    | cons m ms => simp at hrest
  · intro h
    exact ⟨[], _, h, by rw [List.append_nil, map_kind_eq]⟩

end Grammar

namespace Parser

open Grammar

theorem exists_closes (frames : List Frame) : ∃ us, Closes frames us := by
  induction frames with
  | nil => exact ⟨[], .done⟩
  | cons frame frames ih =>
      obtain ⟨us, hus⟩ := ih
      cases frame with
      | group outer start => exact ⟨_, .group none hus⟩
      | body outer start names => exact ⟨us, .body hus⟩

/-- Every state can be brought to an end: a name completes a row, and also a list of parameters and its body. -/
theorem exists_expects (s : State) : ∃ us, Expects s us := by
  cases s with
  | expression frames row last =>
      obtain ⟨us, hus⟩ := exists_closes frames
      exact ⟨_, some (.last (.name "x")), us, rfl, hus, by simp⟩
  | parameters frames outer start names =>
      obtain ⟨us, hus⟩ := exists_closes frames
      exact ⟨_, ["x"], .last (.name "x"), us, rfl, hus, by simp⟩

theorem viable_of_reads {ts : List Token} {s : State} (h : Reads .initial ts s) :
    Viable ((ts.map Token.kind).map some) := by
  obtain ⟨us, hus⟩ := exists_expects s
  exact viable_iff.2 ⟨us, derives_iff.2 (h.expects hus).exists_phrase⟩

theorem terminal_surjective : Function.Surjective Token.terminal := by
  intro u
  cases u with
  | name x => exact ⟨⟨.name, x, default⟩, rfl⟩
  | function => exact ⟨⟨.function, "fun", default⟩, rfl⟩
  | arrow => exact ⟨⟨.arrow, "=>", default⟩, rfl⟩
  | leftParen => exact ⟨⟨.leftParen, "(", default⟩, rfl⟩
  | rightParen => exact ⟨⟨.rightParen, ")", default⟩, rfl⟩

theorem foldlM_of_viable {ts : List Token} (h : Viable ((ts.map Token.kind).map some)) :
    ∃ s, ts.foldlM step State.initial = .ok s := by
  obtain ⟨us, hus⟩ := viable_iff.1 h
  obtain ⟨d, hd⟩ := derives_iff.1 hus
  -- Any tokens will do for the rest of the sentence, which is then read as a whole.
  obtain ⟨vs, rfl⟩ := List.map_surjective_iff.2 terminal_surjective us
  rw [← List.map_append] at hd
  obtain ⟨s, hreads, -⟩ := reads_phrase d hd.symm [] none .origin
  have hall : (ts ++ vs).foldlM step State.initial = .ok s := hreads.foldlM_eq
  rw [List.foldlM_append] at hall
  cases hts : ts.foldlM step State.initial with
  | ok s' => exact ⟨s', rfl⟩
  | error fault =>
      rw [hts] at hall
      cases hall

theorem not_viable_of_step {ts : List Token} {t : Token} {s : State} {fault : Lexer.Fault} (h : Reads .initial ts s)
    (ht : step s t = .error fault) : ¬ Viable (((ts ++ [t]).map Token.kind).map some) := by
  intro hviable
  obtain ⟨s', hs'⟩ := foldlM_of_viable hviable
  rw [List.foldlM_append, h.foldlM_eq] at hs'
  change [t].foldlM step s = .ok s' at hs'
  rw [List.foldlM_cons, ht] at hs'
  cases hs'

theorem not_derives_of_error {ts : Lexer.Tokens} {fault : Lexer.Fault} (h : parseTokens ts = .error fault) :
    ¬ Derives .expr (ts.tokens.map Token.terminal) := by
  intro hsentence
  obtain ⟨d, hd⟩ := derives_iff.1 hsentence
  obtain ⟨e, he, -⟩ := parseTokens_phrase d hd.symm
  rw [he] at h
  cases h

theorem parseTokens_fault {ts : Lexer.Tokens} {fault : Lexer.Fault} (h : parseTokens ts = .error fault) :
    ∃ k, ts.starts[k]? = some fault.1 ∧ IsLeast {n | ¬ Viable (ts.kinds.take (n + 1))} k ∧
      (fault.2 = .unexpectedEnd ↔ k = ts.tokens.length) ∧
      (k = ts.tokens.length ↔ Viable ((ts.tokens.map Token.kind).map some)) := by
  have hend := mt viable_end_iff.1 (not_derives_of_error h)
  rcases foldlM_cases State.initial ts.tokens with ⟨s, hfold, hreads⟩ | ⟨us, t, vs, s, wanted, hts, hreads, hstep, hfold⟩
  · have hviable := viable_of_reads hreads
    have hleast := hviable.isLeast hend []
    rw [List.length_map, List.length_map] at hleast
    have hparse : parseTokens ts = finish ts.stop s := by rw [parseTokens, hfold]; rfl
    rcases finish_cases ts.stop s with ⟨_, _, _, _, _, _, -, -, hok⟩ | hfin
    · rw [hparse, hok] at h
      cases h
    · rw [hparse, hfin] at h
      cases h
      exact ⟨ts.tokens.length, by simp [Lexer.Tokens.starts], hleast, by simp, iff_of_true rfl hviable⟩
  · have hnot : ¬ Viable ((us.map Token.kind).map some ++ [some t.kind]) := by
      simpa using not_viable_of_step hreads hstep
    have hleast := (viable_of_reads hreads).isLeast hnot ((vs.map Token.kind).map some ++ [none])
    rw [List.length_map, List.length_map] at hleast
    have hall : ¬ Viable ((ts.tokens.map Token.kind).map some) := by
      have hsplit : (ts.tokens.map Token.kind).map some =
          ((us.map Token.kind).map some ++ [some t.kind]) ++ (vs.map Token.kind).map some := by simp [hts]
      rw [hsplit]
      exact mt Viable.of_append hnot
    rw [parseTokens, hfold] at h
    cases h
    refine ⟨us.length, by simp [Lexer.Tokens.starts, hts], ?_, by simp [hts], iff_of_false (by simp [hts]) hall⟩
    simpa [Lexer.Tokens.kinds, hts] using hleast

end Parser

theorem SyntaxFault.detail_eq_end_iff (fault : SyntaxFault) :
    fault.detail = "Unexpected EOF" ↔ fault = .unexpectedEnd := by
  cases fault with
  | unexpectedEnd => exact iff_of_true rfl rfl
  | unexpectedChar c =>
      have hdetail : (unexpectedChar c).detail = "Unexpected character '" ++ c.toString ++ "'" := rfl
      simp [hdetail, ← String.toList_inj]
  | expected wanted got =>
      have hdetail : (expected wanted got).detail = "Expected " ++ wanted.describe ++ ", got " ++ got.describe := rfl
      simp [hdetail, ← String.toList_inj]

namespace SpannedExpr

open Grammar

theorem parse_error_iff {file source : String} {ts : Lexer.Tokens} (hts : Lexer.tokenize file source = .ok ts)
    {e : SyntaxError} : parse file source = .error e ↔
      ∃ fault, Parser.parseTokens ts = .error fault ∧ e = ⟨file, fault.1, fault.2⟩ := by
  rw [parse, hts]
  cases h : Parser.parseTokens ts <;> simp [bind, Except.bind, Except.mapError, h, eq_comm]

/-- A text that is cut into tokens and is no expression is faulty at the first token that no expression has at its
place. That is the end if the tokens before it are no expression but begin one, and only then the report says so. -/
theorem parse_first_unviable {file source : String} {ts : Lexer.Tokens} {e : SyntaxError}
    (hts : Lexer.tokenize file source = .ok ts) (he : parse file source = .error e) :
    ∃ k, ts.starts[k]? = some e.position ∧ IsLeast {n | ¬ Viable (ts.kinds.take (n + 1))} k ∧
      (e.fault.detail = "Unexpected EOF" ↔ k = ts.tokens.length) ∧
      (k = ts.tokens.length ↔ ¬ Derives .expr (ts.tokens.map Token.terminal) ∧
        ∃ more, Derives .expr (ts.tokens.map Token.terminal ++ more)) := by
  obtain ⟨fault, hfault, rfl⟩ := (parse_error_iff hts).1 he
  obtain ⟨k, hstart, hleast, hdetail, hviable⟩ := Parser.parseTokens_fault hfault
  refine ⟨k, hstart, hleast, (SyntaxFault.detail_eq_end_iff _).trans hdetail, ?_⟩
  rw [hviable, viable_iff]
  exact (and_iff_right (Parser.not_derives_of_error hfault)).symm

theorem parse_first_unviable_arrow :
    let source := "(fun x\n)"
    let ts : Lexer.Tokens :=
      ⟨[⟨.leftParen, "(", ⟨⟨1, 1⟩, ⟨1, 2⟩⟩⟩, ⟨.function, "fun", ⟨⟨1, 2⟩, ⟨1, 5⟩⟩⟩, ⟨.name, "x", ⟨⟨1, 6⟩, ⟨1, 7⟩⟩⟩,
        ⟨.rightParen, ")", ⟨⟨2, 1⟩, ⟨2, 2⟩⟩⟩], ⟨2, 2⟩⟩
    let e : SyntaxError := ⟨"<expr>", ⟨2, 1⟩, .expected (.token .arrow) .rightParen⟩
    Lexer.tokenize "<expr>" source = .ok ts ∧ parse "<expr>" source = .error e ∧
      IsLeast {n | ¬ Viable (ts.kinds.take (n + 1))} 3 := by
  intro source ts e
  have hts : Lexer.tokenize "<expr>" source = .ok ts := by decide +kernel
  have he : parse "<expr>" source = .error e := by decide +kernel
  obtain ⟨k, hstart, hleast, -⟩ := parse_first_unviable hts he
  have hk : k = 3 := by
    have hlt : k < ts.starts.length := (List.getElem?_eq_some_iff.1 hstart).1
    have hall : ∀ n < ts.starts.length, ts.starts[n]? = some e.position → n = 3 := by decide
    exact hall k hlt hstart
  exact ⟨hts, he, hk ▸ hleast⟩

end SpannedExpr

end Monotype
