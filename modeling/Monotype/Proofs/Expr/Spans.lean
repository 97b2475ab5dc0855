import Monotype.Proofs.Expr.Cutting
import Monotype.Proofs.Expr.Extent
import Mathlib.Logic.Relation

namespace Monotype

open Text Lexer Monotype.Parser

namespace Lexer

theorem Gap.congr {rest rest' gap : List Char} (h : Gap rest gap) (hhead : rest.head? = rest'.head?) : Gap rest' gap := by
  induction h with
  | nil => exact .nil
  | blank hc _ ih => exact .blank hc ih
  | comment hbody hend _ ih =>
      refine .comment hbody ?_ ih
      simpa only [LineEnds, List.head?_append, hhead] using hend

theorem Spelled.congr {t : Token} {rest rest' : List Char} (h : Spelled t rest)
    (hhead : ∀ c ∈ rest'.head?, c ∈ rest.head?) : Spelled t rest' := by
  unfold Spelled at *
  split at h
  · exact h
  · exact h
  · exact h
  · exact ⟨h.1, fun c hc => h.2.1 c (hhead c hc), h.2.2⟩

theorem Spelled.ne_nil {t : Token} {rest : List Char} (h : Spelled t rest) : t.text.toList ≠ [] := by
  obtain ⟨c, word, htext, _⟩ := first?_of_spelled h
  simp [htext]

theorem Lexes.gap {cs gap : List Char} {us : List Terminal} (h : Lexes cs us) (hgap : Gap cs gap) : Lexes (gap ++ cs) us := by
  intro p
  have hskip := hgap.skipTrivia_eq p
  rw [lexFrom_congr hskip]
  exact h (p.after gap)

theorem Lexes.spelled {cs : List Char} {us : List Terminal} {t : Token} (h : Lexes cs us) (ht : Spelled t cs) :
    Lexes (t.text.toList ++ cs) (t.terminal :: us) := by
  intro p
  obtain ⟨ts, hts, hus⟩ := h (p.after t.text.toList)
  have hlex := lexFrom_token .nil ht p
  rw [List.nil_append, List.nil_append, hts] at hlex
  refine ⟨_, hlex, ?_⟩
  rw [Tokens.cons, List.map_cons, hus]
  rfl

theorem Cut.split {before cs rest : List Char} {us vs : List Token} (h : Cut before cs (us ++ vs) rest) :
    ∃ taken m, cs = taken ++ m ∧ Cut before cs us m ∧ Cut (before ++ taken) m vs rest := by
  induction us generalizing before cs with
  | nil => exact ⟨[], cs, rfl, .nil, by rwa [List.append_nil]⟩
  | cons t us ih =>
      cases h with
      | @cons _ gap _ cs _ _ hgap ht hspan h =>
          obtain ⟨taken, m, rfl, hus, hvs⟩ := ih h
          refine ⟨gap ++ (t.text.toList ++ taken), m, by simp, .cons hgap ht hspan hus, ?_⟩
          simpa only [List.append_assoc] using hvs

theorem Cut.run {before cs rest : List Char} {t : Token} {us : List Token} (h : Cut before cs (t :: us) rest) :
    ∃ gap text, cs = gap ++ (text ++ rest) ∧ Gap (text ++ rest) gap ∧ text ≠ [] ∧
      startOf (t :: us) = some (place (before ++ gap)) ∧ stopOf (t :: us) = some (place (before ++ (gap ++ text))) ∧
      Lexes text ((t :: us).map Token.terminal) := by
  induction us generalizing before cs t with
  | nil =>
      cases h with
      | @cons _ gap _ cs _ _ hgap ht hspan h =>
          cases h
          have hlex := Lexes.nil.spelled (ht.congr (by simp))
          rw [List.append_nil] at hlex
          refine ⟨gap, t.text.toList, rfl, hgap, ht.ne_nil, ?_, ?_, hlex⟩
          · simp [startOf, hspan]
          · simp [stopOf, hspan]
  | cons u us ih =>
      cases h with
      | @cons _ gap _ cs _ _ hgap ht hspan h =>
          obtain ⟨gap', text, rfl, hgap', hne, -, hstop, hlex⟩ := ih h
          obtain ⟨c, cs, rfl⟩ := List.exists_cons_of_ne_nil hne
          have ht' : Spelled t (gap' ++ c :: cs) := by
            refine ht.congr fun d hd => ?_
            cases gap' <;> exact hd
          refine ⟨gap, t.text.toList ++ (gap' ++ c :: cs), by simp, by simpa using hgap, by simp, ?_, ?_, ?_⟩
          · simp [startOf, hspan]
          · simpa [stopOf] using hstop
          · exact (hlex.gap (hgap'.congr rfl)).spelled ht'

end Lexer

namespace Span

def Inside (s : Span) (cs : List Char) : Prop :=
  offset cs s.start < offset cs s.stop ∧ offset cs s.stop ≤ cs.length ∧
    s = ⟨place (cs.take (offset cs s.start)), place (cs.take (offset cs s.stop))⟩

def cut (s : Span) (source : String) : String :=
  String.ofList ((source.toList.take (offset source.toList s.stop)).drop (offset source.toList s.start))

theorem offset_ends {cs before text after : List Char} (hcs : cs = before ++ (text ++ after)) :
    offset cs (place before) = before.length ∧ offset cs (place (before ++ text)) = before.length + text.length := by
  constructor
  · rw [hcs, offset_place]
  · rw [hcs, ← List.append_assoc, offset_place, List.length_append]

theorem inside_place {cs before text after : List Char} (hcs : cs = before ++ (text ++ after)) (h : text ≠ []) :
    Inside ⟨place before, place (before ++ text)⟩ cs := by
  obtain ⟨hstart, hstop⟩ := offset_ends hcs
  have hlen := List.length_pos_iff.2 h
  refine ⟨?_, ?_, ?_⟩
  · dsimp only
    omega
  · dsimp only
    rw [hstop, hcs, List.length_append, List.length_append]
    omega
  · dsimp only
    rw [hstart, hstop, hcs, List.take_append_length, List.take_length_add_append, List.take_append_length]

theorem cut_place {source : String} {before text after : List Char} (hsource : source.toList = before ++ (text ++ after)) :
    cut ⟨place before, place (before ++ text)⟩ source = String.ofList text := by
  obtain ⟨hstart, hstop⟩ := offset_ends hsource
  rw [cut, hstart, hstop, hsource, List.take_length_add_append, List.take_append_length, List.drop_append_length]

end Span

structure Ordered (cs : List Char) (ts : List Token) : Prop where
  each : ∀ t ∈ ts, offset cs t.span.start < offset cs t.span.stop
  follow : ts.Pairwise fun t u => offset cs t.span.stop ≤ offset cs u.span.start

namespace Ordered

variable {source : List Char} {us vs : List Token} {p q : Position}

theorem run (h : Ordered source vs) (hus : us <:+: vs) : Ordered source us :=
  ⟨fun t ht => h.each t (hus.subset ht), h.follow.sublist hus.sublist⟩

theorem of_cut {before cs rest : List Char} {ts : List Token} (h : Cut before cs ts rest) (hsource : source = before ++ cs) :
    Ordered source ts ∧ ∀ t ∈ ts, before.length ≤ offset source t.span.start := by
  induction h with
  | nil => exact ⟨⟨by simp, .nil⟩, by simp⟩
  | @cons before gap t cs ts rest hgap ht hspan _ ih =>
      obtain ⟨hts, hbounds⟩ := ih (by rw [hsource]; simp)
      obtain ⟨hstart, hstop⟩ := Span.offset_ends (hsource.trans (List.append_assoc before gap _).symm)
      have hlen := List.length_pos_iff.2 ht.ne_nil
      simp only [List.length_append] at hbounds hstart hstop
      refine ⟨⟨?_, ?_⟩, ?_⟩
      · intro u hu
        rcases List.mem_cons.1 hu with rfl | hu
        · rw [hspan]
          dsimp only
          omega
        · exact hts.each u hu
      · refine .cons (fun u hu => ?_) hts.follow
        have hu := hbounds u hu
        rw [hspan]
        dsimp only
        omega
      · intro u hu
        rcases List.mem_cons.1 hu with rfl | hu
        · rw [hspan]
          dsimp only
          omega
        · have hu := hbounds u hu
          omega

theorem start_le (h : Ordered source vs) (hus : us <:+: vs) (hp : startOf vs = some p) (hq : startOf us = some q) :
    offset source p ≤ offset source q := by
  obtain ⟨t, ht, rfl⟩ := Option.map_eq_some_iff.1 hp
  obtain ⟨u, hu, rfl⟩ := Option.map_eq_some_iff.1 hq
  obtain ⟨ts, rfl⟩ := List.head?_eq_some_iff.1 ht
  rcases List.mem_cons.1 (hus.subset (List.mem_of_head? hu)) with rfl | hmem
  · exact le_rfl
  · exact (h.each t List.mem_cons_self).le.trans (List.rel_of_pairwise_cons h.follow hmem)

theorem stop_le (h : Ordered source vs) (hus : us <:+: vs) (hp : stopOf us = some p) (hq : stopOf vs = some q) :
    offset source p ≤ offset source q := by
  obtain ⟨t, ht, rfl⟩ := Option.map_eq_some_iff.1 hp
  obtain ⟨u, hu, rfl⟩ := Option.map_eq_some_iff.1 hq
  obtain ⟨ts, rfl⟩ := List.getLast?_eq_some_iff.1 hu
  rcases List.mem_append.1 (hus.subset (List.mem_of_getLast? ht)) with hmem | hmem
  · have hfollow := (List.pairwise_append.1 h.follow).2.2 t hmem u (List.mem_singleton.2 rfl)
    exact hfollow.trans (h.each u (by simp)).le
  · rw [List.mem_singleton.1 hmem]

theorem stop_le_start {fs as : List Token} (h : Ordered source (us ++ vs)) (hfs : fs <:+: us) (has : as <:+: vs)
    (hp : stopOf fs = some p) (hq : startOf as = some q) : offset source p ≤ offset source q := by
  obtain ⟨t, ht, rfl⟩ := Option.map_eq_some_iff.1 hp
  obtain ⟨u, hu, rfl⟩ := Option.map_eq_some_iff.1 hq
  have hfollow := (List.pairwise_append.1 h.follow).2.2
  exact hfollow t (hfs.subset (List.mem_of_getLast? ht)) u (has.subset (List.mem_of_head? hu))

end Ordered

namespace SpannedExpr

def children : SpannedExpr → List SpannedExpr
  | var _ _ => []
  | app _ f a => [f, a]
  | abs _ _ b => [b]

/-- Both are abstractions with the same span, and `n` is the body of `m`: they are two parameters of one `fun`. -/
def Shares (m n : SpannedExpr) : Prop := ∃ s x y b, n = .abs s y b ∧ m = .abs s x n

theorem self_mem_nodes (n : SpannedExpr) : n ∈ n.nodes := by
  cases n <;> simp [nodes]

theorem nodes_subset {m n : SpannedExpr} (h : n ∈ m.nodes) : n.nodes ⊆ m.nodes := by
  induction m with
  | var s x =>
      obtain rfl : n = .var s x := by simpa [nodes] using h
      exact List.Subset.refl _
  | app s f a ihf iha =>
      rcases List.mem_cons.1 h with rfl | h
      · exact List.Subset.refl _
      · rcases List.mem_append.1 h with h | h
        · exact fun x hx => List.mem_cons_of_mem _ (List.mem_append_left _ (ihf h hx))
        · exact fun x hx => List.mem_cons_of_mem _ (List.mem_append_right _ (iha h hx))
  | abs s x b ih =>
      rcases List.mem_cons.1 h with rfl | h
      · exact List.Subset.refl _
      · exact fun x hx => List.mem_cons_of_mem _ (ih h hx)

theorem mem_nodes_of_shares {root o n : SpannedExpr} (h : Relation.ReflTransGen Shares o n) (ho : o ∈ root.nodes) :
    n ∈ root.nodes := by
  induction h with
  | refl => exact ho
  | tail _ hshares ih =>
      obtain ⟨s, x, y, b, -, rfl⟩ := hshares
      exact nodes_subset ih (List.mem_cons_of_mem _ (self_mem_nodes _))

theorem size_le_of_shares {o n : SpannedExpr} (h : Relation.ReflTransGen Shares o n) :
    sizeOf n.erase ≤ sizeOf o.erase := by
  induction h with
  | refl => exact le_rfl
  | tail _ hshares ih =>
      obtain ⟨s, x, y, b, -, rfl⟩ := hshares
      simp only [erase, Expr.abs.sizeOf_spec] at ih
      omega

end SpannedExpr

namespace Parser

open SpannedExpr

/-- Where a part stands: the tokens it is read from, and the outermost abstraction of its `fun`. -/
structure Sits (ts : List Token) (root o n : SpannedExpr) (us : List Token) : Prop where
  run : us <:+: ts
  mem : o ∈ root.nodes
  shares : Relation.ReflTransGen Shares o n
  fits : Fits o us n
  outer : Fits o us o

theorem Fits.sits {ts us : List Token} {root o n : SpannedExpr} (h : Fits o us n) (hus : us <:+: ts)
    (ho : o ∈ root.nodes) (hon : Relation.ReflTransGen Shares o n) (houter : Fits o us o) :
    ∀ m ∈ n.nodes, ∃ o' us', Sits ts root o' m us' := by
  induction h with
  | var h =>
      intro m hm
      obtain rfl := List.mem_singleton.1 hm
      exact ⟨_, _, hus, ho, hon, .var h, houter⟩
  | @app o s f a vs ws fs as h hfs hf has ha ihf iha =>
      intro m hm
      have hn := nodes_subset (mem_nodes_of_shares hon ho)
      rcases List.mem_cons.1 hm with rfl | hm
      · exact ⟨_, _, hus, ho, hon, .app h hfs hf has ha, houter⟩
      · rcases List.mem_append.1 hm with hm | hm
        · have hfs' := hfs.trans (List.prefix_append vs ws).isInfix
          exact ihf (hfs'.trans hus) (hn (by simp [nodes, self_mem_nodes])) .refl hf m hm
        · have has' := has.trans (List.suffix_append vs ws).isInfix
          exact iha (has'.trans hus) (hn (by simp [nodes, self_mem_nodes])) .refl ha m hm
  | abs h hbs hb ih =>
      intro m hm
      rcases List.mem_cons.1 hm with rfl | hm
      · exact ⟨_, _, hus, ho, hon, .abs h hbs hb, houter⟩
      · have hn := nodes_subset (mem_nodes_of_shares hon ho)
        exact ih (hbs.trans hus) (hn (by simp [nodes, self_mem_nodes])) .refl hb m hm
  | parameter h hb ih =>
      intro m hm
      rcases List.mem_cons.1 hm with rfl | hm
      · exact ⟨_, _, hus, ho, hon, .parameter h hb, houter⟩
      · exact ih hus ho (hon.tail ⟨_, _, _, _, rfl, rfl⟩) houter m hm

theorem Spells.source {source : String} {ts us : List Token} {rest : List Char} {s : Span} {e : Expr}
    (h : Spells us s e) (hcut : Cut [] source.toList ts rest) (hus : us <:+: ts) :
    s.Inside source.toList ∧ ∀ file, Expr.parse file (s.cut source) = .ok e := by
  obtain ⟨l, r, rfl⟩ := hus
  obtain ⟨-, m, -, hleft, -⟩ := hcut.split
  obtain ⟨taken, m', hsource, -, hrun⟩ := hleft.split
  cases us with
  | nil => cases h.start
  | cons t us =>
      obtain ⟨gap, text, rfl, -, hne, hstart, hstop, hlex⟩ := hrun.run
      obtain rfl : s = ⟨place (taken ++ gap), place (taken ++ gap ++ text)⟩ := by
        obtain ⟨start, stop⟩ := s
        rw [h.start, Option.some.injEq] at hstart
        rw [h.stop, Option.some.injEq] at hstop
        simp_all
      rw [← List.append_assoc] at hsource
      refine ⟨Span.inside_place hsource hne, fun file => ?_⟩
      rw [Span.cut_place hsource]
      exact Expr.parse_of_lexes (by rwa [String.toList_ofList]) h.leads file

theorem Fits.within {cs : List Char} {us vs : List Token} {o o' n m : SpannedExpr} (h : Fits o us n) (h' : Fits o' vs m)
    (hordered : Ordered cs us) (hvs : vs <:+: us) :
    offset cs n.span.start ≤ offset cs m.span.start ∧ offset cs m.span.stop ≤ offset cs n.span.stop :=
  ⟨hordered.start_le hvs h.spells.start h'.spells.start, hordered.stop_le hvs h'.spells.stop h.spells.stop⟩

theorem Fits.children_within {cs : List Char} {us : List Token} {o n : SpannedExpr} (h : Fits o us n)
    (hordered : Ordered cs us) :
    ∀ m ∈ n.children, offset cs n.span.start ≤ offset cs m.span.start ∧ offset cs m.span.stop ≤ offset cs n.span.stop := by
  intro m hm
  have h' := h
  cases h with
  | var => simp [children] at hm
  | @app _ _ f a vs ws _ _ _ hfs hf has ha =>
      have hmem : m = f ∨ m = a := by simpa [children] using hm
      rcases hmem with rfl | rfl
      · exact h'.within hf hordered (hfs.trans (List.prefix_append vs ws).isInfix)
      · exact h'.within ha hordered (has.trans (List.suffix_append vs ws).isInfix)
  | abs _ hbs hb =>
      obtain rfl := List.mem_singleton.1 hm
      exact h'.within hb hordered hbs
  | parameter _ hb =>
      obtain rfl := List.mem_singleton.1 hm
      exact h'.within hb hordered List.infix_rfl

theorem Fits.function_before_argument {cs : List Char} {us : List Token} {s : Span} {o f a : SpannedExpr}
    (h : Fits o us (.app s f a)) (hordered : Ordered cs us) : offset cs f.span.stop ≤ offset cs a.span.start := by
  cases h with
  | app _ hfs hf has ha => exact hordered.stop_le_start hfs has hf.spells.stop ha.spells.start

/-- No abstraction has the span of the outermost one as its body: the same text would be read in two ways. -/
theorem Sits.outermost {source : String} {ts us vs : List Token} {rest : List Char} {root o o' n m : SpannedExpr}
    (h : Sits ts root o n us) (h' : Sits ts root o' m vs) (hcut : Cut [] source.toList ts rest) : ¬ Shares m o := by
  rintro ⟨s, x, y, b, rfl, rfl⟩
  have hparse := (h.outer.spells.source hcut h.run).2 ""
  have hparse' := (h'.fits.spells.source hcut h'.run).2 ""
  have herase : o'.erase = (SpannedExpr.abs s y b).erase := Except.ok.inj (hparse'.symm.trans hparse)
  have hsize := size_le_of_shares h'.shares
  rw [herase] at hsize
  simp only [erase, Expr.abs.sizeOf_spec] at hsize
  omega

theorem exists_cut_of_parse {file source : String} {root : SpannedExpr} (h : SpannedExpr.parse file source = .ok root) :
    ∃ ts gap, Cut [] source.toList ts gap ∧ Encloses ts root := by
  rw [SpannedExpr.parse] at h
  cases hts : tokenize file source with
  | error e =>
      rw [hts] at h
      cases h
  | ok ts =>
      rw [hts] at h
      cases hroot : parseTokens ts with
      | error e => simp [bind, Except.bind, hroot, Except.mapError] at h
      | ok e =>
          obtain rfl : e = root := by simpa [bind, Except.bind, hroot, Except.mapError] using h
          obtain ⟨gap, hcut, -⟩ := cut_of_tokenize hts
          exact ⟨ts.tokens, gap, hcut, encloses_of_parseTokens hroot⟩

/-- Spans are true to the source. Every part of a tree has the span of one or more characters of the source, inside the
span of the part around it and, for an argument, behind its function. Reading only these characters gives the part
again; but the further parameters of a `fun` share the span of its outermost abstraction, which is what is read. -/
theorem parse_spans {file source : String} {root : SpannedExpr} (h : SpannedExpr.parse file source = .ok root) :
    ∀ n ∈ root.nodes,
      n.span.Inside source.toList ∧
      (∀ m ∈ n.children, offset source.toList n.span.start ≤ offset source.toList m.span.start ∧
        offset source.toList m.span.stop ≤ offset source.toList n.span.stop) ∧
      (∀ s f a, n = .app s f a → offset source.toList f.span.stop ≤ offset source.toList a.span.start) ∧
      ∃ o ∈ root.nodes, Relation.ReflTransGen Shares o n ∧ (∀ m ∈ root.nodes, ¬ Shares m o) ∧
        ((∀ m ∈ root.nodes, ¬ Shares m n) → o = n) ∧ Expr.parse file (n.span.cut source) = .ok o.erase := by
  intro n hn
  obtain ⟨ts, gap, hcut, us, hus, hroot⟩ := exists_cut_of_parse h
  have hsits := hroot.sits hus root.self_mem_nodes .refl hroot
  obtain ⟨o, vs, hsit⟩ := hsits n hn
  have hordered := (Ordered.of_cut hcut rfl).1.run hsit.run
  obtain ⟨hinside, hparse⟩ := hsit.fits.spells.source hcut hsit.run
  refine ⟨hinside, hsit.fits.children_within hordered, ?_, o, hsit.mem, hsit.shares, ?_, ?_, hparse file⟩
  · rintro s f a rfl
    exact hsit.fits.function_before_argument hordered
  · intro m hm
    obtain ⟨o', ws, hsit'⟩ := hsits m hm
    exact hsit.outermost hsit' hcut
  · intro hnone
    rcases hsit.shares.cases_tail with heq | ⟨m, hm, hshares⟩
    · exact heq.symm
    · exact absurd hshares (hnone m (mem_nodes_of_shares hm hsit.mem))

theorem parse_spans_parameter :
    let source := "f # one\n (fun x y => x)\n z"
    let s : Span := ⟨⟨2, 3⟩, ⟨2, 15⟩⟩
    let n : SpannedExpr := .abs s "y" (.var ⟨⟨2, 14⟩, ⟨2, 15⟩⟩ "x")
    let root : SpannedExpr :=
      .app ⟨⟨1, 1⟩, ⟨3, 3⟩⟩ (.app ⟨⟨1, 1⟩, ⟨2, 16⟩⟩ (.var ⟨⟨1, 1⟩, ⟨1, 2⟩⟩ "f") (.abs s "x" n)) (.var ⟨⟨3, 2⟩, ⟨3, 3⟩⟩ "z")
    SpannedExpr.parse "<expr>" source = .ok root ∧ n ∈ root.nodes ∧ s.cut source = "fun x y => x" ∧
      n.span.Inside source.toList ∧
      ∃ o ∈ root.nodes, Relation.ReflTransGen Shares o n ∧ (∀ m ∈ root.nodes, ¬ Shares m o) ∧
        Expr.parse "<expr>" (n.span.cut source) = .ok o.erase := by
  intro source s n root
  have hparse : SpannedExpr.parse "<expr>" source = .ok root := by decide +kernel
  have hn : n ∈ root.nodes := by simp [root, nodes, self_mem_nodes]
  obtain ⟨hinside, -, -, o, ho, hshares, houter, -, hread⟩ := parse_spans hparse n hn
  exact ⟨hparse, hn, by decide +kernel, hinside, o, ho, hshares, houter, hread⟩

end Parser

end Monotype
