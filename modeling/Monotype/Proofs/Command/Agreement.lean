import Monotype.Proofs.Command.Writing
import Monotype.Proofs.Inference.Failures

namespace Monotype

theorem Ty.Spellable.over {t : Ty} (h : t.Spellable) : t.Over IsName := by
  induction h with
  | con hf _ ih => exact .con hf ih

theorem Scope.Spellable.over_resolved {base : Scope} (hbase : base.Spellable) {e : Expr} {res : Inferred}
    {after : Session} (h : e.inferIn base = .ok res after) : res.resolved.Over Ty.IsName := by
  have hrest : Ty.isNameChar 'u' = true ∧ Ty.isNameChar 'n' = true := by decide +kernel
  have hfn : Ty.IsName "Fun" := ⟨'F', ['u', 'n'], by decide, by decide +kernel, by simp [hrest]⟩
  refine Expr.over_of_inferIn hbase.ground hfn (fun x t hx => ?_) h
  obtain ⟨y, hy⟩ := Entries.mem_of_get? hx
  exact (hbase _ hy).over

theorem Expr.read_cases (limits : Limits) (source : String) :
    (∃ e, ∀ file, Expr.read limits file source = .ok e ∧ Expr.parse file source = .ok e) ∨
      (∀ file, Expr.read limits file source = .error .tooDeep) ∨
        ∃ p fault, ∀ file, Expr.read limits file source = .error (.fault ⟨file, p, fault⟩) := by
  cases hlex : Lexer.lexFrom .origin source.toList with
  | error fault =>
      obtain ⟨p, fault⟩ := fault
      exact .inr (.inr ⟨p, fault, fun file => by simp [Expr.read, Lexer.tokenize, hlex, Except.mapError]⟩)
  | ok ts =>
      have htokens (file : String) : Lexer.tokenize file source = .ok ts := by
        simp [Lexer.tokenize, hlex, Except.mapError]
      by_cases hdeep : limits.groups < Parser.deepest .initial ts.tokens
      · exact .inr (.inl fun file => by simp [Expr.read, htokens, hdeep])
      cases hparse : Parser.parseTokens ts with
      | error fault =>
          obtain ⟨p, fault⟩ := fault
          exact .inr (.inr ⟨p, fault, fun file => by simp [Expr.read, htokens, hdeep, hparse]⟩)
      | ok t =>
          by_cases hnested : limits.tree < t.erase.nesting
          · exact .inr (.inl fun file => by simp [Expr.read, htokens, hdeep, hparse, hnested])
          · refine .inl ⟨t.erase, fun file => ⟨by simp [Expr.read, htokens, hdeep, hparse, hnested], ?_⟩⟩
            exact parse_ok_iff.2 ⟨ts, t, hlex, hparse, rfl⟩

/-- The same report on a text with the title `<expr>` and on one with the title `<repl>`; a report without a title
stays as it is. -/
inductive Retitled : String → String → Prop
  | fault (rest : String) : Retitled ("<expr>:" ++ rest) ("<repl>:" ++ rest)
  | other {report : String} (h : ∀ rest, report ≠ "<expr>:" ++ rest ∧ report ≠ "<repl>:" ++ rest) :
      Retitled report report

theorem Retitled.eq_iff {m m' n n' : String} (hm : Retitled m m') (hn : Retitled n n') : m = n ↔ m' = n' := by
  cases hm with
  | fault rest =>
      cases hn with
      | fault rest' => simp
      | other h => exact ⟨fun he => absurd he.symm (h rest).1, fun he => absurd he.symm (h rest).2⟩
  | other h =>
      cases hn with
      | fault rest => exact ⟨fun he => absurd he (h rest).1, fun he => absurd he (h rest).2⟩
      | other _ => exact Iff.rfl

theorem retitled_fault (p : Position) (fault : SyntaxFault) :
    Retitled (SyntaxError.message ⟨"<expr>", p, fault⟩) (SyntaxError.message ⟨"<repl>", p, fault⟩) := by
  have htitle (file : String) : SyntaxError.message ⟨file, p, fault⟩ =
      (file ++ ":") ++ (toString p.line ++ ":" ++ toString p.column ++ ": SyntaxError: " ++ fault.detail) := by
    simp only [SyntaxError.message, String.append_assoc]
    rfl
  rw [htitle, htitle]
  exact .fault _

theorem retitled_of_head {report : String} {c : Char} (h : report.toList.head? = some c) (hc : c ≠ '<') :
    Retitled report report := by
  refine .other fun tail => ⟨?_, ?_⟩
  all_goals
    rintro rfl
    rw [String.toList_append] at h
    exact hc (Option.some.inj h).symm

theorem head?_append {start : String} {c : Char} (h : start.toList.head? = some c) (rest : String) :
    (start ++ rest).toList.head? = some c := by
  rw [String.toList_append, List.head?_append, h, Option.some_or]

theorem retitled_infer {err : InferError} (h : err.Documented) : Retitled err.message err.message := by
  cases err with
  | unbound name =>
      simp only [InferError.message.eq_def, String.append_assoc]
      exact retitled_of_head (c := 'U') (head?_append (by decide +kernel) _) (by decide)
  | untyped c => exact False.elim h
  | scope e => exact False.elim h
  | unify err =>
      change Retitled err.message err.message
      cases err with
      | mismatch f as g bs =>
          simp only [UnifyError.message.eq_def, String.append_assoc]
          exact retitled_of_head (c := 'T') (head?_append (by decide +kernel) _) (by decide)
      | infinite i t =>
          simp only [UnifyError.message.eq_def, String.append_assoc]
          exact retitled_of_head (c := 'I') (head?_append (by decide +kernel) _) (by decide)
      | store e => exact False.elim h

theorem retitled_tooDeep : Retitled ReadError.tooDeep.message ReadError.tooDeep.message :=
  retitled_of_head (c := 'e') (by decide +kernel) (by decide)

namespace Repl

def reply (limits : Limits) (s : Settings) (line : List Char) : String := (run s "" [line] limits).output

def Quits (line : List Char) : Prop := String.ofList (Text.stripChars line) ∈ [":quit", ":q"]

instance (line : List Char) : Decidable (Quits line) := inferInstanceAs (Decidable (_ ∈ _))

theorem ofLine_eq (line : List Char) :
    Request.ofLine line =
      let text := String.ofList (Text.stripChars line)
      if text = "" then .nothing else if text = ":quit" ∨ text = ":q" then .quit else if text = ":env" then .listing
      else .typeOf text := by
  rw [Request.ofLine]
  split
  · next h => simp [h]
  · next h =>
    have hne : String.ofList (Text.stripChars line) ≠ "" := by simpa using h
    simp [hne]

theorem answer?_eq_none_iff {limits : Limits} {s : Settings} {line : List Char} :
    answer? limits s (.ofLine line) = none ↔ Quits line := by
  rw [ofLine_eq, Quits]
  generalize String.ofList (Text.stripChars line) = text
  dsimp only
  split_ifs with hnothing hquit henv
  · simp [answer?, hnothing]
  · simp [answer?, hquit]
  · simp [answer?, henv]
  · simp [answer?, hquit]

theorem reply_eq {limits : Limits} {s : Settings} {line : List Char} {a : Answer}
    (h : answer? limits s (.ofLine line) = some a) : reply limits s line = a.output := by
  simp [reply, run, h]

theorem output_run (limits : Limits) (s : Settings) (lines : List (List Char)) :
    (run s "" lines limits).output = String.join ((lines.takeWhile fun line => ¬ Quits line).map (reply limits s)) := by
  induction lines with
  | nil => rfl
  | cons line lines ih =>
      cases h : answer? limits s (.ofLine line) with
      | none => simp [run, h, answer?_eq_none_iff.1 h]
      | some a =>
          have hgoes : ¬ Quits line := fun hq => by
            rw [answer?_eq_none_iff.2 hq] at h
            cases h
          simp [run, h, ih, hgoes, reply_eq h]

theorem reply_typeOf (limits : Limits) (s : Settings) {line : List Char} {text : String}
    (htext : text = String.ofList (Text.stripChars line)) (h : text ∉ ["", ":quit", ":q", ":env"]) :
    reply limits s line = (typeOf limits s text).output := by
  simp only [List.mem_cons, List.not_mem_nil, or_false, not_or] at h
  refine reply_eq ?_
  rw [ofLine_eq, ← htext]
  simp [answer?, h]

section

variable {limits : Limits} {s : Settings} {text : String} {e : Expr}

theorem typeOf_unread {err : ReadError} (h : Expr.read limits "<repl>" text = .error err) :
    (typeOf limits s text).output = "error: " ++ err.message ++ "\n" := by
  rw [typeOf, h]

theorem typeOf_untyped (h : Expr.read limits "<repl>" text = .ok e) {err : InferError} {after : Session}
    (herr : e.inferIn s.prelude = .error err after) :
    (typeOf limits s text).output = "error: " ++ err.message ++ "\n" := by
  simp only [typeOf, h, herr]

theorem typeOf_typed (h : Expr.read limits "<repl>" text = .ok e) {res : Inferred} {after : Session}
    (hres : e.inferIn s.prelude = .ok res after) : (typeOf limits s text).output = s.showTy res.resolved ++ "\n" := by
  simp only [typeOf, h, hres]

end

end Repl

namespace Command

theorem checkDepth_of_le {limit depth : Nat} (h : depth ≤ limit) (r : Report) :
    checkDepth limit depth r = .ok () r := by
  rw [checkDepth, if_neg (Nat.not_lt.2 h)]
  rfl

theorem checkDepth_of_lt {limit depth : Nat} (h : limit < depth) (r : Report) :
    checkDepth limit depth r = .error (.read .tooDeep) r := by
  rw [checkDepth, if_pos h]
  rfl

def conclude (w : World) (s : Settings) (e : Expr) (res : Inferred) : CommandM Unit := do
  if s.display.showConstraints then writeConstraints res
  checkDepth w.limits.text e.depth
  writeLine (e.render ++ " : " ++ s.showTy res.resolved)

theorem conclude_eq (w : World) (s : Settings) (e : Expr) (res : Inferred) :
    ∃ before : String, Text.Whole before.toList ∧ ∀ r, conclude w s e res r =
      (do checkDepth w.limits.text e.depth; writeLine (e.render ++ " : " ++ s.showTy res.resolved) : CommandM Unit)
        { r with stdout := r.stdout ++ before } := by
  unfold conclude
  split
  · obtain ⟨before, hbefore, hwrites⟩ := WritesLines.writeConstraints res
    exact ⟨before, hbefore, fun r => bind_of_ok (hwrites r)⟩
  · refine ⟨"", .inl rfl, fun r => ?_⟩
    rw [String.append_empty]

theorem conclude_of_le {w : World} {e : Expr} (h : e.depth ≤ w.limits.text) (s : Settings) (res : Inferred) :
    ∃ before : String, Text.Whole before.toList ∧ ∀ r, conclude w s e res r =
      .ok () { r with stdout := r.stdout ++ (before ++ (e.render ++ " : " ++ s.showTy res.resolved ++ "\n")) } := by
  obtain ⟨before, hbefore, heq⟩ := conclude_eq w s e res
  refine ⟨before, hbefore, fun r => (heq r).trans ((bind_of_ok (checkDepth_of_le h _)).trans ?_)⟩
  rw [← String.append_assoc]
  rfl

theorem conclude_of_lt {w : World} {e : Expr} (h : w.limits.text < e.depth) (s : Settings) (res : Inferred)
    (r : Report) : ∃ r', conclude w s e res r = .error (.read .tooDeep) r' := by
  obtain ⟨before, -, heq⟩ := conclude_eq w s e res
  exact ⟨_, (heq r).trans (bind_of_error (checkDepth_of_lt h _))⟩

section

variable {w : World} {s : Settings} {text : String} {e : Expr}

theorem infer_unread {err : ReadError} (h : Expr.read w.limits "<expr>" text = .error err) (r : Report) :
    infer w s { expression := some text } r = .error (.read err) r := by
  have hsource : source w.files { expression := some text } r = .ok ("<expr>", text) r := rfl
  have hread : (orFail Failure.read (Expr.read w.limits "<expr>" text) : CommandM Expr) r = .error (.read err) r := by
    rw [h]
    rfl
  exact (bind_of_ok hsource).trans (bind_of_error hread)

theorem infer_read (h : Expr.read w.limits "<expr>" text = .ok e) (r : Report) :
    infer w s { expression := some text } r =
      (inferred e s.prelude >>= conclude w s e) { r with log := r.log ++ [.ofEvent (.parsed e)] } := by
  have hsource : source w.files { expression := some text } r = .ok ("<expr>", text) r := rfl
  have hread : (orFail Failure.read (Expr.read w.limits "<expr>" text) : CommandM Expr) r = .ok e r := by
    rw [h]
    rfl
  have htell : tell [.ofEvent (.parsed e)] r = .ok () { r with log := r.log ++ [.ofEvent (.parsed e)] } := rfl
  refine (bind_of_ok hsource).trans ((bind_of_ok hread).trans ((bind_of_ok htell).trans ?_))
  unfold conclude Settings.showTy
  simp

theorem finishRun_error {act : CommandM Unit} {f : Failure} {r : Report} (h : act {} = .error f r) (n : Int) :
    (finishRun n act).failure = some f ∧ (finishRun n act).stdout = r.stdout := by
  simp only [finishRun, h, and_self]

theorem finishRun_ok {act : CommandM Unit} {r : Report} (h : act {} = .ok () r) (n : Int) :
    (finishRun n act).failure = none ∧ (finishRun n act).stdout = r.stdout := by
  simp only [finishRun, h, and_self]

def Outcome.lastLine? (o : Outcome) : Option (List Char) := (Text.lines o.stdout.toList).getLast?

theorem failure_unread {err : ReadError} (h : Expr.read w.limits "<expr>" text = .error err) (n : Int) :
    (finishRun n (infer w s { expression := some text })).failure = some (.read err) :=
  (finishRun_error (infer_unread h {}) n).1

theorem failure_untyped (h : Expr.read w.limits "<expr>" text = .ok e) {err : InferError} {after : Session}
    (herr : e.inferIn s.prelude = .error err after) (n : Int) :
    (finishRun n (infer w s { expression := some text })).failure = some (.infer err) := by
  have hinferred (r : Report) : ∃ r', inferred e s.prelude r = .error (.infer err) r' := by
    rw [inferred, herr]
    exact ⟨_, rfl⟩
  obtain ⟨r, hr⟩ := hinferred _
  exact (finishRun_error ((infer_read h {}).trans (bind_of_error hr)) n).1

theorem inferred_ok {res : Inferred} {after : Session} (hres : e.inferIn s.prelude = .ok res after) (r : Report) :
    ∃ r', inferred e s.prelude r = .ok res r' ∧ r'.stdout = r.stdout := by
  rw [inferred, hres]
  exact ⟨_, rfl, rfl⟩

theorem failure_unwritten (h : Expr.read w.limits "<expr>" text = .ok e) {res : Inferred} {after : Session}
    (hres : e.inferIn s.prelude = .ok res after) (hdepth : w.limits.text < e.depth) (n : Int) :
    (finishRun n (infer w s { expression := some text })).failure = some (.read .tooDeep) := by
  obtain ⟨r, hr, -⟩ := inferred_ok hres { log := [] ++ [.ofEvent (.parsed e)] }
  obtain ⟨r', hr'⟩ := conclude_of_lt hdepth s res r
  exact (finishRun_error ((infer_read h {}).trans ((bind_of_ok hr).trans hr')) n).1

theorem lastLine?_typed (h : Expr.read w.limits "<expr>" text = .ok e) (he : e.Named) {res : Inferred} {after : Session}
    (hres : e.inferIn s.prelude = .ok res after) (htype : res.resolved.Over Ty.IsName)
    (hdepth : e.depth ≤ w.limits.text) (n : Int) :
    (finishRun n (infer w s { expression := some text })).failure = none ∧
      (finishRun n (infer w s { expression := some text })).lastLine? =
        some (e.render ++ " : " ++ s.showTy res.resolved ++ "\n").toList := by
  obtain ⟨r, hr, hstdout⟩ := inferred_ok hres { log := [] ++ [.ofEvent (.parsed e)] }
  obtain ⟨before, hbefore, hconclude⟩ := conclude_of_le hdepth s res
  obtain ⟨hfailure, hout⟩ := finishRun_ok ((infer_read h {}).trans ((bind_of_ok hr).trans (hconclude r))) n
  refine ⟨hfailure, ?_⟩
  have hline : '\n' ∉ (e.render ++ " : " ++ s.showTy res.resolved).toList := by
    have hshow := s.not_mem_showTy htype (.inl rfl)
    simp [Expr.render, Expr.not_mem_renderAt he, hshow]
  rw [Outcome.lastLine?, hout, hstdout]
  simpa using Text.getLast?_lines hbefore hline

end

/-- The run succeeds, and its last line gives the type of the text. -/
def Outcome.Tells (o : Outcome) (text type : String) : Prop :=
  o.exit = 0 ∧ ∃ e, Expr.parse "<expr>" text = .ok e ∧
    o.lastLine? = some (e.render ++ " : " ++ type ++ "\n").toList

def Outcome.Reports (o : Outcome) (report : String) : Prop :=
  o.exit = 1 ∧ o.stderr = "[tyinfer] error: " ++ report ++ "\n"

/-- The failures that a text has of its own. -/
def Failure.Expected : Failure → Prop
  | .read _ => True
  | .infer err => err.Documented
  | _ => False

theorem Failure.Expected.report_eq {f : Failure} (h : f.Expected) : f.isFatal = false ∧ f.report = f.message := by
  cases f with
  | read err => cases err <;> exact ⟨rfl, rfl⟩
  | infer err => exact ⟨rfl, rfl⟩
  | level | override | load | text | noExpression => exact False.elim h

namespace Outcome

variable {o : Outcome}

theorem not_reports (h : o.failure = none) (report : String) : ¬ o.Reports report := by
  rintro ⟨hexit, _⟩
  rw [exit, h] at hexit
  cases hexit

theorem exit_of_failure {f : Failure} (h : o.failure = some f) : o.exit = 1 := by
  rw [exit, h]
  rfl

theorem not_tells {f : Failure} (h : o.failure = some f) (text type : String) : ¬ o.Tells text type := by
  rintro ⟨hexit, _⟩
  cases (exit_of_failure h).symm.trans hexit

theorem tells_iff (h : o.failure = none) {text type : String} {e : Expr} (he : Expr.parse "<expr>" text = .ok e)
    (hline : o.lastLine? = some (e.render ++ " : " ++ type ++ "\n").toList) (type' : String) :
    o.Tells text type' ↔ type' = type := by
  constructor
  · rintro ⟨_, e', he', hline'⟩
    obtain rfl : e = e' := Except.ok.inj (he.symm.trans he')
    have hsame := String.toList_inj.1 (Option.some.inj (hline'.symm.trans hline))
    rwa [String.append_left_inj, String.append_right_inj] at hsame
  · rintro rfl
    exact ⟨by rw [exit, h]; rfl, e, he, hline⟩

theorem reports_of_failure {f : Failure} (h : o.failure = some f) (hfatal : f.isFatal = false) :
    o.Reports f.report := by
  refine ⟨exit_of_failure h, ?_⟩
  rw [stderr, h]
  exact if_neg (Bool.eq_false_iff.1 hfatal)

theorem reports_iff {f : Failure} (h : o.failure = some f) (hf : f.Expected) (report : String) :
    o.Reports report ↔ report = f.message := by
  obtain ⟨hfatal, hmessage⟩ := hf.report_eq
  have hreports := reports_of_failure h hfatal
  rw [hmessage] at hreports
  rw [Reports, and_iff_right hreports.1, hreports.2, String.append_left_inj, String.append_right_inj, eq_comm]

end Outcome

end Command

/-- A text is not one of an expression that nests too deep to be written. -/
def Limits.Writes (limits : Limits) (text : String) : Prop :=
  ∀ e, Expr.parse "<expr>" text = .ok e → e.depth ≤ limits.text

namespace Repl

variable {limits : Limits} {s : Settings} {line : List Char}

def Tells (limits : Limits) (s : Settings) (line : List Char) (type : String) : Prop :=
  reply limits s line = type ++ "\n" ∧ ∀ report, type ≠ "error: " ++ report

def Reports (limits : Limits) (s : Settings) (line : List Char) (report : String) : Prop :=
  reply limits s line = "error: " ++ report ++ "\n"

/-- Both ways to ask for the type of a text end alike, with one type or with one report, but only one of them has to
write the expression. -/
theorem verdict (hs : s.prelude.Spellable) {text : String} (htext : text = String.ofList (Text.stripChars line))
    (h : text ∉ ["", ":quit", ":q", ":env"]) (w : Command.World) (n : Int) :
    let o := Command.finishRun n (Command.infer w s { expression := some text })
    (∃ e type, Expr.parse "<expr>" text = .ok e ∧ ':' ∉ type.toList ∧ reply w.limits s line = type ++ "\n" ∧
        (e.depth ≤ w.limits.text ∧ o.failure = none ∧
            o.lastLine? = some (e.render ++ " : " ++ type ++ "\n").toList ∨
          w.limits.text < e.depth ∧ o.failure = some (.read .tooDeep))) ∨
      ∃ f report, Retitled f.message report ∧ f.Expected ∧ o.failure = some f ∧
        reply w.limits s line = "error: " ++ report ++ "\n" := by
  intro o
  rw [reply_typeOf w.limits s htext h]
  have hunread {err err' : ReadError} (herr : Expr.read w.limits "<expr>" text = .error err)
      (herr' : Expr.read w.limits "<repl>" text = .error err') (hmessage : Retitled err.message err'.message) :
      ∃ f report, Retitled f.message report ∧ f.Expected ∧ o.failure = some f ∧
        (typeOf w.limits s text).output = "error: " ++ report ++ "\n" :=
    ⟨.read err, err'.message, hmessage, trivial, Command.failure_unread herr n, typeOf_unread herr'⟩
  rcases Expr.read_cases w.limits text with ⟨e, he⟩ | hdeep | ⟨p, fault, hfault⟩
  · have hnamed := Expr.named_of_parse (he "<expr>").2
    cases hres : e.inferIn s.prelude with
    | ok res after =>
        have htype := hs.over_resolved hres
        refine .inl ⟨e, s.showTy res.resolved, (he "<expr>").2, s.not_mem_showTy htype (.inr rfl),
          typeOf_typed (he "<repl>").1 hres, ?_⟩
        rcases Nat.lt_or_ge w.limits.text e.depth with hlt | hle
        · exact .inr ⟨hlt, Command.failure_unwritten (he "<expr>").1 hres hlt n⟩
        · exact .inl ⟨hle, Command.lastLine?_typed (he "<expr>").1 hnamed hres htype hle n⟩
    | error err after =>
        have herr := Expr.documented_of_inferIn hnamed hs.ground hres
        exact .inr ⟨.infer err, err.message, retitled_infer herr, herr,
          Command.failure_untyped (he "<expr>").1 hres n, typeOf_untyped (he "<repl>").1 hres⟩
  · exact .inr (hunread (hdeep "<expr>") (hdeep "<repl>") retitled_tooDeep)
  · exact .inr (hunread (hfault "<expr>") (hfault "<repl>") (retitled_fault p fault))

theorem Tells.not_reports {type report : String} (h : Tells limits s line type) : ¬ Reports limits s line report := by
  intro hreport
  have htype : type ++ "\n" = "error: " ++ report ++ "\n" := h.1.symm.trans hreport
  rw [String.append_left_inj] at htype
  exact h.2 report htype

theorem Tells.iff {type : String} (h : Tells limits s line type) (type' : String) :
    Tells limits s line type' ↔ type' = type := by
  refine ⟨fun h' => ?_, fun he => he ▸ h⟩
  rw [← String.append_left_inj, ← h.1, ← h'.1]

theorem Reports.iff {report : String} (h : Reports limits s line report) (report' : String) :
    Reports limits s line report' ↔ report' = report := by
  unfold Reports at *
  rw [h, String.append_left_inj, String.append_right_inj, eq_comm]

/-- A session answers line after line until one quits, and every answer depends on its own line alone. A line that asks
for a type gets the type that the command writes for the text of the line, or the report with which the command fails,
and the command fails for no other reason than a session tells, but that it cannot write an expression that nests too
deep, of which a session has no need. -/
theorem agrees_with_infer {data : Settings.Entries} {s₀ s : Settings} {os : List Settings.Entries}
    (h₀ : Settings.ofEntries data = .ok s₀) (h : os.foldlM Settings.merge s₀ = .ok s) (w : Command.World) :
    (∀ lines, (run s "" lines w.limits).output =
      String.join ((lines.takeWhile fun line => ¬ Quits line).map (reply w.limits s))) ∧
      ∀ line text, text = String.ofList (Text.stripChars line) → text ∉ ["", ":quit", ":q", ":env"] → ∀ n,
        let o := Command.finishRun n (Command.infer w s { expression := some text })
        (∀ type, o.Tells text type ↔ Tells w.limits s line type ∧ w.limits.Writes text) ∧
          (∀ report report', Retitled report report' → (o.Reports report ↔ Reports w.limits s line report' ∨
            (∃ type, Tells w.limits s line type) ∧ ¬ w.limits.Writes text ∧ report = ReadError.tooDeep.message)) ∧
          ((∃ type, Tells w.limits s line type) ∨
            ∃ report report', Retitled report report' ∧ Reports w.limits s line report') ∧
          ∀ f, o.failure = some f → f.Expected := by
  have hs : s.prelude.Spellable :=
    Settings.of_merges (P := fun s => s.prelude.Spellable) (fun _ _ => Settings.spellable_of_ofEntries)
      (Settings.spellable_of_ofEntries h₀) h
  refine ⟨output_run w.limits s, fun line text htext hne n => ?_⟩
  rcases verdict hs htext hne w n with ⟨e, type, he, hcolon, hreply, hends⟩ | ⟨f, told, htold, hf, hfailure, hreply⟩
  · have htells : Tells w.limits s line type := by
      refine ⟨hreply, fun report hreport => hcolon ?_⟩
      simp [hreport]
    have hwrites : w.limits.Writes text ↔ e.depth ≤ w.limits.text := by simp [Limits.Writes, he]
    rcases hends with ⟨hdepth, hfailure, hline⟩ | ⟨hdepth, hfailure⟩
    · refine ⟨fun type' => ?_, fun report report' _ => ?_, .inl ⟨type, htells⟩, fun f hf => ?_⟩
      · rw [Command.Outcome.tells_iff hfailure he hline, htells.iff, and_iff_left (hwrites.2 hdepth)]
      · refine iff_of_false (Command.Outcome.not_reports hfailure report) ?_
        rintro (hreports | ⟨-, hunwritten, -⟩)
        · exact htells.not_reports hreports
        · exact hunwritten (hwrites.2 hdepth)
      · rw [hfailure] at hf
        cases hf
    · have hunwritten : ¬ w.limits.Writes text := fun hwritten => absurd (hwrites.1 hwritten) (Nat.not_le.2 hdepth)
      refine ⟨fun type' => ?_, fun report report' _ => ?_, .inl ⟨type, htells⟩, fun f hf => ?_⟩
      · exact iff_of_false (Command.Outcome.not_tells hfailure text type') fun h => hunwritten h.2
      · rw [Command.Outcome.reports_iff hfailure trivial, or_iff_right htells.not_reports,
          and_iff_right ⟨type, htells⟩, and_iff_right hunwritten]
        rfl
      · rw [hfailure] at hf
        cases hf
        trivial
  · have hreports : Reports w.limits s line told := hreply
    have hmute : ¬ ∃ type, Tells w.limits s line type := fun ⟨type, htells⟩ => htells.not_reports hreports
    refine ⟨fun type => ?_, fun report report' hreport => ?_, .inr ⟨_, _, htold, hreports⟩, fun f' hf' => ?_⟩
    · exact iff_of_false (Command.Outcome.not_tells hfailure text type) fun h => hmute ⟨type, h.1⟩
    · rw [Command.Outcome.reports_iff hfailure hf, hreports.iff, or_iff_left fun h => hmute h.1, hreport.eq_iff htold]
    · obtain rfl : f = f' := Option.some.inj (hfailure.symm.trans hf')
      exact hf

/-- A line with a fault and a line with a type before one that quits, under settings that show more than the type. The
expression with the type cannot be written where its text may not nest at all. -/
theorem agrees_with_infer_session :
    let data : Settings.Entries := [(.text "prelude", .dict [(.text "one", .text "Int")])]
    let overrides : Settings.Entries := [(.text "display", .dict [(.text "show_constraints", .bool true)])]
    let s₀ : Settings := ⟨[("one", .con "Int" [])], {}⟩
    let s : Settings := ⟨[("one", .con "Int" [])], { showConstraints := true }⟩
    let faulty := "(\n".toList
    let typed := " fun x => one\n".toList
    let fault := "1:2: SyntaxError: Unexpected EOF"
    let low : Limits := { text := 0 }
    let command (files : Files) (limits : Limits) (n : Int) (text : String) :=
      Command.finishRun n (Command.infer { files, limits } s { expression := some text })
    Settings.ofEntries data = .ok s₀ ∧ [overrides].foldlM Settings.merge s₀ = .ok s ∧
      (run s "" [faulty, typed, ":q\n".toList, typed]).output = reply {} s faulty ++ reply {} s typed ∧
      Reports {} s faulty ("<repl>:" ++ fault) ∧ Tells {} s typed "Fun['a, Int]" ∧ Tells low s typed "Fun['a, Int]" ∧
      ∀ files n, (command files {} n "(").Reports ("<expr>:" ++ fault) ∧
        (command files {} n "fun x => one").Tells "fun x => one" "Fun['a, Int]" ∧
        (command files low n "fun x => one").Reports "expression too deeply nested" := by
  intro data overrides s₀ s faulty typed fault low command
  have hint : Ty.parse "Int" = .ok (.con "Int" []) := by decide +kernel
  have hdata : Settings.ofEntries data = .ok s₀ := by
    refine Settings.ofEntries_ok_iff.2 ⟨?_, rfl⟩
    have hsection : Settings.section? data "prelude" = some [(.text "one", .text "Int")] := rfl
    simp [hsection, Settings.preludeOf, Settings.readPrelude, Value.isTooLong, Value.render, hint, s₀]
  have hmerge : s₀.merge overrides = .ok s := by
    change Settings.ofEntries (Settings.deepUpdate s₀.toEntries overrides) = .ok s
    refine Settings.ofEntries_ok_iff.2 ⟨?_, rfl⟩
    have hsection : Settings.section? (Settings.deepUpdate s₀.toEntries overrides) "prelude" =
      some [(.text "one", .text "Int")] := rfl
    simp [hsection, Settings.preludeOf, Settings.readPrelude, Value.isTooLong, Value.render, hint, s]
  have hmerges : [overrides].foldlM Settings.merge s₀ = .ok s := by simp [hmerge]
  have hbefore : [faulty, typed, ":q\n".toList, typed].takeWhile (fun line => ¬ Quits line) = [faulty, typed] := by
    decide +kernel
  have hfaulty : Reports {} s faulty ("<repl>:" ++ fault) := by
    change reply {} s faulty = "error: " ++ ("<repl>:" ++ fault) ++ "\n"
    decide +kernel
  have htyped {limits : Limits} (h : reply limits s typed = "Fun['a, Int]" ++ "\n") :
      Tells limits s typed "Fun['a, Int]" := by
    refine ⟨h, fun report h => ?_⟩
    have hhead : "Fun['a, Int]".toList.head? = some 'e' := by
      rw [h]
      exact head?_append (by decide +kernel) report
    revert hhead
    decide +kernel
  have htells : Tells {} s typed "Fun['a, Int]" := htyped (by decide +kernel)
  have hlow : Tells low s typed "Fun['a, Int]" := htyped (by decide +kernel)
  have hparse : Expr.parse "<expr>" "fun x => one" = .ok (.abs "x" (.var "one")) := by decide +kernel
  refine ⟨hdata, hmerges, ?_, hfaulty, htells, hlow, fun files n => ⟨?_, ?_, ?_⟩⟩
  · rw [(agrees_with_infer hdata hmerges { files := fun _ => .error .missing }).1, hbefore]
    simp [String.join]
  · have hline := (agrees_with_infer hdata hmerges { files }).2 faulty "(" (by decide +kernel) (by decide) n
    exact (hline.2.1 _ _ (.fault fault)).2 (.inl hfaulty)
  · have hline := (agrees_with_infer hdata hmerges { files }).2 typed "fun x => one" (by decide +kernel) (by decide) n
    exact (hline.1 _).2 ⟨htells, by simp [Limits.Writes, hparse, Expr.depth, Expr.isAbs]⟩
  · have hline := (agrees_with_infer hdata hmerges { files, limits := low }).2 typed "fun x => one" (by decide +kernel)
      (by decide) n
    have hunwritten : ¬ low.Writes "fun x => one" := by simp [Limits.Writes, hparse, Expr.depth, Expr.isAbs, low]
    exact (hline.2.1 _ _ retitled_tooDeep).2 (.inr ⟨⟨_, hlow⟩, hunwritten, rfl⟩)

end Repl

end Monotype
