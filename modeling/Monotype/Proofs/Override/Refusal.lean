import Monotype.Proofs.Command.Agreement
import Monotype.Proofs.Literal.Faults
import Monotype.Proofs.Override

namespace Monotype.Override

open Entries (get?)

theorem splitAtEquals_eq_none_iff {cs : List Char} : splitAtEquals cs = none ↔ '=' ∉ cs := by
  induction cs with
  | nil => simp [splitAtEquals]
  | cons c cs ih =>
      by_cases hc : c = '='
      · simp [splitAtEquals, hc]
      · simp [splitAtEquals, ih, Ne.symm hc]

theorem splitAtEquals_append {key : List Char} (h : '=' ∉ key) (value : List Char) :
    splitAtEquals (key ++ '=' :: value) = some (key, value) := by
  induction key with
  | nil => rfl
  | cons c key ih =>
      rw [List.mem_cons, not_or] at h
      simp [splitAtEquals, Ne.symm h.1, ih h.2]

theorem eq_append_of_splitAtEquals {cs key value : List Char} (h : splitAtEquals cs = some (key, value)) :
    cs = key ++ '=' :: value ∧ '=' ∉ key := by
  induction cs generalizing key with
  | nil => cases h
  | cons c cs ih =>
      by_cases hc : c = '='
      · subst hc
        cases h
        exact ⟨rfl, List.not_mem_nil⟩
      · simp only [splitAtEquals, Option.map_eq_some_iff] at h
        obtain ⟨parts, hcs, hkey⟩ := h
        cases hkey
        obtain ⟨rfl, hmem⟩ := ih hcs
        exact ⟨rfl, by simp [hmem, Ne.symm hc]⟩

/-- A text is an item: the first equals sign ends its key, the key has a path, and blanks around the value do not
count. -/
def Item.WrittenAs (i : Item) (item : String) : Prop :=
  ∃ key value, item.toList = key ++ '=' :: value ∧ '=' ∉ key ∧ keyPath key ≠ [] ∧
    i = ⟨String.ofList key, keyPath key, Text.strip (String.ofList value)⟩

def Misshapen (item : String) : Prop :=
  '=' ∉ item.toList ∨ ∃ key value, item.toList = key ++ '=' :: value ∧ '=' ∉ key ∧ keyPath key = []

theorem Item.parse_of_writtenAs {i : Item} {item : String} (h : i.WrittenAs item) : Item.parse item = .ok i := by
  obtain ⟨key, value, heq, hmem, hpath, rfl⟩ := h
  rw [Item.parse, heq, splitAtEquals_append hmem]
  exact if_neg hpath

theorem Item.parse_of_misshapen {item : String} (h : Misshapen item) : Item.parse item = .error (.shape item) := by
  obtain hnone | ⟨key, value, heq, hmem, hpath⟩ := h
  · rw [Item.parse, splitAtEquals_eq_none_iff.2 hnone]
  · rw [Item.parse, heq, splitAtEquals_append hmem]
    exact if_pos hpath

theorem writtenAs_or_misshapen (item : String) : (∃ i : Item, i.WrittenAs item) ∨ Misshapen item := by
  cases hsplit : splitAtEquals item.toList with
  | none => exact .inr (.inl (splitAtEquals_eq_none_iff.1 hsplit))
  | some parts =>
      obtain ⟨key, value⟩ := parts
      obtain ⟨heq, hmem⟩ := eq_append_of_splitAtEquals hsplit
      by_cases hpath : keyPath key = []
      · exact .inr (.inr ⟨key, value, heq, hmem, hpath⟩)
      · exact .inl ⟨_, key, value, heq, hmem, hpath, rfl⟩

theorem Item.parse_ok_iff {i : Item} {item : String} : Item.parse item = .ok i ↔ i.WrittenAs item := by
  refine ⟨fun h => ?_, Item.parse_of_writtenAs⟩
  obtain ⟨j, hj⟩ | hmiss := writtenAs_or_misshapen item
  · cases h.symm.trans (Item.parse_of_writtenAs hj)
    exact hj
  · cases h.symm.trans (Item.parse_of_misshapen hmiss)

/-- On the way along a path something is found that is not a dictionary. -/
def Crosses (es : List (Value × Value)) (p : List String) : Prop :=
  ∃ q r v, p = q ++ r ∧ q ≠ [] ∧ r ≠ [] ∧ (Value.dict es).find? q = some v ∧ ∀ inner, v ≠ .dict inner

section

variable {key : String} {v : Except Error Value} {es inner : List (Value × Value)} {name part : String}
  {p rest : List String} {e : Error}

theorem not_crosses_singleton : ¬ Crosses es [name] := by
  rintro ⟨q, r, v, hp, hq, hr, -⟩
  obtain ⟨a, q, rfl⟩ := List.exists_cons_of_ne_nil hq
  obtain ⟨b, r, rfl⟩ := List.exists_cons_of_ne_nil hr
  simp at hp

theorem crosses_of_opened (h : ∀ inner, opened es name ≠ .dict inner) : Crosses es (name :: part :: rest) := by
  cases hv : get? es (.text name) with
  | none => exact absurd (by rw [opened, hv, Option.getD_none]) (h [])
  | some v =>
      rw [opened, hv, Option.getD_some] at h
      refine ⟨[name], part :: rest, v, rfl, List.cons_ne_nil _ _, List.cons_ne_nil _ _, ?_, h⟩
      rw [Value.find?_dict_cons, hv]
      rfl

theorem crosses_inside (h : opened es name = .dict inner) : Crosses es (name :: rest) ↔ Crosses inner rest := by
  constructor
  · rintro ⟨q, r, v, hp, hq, hr, hfind, hv⟩
    obtain ⟨a, q, rfl⟩ := List.exists_cons_of_ne_nil hq
    obtain ⟨rfl, rfl⟩ := List.cons_eq_cons.1 hp
    cases q with
    | nil =>
        rw [Value.find?_dict_cons] at hfind
        obtain ⟨w, hw, hfind⟩ := Option.bind_eq_some_iff.1 hfind
        cases hfind
        rw [opened, hw] at h
        exact absurd h (hv inner)
    | cons b q =>
        rw [find?_of_opened h (List.cons_ne_nil b q)] at hfind
        exact ⟨b :: q, r, v, rfl, List.cons_ne_nil _ _, hr, hfind, hv⟩
  · rintro ⟨q, r, v, rfl, hq, hr, hfind, hv⟩
    refine ⟨name :: q, r, v, rfl, List.cons_ne_nil _ _, hr, ?_, hv⟩
    rwa [find?_of_opened h hq]

theorem insert_of_opened (h : ∀ inner, opened es name ≠ .dict inner) :
    insert key v es (name :: part :: rest) = .error (.conflict key) := by
  rw [insert]
  · split
    next inner hinner => exact absurd hinner (h inner)
    next => rfl
  · simp

theorem insert_error_iff (hp : p ≠ []) :
    insert key v es p = .error e ↔ (Crosses es p ∧ e = .conflict key) ∨ (¬ Crosses es p ∧ v = .error e) := by
  induction p generalizing es with
  | nil => exact absurd rfl hp
  | cons name rest ih =>
      cases rest with
      | nil =>
          simp only [not_crosses_singleton, false_and, not_false_eq_true, true_and, false_or]
          cases v <;> simp [insert, bind, Except.bind, pure, Except.pure]
      | cons part rest =>
          by_cases hopened : ∃ inner, opened es name = .dict inner
          · obtain ⟨inner, hinner⟩ := hopened
            rw [insert_inside hinner, crosses_inside hinner, ← ih (List.cons_ne_nil part rest)]
            cases insert key v inner (part :: rest) <;> simp [Except.map]
          · rw [not_exists] at hopened
            rw [insert_of_opened hopened]
            simp [crosses_of_opened hopened, eq_comm]

end

/-- Why an item cannot be put into a mapping, whatever its text is. -/
inductive Bars (es : List (Value × Value)) (item : String) : Error → Prop
  | shape (h : Misshapen item) : Bars es item (.shape item)
  | conflict {i : Item} (hi : i.WrittenAs item) (hcross : Crosses es i.path) : Bars es item (.conflict i.key)

/-- An item that nothing bars has a literal as its text, but the literal has no value. -/
inductive Fails (limits : Limits) (es : List (Value × Value)) (item : String) (f : Literal.Error) : Prop
  | intro {i : Item} (hi : i.WrittenAs item) (hfree : ¬ Crosses es i.path)
      (hfault : Literal.firstFault? limits.literal i.value = some f) (hf : f ≠ .malformed)

section

variable {read : String → Except Literal.Error Value} {es es' : List (Value × Value)} {item : String}
  {items : List String} {e : Error}

theorem apply_error_iff : apply read es item = .error e ↔
    Bars es item e ∨ ∃ i : Item, i.WrittenAs item ∧ ¬ Crosses es i.path ∧ valueOf read i.value = .error e := by
  rw [apply]
  obtain ⟨i, hi⟩ | hmiss := writtenAs_or_misshapen item
  · have hparse := Item.parse_of_writtenAs hi
    rw [hparse]
    refine (insert_error_iff (Item.path_ne_nil hparse)).trans ⟨?_, ?_⟩
    · rintro (⟨hcross, rfl⟩ | ⟨hfree, hvalue⟩)
      · exact .inl (.conflict hi hcross)
      · exact .inr ⟨i, hi, hfree, hvalue⟩
    · rintro (hbars | ⟨j, hj, hfree, hvalue⟩)
      · cases hbars with
        | shape h => cases hparse.symm.trans (Item.parse_of_misshapen h)
        | conflict hj hcross =>
            cases hparse.symm.trans (Item.parse_of_writtenAs hj)
            exact .inl ⟨hcross, rfl⟩
      · cases hparse.symm.trans (Item.parse_of_writtenAs hj)
        exact .inr ⟨hfree, hvalue⟩
  · have hparse := Item.parse_of_misshapen hmiss
    rw [hparse]
    constructor
    · intro h
      cases h
      exact .inl (.shape hmiss)
    · rintro (hbars | ⟨j, hj, -⟩)
      · cases hbars with
        | shape => rfl
        | conflict hj => cases hparse.symm.trans (Item.parse_of_writtenAs hj)
      · cases hparse.symm.trans (Item.parse_of_writtenAs hj)

theorem valueOf_literal_iff {limit : Nat} {text : String} {f : Literal.Error} :
    valueOf (Literal.read limit) text = .error (.literal f) ↔
      Literal.firstFault? limit text = some f ∧ f ≠ .malformed := by
  rw [← Literal.read_error_iff, valueOf]
  cases Literal.read limit text with
  | ok v => simp
  | error g => cases g <;> simp +contextual [eq_comm]

theorem apply_literal_iff {limits : Limits} {f : Literal.Error} :
    apply (Literal.read limits.literal) es item = .error (.literal f) ↔ Fails limits es item f := by
  rw [apply_error_iff]
  constructor
  · rintro (hbars | ⟨i, hi, hfree, hvalue⟩)
    · cases hbars
    · obtain ⟨hfault, hf⟩ := valueOf_literal_iff.1 hvalue
      exact ⟨hi, hfree, hfault, hf⟩
  · rintro ⟨hi, hfree, hfault, hf⟩
    exact .inr ⟨_, hi, hfree, valueOf_literal_iff.2 ⟨hfault, hf⟩⟩

end

def fallback (limits : Limits) (text : String) : Value :=
  match Literal.read limits.literal text with
  | .ok v => v
  | .error _ => .text text

def readLeniently (limits : Limits) (text : String) : Except Literal.Error Value := .ok (fallback limits text)

/-- The nested dictionary that a list of items describes if every text has a value. -/
def parseLeniently (limits : Limits) (items : List String) : Except Error (List (Value × Value)) :=
  parseAllWith (readLeniently limits) items

theorem valueOf_cases (limits : Limits) (text : String) :
    valueOf (Literal.read limits.literal) text = .ok (fallback limits text) ∨
      ∃ f, valueOf (Literal.read limits.literal) text = .error (.literal f) := by
  rw [valueOf, fallback]
  cases Literal.read limits.literal text with
  | ok v => exact .inl rfl
  | error f =>
      cases f with
      | malformed => exact .inl rfl
      | _ => exact .inr ⟨_, rfl⟩

section

variable {limits : Limits} {es es' : List (Value × Value)} {item : String} {e : Error}

theorem apply_leniently_error_iff : apply (readLeniently limits) es item = .error e ↔ Bars es item e := by
  rw [apply_error_iff]
  refine ⟨?_, .inl⟩
  rintro (hbars | ⟨i, -, -, hvalue⟩)
  · exact hbars
  · cases hvalue

theorem apply_leniently_ok_iff : apply (readLeniently limits) es item = .ok es' ↔
    ∃ i : Item, i.WrittenAs item ∧ Sets (fallback limits i.value) es i.path es' := by
  rw [apply_ok_iff]
  constructor
  · rintro ⟨i, w, hi, hw, hset⟩
    cases hw
    exact ⟨i, Item.parse_ok_iff.1 hi, hset⟩
  · rintro ⟨i, hi, hset⟩
    exact ⟨i, _, Item.parse_ok_iff.2 hi, rfl, hset⟩

theorem apply_cases (limits : Limits) (es : List (Value × Value)) (item : String) :
    apply (Literal.read limits.literal) es item = apply (readLeniently limits) es item ∨
      ∃ f, apply (Literal.read limits.literal) es item = .error (.literal f) := by
  rw [apply, apply]
  cases hparse : Item.parse item with
  | error e => exact .inl rfl
  | ok i =>
      have hpath := Item.path_ne_nil hparse
      obtain hvalue | ⟨f, hvalue⟩ := valueOf_cases limits i.value
      · exact .inl (congrArg (insert i.key · es i.path) hvalue)
      · by_cases hcross : Crosses es i.path
        · have hconflict (v : Except Error Value) : insert i.key v es i.path = .error (.conflict i.key) :=
            (insert_error_iff hpath).2 (.inl ⟨hcross, rfl⟩)
          exact .inl ((hconflict _).trans (hconflict _).symm)
        · exact .inr ⟨f, (insert_error_iff hpath).2 (.inr ⟨hcross, hvalue⟩)⟩

end

section

variable {read : String → Except Literal.Error Value} {limits : Limits} {es es' : List (Value × Value)}
  {item : String} {items : List String} {e : Error}

theorem exists_of_foldlM_error (h : items.foldlM (apply read) es = .error e) :
    ∃ before item after mid, items = before ++ item :: after ∧ before.foldlM (apply read) es = .ok mid ∧
      apply read mid item = .error e := by
  induction items generalizing es with
  | nil => cases h
  | cons item items ih =>
      rw [List.foldlM_cons] at h
      cases hitem : apply read es item with
      | error f =>
          rw [hitem] at h
          cases h
          exact ⟨[], item, items, es, rfl, rfl, hitem⟩
      | ok mid =>
          rw [hitem] at h
          obtain ⟨before, other, after, last, rfl, hbefore, hother⟩ := ih h
          exact ⟨item :: before, other, after, last, rfl, foldlM_cons_ok_iff.2 ⟨mid, hitem, hbefore⟩, hother⟩

theorem foldlM_error_iff : items.foldlM (apply read) es = .error e ↔
    ∃ before item after mid, items = before ++ item :: after ∧ before.foldlM (apply read) es = .ok mid ∧
      apply read mid item = .error e := by
  refine ⟨exists_of_foldlM_error, ?_⟩
  rintro ⟨before, item, after, mid, rfl, hbefore, hitem⟩
  have hrest : (item :: after).foldlM (apply read) mid = .error e := by
    rw [List.foldlM_cons, hitem]
    rfl
  rw [List.foldlM_append, hbefore]
  exact hrest

theorem foldlM_concat_ok_iff : (items ++ [item]).foldlM (apply read) es = .ok es' ↔
    ∃ mid, items.foldlM (apply read) es = .ok mid ∧ apply read mid item = .ok es' := by
  rw [List.foldlM_append]
  cases items.foldlM (apply read) es with
  | error f => exact ⟨fun h => (nomatch h), fun ⟨_, h, _⟩ => (nomatch h)⟩
  | ok mid =>
      have hlast : [item].foldlM (apply read) mid = apply read mid item := by
        rw [List.foldlM_cons]
        exact bind_pure _
      refine Iff.trans (Eq.congr_left hlast) ⟨fun h => ⟨mid, rfl, h⟩, ?_⟩
      rintro ⟨_, ⟨⟩, h⟩
      exact h

theorem foldlM_cases (limits : Limits) (es : List (Value × Value)) (items : List String) :
    items.foldlM (apply (Literal.read limits.literal)) es = items.foldlM (apply (readLeniently limits)) es ∨
      ∃ f, items.foldlM (apply (Literal.read limits.literal)) es = .error (.literal f) := by
  induction items generalizing es with
  | nil => exact .inl rfl
  | cons item items ih =>
      rw [List.foldlM_cons, List.foldlM_cons]
      obtain hitem | ⟨f, hitem⟩ := apply_cases limits es item
      · rw [← hitem]
        cases apply (Literal.read limits.literal) es item with
        | error e => exact .inl rfl
        | ok mid => exact ih mid
      · exact .inr ⟨f, by rw [hitem]; rfl⟩

theorem parseLeniently_error_iff : parseLeniently limits items = .error e ↔
    ∃ before item after es, items = before ++ item :: after ∧ parseLeniently limits before = .ok es ∧
      Bars es item e := by
  simp only [← @apply_leniently_error_iff limits]
  exact foldlM_error_iff

theorem parseLeniently_concat_iff : parseLeniently limits (items ++ [item]) = .ok es' ↔
    ∃ es, parseLeniently limits items = .ok es ∧
      ∃ i : Item, i.WrittenAs item ∧ Sets (fallback limits i.value) es i.path es' := by
  simp only [← apply_leniently_ok_iff]
  exact foldlM_concat_ok_iff

theorem parseAll_literal_iff {f : Literal.Error} : parseAll items limits = .error (.literal f) ↔
    ∃ before item after es, items = before ++ item :: after ∧ parseAll before limits = .ok es ∧
      Fails limits es item f := by
  simp only [← apply_literal_iff]
  exact foldlM_error_iff

theorem parseAll_eq_iff : parseAll items limits = parseLeniently limits items ↔
    ∀ f, parseAll items limits ≠ .error (.literal f) := by
  constructor
  · intro h f hfault
    rw [h] at hfault
    obtain ⟨_, _, _, _, -, -, hbars⟩ := parseLeniently_error_iff.1 hfault
    cases hbars
  · intro h
    obtain heq | ⟨f, hfault⟩ := foldlM_cases limits [] items
    · exact heq
    · exact absurd hfault (h f)

end

theorem run_refused {w : Command.World} {inv : Command.Invocation} (prompt input : String) {n : Int} {e : Error}
    (hlevel : Command.level inv.globals = .ok n) (h : parseAll inv.globals.overrides w.limits = .error e) :
    (Command.run w inv prompt input).failure = some (.override e) ∧ (Command.run w inv prompt input).stdout = "" := by
  have hparse : (Command.orFail .override (parseAll inv.globals.overrides w.limits) : Command.CommandM _) {} =
      .error (.override e) {} := by
    rw [h]
    rfl
  have hsettings : Command.settings w inv.globals {} = .error (.override e) {} := bind_of_error hparse
  rw [Command.run, hlevel]
  exact Command.finishRun_error (bind_of_error hsettings) n

theorem report_override {e : Error} (h : (Command.Failure.override e).isDeep = false) :
    (Command.Failure.override e).report = e.message := by
  rw [Command.Failure.report, h]
  rfl

theorem stderr_of_fatal {o : Command.Outcome} {f : Literal.Error} (h : o.failure = some (.override (.literal f)))
    (hf : f ≠ .tooDeep) : o.stderr = "" := by
  rw [Command.Outcome.stderr, h]
  exact if_pos (bne_iff_ne.2 hf)

/-- If every text without a value stood for itself, items would be refused just for their shape and for what is in the
way of their paths. That is how a list of items is read, unless the reading comes to an item whose text is a literal
without a value: there it ends. A command whose items are refused writes nothing but a report, and it has no report on a
literal without a value, unless it is one that nests too deep. -/
theorem parseAll_refusals (limits : Limits) (items : List String) :
    (∀ e, parseLeniently limits items = .error e ↔
      ∃ before item after es, items = before ++ item :: after ∧ parseLeniently limits before = .ok es ∧
        Bars es item e) ∧
    parseLeniently limits [] = .ok [] ∧
    (∀ item es', parseLeniently limits (items ++ [item]) = .ok es' ↔
      ∃ es, parseLeniently limits items = .ok es ∧
        ∃ i : Item, i.WrittenAs item ∧ Sets (fallback limits i.value) es i.path es') ∧
    (parseAll items limits = parseLeniently limits items ↔
      ∀ before item after es f, items = before ++ item :: after → parseAll before limits = .ok es →
        ¬ Fails limits es item f) ∧
    (∀ f, parseAll items limits = .error (.literal f) ↔
      ∃ before item after es, items = before ++ item :: after ∧ parseAll before limits = .ok es ∧
        Fails limits es item f) ∧
    ∀ (w : Command.World) (inv : Command.Invocation) (prompt input : String) (n : Int) (e : Error),
      w.limits = limits → Command.level inv.globals = .ok n → inv.globals.overrides = items →
      parseAll items limits = .error e →
      let o := Command.run w inv prompt input
      o.failure = some (.override e) ∧ o.exit = 1 ∧ o.stdout = "" ∧
        (∀ item, e = .shape item → o.Reports ("override '" ++ item ++ "' must look like KEY=VALUE")) ∧
        (∀ key, e = .conflict key → o.Reports ("override '" ++ key ++ "' conflicts with an existing value")) ∧
        (e = .literal .tooDeep → o.Reports "expression too deeply nested") ∧
        ∀ f, e = .literal f → f ≠ .tooDeep → o.stderr = "" := by
  refine ⟨fun e => parseLeniently_error_iff, rfl, fun item es' => parseLeniently_concat_iff, ?_,
    fun f => parseAll_literal_iff, ?_⟩
  · rw [parseAll_eq_iff]
    constructor
    · intro h before item after es f hsplit hbefore hfails
      exact h f (parseAll_literal_iff.2 ⟨before, item, after, es, hsplit, hbefore, hfails⟩)
    · intro h f hfault
      obtain ⟨before, item, after, es, hsplit, hbefore, hfails⟩ := parseAll_literal_iff.1 hfault
      exact h before item after es f hsplit hbefore hfails
  · rintro w inv prompt input n e rfl hlevel rfl h o
    obtain ⟨hfailure, hstdout⟩ := run_refused prompt input hlevel h
    refine ⟨hfailure, Command.Outcome.exit_of_failure hfailure, hstdout, ?_, ?_, ?_, ?_⟩
    · rintro item rfl
      rw [← Error.message, ← report_override (e := .shape item) rfl]
      exact Command.Outcome.reports_of_failure hfailure rfl
    · rintro key rfl
      rw [← Error.message, ← report_override (e := .conflict key) rfl]
      exact Command.Outcome.reports_of_failure hfailure rfl
    · rintro rfl
      have hreport : (Command.Failure.override (.literal .tooDeep)).report = "expression too deeply nested" := rfl
      rw [← hreport]
      exact Command.Outcome.reports_of_failure hfailure rfl
    · rintro f rfl hf
      exact stderr_of_fatal hfailure hf

theorem fails_set (es : List (Value × Value)) : Fails {} es "a=\x7b[]\x7d" (.unhashable "list") := by
  have hi : Item.parse "a=\x7b[]\x7d" = .ok ⟨"a", ["a"], "\x7b[]\x7d"⟩ := rfl
  exact ⟨Item.parse_ok_iff.1 hi, not_crosses_singleton, rfl, nofun⟩

theorem parseAll_refusals_set :
    let inv : Command.Invocation := ⟨{ overrides := ["b=1", "a=\x7b[]\x7d", "c"] }, .repl⟩
    let w : Command.World := { files := fun _ => .error .missing }
    Command.level inv.globals = .ok Log.standardLevel ∧
      parseAll inv.globals.overrides w.limits = .error (.literal (.unhashable "list")) ∧
      parseAll inv.globals.overrides w.limits ≠ parseLeniently w.limits inv.globals.overrides ∧
      ∀ prompt input, (Command.run w inv prompt input).failure = some (.override (.literal (.unhashable "list"))) ∧
        (Command.run w inv prompt input).exit = 1 ∧ (Command.run w inv prompt input).stdout = "" ∧
        (Command.run w inv prompt input).stderr = "" := by
  intro inv w
  have hone : valueOf (Literal.read w.limits.literal) "1" = .ok (.int 1) := rfl
  have hbefore : parseAll ["b=1"] w.limits = .ok [(.text "b", .int 1)] :=
    foldlM_cons_ok_iff.2 ⟨_, apply_ok_iff.2 ⟨⟨"b", _, "1"⟩, _, rfl, hone, .leaf _ _⟩, rfl⟩
  obtain ⟨-, -, -, hlenient, hliteral, hcommand⟩ := parseAll_refusals w.limits inv.globals.overrides
  have hparse : parseAll inv.globals.overrides w.limits = .error (.literal (.unhashable "list")) :=
    (hliteral _).2 ⟨["b=1"], _, ["c"], _, rfl, hbefore, fails_set _⟩
  refine ⟨rfl, hparse, fun heq => ?_, fun prompt input => ?_⟩
  · exact hlenient.1 heq ["b=1"] _ ["c"] _ _ rfl hbefore (fails_set _)
  · obtain ⟨hfailure, hexit, hstdout, -, -, -, hsilent⟩ := hcommand w inv prompt input _ _ rfl rfl rfl hparse
    exact ⟨hfailure, hexit, hstdout, hsilent _ rfl nofun⟩

theorem parseAll_not_only_shape_or_conflict :
    ¬ ∀ items, (∃ es, parseAll items = .ok es) ∨ (∃ item, parseAll items = .error (.shape item)) ∨
      ∃ key, parseAll items = .error (.conflict key) := by
  intro h
  have hset : parseAll ["a=\x7b[]\x7d"] = .error (.literal (.unhashable "list")) :=
    parseAll_literal_iff.2 ⟨[], _, [], [], rfl, rfl, fails_set []⟩
  obtain ⟨es, hes⟩ | ⟨item, hshape⟩ | ⟨key, hconflict⟩ := h ["a=\x7b[]\x7d"]
  · cases hset.symm.trans hes
  · cases hset.symm.trans hshape
  · cases hset.symm.trans hconflict

end Monotype.Override
