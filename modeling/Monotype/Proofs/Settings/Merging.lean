import Monotype.Proofs.Entries
import Monotype.Proofs.Ty.Reading
import Monotype.Settings

namespace Monotype

namespace Value

@[simp] theorem entries?_dict (es : List (Value × Value)) : (dict es).entries? = some es := rfl

@[simp] theorem entries?_knot (label : Nat) (v : Value) : (knot label v).entries? = v.entries? := rfl

theorem bare_of_entries? {v : Value} {es : List (Value × Value)} (h : v.entries? = some es) : v.bare = dict es := by
  rw [entries?] at h
  split at h
  · cases h
    assumption
  · cases h

theorem isEmpty_of_entries? {v : Value} {es : List (Value × Value)} (h : v.entries? = some es) :
    v.isEmpty = es.isEmpty := by
  match v with
  | dict _ => cases h; rfl
  | knot _ v => exact isEmpty_of_entries? (v := v) h

theorem termIn_of_entries? {v : Value} {es : List (Value × Value)} (h : v.entries? = some es) (outer : List Nat) :
    ∃ cs, (v.termIn outer).toList = '\x7b' :: cs := by
  match v with
  | dict fs =>
      have hterm : (dict fs).termIn outer = "\x7b" ++ ", ".intercalate (entryTermsIn outer fs) ++ "\x7d" := rfl
      simp [hterm]
  | knot label v =>
      have hterm : (knot label v).termIn outer =
          if outer.contains label then dots v.bare else v.termIn (label :: outer) := rfl
      rw [hterm]
      split
      · rw [bare_of_entries? (v := v) h]
        simp [dots]
      · exact termIn_of_entries? (v := v) h _

theorem render_of_entries? {v : Value} {es : List (Value × Value)} (h : v.entries? = some es) :
    ∃ cs, v.render.toList = '\x7b' :: cs := by
  match v with
  | dict _ => exact termIn_of_entries? h []
  | knot _ _ => exact termIn_of_entries? h []

/-- The value is written as the text of a type. -/
def Denotes (v : Value) (t : Ty) : Prop := v.isTooLong = false ∧ Ty.parse v.render = .ok t

theorem Denotes.entries?_eq_none {v : Value} {t : Ty} (h : v.Denotes t) : v.entries? = none := by
  cases hv : v.entries? with
  | none => rfl
  | some es =>
      obtain ⟨cs, hcs⟩ := render_of_entries? hv
      obtain ⟨ts, s, hlex, _⟩ := Ty.parseChars_ok_iff.1 (Ty.parse_ok_iff.1 h.2).2
      have hblank : Text.isBlank '\x7b' = false := by decide
      have hname : Ty.isNameStart '\x7b' = false := by decide
      have hpunctuation : Ty.punctuation? '\x7b' = none := rfl
      rw [hcs, Ty.lexFrom.eq_def] at hlex
      simp [hblank, hname, hpunctuation] at hlex

theorem denotes_render {t : Ty} (h : t.Spellable) : (text t.render).Denotes t := ⟨rfl, Ty.parse_render h⟩

end Value

namespace Settings

open Entries (Distinct get? put)

theorem updated_of_entries? {old : Option Value} {v : Value} {es us : Entries}
    (hold : old.bind Value.entries? = some es) (hv : v.entries? = some us) :
    updated old v = .dict (deepUpdate es us) := by
  match v with
  | .dict _ =>
      cases hv
      rw [updated, hold]
  | .knot _ v =>
      have hv : v.entries? = some us := hv
      rw [updated, hold, hv]
      exact updated_of_entries? hold hv

theorem updated_of_none {old : Option Value} {v : Value} (h : old.bind Value.entries? = none ∨ v.entries? = none) :
    updated old v = v := by
  cases v with
  | dict us =>
      have hold : old.bind Value.entries? = none := by simpa using h
      rw [updated, hold]
  | knot label v =>
      rw [updated]
      split
      · next hold hv =>
          rcases h with h | h
          · rw [h] at hold
            cases hold
          · rw [Value.entries?_knot, hv] at h
            cases h
      · rfl
  | _ => rfl

theorem updated_congr {old old' : Option Value} (h : old.bind Value.entries? = old'.bind Value.entries?) (v : Value) :
    updated old v = updated old' v := by
  cases hold : old.bind Value.entries? with
  | none => rw [updated_of_none (.inl hold), updated_of_none (.inl (h ▸ hold))]
  | some es =>
      cases hv : v.entries? with
      | none => rw [updated_of_none (.inr hv), updated_of_none (.inr hv)]
      | some us => rw [updated_of_entries? hold hv, updated_of_entries? (h ▸ hold) hv]

theorem deepUpdate_of_disjoint {es us : Entries} (hus : Distinct us) (h : ∀ u ∈ us, get? es u.1 = none) :
    deepUpdate es us = es ++ us := by
  induction us generalizing es with
  | nil => simp [deepUpdate]
  | cons u us ih =>
      obtain ⟨k, v⟩ := u
      obtain ⟨hk, hus⟩ := List.pairwise_cons.1 hus
      obtain ⟨hnew, h⟩ := List.forall_mem_cons.1 h
      have hstill : ∀ u ∈ us, get? (es ++ [(k, v)]) u.1 = none := by
        intro u hu
        rw [Entries.get?_eq_none_iff, List.forall_mem_append, List.forall_mem_singleton]
        exact ⟨Entries.get?_eq_none_iff.1 (h u hu), hk u hu⟩
      rw [deepUpdate, hnew, updated_of_none (.inl rfl), Entries.put_of_get?_eq_none hnew, ih hus hstill,
        List.append_assoc]
      rfl

theorem deepUpdate_nil {us : Entries} (hus : Distinct us) : deepUpdate [] us = us :=
  deepUpdate_of_disjoint hus fun _ _ => rfl

theorem get?_deepUpdate {us : Entries} (hus : Distinct us) (es : Entries) (name : String) :
    get? (deepUpdate es us) (.text name) =
      match get? us (.text name) with
      | some v => some (updated (get? es (.text name)) v)
      | none => get? es (.text name) := by
  have hexact := Value.exact_text name
  induction us generalizing es with
  | nil => rfl
  | cons u us ih =>
      obtain ⟨k, v⟩ := u
      rw [deepUpdate, ih (List.pairwise_cons.1 hus).2, Entries.get?_put hexact, get?]
      by_cases hk : k = .text name
      · subst hk
        have hself : (Value.text name == Value.text name) = true := (hexact _).1.2 rfl
        simp [hself, hus.get?_tail hexact]
      · have hne : (k == Value.text name) = false := by
          rw [Bool.eq_false_iff]
          exact fun h => hk ((hexact k).1.1 h)
        simp [hne]

def sectionOf : Option Value → Option Entries
  | none => some []
  | some v => if v.isEmpty then some [] else v.entries?

theorem section?_eq (data : Entries) (name : String) : section? data name = sectionOf (get? data (.text name)) := by
  rw [section?]
  cases get? data (.text name) <;> rfl

theorem sectionOf_of_entries? {v : Value} {es : Entries} (h : v.entries? = some es) : sectionOf (some v) = some es := by
  rw [sectionOf, Value.isEmpty_of_entries? h, h]
  cases es <;> rfl

theorem sectionOf_cases {old : Option Value} {es : Entries} (h : sectionOf old = some es) :
    old.bind Value.entries? = some es ∨ (old.bind Value.entries? = none ∧ es = []) := by
  cases hold : old.bind Value.entries? with
  | some fs =>
      obtain ⟨v, rfl, hv⟩ := Option.bind_eq_some_iff.1 hold
      rw [sectionOf_of_entries? hv] at h
      exact .inl h
  | none =>
      cases old with
      | none =>
          cases h
          exact .inr ⟨rfl, rfl⟩
      | some v =>
          have hv : v.entries? = none := hold
          rw [sectionOf, hv] at h
          split at h
          · cases h
            exact .inr ⟨rfl, rfl⟩
          · cases h

/-- What becomes of a section when a value is put over it. -/
def overlaid (es : Entries) : Option Value → Option Entries
  | none => some es
  | some v =>
      match v.entries? with
      | some us => some (deepUpdate es us)
      | none => sectionOf (some v)

theorem sectionOf_updated {old : Option Value} {v : Value} {es : Entries} (h : sectionOf old = some es)
    (hv : ∀ us, v.entries? = some us → Distinct us) : sectionOf (some (updated old v)) = overlaid es (some v) := by
  rw [overlaid]
  cases hus : v.entries? with
  | none => rw [updated_of_none (.inr hus)]
  | some us =>
      rcases sectionOf_cases h with hold | ⟨hold, rfl⟩
      · rw [updated_of_entries? hold hus, sectionOf_of_entries? (Value.entries?_dict _)]
      · rw [updated_of_none (.inl hold), sectionOf_of_entries? hus]
        exact congrArg some (deepUpdate_nil (hv us hus)).symm

/-- Every key has one entry, in the data and in each of its sections. -/
def Keyed (data : Entries) : Prop := Distinct data ∧ ∀ e ∈ data, ∀ us, e.2.entries? = some us → Distinct us

theorem Keyed.of_get? {data : Entries} (h : Keyed data) {name : String} {v : Value}
    (hv : get? data (.text name) = some v) {us : Entries} (hus : v.entries? = some us) : Distinct us := by
  obtain ⟨k, hk⟩ := Entries.mem_of_get? hv
  exact h.2 (k, v) hk us hus

theorem section?_deepUpdate {data overrides : Entries} (ho : Keyed overrides) {name : String} {es : Entries}
    (h : section? data name = some es) : section? (deepUpdate data overrides) name =
      overlaid es (get? overrides (.text name)) := by
  rw [section?_eq] at h ⊢
  rw [get?_deepUpdate ho.1]
  cases hv : get? overrides (.text name) with
  | none => exact h
  | some v => exact sectionOf_updated h fun us hus => ho.of_get? hv hus

/-- Values of a prelude that cannot be told apart: also after updates, they stand for the same type. -/
def Alike (v w : Value) : Prop := v = w ∨ ∃ t, v.Denotes t ∧ w.Denotes t

theorem Alike.entries?_eq {v w : Value} (h : Alike v w) : v.entries? = w.entries? := by
  rcases h with rfl | ⟨t, hv, hw⟩
  · rfl
  · rw [hv.entries?_eq_none, hw.entries?_eq_none]

def Matches : Entries → Entries → Prop := List.Forall₂ fun a b => a.1 = b.1 ∧ Alike a.2 b.2

theorem Matches.entries?_eq {es fs : Entries} (h : Matches es fs) (k : Value) :
    (get? es k).bind Value.entries? = (get? fs k).bind Value.entries? := by
  induction h with
  | nil => rfl
  | @cons a b es fs hab _ ih =>
      obtain ⟨j, v⟩ := a
      obtain ⟨rfl, hv⟩ := hab
      cases hj : b.1 == k <;> simp [get?, hj, ih, hv.entries?_eq]

theorem Matches.put {es fs : Entries} (h : Matches es fs) (k v : Value) : Matches (put es k v) (put fs k v) := by
  induction h with
  | nil => exact .cons ⟨rfl, .inl rfl⟩ .nil
  | @cons a b es fs hab h ih =>
      obtain ⟨j, w⟩ := a
      obtain ⟨rfl, hw⟩ := hab
      rw [Entries.put, Entries.put]
      split
      · exact .cons ⟨rfl, .inl rfl⟩ h
      · exact .cons ⟨rfl, hw⟩ ih

theorem Matches.deepUpdate {es fs : Entries} (h : Matches es fs) (us : Entries) :
    Matches (deepUpdate es us) (deepUpdate fs us) := by
  induction us generalizing es fs with
  | nil => exact h
  | cons u us ih =>
      obtain ⟨k, v⟩ := u
      rw [Settings.deepUpdate, Settings.deepUpdate, updated_congr (h.entries?_eq k) v]
      exact ih (h.put k _)

theorem Matches.readPrelude_eq {es fs : Entries} (h : Matches es fs) : readPrelude es = readPrelude fs := by
  induction h with
  | nil => rfl
  | @cons a b es fs hab h ih =>
      obtain ⟨k, v⟩ := a
      obtain ⟨k', w⟩ := b
      obtain ⟨hk, hvw⟩ := hab
      obtain rfl : k = k' := hk
      rcases hvw with hvw | ⟨t, hv, hw⟩
      · obtain rfl : v = w := hvw
        cases k <;> simp [readPrelude, ih]
      · cases k <;> simp [readPrelude, ih, hv.1, hv.2, hw.1, hw.2]

theorem readPrelude_cons_ok {k v : Value} {es : Entries} {prelude : Scope}
    (h : readPrelude ((k, v) :: es) = .ok prelude) :
    ∃ name t rest, k = .text name ∧ v.Denotes t ∧ readPrelude es = .ok rest ∧ prelude = (name, t) :: rest := by
  cases k with
  | text name =>
      rw [readPrelude] at h
      split at h
      · cases h
      · next hlong =>
          split at h
          · cases h
          · next t ht =>
              cases hrest : readPrelude es with
              | error e => rw [hrest] at h; cases h
              | ok rest =>
                  rw [hrest] at h
                  cases h
                  exact ⟨name, t, rest, rfl, ⟨Bool.eq_false_iff.2 hlong, ht⟩, rfl, rfl⟩
  | _ => cases h

theorem spellable_of_readPrelude {es : Entries} {prelude : Scope} (h : readPrelude es = .ok prelude) :
    ∀ entry ∈ prelude, entry.2.Spellable := by
  induction es generalizing prelude with
  | nil =>
      cases h
      simp
  | cons e es ih =>
      obtain ⟨name, t, rest, -, ht, hrest, rfl⟩ := readPrelude_cons_ok h
      exact List.forall_mem_cons.2 ⟨Ty.spellable_of_parse ht.2, ih hrest⟩

def written (prelude : Scope) : Entries := prelude.map fun (name, t) => (.text name, .text t.render)

theorem matches_written {es : Entries} {prelude : Scope} (h : readPrelude es = .ok prelude) :
    Matches es (written prelude) := by
  induction es generalizing prelude with
  | nil =>
      cases h
      exact .nil
  | cons e es ih =>
      obtain ⟨name, t, rest, hname, ht, hrest, rfl⟩ := readPrelude_cons_ok h
      exact .cons ⟨hname, .inr ⟨t, ht, Value.denotes_render (Ty.spellable_of_parse ht.2)⟩⟩ (ih hrest)

theorem readPrelude_written {es : Entries} {prelude : Scope} (h : readPrelude es = .ok prelude) :
    readPrelude (written prelude) = .ok prelude := by
  rw [← (matches_written h).readPrelude_eq, h]

def preludeOf : Option Entries → Except SettingsError Scope
  | none => .error .preludeShape
  | some es => readPrelude es

theorem preludeOf_overlaid {es : Entries} {prelude : Scope} (h : readPrelude es = .ok prelude) (v : Option Value) :
    preludeOf (overlaid es v) = preludeOf (overlaid (written prelude) v) := by
  cases v with
  | none => exact (matches_written h).readPrelude_eq
  | some v =>
      rw [overlaid, overlaid]
      cases v.entries? with
      | none => rfl
      | some us => exact ((matches_written h).deepUpdate us).readPrelude_eq

def flagOf (flag : String) (default : Bool) : Option Value → Except SettingsError Bool
  | none => .ok default
  | some v =>
      match boolOf? v with
      | some b => .ok b
      | none => .error (.about v (.displayFlag flag v))

theorem readFlag_eq (es : Entries) (flag : String) (default : Bool) :
    readFlag es flag default = flagOf flag default (get? es (.text flag)) := by
  rw [readFlag]
  cases get? es (.text flag) <;> rfl

theorem entries?_of_boolOf? {v : Value} {b : Bool} (h : boolOf? v = some b) : v.entries? = none := by
  cases v with
  | dict _ => cases h
  | knot _ _ => cases h
  | _ => rfl

theorem entries?_of_flagOf {flag : String} {default b : Bool} {old : Option Value}
    (h : flagOf flag default old = .ok b) : old.bind Value.entries? = none := by
  -- A truth value is no mapping, so that an update replaces it.
  cases old with
  | none => rfl
  | some v =>
      cases hb : boolOf? v with
      | none => simp [flagOf, hb] at h
      | some c => exact entries?_of_boolOf? hb

theorem readFlag_deepUpdate {es us : Entries} (hus : Distinct us) {flag : String} {default b : Bool}
    (h : readFlag es flag default = .ok b) :
    readFlag (deepUpdate es us) flag default =
      match get? us (.text flag) with
      | some v => flagOf flag default (some v)
      | none => .ok b := by
  rw [readFlag_eq] at h ⊢
  rw [get?_deepUpdate hus]
  cases get? us (.text flag) with
  | none => exact h
  | some v => exact congrArg (fun w => flagOf flag default (some w)) (updated_of_none (.inl (entries?_of_flagOf h)))

def readDisplay (es : Entries) : Except SettingsError Display := do
  let normalise ← readFlag es "normalise" true
  let showConstraints ← readFlag es "show_constraints" false
  return { normalise, showConstraints }

def shown (display : Display) : Entries :=
  [(.text "normalise", .bool display.normalise), (.text "show_constraints", .bool display.showConstraints)]

theorem readDisplay_ok_iff {es : Entries} {display : Display} :
    readDisplay es = .ok display ↔ readFlag es "normalise" true = .ok display.normalise ∧
      readFlag es "show_constraints" false = .ok display.showConstraints := by
  obtain ⟨normalise, showConstraints⟩ := display
  cases hn : readFlag es "normalise" true <;> cases hc : readFlag es "show_constraints" false <;>
    simp [readDisplay, hn, hc, bind, Except.bind, pure, Except.pure]

theorem readDisplay_shown (display : Display) : readDisplay (shown display) = .ok display :=
  readDisplay_ok_iff.2 ⟨rfl, rfl⟩

theorem readDisplay_deepUpdate {es us : Entries} (hus : Distinct us) {display : Display}
    (h : readDisplay es = .ok display) :
    readDisplay (deepUpdate es us) = readDisplay (deepUpdate (shown display) us) := by
  obtain ⟨hn, hc⟩ := readDisplay_ok_iff.1 h
  obtain ⟨hn', hc'⟩ := readDisplay_ok_iff.1 (readDisplay_shown display)
  rw [readDisplay, readDisplay, readFlag_deepUpdate hus hn, readFlag_deepUpdate hus hc, readFlag_deepUpdate hus hn',
    readFlag_deepUpdate hus hc']

def displayOf : Option Entries → Except SettingsError Display
  | none => .error .displayShape
  | some es => readDisplay es

theorem displayOf_overlaid {es : Entries} {display : Display} (h : readDisplay es = .ok display) {v : Option Value}
    (hv : ∀ us, v.bind Value.entries? = some us → Distinct us) :
    displayOf (overlaid es v) = displayOf (overlaid (shown display) v) := by
  cases v with
  | none => exact h.trans (readDisplay_shown display).symm
  | some v =>
      rw [overlaid, overlaid]
      cases hus : v.entries? with
      | none => rfl
      | some us => exact readDisplay_deepUpdate (hv us hus) h

theorem ofEntries_eq (data : Entries) : ofEntries data = do
    let prelude ← preludeOf (section? data "prelude")
    let display ← displayOf (section? data "display")
    return { prelude, display } := by
  unfold ofEntries
  cases section? data "prelude" with
  | none => rfl
  | some es =>
      cases section? data "display" with
      | none => rfl
      | some fs =>
          cases hn : readFlag fs "normalise" true <;> cases hc : readFlag fs "show_constraints" false <;>
            simp [preludeOf, displayOf, readDisplay, hn, hc, bind, Except.bind, pure, Except.pure]

theorem ofEntries_ok_iff {data : Entries} {s : Settings} : ofEntries data = .ok s ↔
    preludeOf (section? data "prelude") = .ok s.prelude ∧ displayOf (section? data "display") = .ok s.display := by
  obtain ⟨prelude, display⟩ := s
  rw [ofEntries_eq]
  cases preludeOf (section? data "prelude") <;> cases displayOf (section? data "display") <;>
    simp [bind, Except.bind, pure, Except.pure]

theorem exists_sections {data : Entries} {s : Settings} (h : ofEntries data = .ok s) :
    ∃ es fs, section? data "prelude" = some es ∧ section? data "display" = some fs ∧
      readPrelude es = .ok s.prelude ∧ readDisplay fs = .ok s.display := by
  obtain ⟨hprelude, hdisplay⟩ := ofEntries_ok_iff.1 h
  cases hes : section? data "prelude" with
  | none => rw [hes] at hprelude; cases hprelude
  | some es =>
      cases hfs : section? data "display" with
      | none => rw [hfs] at hdisplay; cases hdisplay
      | some fs =>
          rw [hes] at hprelude
          rw [hfs] at hdisplay
          exact ⟨es, fs, rfl, rfl, hprelude, hdisplay⟩

theorem prelude_toEntries (s : Settings) : section? s.toEntries "prelude" = some (written s.prelude) :=
  (section?_eq _ _).trans (sectionOf_of_entries? rfl)

theorem display_toEntries (s : Settings) : section? s.toEntries "display" = some (shown s.display) :=
  (section?_eq _ _).trans (sectionOf_of_entries? rfl)

theorem ofEntries_toEntries {data : Entries} {s : Settings} (h : ofEntries data = .ok s) :
    ofEntries s.toEntries = .ok s := by
  obtain ⟨es, _, _, _, hes, _⟩ := exists_sections h
  rw [ofEntries_ok_iff, prelude_toEntries, display_toEntries]
  exact ⟨readPrelude_written hes, readDisplay_shown s.display⟩

/-- Overrides have the same effect on data and on what is written for the settings that the data give. -/
theorem ofEntries_deepUpdate {data overrides : Entries} {s : Settings} (h : ofEntries data = .ok s)
    (ho : Keyed overrides) : ofEntries (deepUpdate data overrides) = ofEntries (deepUpdate s.toEntries overrides) := by
  obtain ⟨es, fs, hes, hfs, hprelude, hdisplay⟩ := exists_sections h
  have hdistinct : ∀ us, (get? overrides (.text "display")).bind Value.entries? = some us → Distinct us := by
    intro us hus
    obtain ⟨v, hv, hus⟩ := Option.bind_eq_some_iff.1 hus
    exact ho.of_get? hv hus
  rw [ofEntries_eq, section?_deepUpdate ho hes, section?_deepUpdate ho hfs, preludeOf_overlaid hprelude,
    displayOf_overlaid hdisplay hdistinct]
  rw [ofEntries_eq, section?_deepUpdate ho (prelude_toEntries s), section?_deepUpdate ho (display_toEntries s)]

theorem merge_eq {data overrides : Entries} {s : Settings} (h : ofEntries data = .ok s) (ho : Keyed overrides) :
    s.merge overrides = ofEntries (deepUpdate data overrides) := by
  rw [merge]
  split
  · rename_i hempty
    rw [List.isEmpty_iff.1 hempty, deepUpdate, h]
  · rw [ofEntries_deepUpdate h ho]

/-- The outcomes of merging one override after another, up to the first failure. -/
def mergeTrail (s : Settings) : List Entries → List (Except SettingsError Settings)
  | [] => []
  | overrides :: rest =>
      match s.merge overrides with
      | .ok s' => .ok s' :: mergeTrail s' rest
      | .error e => [.error e]

def loadTrail (data : Entries) : List Entries → List (Except SettingsError Settings)
  | [] => []
  | overrides :: rest =>
      match ofEntries (deepUpdate data overrides) with
      | .ok s => .ok s :: loadTrail (deepUpdate data overrides) rest
      | .error e => [.error e]

/-- Step by step, merging into the settings of some data gives the settings or the error that the data give with the
overrides put into them; and settings are read back from what is written for them. -/
theorem mergeTrail_eq_loadTrail {data : Entries} {s : Settings} (h : ofEntries data = .ok s) {os : List Entries}
    (hos : ∀ o ∈ os, Keyed o) : s.mergeTrail os = loadTrail data os ∧ ofEntries s.toEntries = .ok s := by
  refine ⟨?_, ofEntries_toEntries h⟩
  induction os generalizing data s with
  | nil => rfl
  | cons o os ih =>
      obtain ⟨ho, hos⟩ := List.forall_mem_cons.1 hos
      rw [mergeTrail, loadTrail, merge_eq h ho]
      cases hnext : ofEntries (deepUpdate data o) with
      | error e => rfl
      | ok s' => exact congrArg _ (ih hnext hos)

/-- Data without texts and sections. A merge goes on from the text `None` and from a display with both flags, and the
second override is refused. -/
theorem mergeTrail_eq_loadTrail_defaults :
    let data : Entries := [(.text "prelude", .dict [(.text "n", .null)]), (.text "display", .bool false)]
    let s : Settings := ⟨[("n", .con "None" [])], {}⟩
    let s' : Settings := ⟨[("n", .con "None" []), ("m", .con "True" [])], {}⟩
    let added : Entries := [(.text "prelude", .dict [(.text "m", .bool true)])]
    let refused : Entries := [(.text "display", .int 1)]
    ofEntries data = .ok s ∧ (∀ o ∈ [added, refused], Keyed o) ∧
      s.mergeTrail [added, refused] = [.ok s', .error .displayShape] ∧
      loadTrail data [added, refused] = [.ok s', .error .displayShape] ∧ ofEntries s.toEntries = .ok s := by
  intro data s s' added refused
  have hnull : Ty.parse Value.null.render = .ok (.con "None" []) := by decide +kernel
  have hnone : Ty.parse (Value.text "None").render = .ok (.con "None" []) := by decide +kernel
  have htrue : Ty.parse (Value.bool true).render = .ok (.con "True" []) := by decide +kernel
  have htext : Ty.parse (Value.text "True").render = .ok (.con "True" []) := by decide +kernel
  have hdata : ofEntries data = .ok s := by
    refine ofEntries_ok_iff.2 ⟨?_, rfl⟩
    have hsection : section? data "prelude" = some [(.text "n", .null)] := rfl
    simp [hsection, preludeOf, readPrelude, Value.isTooLong, hnull, s]
  have hkeyed : ∀ o ∈ [added, refused], Keyed o := by
    have hint : (Value.int 1).entries? = none := rfl
    simp [added, refused, Keyed, Distinct, hint]
  have hfirst : s.merge added = .ok s' := by
    change ofEntries (deepUpdate s.toEntries added) = .ok s'
    refine ofEntries_ok_iff.2 ⟨?_, rfl⟩
    have hsection : section? (deepUpdate s.toEntries added) "prelude" =
      some [(.text "n", .text "None"), (.text "m", .bool true)] := rfl
    simp [hsection, preludeOf, readPrelude, Value.isTooLong, hnone, htrue, s']
  have hsecond : s'.merge refused = .error .displayShape := by
    have hsection : section? (deepUpdate s'.toEntries refused) "prelude" =
      some [(.text "n", .text "None"), (.text "m", .text "True")] := rfl
    have hread : readPrelude [(.text "n", .text "None"), (.text "m", .text "True")] = .ok s'.prelude := by
      simp [readPrelude, Value.isTooLong, hnone, htext, s']
    change ofEntries (deepUpdate s'.toEntries refused) = _
    rw [ofEntries, hsection]
    change readPrelude _ >>= _ = _
    rw [hread]
    rfl
  have hmerged : s.mergeTrail [added, refused] = [.ok s', .error .displayShape] := by
    simp only [mergeTrail, hfirst, hsecond]
  obtain ⟨htrail, hback⟩ := mergeTrail_eq_loadTrail hdata hkeyed
  exact ⟨hdata, hkeyed, hmerged, htrail.symm.trans hmerged, hback⟩

end Settings

end Monotype
