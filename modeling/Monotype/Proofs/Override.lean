import Monotype.Override
import Monotype.Proofs.Entries

namespace Monotype

namespace Value

def find? (v : Value) (path : List String) : Option Value := path.foldlM Value.get? v

theorem find?_dict_cons (es : List (Value × Value)) (name : String) (rest : List String) :
    (dict es).find? (name :: rest) = (Entries.get? es (text name)).bind fun v => v.find? rest := rfl

end Value

namespace Override

open Entries (get? put)

/-- What stands under a name, where nothing counts as an empty dictionary. -/
def opened (es : List (Value × Value)) (name : String) : Value := (get? es (.text name)).getD (.dict [])

theorem find?_of_opened {es inner : List (Value × Value)} {name : String} (h : opened es name = .dict inner)
    {rest : List String} (hrest : rest ≠ []) :
    (Value.dict es).find? (name :: rest) = (Value.dict inner).find? rest := by
  rw [Value.find?_dict_cons]
  rw [opened] at h
  cases hv : get? es (.text name) with
  | some v =>
      rw [hv, Option.getD_some] at h
      rw [h, Option.bind_some]
  | none =>
      rw [hv, Option.getD_none] at h
      obtain ⟨part, parts, rfl⟩ := List.exists_cons_of_ne_nil hrest
      rw [← h]
      rfl

theorem get?_put_self (es : List (Value × Value)) (name : String) (w : Value) :
    get? (put es (.text name) w) (.text name) = some w := by
  have hexact := Value.exact_text name
  rw [Entries.get?_put hexact, if_pos ((hexact _).1.2 rfl)]

theorem get?_put_ne {name other : String} (hne : other ≠ name) (es : List (Value × Value)) (w : Value) :
    get? (put es (.text other) w) (.text name) = get? es (.text name) := by
  have hexact := Value.exact_text name
  rw [Entries.get?_put hexact, if_neg]
  intro h
  exact hne (Value.text.inj ((hexact _).1.1 h))

theorem opened_put (es : List (Value × Value)) (name : String) (w : Value) :
    opened (put es (.text name) w) name = w := by
  rw [opened, get?_put_self, Option.getD_some]

/-- The second mapping is the first one with a value set under a path. -/
inductive Sets (w : Value) : List (Value × Value) → List String → List (Value × Value) → Prop
  | leaf (es : List (Value × Value)) (name : String) : Sets w es [name] (put es (.text name) w)
  | inside {es name inner rest inner'} (hopened : opened es name = .dict inner) (h : Sets w inner rest inner') :
      Sets w es (name :: rest) (put es (.text name) (.dict inner'))

theorem Sets.ne_nil {w : Value} {es es' : List (Value × Value)} {p : List String} (h : Sets w es p es') : p ≠ [] := by
  cases h <;> simp

section

variable {key : String} {v : Except Error Value} {es es' inner : List (Value × Value)} {name part : String}
  {p rest : List String}

theorem insert_inside (h : opened es name = .dict inner) :
    insert key v es (name :: part :: rest) =
      (insert key v inner (part :: rest)).map fun inner' => put es (.text name) (.dict inner') := by
  rw [opened] at h
  rw [insert, h]
  · rfl
  · simp

theorem opened_of_insert (h : insert key v es (name :: part :: rest) = .ok es') :
    ∃ inner, opened es name = .dict inner := by
  rw [insert] at h
  · split at h
    next inner hinner => exact ⟨inner, hinner⟩
    next => cases h
  · simp

theorem insert_ok_iff (hp : p ≠ []) : insert key v es p = .ok es' ↔ ∃ w, v = .ok w ∧ Sets w es p es' := by
  induction p generalizing es es' with
  | nil => exact absurd rfl hp
  | cons name rest ih =>
      cases rest with
      | nil =>
          constructor
          · intro h
            cases v with
            | error e => cases h
            | ok w =>
                cases h
                exact ⟨w, rfl, .leaf es name⟩
          · rintro ⟨w, rfl, h⟩
            cases h with
            | leaf => rfl
            | inside _ h => exact absurd rfl h.ne_nil
      | cons part rest =>
          constructor
          · intro h
            obtain ⟨inner, hinner⟩ := opened_of_insert h
            rw [insert_inside hinner] at h
            cases hin : insert key v inner (part :: rest) with
            | error e => rw [hin] at h; cases h
            | ok inner' =>
                rw [hin] at h
                cases h
                obtain ⟨w, hw, hsets⟩ := (ih (List.cons_ne_nil part rest)).1 hin
                exact ⟨w, hw, .inside hinner hsets⟩
          · rintro ⟨w, hw, h⟩
            cases h with
            | inside hinner hsets =>
                rw [insert_inside hinner, (ih (List.cons_ne_nil part rest)).2 ⟨w, hw, hsets⟩]
                rfl

end

theorem Sets.find?_eq {w : Value} {es es' : List (Value × Value)} {p : List String} (h : Sets w es p es') :
    (Value.dict es').find? p = some w := by
  induction h with
  | leaf es name =>
      rw [Value.find?_dict_cons, get?_put_self]
      rfl
  | inside _ h ih => rw [find?_of_opened (opened_put _ _ _) h.ne_nil, ih]

/-- One of the paths begins with the other. -/
def Comparable (p q : List String) : Prop := p <+: q ∨ q <+: p

instance (p q : List String) : Decidable (Comparable p q) := inferInstanceAs (Decidable (_ ∨ _))

theorem comparable_nil (p : List String) : Comparable p [] := .inr List.nil_prefix

theorem comparable_cons {k l : String} {ps qs : List String} :
    Comparable (k :: ps) (l :: qs) ↔ k = l ∧ Comparable ps qs := by
  rw [Comparable, Comparable, List.cons_prefix_cons, List.cons_prefix_cons]
  grind

/-- Along the path both mappings have dictionaries or nothing, until they have the same. -/
inductive Agrees : List String → List (Value × Value) → List (Value × Value) → Prop
  | same {name es fs} (h : get? es (.text name) = get? fs (.text name)) (rest : List String) :
      Agrees (name :: rest) es fs
  | inside {name es fs inner inner' rest} (hes : opened es name = .dict inner) (hfs : opened fs name = .dict inner')
      (h : Agrees rest inner inner') : Agrees (name :: rest) es fs

namespace Agrees

variable {p q : List String} {es fs es' : List (Value × Value)} {w : Value}

theorem refl (hp : p ≠ []) (es : List (Value × Value)) : Agrees p es es := by
  obtain ⟨name, rest, rfl⟩ := List.exists_cons_of_ne_nil hp
  exact .same rfl rest

theorem ne_nil (h : Agrees p es fs) : p ≠ [] := by
  cases h <;> simp

theorem find?_eq (h : Agrees p es fs) : (Value.dict es).find? p = (Value.dict fs).find? p := by
  induction h with
  | same h rest => rw [Value.find?_dict_cons, Value.find?_dict_cons, h]
  | inside hes hfs h ih => rw [find?_of_opened hes h.ne_nil, find?_of_opened hfs h.ne_nil, ih]

theorem congr_left {name : String} {rest : List String} (h : Agrees (name :: rest) es fs)
    (heq : get? es' (.text name) = get? es (.text name)) : Agrees (name :: rest) es' fs := by
  cases h with
  | same h => exact .same (heq.trans h) rest
  | inside hes hfs h =>
      refine .inside ?_ hfs h
      rwa [opened, heq]

theorem exists_inner {name : String} {rest : List String} {inner : List (Value × Value)} (hrest : rest ≠ [])
    (h : Agrees (name :: rest) es fs) (hinner : opened es name = .dict inner) :
    ∃ inner', opened fs name = .dict inner' ∧ Agrees rest inner inner' := by
  cases h with
  | same h =>
      rw [opened, h] at hinner
      exact ⟨inner, hinner, .refl hrest inner⟩
  | inside hes hfs h =>
      rw [hinner] at hes
      cases hes
      exact ⟨_, hfs, h⟩

theorem of_incomparable (h : Agrees p es fs) (hset : Sets w es q es') (hpq : ¬ Comparable p q) : Agrees p es' fs := by
  induction hset generalizing p fs with
  | leaf es other =>
      obtain ⟨name, rest, rfl⟩ := List.exists_cons_of_ne_nil h.ne_nil
      refine h.congr_left (get?_put_ne ?_ es w)
      rintro rfl
      exact hpq (comparable_cons.2 ⟨rfl, comparable_nil rest⟩)
  | @inside es other inner parts inner' hinner _ ih =>
      obtain ⟨name, rest, rfl⟩ := List.exists_cons_of_ne_nil h.ne_nil
      by_cases hname : other = name
      · subst hname
        -- Neither path ends at this name, since then one would begin with the other.
        have hrest : ¬ Comparable rest parts := fun hc => hpq (comparable_cons.2 ⟨rfl, hc⟩)
        have hne : rest ≠ [] := by
          rintro rfl
          exact hrest (.inl List.nil_prefix)
        obtain ⟨_, hfs, hin⟩ := h.exists_inner hne hinner
        exact .inside (opened_put _ _ _) hfs (ih hin hrest)
      · exact h.congr_left (get?_put_ne hname es _)

theorem of_comparable (h : Agrees p es fs) (hset : Sets w es q es') (hpq : Comparable p q) :
    ∃ fs', Sets w fs q fs' ∧ Agrees p es' fs' := by
  induction hset generalizing p fs with
  | leaf es other =>
      -- The value takes the place of all that stood under the name, so both have the same there.
      obtain ⟨name, rest, rfl⟩ := List.exists_cons_of_ne_nil h.ne_nil
      obtain ⟨rfl, -⟩ := comparable_cons.1 hpq
      exact ⟨_, .leaf fs name, .same (by rw [get?_put_self, get?_put_self]) rest⟩
  | @inside es other inner parts inner' hinner hset ih =>
      obtain ⟨name, rest, rfl⟩ := List.exists_cons_of_ne_nil h.ne_nil
      obtain ⟨rfl, hrest⟩ := comparable_cons.1 hpq
      cases h with
      | same h =>
          have hfs : opened fs name = .dict inner := by rwa [opened, ← h]
          exact ⟨_, .inside hfs hset, .same (by rw [get?_put_self, get?_put_self]) rest⟩
      | inside hes hfs h =>
          rw [hinner] at hes
          cases hes
          obtain ⟨_, hset', hagrees⟩ := ih h hrest
          exact ⟨_, .inside hfs hset', .inside (opened_put _ _ _) (opened_put _ _ _) hagrees⟩

end Agrees

def touches (p : List String) (item : String) : Bool :=
  (Item.parse item).toOption.any fun i => decide (Comparable p i.path)

theorem Item.path_ne_nil {item : String} {i : Item} (h : Item.parse item = .ok i) : i.path ≠ [] := by
  rw [Item.parse] at h
  split at h
  · cases h
  · split at h
    · cases h
    · cases h
      assumption

theorem touches_iff {p : List String} {item : String} {i : Item} (h : Item.parse item = .ok i) :
    touches p item = true ↔ Comparable p i.path := by
  rw [touches, h]
  exact decide_eq_true_iff

section

variable {read : String → Except Literal.Error Value} {es es' fs : List (Value × Value)} {p : List String}
  {item : String} {items : List String}

theorem apply_ok_iff : apply read es item = .ok es' ↔
    ∃ i w, Item.parse item = .ok i ∧ valueOf read i.value = .ok w ∧ Sets w es i.path es' := by
  rw [apply]
  cases hi : Item.parse item with
  | error e => exact ⟨fun h => (nomatch h), fun ⟨_, _, h, _⟩ => (nomatch h)⟩
  | ok i =>
      refine (insert_ok_iff (Item.path_ne_nil hi)).trans ⟨?_, ?_⟩
      · rintro ⟨w, hw, hset⟩
        exact ⟨i, w, rfl, hw, hset⟩
      · rintro ⟨_, w, ⟨⟩, hw, hset⟩
        exact ⟨w, hw, hset⟩

theorem foldlM_cons_ok_iff : (item :: items).foldlM (apply read) es = .ok es' ↔
    ∃ mid, apply read es item = .ok mid ∧ items.foldlM (apply read) mid = .ok es' := by
  rw [List.foldlM_cons]
  cases apply read es item with
  | error e => exact ⟨fun h => (nomatch h), fun ⟨_, h, _⟩ => (nomatch h)⟩
  | ok mid => exact ⟨fun h => ⟨mid, rfl, h⟩, fun ⟨_, hmid, h⟩ => Except.ok.inj hmid ▸ h⟩

theorem Agrees.foldlM (h : Agrees p es fs) (hrun : items.foldlM (apply read) es = .ok es') :
    ∃ fs', (items.filter (touches p)).foldlM (apply read) fs = .ok fs' ∧ Agrees p es' fs' := by
  induction items generalizing es fs with
  | nil =>
      cases hrun
      exact ⟨fs, rfl, h⟩
  | cons item items ih =>
      obtain ⟨mid, hitem, hrest⟩ := foldlM_cons_ok_iff.1 hrun
      obtain ⟨i, w, hi, hw, hset⟩ := apply_ok_iff.1 hitem
      by_cases htouch : touches p item = true
      · obtain ⟨mid', hset', hagrees⟩ := h.of_comparable hset ((touches_iff hi).1 htouch)
        obtain ⟨fs', hfs', hends⟩ := ih hagrees hrest
        rw [List.filter_cons_of_pos htouch]
        exact ⟨fs', foldlM_cons_ok_iff.2 ⟨mid', apply_ok_iff.2 ⟨i, w, hi, hw, hset'⟩, hfs'⟩, hends⟩
      · rw [List.filter_cons_of_neg htouch]
        exact ih (h.of_incomparable hset fun hc => htouch ((touches_iff hi).2 hc)) hrest

theorem find?_of_untouched (hp : p ≠ []) (hrun : items.foldlM (apply read) es = .ok es')
    (hfree : ∀ item ∈ items, touches p item = false) : (Value.dict es').find? p = (Value.dict es).find? p := by
  obtain ⟨fs', hfs', hagrees⟩ := (Agrees.refl hp es).foldlM hrun
  have hnone : items.filter (touches p) = [] := by
    rw [List.filter_eq_nil_iff]
    intro item hmem
    rw [hfree item hmem]
    exact Bool.false_ne_true
  rw [hnone] at hfs'
  cases hfs'
  exact hagrees.find?_eq

end

/-- What is found under a path comes from the items whose paths are comparable with it, which are accepted by
themselves. The last of them decides it if it has just this path. -/
theorem parseAllWith_independent (read : String → Except Literal.Error Value) {items : List String}
    {es : List (Value × Value)} (h : parseAllWith read items = .ok es) {p : List String} (hp : p ≠ []) :
    (∃ fs, parseAllWith read (items.filter (touches p)) = .ok fs ∧
      (Value.dict es).find? p = (Value.dict fs).find? p) ∧
    ∀ before item after i, items = before ++ item :: after → Item.parse item = .ok i → i.path = p →
      (∀ later ∈ after, touches p later = false) →
      ∃ v, valueOf read i.value = .ok v ∧ (Value.dict es).find? p = some v := by
  constructor
  · obtain ⟨fs, hfs, hagrees⟩ := (Agrees.refl hp []).foldlM h
    exact ⟨fs, hfs, hagrees.find?_eq⟩
  · rintro before item after i rfl hi rfl hfree
    rw [parseAllWith, List.foldlM_append] at h
    cases hbefore : before.foldlM (apply read) [] with
    | error e => rw [hbefore] at h; cases h
    | ok start =>
        rw [hbefore] at h
        obtain ⟨mid, hitem, hafter⟩ := foldlM_cons_ok_iff.1 h
        obtain ⟨j, v, hj, hv, hset⟩ := apply_ok_iff.1 hitem
        cases hi.symm.trans hj
        exact ⟨v, hv, (find?_of_untouched hp hafter hfree).trans hset.find?_eq⟩

theorem parseAllWith_independent_nested :
    let read := Literal.read 100
    let items := ["a=\x7b\x7d", "a.b=2", "a.d=2", "a.b=1", "c=1"]
    let es := [(.text "a", .dict [(.text "b", .int 1), (.text "d", .int 2)]), (.text "c", .int 1)]
    parseAllWith read items = .ok es ∧ ["a", "b"] ≠ [] ∧
      (∃ fs, parseAllWith read ["a=\x7b\x7d", "a.b=2", "a.b=1"] = .ok fs ∧
        (Value.dict es).find? ["a", "b"] = (Value.dict fs).find? ["a", "b"]) ∧
      (∀ later ∈ ["c=1"], touches ["a", "b"] later = false) ∧
      ∃ v, valueOf read "1" = .ok v ∧ (Value.dict es).find? ["a", "b"] = some v := by
  intro read items es
  have hone : valueOf read "1" = .ok (.int 1) := rfl
  have htwo : valueOf read "2" = .ok (.int 2) := rfl
  have hrun : parseAllWith read items = .ok es := by
    refine foldlM_cons_ok_iff.2 ⟨_, apply_ok_iff.2 ⟨⟨"a", ["a"], "\x7b\x7d"⟩, .dict [], rfl, rfl, .leaf _ _⟩, ?_⟩
    refine foldlM_cons_ok_iff.2 ⟨_, apply_ok_iff.2 ⟨⟨"a.b", _, "2"⟩, _, rfl, htwo, .inside rfl (.leaf _ _)⟩, ?_⟩
    refine foldlM_cons_ok_iff.2 ⟨_, apply_ok_iff.2 ⟨⟨"a.d", _, "2"⟩, _, rfl, htwo, .inside rfl (.leaf _ _)⟩, ?_⟩
    refine foldlM_cons_ok_iff.2 ⟨_, apply_ok_iff.2 ⟨⟨"a.b", _, "1"⟩, _, rfl, hone, .inside rfl (.leaf _ _)⟩, ?_⟩
    exact foldlM_cons_ok_iff.2 ⟨_, apply_ok_iff.2 ⟨⟨"c", _, "1"⟩, _, rfl, hone, .leaf _ _⟩, rfl⟩
  have hp : ["a", "b"] ≠ [] := List.cons_ne_nil _ _
  have hfree : ∀ later ∈ ["c=1"], touches ["a", "b"] later = false := by
    intro later hlater
    rw [List.mem_singleton.1 hlater]
    rfl
  have h := parseAllWith_independent read hrun hp
  have hlast := h.2 ["a=\x7b\x7d", "a.b=2", "a.d=2"] "a.b=1" ["c=1"] ⟨"a.b", ["a", "b"], "1"⟩ rfl rfl rfl hfree
  exact ⟨hrun, hp, h.1, hfree, hlast⟩

end Override

end Monotype
