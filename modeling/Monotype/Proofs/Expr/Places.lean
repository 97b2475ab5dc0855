import Monotype.Expr.Token
import Mathlib.Data.List.DropRight

namespace Monotype

namespace Position

theorem after_cons (p : Position) (c : Char) (cs : List Char) : p.after (c :: cs) = (p.next c).after cs := rfl

theorem after_append (p : Position) (cs ds : List Char) : p.after (cs ++ ds) = (p.after cs).after ds :=
  List.foldl_append

end Position

namespace Text

/-- The place behind a text: one line more than it has line feeds, one column more than follow the last of them. -/
def place (cs : List Char) : Position :=
  ⟨cs.count '\n' + 1, (cs.rtakeWhile (· ≠ '\n')).length + 1⟩

theorem place_concat (cs : List Char) (c : Char) : place (cs ++ [c]) = (place cs).next c := by
  by_cases hc : c = '\n'
  · subst hc
    simp [place, Position.next]
  · have hcount : [c].count '\n' = 0 := by simp [hc]
    simp [place, Position.next, hc, hcount]

theorem after_place (before cs : List Char) : (place before).after cs = place (before ++ cs) := by
  induction cs generalizing before with
  | nil => rw [List.append_nil]; rfl
  | cons c cs ih => rw [Position.after_cons, ← place_concat, ih, List.append_assoc, List.singleton_append]

def offsetAt : List Char → Nat → Nat → Nat
  | _, 0, column => column
  | [], _ + 1, _ => 0
  | c :: cs, lines + 1, column =>
      (if c = '\n' then offsetAt cs lines column else offsetAt cs (lines + 1) column) + 1

def offset (cs : List Char) (p : Position) : Nat := offsetAt cs (p.line - 1) (p.column - 1)

theorem rtakeWhile_cons_of_mem {cs : List Char} (h : '\n' ∈ cs) (c : Char) :
    (c :: cs).rtakeWhile (· ≠ '\n') = cs.rtakeWhile (· ≠ '\n') := by
  have hlen : (cs.reverse.takeWhile (· ≠ '\n')).length ≠ cs.reverse.length := by
    intro heq
    have hall := List.takeWhile_eq_self_iff.1 ((List.takeWhile_prefix _).eq_of_length heq)
    simpa using hall '\n' (List.mem_reverse.2 h)
  rw [List.rtakeWhile, List.rtakeWhile, List.reverse_cons, List.takeWhile_append, if_neg hlen]

theorem rtakeWhile_cons_of_not_mem {cs : List Char} (h : '\n' ∉ cs) (c : Char) :
    (c :: cs).rtakeWhile (· ≠ '\n') = if c = '\n' then cs else c :: cs := by
  have hall : cs.reverse.takeWhile (· ≠ '\n') = cs.reverse := by
    rw [List.takeWhile_eq_self_iff]
    intro d hd
    have hne : d ≠ '\n' := fun hline => h (hline ▸ List.mem_reverse.1 hd)
    simp [hne]
  rw [List.rtakeWhile, List.reverse_cons, List.takeWhile_append, hall, if_pos rfl]
  by_cases hc : c = '\n' <;> simp [hc]

theorem offsetAt_place (cs ds : List Char) :
    offsetAt (cs ++ ds) (cs.count '\n') (cs.rtakeWhile (· ≠ '\n')).length = cs.length := by
  induction cs with
  | nil => cases ds <;> rfl
  | cons c cs ih =>
      by_cases hmem : '\n' ∈ cs
      · obtain ⟨n, hn⟩ := Nat.exists_eq_succ_of_ne_zero (List.count_pos_iff.2 hmem).ne'
        rw [rtakeWhile_cons_of_mem hmem]
        by_cases hc : c = '\n' <;> simp_all [offsetAt]
      · have hcount : cs.count '\n' = 0 := List.count_eq_zero.2 hmem
        rw [rtakeWhile_cons_of_not_mem hmem]
        by_cases hc : c = '\n' <;> simp [offsetAt, hcount, hc]

/-- Lines and columns lose nothing: the place behind the first characters of a text tells how many they are. -/
theorem offset_place (cs ds : List Char) : offset (cs ++ ds) (place cs) = cs.length := by
  rw [offset, place, Nat.add_sub_cancel, Nat.add_sub_cancel, offsetAt_place]

end Text

end Monotype
