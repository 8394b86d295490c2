import Fractura.Lib.Group
import Mathlib.Data.List.Rotate
import Mathlib.Data.List.TakeWhile

/-!
# The first rows of a list whose order is open

A query without `ORDER BY` may return its rows in any order, one with `ORDER BY` may order its ties in
any way, and `LIMIT n` keeps the first `n` rows.  Which rows can be kept?

* `exists_rotate_cons`     without an order: every one, as some rotation of the list starts with it;
* `mem_take_of_few`,
  `few_of_mem_take`        with an order: those with fewer than `n` rows that must come before them;
* `map_take_of_filter`     a filter that keeps the first `n` rows of a sorted list does not change
                           their keys;
* `eq_key_last`            two orders of the ties keep the same first rows, but for the last key.
-/

namespace Cut

section
variable {α : Type*}

theorem exists_rotate_cons {l : List α} {x : α} (h : x ∈ l) : ∃ k l', l.rotate k = x :: l' := by
  obtain ⟨s, t, rfl⟩ := List.append_of_mem h
  exact ⟨s.length, t ++ s, List.rotate_append_length_eq s (x :: t)⟩

variable {r : α → α → Prop} [DecidableRel r] {n : Nat} {x : α}

/-- the sort is stable: a row that comes first is put before its ties -/
theorem mem_take_of_few {l : List α} (h : (l.filter fun y => decide (¬ r x y)).length < n) :
    x ∈ ((x :: l).insertionSort r).take n := by
  let before := (l.insertionSort r).takeWhile fun y => decide (¬ r x y)
  have hlen : before.length < n := by
    refine lt_of_le_of_lt ?_ h
    have hsub : before.Sublist (l.insertionSort r) := List.takeWhile_sublist _
    have hall : before.filter (fun y => decide (¬ r x y)) = before :=
      List.filter_eq_self.mpr fun y hy =>
        List.mem_takeWhile_imp (p := fun y => decide (¬ r x y)) hy
    rw [← hall, ← ((List.perm_insertionSort r l).filter _).length_eq]
    exact (hsub.filter _).length_le
  rw [List.insertionSort_cons_eq_take_drop, List.take_append]
  refine List.mem_append_right _ ?_
  obtain ⟨m, hm⟩ : ∃ m, n - before.length = m + 1 := ⟨n - before.length - 1, by omega⟩
  show x ∈ List.take (n - before.length) _
  rw [hm, List.take_succ_cons]
  exact List.mem_cons_self

theorem few_of_mem_take {p : List α} (hp : p.Pairwise r) (hx : r x x) (h : x ∈ p.take n) :
    (p.filter fun y => decide (¬ r x y)).length < n := by
  induction p generalizing n with
  | nil => simp at h
  | cons y p ih =>
    obtain ⟨hy, hp⟩ := List.pairwise_cons.mp hp
    cases n with
    | zero => simp at h
    | succ n =>
      rw [List.take_succ_cons] at h
      rcases List.mem_cons.mp h with rfl | h
      · have hnil : (x :: p).filter (fun y => decide (¬ r x y)) = [] := by
          refine List.filter_eq_nil_iff.mpr fun z hz => ?_
          rcases List.mem_cons.mp hz with rfl | hz
          · simp [hx]
          · simp [hy z hz]
        rw [hnil]
        exact Nat.succ_pos n
      · have hcons : ((y :: p).filter fun z => decide (¬ r x z)).length ≤
            (p.filter fun z => decide (¬ r x z)).length + 1 := by
          rw [← List.countP_eq_length_filter, ← List.countP_eq_length_filter, List.countP_cons]
          split <;> omega
        have := ih hp h
        omega

end

/-- two lists in the order of their keys, the second one with the rows of the first that a filter
keeps -/
theorem map_take_of_filter {α κ : Type*} {key : α → κ} {le : κ → κ → Prop}
    (hanti : ∀ a b, le a b → le b a → a = b) {p : α → Bool} {t t' : List α}
    (ht : t.Pairwise fun a b => le (key a) (key b))
    (ht' : t'.Pairwise fun a b => le (key a) (key b)) (hperm : t'.Perm (t.filter p)) {n : Nat}
    (hp : ∀ x ∈ t.take n, p x = true) : (t'.take n).map key = (t.take n).map key := by
  have hsplit : t.filter p = t.take n ++ (t.drop n).filter p := by
    conv_lhs => rw [← List.take_append_drop n t]
    rw [List.filter_append, List.filter_eq_self.mpr hp]
  have hkeys : t'.map key = (t.take n).map key ++ ((t.drop n).filter p).map key := by
    rw [← List.map_append, ← hsplit]
    refine List.Perm.eq_of_pairwise (fun a b _ _ => hanti a b) (List.pairwise_map.mpr ht') ?_
      (hperm.map key)
    exact List.pairwise_map.mpr (ht.sublist List.filter_sublist)
  rw [List.map_take, hkeys]
  rcases Nat.lt_or_ge n t.length with hn | hn
  · have hlen : ((t.take n).map key).length = n := by
      rw [List.length_map, List.length_take, Nat.min_eq_left hn.le]
    rw [List.take_append_of_le_length hlen.ge, List.take_of_length_le hlen.le]
  · have hnil : (t.drop n).filter p = [] := by rw [List.drop_of_length_le hn, List.filter_nil]
    have hlen : ((t.take n).map key).length ≤ n := by
      rw [List.length_map]
      exact List.length_take_le n t
    rw [hnil, List.map_nil, List.append_nil, List.take_of_length_le hlen]

/-- a row that the second list does not have among its first ones has the key at which these end -/
theorem eq_key_last {α κ : Type*} {key : α → κ} {le : κ → κ → Prop} (hrefl : ∀ a, le a a)
    (hanti : ∀ a b, le a b → le b a → a = b) {t t' : List α} {n : Nat}
    (ht' : t'.Pairwise fun a b => le (key a) (key b))
    (hkeys : (t'.take n).map key = (t.take n).map key) {a : α} (ha : a ∈ t.take n) (ha' : a ∈ t')
    (hno : a ∉ t'.take n) : ((t.take n).map key).getLast? = some (key a) := by
  rw [← List.take_append_drop n t'] at ht' ha'
  obtain ⟨hsorted, -, hcross⟩ := List.pairwise_append.mp ht'
  have hdrop : a ∈ t'.drop n := (List.mem_append.mp ha').resolve_left hno
  have hmem : key a ∈ (t'.take n).map key := hkeys ▸ List.mem_map_of_mem ha
  obtain ⟨b, hb, hba⟩ := List.mem_map.mp hmem
  obtain ⟨pre, x, hx⟩ := List.eq_nil_or_concat (t'.take n) |>.resolve_left (List.ne_nil_of_mem hb)
  rw [List.concat_eq_append] at hx
  rw [hx] at hb hsorted hcross
  -- the last key is before that of `a`, which comes later, and after that of `b`
  have hxa : le (key x) (key a) := hcross x (List.mem_append_right _ List.mem_cons_self) a hdrop
  have hax : le (key a) (key x) := by
    rw [← hba]
    rcases List.mem_append.mp hb with hb | hb
    · exact (List.pairwise_append.mp hsorted).2.2 b hb x List.mem_cons_self
    · rw [List.mem_singleton.mp hb]
      exact hrefl _
  rw [← hkeys, hx, List.map_append, List.map_singleton, List.getLast?_concat,
    hanti _ _ hax hxa]

end Cut
