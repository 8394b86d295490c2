import Mathlib.Data.List.Sort
import Mathlib.Algebra.Ring.Int.Defs
import Mathlib.Algebra.BigOperators.Group.List.Basic
import Mathlib.Algebra.Order.BigOperators.Group.List
import Mathlib.Data.List.Perm.Subperm

/-!
# Windows of dated amounts

Items carry a day and an amount.  `Qualifies n w m l`: some of the items of `l`, at least `n` of
them, none above `m`, all within `w` days of one another, total more than `m`.

The law speaks of every choice of items.  It is decided by one choice for each window:
`greedy n v` is the largest total of at least `n` of the amounts `v` (`greedy_attained`,
`sum_le_greedy`), and `qualifies_iff` asks it of the windows that start at an item.  For items
that lie within `w` days as a whole one window is enough (`qualifies_iff_of_within`).  More items
never hurt (`Qualifies.mono`).
-/

namespace Window

/-! ## the best total of at least `n` amounts -/

/-- on amounts in descending order: the first `n`, and of the others the positive ones -/
def greedySorted : Nat → List Int → Int
  | _, [] => 0
  | 0, x :: v => max x 0 + greedySorted 0 v
  | n + 1, x :: v => x + greedySorted n v

def greedy (n : Nat) (v : List Int) : Int := greedySorted n (v.insertionSort fun a b => b ≤ a)

theorem sum_le_greedySorted {n : Nat} {v sub : List Int} (hs : v.Pairwise fun a b => b ≤ a)
    (h : sub.Sublist v) (hn : n ≤ sub.length) : sub.sum ≤ greedySorted n v := by
  induction v generalizing n sub with
  | nil =>
    rw [List.sublist_nil.mp h]
    cases n <;> exact le_refl _
  | cons x v ih =>
    obtain ⟨hx, hv⟩ := List.pairwise_cons.mp hs
    cases n with
    | zero =>
      show sub.sum ≤ max x 0 + greedySorted 0 v
      rcases List.sublist_cons_iff.mp h with h | ⟨r, rfl, hr⟩
      · have := ih hv h (Nat.zero_le _)
        omega
      · have := ih hv hr (Nat.zero_le _)
        rw [List.sum_cons]
        omega
    | succ n =>
      show sub.sum ≤ x + greedySorted n v
      rcases List.sublist_cons_iff.mp h with h | ⟨r, rfl, hr⟩
      · -- the first amount is left out: trade the first chosen one for it
        cases sub with
        | nil => exact absurd hn (by simp)
        | cons y r =>
          have hy : y ≤ x := hx y (h.subset List.mem_cons_self)
          have hsum := ih hv (List.sublist_of_cons_sublist h)
            (show n ≤ r.length by rw [List.length_cons] at hn; omega)
          rw [List.sum_cons]
          omega
      · have hsum := ih hv hr (show n ≤ r.length by rw [List.length_cons] at hn; omega)
        rw [List.sum_cons]
        omega

theorem greedySorted_attained {n : Nat} {v : List Int} (hn : n ≤ v.length) :
    ∃ sub : List Int, sub.Sublist v ∧ n ≤ sub.length ∧ sub.sum = greedySorted n v := by
  induction v generalizing n with
  | nil =>
    refine ⟨[], List.Sublist.refl _, hn, ?_⟩
    cases n <;> rfl
  | cons x v ih =>
    cases n with
    | zero =>
      obtain ⟨sub, hsub, -, hsum⟩ := ih (Nat.zero_le _)
      by_cases hx : 0 ≤ x
      · refine ⟨x :: sub, hsub.cons_cons x, Nat.zero_le _, ?_⟩
        rw [List.sum_cons, hsum, greedySorted, max_eq_left hx]
      · refine ⟨sub, hsub.cons x, Nat.zero_le _, ?_⟩
        rw [hsum, greedySorted, max_eq_right (by omega), zero_add]
    | succ n =>
      obtain ⟨sub, hsub, hlen, hsum⟩ := ih (show n ≤ v.length by rw [List.length_cons] at hn; omega)
      refine ⟨x :: sub, hsub.cons_cons x, by rw [List.length_cons]; omega, ?_⟩
      rw [List.sum_cons, hsum, greedySorted]

/-- **No choice of at least `n` amounts has a larger total.** -/
theorem sum_le_greedy {n : Nat} {v sub : List Int} (h : sub.Subperm v) (hn : n ≤ sub.length) :
    sub.sum ≤ greedy n v := by
  obtain ⟨r, hperm, hsub⟩ := h.trans (List.perm_insertionSort (fun a b => b ≤ a) v).symm.subperm
  rw [← hperm.sum_eq]
  refine sum_le_greedySorted ?_ hsub (by rw [hperm.length_eq]; exact hn)
  exact List.pairwise_insertionSort (fun a b : Int => b ≤ a) v

/-- **Some choice has that total.** -/
theorem greedy_attained {n : Nat} {v : List Int} (hn : n ≤ v.length) :
    ∃ sub : List Int, sub.Subperm v ∧ n ≤ sub.length ∧ sub.sum = greedy n v := by
  have hperm := List.perm_insertionSort (fun a b : Int => b ≤ a) v
  obtain ⟨sub, hsub, hlen, hsum⟩ := greedySorted_attained
    (show n ≤ (v.insertionSort fun a b => b ≤ a).length by rw [hperm.length_eq]; exact hn)
  exact ⟨sub, hsub.subperm.trans hperm.subperm, hlen, hsum⟩

/-! ## windows -/

section
variable {α : Type*} (day val : α → Int)

def Qualifies (n : Nat) (w m : Int) (l : List α) : Prop :=
  ∃ sub : List α, sub.Subperm l ∧ n ≤ sub.length ∧ (∀ x ∈ sub, val x ≤ m) ∧
    (∀ x ∈ sub, ∀ y ∈ sub, day y - day x ≤ w) ∧ m < (sub.map val).sum

/-- the items that are not above `m` -/
def small (m : Int) (l : List α) : List α := l.filter fun x => decide (val x ≤ m)

/-- the items of the `w` days from `d` on -/
def window (w d : Int) (l : List α) : List α :=
  l.filter fun x => decide (d ≤ day x ∧ day x ≤ d + w)

/-- the small items of a list suffice -/
def Enough (n : Nat) (m : Int) (l : List α) : Prop :=
  n ≤ (small val m l).length ∧ m < greedy n ((small val m l).map val)

instance (n : Nat) (m : Int) (l : List α) : Decidable (Enough val n m l) := by
  unfold Enough; infer_instance

variable {day val} {n : Nat} {w m : Int} {l : List α}

theorem Qualifies.mono {l' : List α} (h : Qualifies day val n w m l) (hl : l.Subperm l') :
    Qualifies day val n w m l' := by
  obtain ⟨sub, hsub, hrest⟩ := h
  exact ⟨sub, hsub.trans hl, hrest⟩

theorem exists_subperm_map {v : List Int} (h : v.Subperm (l.map val)) :
    ∃ sub : List α, sub.Sublist l ∧ (sub.map val).Perm v := by
  obtain ⟨r, hperm, hsub⟩ := h
  obtain ⟨sub, hs, rfl⟩ := List.sublist_map_iff.mp hsub
  exact ⟨sub, hs, hperm⟩

/-- **Items within `w` days of one another qualify when the small ones suffice.** -/
theorem qualifies_iff_of_within (h : ∀ x ∈ l, ∀ y ∈ l, day y - day x ≤ w) :
    Qualifies day val n w m l ↔ Enough val n m l := by
  refine ⟨fun hq => ?_, fun he => ?_⟩
  · obtain ⟨sub, hsub, hlen, hval, -, hsum⟩ := hq
    have hsmall : sub.Subperm (small val m l) := by
      have hfil := hsub.filter (fun x => decide (val x ≤ m))
      rwa [List.filter_eq_self.mpr fun x hx => decide_eq_true (hval x hx)] at hfil
    have hlen' : n ≤ (sub.map val).length := by rw [List.length_map]; exact hlen
    obtain ⟨r, hperm, hr⟩ := hsmall
    have hvals : (sub.map val).Subperm ((small val m l).map val) :=
      ⟨r.map val, hperm.map val, hr.map val⟩
    refine ⟨?_, lt_of_lt_of_le hsum (sum_le_greedy hvals hlen')⟩
    rw [← hperm.length_eq] at hlen
    exact le_trans hlen hr.length_le
  · obtain ⟨hlen, hsum⟩ := he
    obtain ⟨v, hv, hvlen, hvsum⟩ := greedy_attained
      (show n ≤ ((small val m l).map val).length by rw [List.length_map]; exact hlen)
    obtain ⟨sub, hsub, hperm⟩ := exists_subperm_map hv
    have hmem : ∀ x ∈ sub, x ∈ l ∧ val x ≤ m := by
      intro x hx
      obtain ⟨h1, h2⟩ := List.mem_filter.mp (hsub.subset hx)
      exact ⟨h1, of_decide_eq_true h2⟩
    refine ⟨sub, hsub.subperm.trans List.filter_sublist.subperm, ?_, fun x hx => (hmem x hx).2,
      fun x hx y hy => h x (hmem x hx).1 y (hmem y hy).1, ?_⟩
    · rw [← List.length_map, hperm.length_eq]
      exact hvlen
    · rw [hperm.sum_eq, hvsum]
      exact hsum

/-- **The law is decided by the windows that start at an item.** -/
theorem qualifies_iff (hn : 0 < n) :
    Qualifies day val n w m l ↔ ∃ x ∈ l, Enough val n m (window day w (day x) l) := by
  have hwin (d : Int) : ∀ x ∈ window day w d l, ∀ y ∈ window day w d l, day y - day x ≤ w := by
    intro x hx y hy
    have h1 := of_decide_eq_true (List.mem_filter.mp hx).2
    have h2 := of_decide_eq_true (List.mem_filter.mp hy).2
    omega
  refine ⟨fun hq => ?_, fun he => ?_⟩
  · obtain ⟨sub, hsub, hlen, hval, hday, hsum⟩ := hq
    -- the window starts at the earliest of the chosen items
    have hne : sub ≠ [] := by
      intro h
      rw [h, List.length_nil] at hlen
      omega
    obtain ⟨x, hx, hmin⟩ : ∃ x ∈ sub, ∀ y ∈ sub, day x ≤ day y := by
      obtain ⟨d, hd⟩ : ∃ d, (sub.map day).min? = some d :=
        Option.isSome_iff_exists.mp (by simpa [List.isSome_min?_iff] using hne)
      obtain ⟨hmem, hle⟩ := List.min?_eq_some_iff.mp hd
      obtain ⟨x, hx, rfl⟩ := List.mem_map.mp hmem
      exact ⟨x, hx, fun y hy => hle _ (List.mem_map_of_mem hy)⟩
    refine ⟨x, hsub.subset hx, (qualifies_iff_of_within (hwin (day x))).mp
      ⟨sub, ?_, hlen, hval, hday, hsum⟩⟩
    have hfil := hsub.filter (fun y => decide (day x ≤ day y ∧ day y ≤ day x + w))
    rwa [List.filter_eq_self.mpr] at hfil
    intro y hy
    have h1 := hmin y hy
    have h2 := hday x hx y hy
    exact decide_eq_true (by omega)
  · obtain ⟨x, -, he⟩ := he
    have hq := (qualifies_iff_of_within (hwin (day x))).mpr he
    exact hq.mono List.filter_sublist.subperm

end

end Window
