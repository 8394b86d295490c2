import Mathlib.Data.List.Infix

/-!
# Pieces joined by a separator

* `Crosses c k ps`      the text `k` runs over the end of a piece, the separator and into the pieces
                        after it;
* `infix_intercalate`   so a text occurs in the joined pieces when it occurs in one of them or crosses;
* `not_crosses`         a text without the separator does not cross;
* `cuts`                the ways to cut a text at a separator.
-/

namespace Join

variable {α : Type*} {c : α} {k u v a b r : List α} {ps : List (List α)}

/-- `k` starts in a piece and goes on in the joined pieces after it -/
def Crosses (c : α) (k : List α) : List (List α) → Prop
  | a :: b :: ps =>
    (∃ u v, k = u ++ c :: v ∧ u <:+ a ∧ v <+: [c].intercalate (b :: ps)) ∨ Crosses c k (b :: ps)
  | _ => False

theorem crosses_cons : Crosses c k (a :: b :: ps) ↔
    (∃ u v, k = u ++ c :: v ∧ u <:+ a ∧ v <+: [c].intercalate (b :: ps)) ∨
      Crosses c k (b :: ps) := Iff.rfl

theorem not_crosses (hk : c ∉ k) : ¬ Crosses c k ps := by
  induction ps with
  | nil => exact id
  | cons a ps ih =>
    cases ps with
    | nil => exact id
    | cons b ps =>
      rw [crosses_cons, not_or]
      refine ⟨?_, ih⟩
      rintro ⟨u, v, rfl, -, -⟩
      exact hk (List.mem_append_right u List.mem_cons_self)

theorem prefix_append_sep :
    v <+: b ++ c :: r ↔ v <+: b ∨ ∃ w, v = b ++ c :: w ∧ w <+: r := by
  refine ⟨fun h => ?_, fun h => ?_⟩
  · obtain ⟨t, ht⟩ := h
    rcases List.append_eq_append_iff.mp ht with ⟨d, hb, -⟩ | ⟨d, hv, hd⟩
    · exact Or.inl ⟨d, hb.symm⟩
    · rcases List.prefix_cons_iff.mp ⟨t, hd.symm⟩ with rfl | ⟨w, rfl, hw⟩
      · exact Or.inl ⟨[], by rw [hv, List.append_nil, List.append_nil]⟩
      · exact Or.inr ⟨w, hv, hw⟩
  · rcases h with h | ⟨w, rfl, hw⟩
    · exact h.trans (List.prefix_append b _)
    · rw [List.prefix_append_right_inj, List.cons_prefix_cons]
      exact ⟨rfl, hw⟩

theorem prefix_intercalate_cons_cons : v <+: [c].intercalate (a :: b :: ps) ↔
    v <+: a ∨ ∃ w, v = a ++ c :: w ∧ w <+: [c].intercalate (b :: ps) := by
  rw [List.intercalate_cons_cons, List.append_assoc, List.singleton_append, prefix_append_sep]

theorem prefix_intercalate_of_not_mem (hv : c ∉ v) :
    v <+: [c].intercalate (a :: ps) ↔ v <+: a := by
  cases ps with
  | nil => rw [List.intercalate_singleton]
  | cons b ps =>
    rw [prefix_intercalate_cons_cons]
    refine ⟨fun h => ?_, Or.inl⟩
    rcases h with h | ⟨w, rfl, -⟩
    · exact h
    · exact absurd (List.mem_append_right a List.mem_cons_self) hv

/-- **A text in two pieces**: in one of them, or over the separator. -/
theorem infix_append_sep : k <:+: a ++ c :: r ↔ k <:+: a ∨ k <:+: r ∨
    ∃ u v, k = u ++ c :: v ∧ u <:+ a ∧ v <+: r := by
  rw [List.infix_append_iff, List.infix_cons_iff]
  refine ⟨fun h => ?_, fun h => ?_⟩
  · rcases h with h | (h | h) | ⟨u, v, rfl, hu, hv⟩
    · exact Or.inl h
    · rcases List.prefix_cons_iff.mp h with rfl | ⟨w, rfl, hw⟩
      · exact Or.inl (List.nil_infix)
      · exact Or.inr (Or.inr ⟨[], w, rfl, List.nil_suffix, hw⟩)
    · exact Or.inr (Or.inl h)
    · rcases List.prefix_cons_iff.mp hv with rfl | ⟨w, rfl, hw⟩
      · rw [List.append_nil]
        exact Or.inl hu.isInfix
      · exact Or.inr (Or.inr ⟨u, w, rfl, hu, hw⟩)
  · rcases h with h | h | ⟨u, v, rfl, hu, hv⟩
    · exact Or.inl h
    · exact Or.inr (Or.inl (Or.inr h))
    · exact Or.inr (Or.inr ⟨u, c :: v, rfl, hu, List.cons_prefix_cons.mpr ⟨rfl, hv⟩⟩)

/-- **What the joined pieces contain.** -/
theorem infix_intercalate (hk : k ≠ []) :
    k <:+: [c].intercalate ps ↔ (∃ p ∈ ps, k <:+: p) ∨ Crosses c k ps := by
  induction ps with
  | nil =>
    rw [List.intercalate_nil, List.infix_nil]
    refine iff_of_false hk ?_
    rintro (⟨p, hp, -⟩ | h)
    · cases hp
    · exact h
  | cons a ps ih =>
    cases ps with
    | nil =>
      rw [List.intercalate_singleton, List.exists_mem_cons_iff]
      refine ⟨fun h => Or.inl (Or.inl h), ?_⟩
      rintro ((h | ⟨p, hp, -⟩) | h)
      · exact h
      · cases hp
      · exact h.elim
    | cons b ps =>
      rw [List.intercalate_cons_cons, List.append_assoc, List.singleton_append, infix_append_sep,
        ih, crosses_cons, List.exists_mem_cons_iff _ a]
      constructor
      · rintro (h | (h | h) | h)
        · exact Or.inl (Or.inl h)
        · exact Or.inl (Or.inr h)
        · exact Or.inr (Or.inr h)
        · exact Or.inr (Or.inl h)
      · rintro ((h | h) | h | h)
        · exact Or.inl h
        · exact Or.inr (Or.inl (Or.inl h))
        · exact Or.inr (Or.inr h)
        · exact Or.inr (Or.inl (Or.inr h))

/-- the parts before and after each separator -/
def cuts [DecidableEq α] (c : α) : List α → List (List α × List α)
  | [] => []
  | x :: k => (if x = c then [([], k)] else []) ++ (cuts c k).map fun p => (x :: p.1, p.2)

theorem mem_cuts [DecidableEq α] : (u, v) ∈ cuts c k ↔ k = u ++ c :: v := by
  induction k generalizing u with
  | nil => simp [cuts]
  | cons x k ih =>
    rw [cuts, List.mem_append, List.mem_map]
    constructor
    · rintro (h | ⟨⟨u', v'⟩, hp, he⟩)
      · split at h
        · next hx =>
          cases List.mem_singleton.mp h
          rw [hx, List.nil_append]
        · cases h
      · cases he
        rw [ih.mp hp, List.cons_append]
    · intro h
      cases u with
      | nil =>
        obtain ⟨rfl, rfl⟩ := List.cons.inj h
        rw [if_pos rfl]
        exact Or.inl List.mem_cons_self
      | cons y u =>
        obtain ⟨rfl, hk⟩ := List.cons.inj h
        exact Or.inr ⟨(u, v), ih.mpr hk, rfl⟩

end Join
