import Mathlib.Data.Finset.Max
import Mathlib.Data.List.Sort
import Mathlib.Data.List.Nodup

/-!
# The latest rows of a class

A page shows the `n` latest rows of a class `m`, out of a list `l` whose rows have different times.
A row is shown when fewer than `n` rows of the class are later (`mem_take_iff`).

`exact_iff`: when is the page exactly the rows that it should show, the class `about` with at most
`n` rows?  All of them must be in `m`, and a row of `m` that is not among them must come after `n`
rows that are.
-/

namespace Latest

section
variable {α : Type*} {time : α → Nat}

/-- **A prefix of a list in descending order** has the rows with fewer than `n` later ones. -/
theorem mem_take_of_pairwise {p : List α} (hp : p.Pairwise fun a b => time b < time a) {n : Nat}
    {x : α} : x ∈ p.take n ↔ x ∈ p ∧ (p.filter fun y => decide (time x < time y)).length < n := by
  induction p generalizing n with
  | nil => simp
  | cons y p ih =>
    obtain ⟨hy, hp⟩ := List.pairwise_cons.mp hp
    cases n with
    | zero => simp
    | succ n =>
      rw [List.take_succ_cons, List.mem_cons, List.mem_cons, ih hp]
      by_cases hx : x = y
      · subst hx
        have hnil : ((x :: p).filter fun y => decide (time x < time y)) = [] := by
          rw [List.filter_eq_nil_iff]
          intro z hz hlt
          have hlt' := of_decide_eq_true hlt
          rcases List.mem_cons.mp hz with rfl | hz
          · exact lt_irrefl _ hlt'
          · exact lt_asymm (hy z hz) hlt'
        simp [hnil]
      · simp only [hx, false_or]
        refine and_congr_right fun hxp => ?_
        have hcons : ((y :: p).filter fun z => decide (time x < time z)) =
            y :: p.filter fun z => decide (time x < time z) :=
          List.filter_cons_of_pos (decide_eq_true (hy x hxp))
        rw [hcons, List.length_cons, Nat.add_lt_add_iff_right]

theorem length_filter_le {l : List α} {p q : α → Prop} [DecidablePred p] [DecidablePred q]
    (h : ∀ x ∈ l, p x → q x) :
    (l.filter fun x => decide (p x)).length ≤ (l.filter fun x => decide (q x)).length := by
  rw [← List.countP_eq_length_filter, ← List.countP_eq_length_filter]
  exact List.countP_mono_left fun x hx hp => decide_eq_true (h x hx (of_decide_eq_true hp))

theorem length_filter_lt {l : List α} {p q : α → Prop} [DecidablePred p] [DecidablePred q]
    (h : ∀ x ∈ l, p x → q x) {y : α} (hy : y ∈ l) (hq : q y) (hp : ¬ p y) :
    (l.filter fun x => decide (p x)).length < (l.filter fun x => decide (q x)).length := by
  have hsame : l.filter (fun x => decide (p x)) =
      (l.filter fun x => decide (q x)).filter fun x => decide (p x) := by
    rw [List.filter_filter]
    refine List.filter_congr fun x hx => ?_
    by_cases hpx : p x
    · simp [hpx, h x hx hpx]
    · simp [hpx]
  rw [hsame, List.length_filter_lt_length_iff_exists]
  exact ⟨y, List.mem_filter.mpr ⟨hy, decide_eq_true hq⟩, by simpa using hp⟩

variable {l : List α} {m about : α → Prop} [DecidablePred m] [DecidablePred about] {n : Nat}

/-- a row is shown: it is of the class, and fewer than `n` rows of the class are later -/
def Shown (time : α → Nat) (m : α → Prop) [DecidablePred m] (n : Nat) (l : List α) (a : α) : Prop :=
  a ∈ l ∧ m a ∧ (l.filter fun b => decide (m b ∧ time a < time b)).length < n

theorem mem_take_iff {p : List α} (hperm : p.Perm (l.filter fun a => decide (m a)))
    (hp : p.Pairwise fun a b => time b < time a) {a : α} :
    a ∈ p.take n ↔ Shown time m n l a := by
  have hlen : (p.filter fun b => decide (time a < time b)).length =
      (l.filter fun b => decide (m b ∧ time a < time b)).length := by
    rw [(hperm.filter _).length_eq, List.filter_filter]
    congr 1
    apply List.filter_congr
    intro b _
    rw [← Bool.decide_and]
    exact decide_eq_decide.mpr And.comm
  rw [mem_take_of_pairwise hp, hlen, hperm.mem_iff, List.mem_filter, decide_eq_true_eq, and_assoc]
  rfl

/-- **When the page is exact.** -/
theorem exact_iff [DecidableEq α] (hn : (l.filter fun a => decide (about a)).length ≤ n) :
    ((∀ a ∈ l, about a → Shown time m n l a) ∧ ∀ a, Shown time m n l a → about a) ↔
      (∀ a ∈ l, about a → m a) ∧ ∀ e ∈ l, m e → ¬ about e →
        n ≤ (l.filter fun b => decide (about b ∧ time e < time b)).length := by
  refine ⟨fun h => ⟨fun a ha hab => (h.1 a ha hab).2.1, fun e he hm hno => ?_⟩,
    fun h => ⟨fun a ha hab => ⟨ha, h.1 a ha hab, ?_⟩, fun a hs => ?_⟩⟩
  · -- the latest of the rows that should not be shown is behind `n` rows, all of them right
    let s := (l.filter fun a => decide (m a ∧ ¬ about a)).toFinset
    have hmem {a : α} : a ∈ s ↔ a ∈ l ∧ m a ∧ ¬ about a := by
      rw [List.mem_toFinset, List.mem_filter, decide_eq_true_eq]
    obtain ⟨e', he', hmax⟩ := s.exists_max_image time ⟨e, hmem.mpr ⟨he, hm, hno⟩⟩
    obtain ⟨hel, hem, hea⟩ := hmem.mp he'
    have hbehind : n ≤ (l.filter fun b => decide (m b ∧ time e' < time b)).length := by
      by_contra hlt
      exact hea (h.2 e' ⟨hel, hem, not_le.mp hlt⟩)
    refine hbehind.trans (length_filter_le fun b hb hmb => ⟨?_, ?_⟩)
    · by_contra hba
      exact absurd hmb.2 (not_lt.mpr (hmax b (hmem.mpr ⟨hb, hmb.1, hba⟩)))
    · exact (hmax e (hmem.mpr ⟨he, hm, hno⟩)).trans_lt hmb.2
  · by_cases hex : ∃ e ∈ l, (m e ∧ ¬ about e) ∧ time a < time e
    · -- then `n` right rows are later than `a`, which makes too many
      obtain ⟨e, he, ⟨hme, hea⟩, hlt⟩ := hex
      have hlt' := length_filter_lt (l := l) (p := fun b => about b ∧ time e < time b) (q := about)
        (fun b _ hb => hb.1) ha hab fun hb => lt_asymm hlt hb.2
      have := h.2 e he hme hea
      omega
    · have hlt := length_filter_lt (l := l) (p := fun b => m b ∧ time a < time b) (q := about)
        (fun b hb hmb => by
          by_contra hba
          exact hex ⟨b, hb, ⟨hmb.1, hba⟩, hmb.2⟩) ha hab fun hb => lt_irrefl _ hb.2
      omega
  · by_contra hab
    have h1 := h.2 a hs.1 hs.2.1 hab
    have h2 := length_filter_le (l := l) (p := fun b => about b ∧ time a < time b)
      (q := fun b => m b ∧ time a < time b) fun b hb hb' => ⟨h.1 b hb hb'.1, hb'.2⟩
    have h3 := hs.2.2
    omega

end

end Latest
