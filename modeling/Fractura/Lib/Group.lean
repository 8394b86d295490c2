import Mathlib.Algebra.BigOperators.Group.List.Lemmas
import Mathlib.Algebra.Order.BigOperators.Group.List
import Mathlib.Algebra.GroupWithZero.Nat
import Mathlib.Algebra.Order.Group.Nat
import Mathlib.Data.List.Dedup
import Mathlib.Data.List.Sort

/-!
# Grouping and ordering the rows of a query

* `groups key l`      `GROUP BY key`: every key that occurs, with its rows in order;
* `countDistinct l`   `COUNT(DISTINCT x)` over a nullable column: NULLs are not counted;
* `sortDesc m l`      `ORDER BY m DESC`, stable;
* `firstBy r l`       the row numbered 1 by `ROW_NUMBER() OVER (ORDER BY r)`;
* `descNullsLast`     the order `DESC NULLS LAST` of a nullable column;
* `dropDuplicates key l`  pandas `drop_duplicates(subset=key)`: the first row of each key.

Main facts: a group is the class of its key (`mem_groups`), different groups have different keys
(`groups_inj`) and share no rows (`sum_length_groups`, `length_having_le`), groups are not empty,
classes that cover a list are the list in another order (`perm_flatMap_withKey`),
`firstBy` picks a row of its list that no row comes before (`firstBy_descNullsLast`), and
`dropDuplicates` prefers the earlier list (`mem_dropDuplicates_append`).
-/

namespace Group

section
variable {α κ : Type*} [DecidableEq κ]

def groups (key : α → κ) (l : List α) : List (κ × List α) :=
  (l.map key).dedup.map fun k => (k, l.filter fun x => decide (key x = k))

theorem mem_groups {key : α → κ} {l : List α} {k : κ} {g : List α} :
    (k, g) ∈ groups key l ↔ (∃ x ∈ l, key x = k) ∧ g = l.filter fun x => decide (key x = k) := by
  simp only [groups, List.mem_map, List.mem_dedup, Prod.mk.injEq]
  refine ⟨fun h => ?_, fun h => ?_⟩
  · obtain ⟨a, ⟨x, hx, rfl⟩, rfl, rfl⟩ := h
    exact ⟨⟨x, hx, rfl⟩, rfl⟩
  · obtain ⟨⟨x, hx, rfl⟩, rfl⟩ := h
    exact ⟨_, ⟨x, hx, rfl⟩, rfl, rfl⟩

theorem group_ne_nil {key : α → κ} {l : List α} {p : κ × List α} (h : p ∈ groups key l) :
    p.2 ≠ [] := by
  obtain ⟨k, g⟩ := p
  obtain ⟨⟨x, hx, hk⟩, rfl⟩ := mem_groups.mp h
  exact List.ne_nil_of_mem (List.mem_filter.mpr ⟨hx, by simpa using hk⟩)

theorem of_mem_group {key : α → κ} {l : List α} {p : κ × List α} (h : p ∈ groups key l) {x : α}
    (hx : x ∈ p.2) : x ∈ l ∧ key x = p.1 := by
  obtain ⟨k, g⟩ := p
  obtain ⟨-, rfl⟩ := mem_groups.mp h
  obtain ⟨h1, h2⟩ := List.mem_filter.mp hx
  exact ⟨h1, by simpa using h2⟩

/-- **A group is determined by its key.** -/
theorem groups_inj {key : α → κ} {l : List α} {p p' : κ × List α} (h : p ∈ groups key l)
    (h' : p' ∈ groups key l) (hk : p.1 = p'.1) : p = p' := by
  obtain ⟨k, g⟩ := p
  obtain ⟨k', g'⟩ := p'
  obtain ⟨-, rfl⟩ := mem_groups.mp h
  obtain ⟨-, rfl⟩ := mem_groups.mp h'
  subst hk
  rfl

/-- the rows with a key -/
def withKey (key : α → κ) (l : List α) (k : κ) : List α := l.filter fun x => decide (key x = k)

theorem mem_withKey {key : α → κ} {l : List α} {k : κ} {x : α} :
    x ∈ withKey key l k ↔ x ∈ l ∧ key x = k := by
  simp [withKey]

theorem withKey_nil_of {key : α → κ} {l : List α} {k : κ} (h : ∀ x ∈ l, key x ≠ k) :
    withKey key l k = [] := by
  unfold withKey
  rw [List.filter_eq_nil_iff]
  intro x hx
  simpa using h x hx

/-- **`HAVING`**: a condition that no empty group meets picks the keys whose rows meet it. -/
theorem mem_groups_having {key : α → κ} {l : List α} {p : List α → Bool} (hp : p [] = false)
    {g : κ × List α} : g ∈ (groups key l).filter (fun g => p g.2) ↔
      g.2 = withKey key l g.1 ∧ p (withKey key l g.1) = true := by
  obtain ⟨k, g⟩ := g
  rw [List.mem_filter, mem_groups]
  show ((∃ x ∈ l, key x = k) ∧ g = withKey key l k) ∧ p g = true ↔ _
  show _ ↔ g = withKey key l k ∧ p (withKey key l k) = true
  refine ⟨fun h => ⟨h.1.2, by rw [← h.1.2]; exact h.2⟩, fun h => ⟨⟨?_, h.1⟩, by rw [h.1]; exact h.2⟩⟩
  by_contra hno
  have hnil : withKey key l k = [] := withKey_nil_of fun x hx hk => hno ⟨x, hx, hk⟩
  have htrue : p (withKey key l k) = true := h.2
  rw [hnil, hp] at htrue
  cases htrue

/-- **Classes that cover a list** are, one after the other, the list in another order. -/
theorem perm_flatMap_withKey {key : α → κ} {ks : List κ} (hnd : ks.Nodup) {l : List α}
    (h : ∀ x ∈ l, key x ∈ ks) : (ks.flatMap (withKey key l)).Perm l := by
  induction ks generalizing l with
  | nil =>
    have hl : l = [] := List.eq_nil_iff_forall_not_mem.mpr fun x hx =>
      absurd (h x hx) List.not_mem_nil
    rw [hl]
    exact .nil
  | cons k ks ih =>
    obtain ⟨hk, hnd⟩ := List.nodup_cons.mp hnd
    let resto := l.filter fun x => !decide (key x = k)
    have hrest : ∀ x ∈ resto, key x ∈ ks := by
      intro x hx
      obtain ⟨hx, hne⟩ := List.mem_filter.mp hx
      exact (List.mem_cons.mp (h x hx)).resolve_left (by simpa using hne)
    have hsame : ks.flatMap (withKey key l) = ks.flatMap (withKey key resto) := by
      refine List.flatMap_congr fun k' hk' => ?_
      have hne : k' ≠ k := fun e => hk (e ▸ hk')
      unfold withKey
      rw [List.filter_filter]
      refine List.filter_congr fun x _ => ?_
      by_cases hx : key x = k'
      · simp [hx, hne]
      · simp [hx]
    rw [List.flatMap_cons, hsame]
    exact ((ih hnd hrest).append_left _).trans (List.filter_append_perm _ l)

theorem nodup_groups (key : α → κ) (l : List α) : (groups key l).Nodup := by
  apply List.Nodup.map
  · intro a b hab
    exact (Prod.mk.inj hab).1
  · exact List.nodup_dedup _

/-- **The groups are a partition.** -/
theorem sum_length_groups (key : α → κ) (l : List α) :
    ((groups key l).map fun g => g.2.length).sum = l.length := by
  have hcount (k : κ) : (l.filter fun x => decide (key x = k)).length = (l.map key).count k := by
    rw [List.count_eq_countP, List.countP_map, List.countP_eq_length_filter]
    refine congrArg List.length (List.filter_congr fun x _ => ?_)
    by_cases hx : key x = k <;> simp [hx]
  unfold groups
  rw [List.map_map]
  calc ((l.map key).dedup.map fun k => (l.filter fun x => decide (key x = k)).length).sum
      = ((l.map key).dedup.map fun k => (l.map key).count k).sum := by simp only [hcount]
    _ = (l.map key).length := List.sum_map_count_dedup_eq_length _
    _ = l.length := List.length_map _

theorem sum_map_ite {β : Type*} (p : β → Bool) (n : ℕ) (l : List β) :
    (l.map fun x => if p x then n else 0).sum = n * (l.filter p).length := by
  induction l with
  | nil => rfl
  | cons x l ih =>
    by_cases hx : p x = true
    · simp [hx, ih, Nat.mul_succ, Nat.add_comm]
    · simp [hx, ih]

/-- **Groups of two kinds share no rows**: `n` for each of one kind and `m` for each of the other are
not more than the rows. -/
theorem length_having_le {key : α → κ} {l : List α} {p q : List α → Bool} {n m : ℕ}
    (hp : ∀ g, p g = true → n ≤ g.length) (hq : ∀ g, q g = true → m ≤ g.length)
    (hpq : ∀ g, p g = true → q g = false) :
    n * ((groups key l).filter fun g => p g.2).length +
      m * ((groups key l).filter fun g => q g.2).length ≤ l.length := by
  rw [← sum_map_ite, ← sum_map_ite, ← List.sum_map_add, ← sum_length_groups key l]
  refine List.sum_le_sum fun g _ => ?_
  by_cases h : p g.2 = true
  · simpa [h, hpq g.2 h] using hp g.2 h
  · by_cases h' : q g.2 = true
    · simpa [h, h'] using hq g.2 h'
    · simp [h, h']
end

/-! ## counting and ordering -/

section
variable {α κ : Type*}

def countDistinct [DecidableEq κ] (l : List (Option κ)) : Nat := (l.filterMap id).dedup.length

theorem countDistinct_mono [DecidableEq κ] {l l' : List (Option κ)} (h : ∀ x ∈ l, x ∈ l') :
    countDistinct l ≤ countDistinct l' := by
  unfold countDistinct
  refine (List.subperm_of_subset (List.nodup_dedup _) fun x hx => ?_).length_le
  rw [List.mem_dedup, List.mem_filterMap] at hx ⊢
  obtain ⟨y, hy, hyx⟩ := hx
  exact ⟨y, h y hy, hyx⟩

/-- `ORDER BY m DESC` -/
def sortDesc (m : α → Int) (l : List α) : List α := l.insertionSort fun a b => m b ≤ m a

theorem mem_sortDesc {m : α → Int} {l : List α} {x : α} : x ∈ sortDesc m l ↔ x ∈ l :=
  (List.perm_insertionSort _ l).mem_iff

theorem perm_sortDesc (m : α → Int) (l : List α) : (sortDesc m l).Perm l :=
  List.perm_insertionSort _ l

/-- `DESC NULLS LAST`: `a` may stand before `b` -/
def descNullsLast [LE α] : Option α → Option α → Prop
  | _, none => True
  | none, some _ => False
  | some x, some y => y ≤ x

instance [LE α] [DecidableLE α] (a b : Option α) : Decidable (descNullsLast a b) :=
  match a, b with
  | none, none => isTrue trivial
  | some _, none => isTrue trivial
  | none, some _ => isFalse id
  | some x, some y => inferInstanceAs (Decidable (y ≤ x))

theorem descNullsLast_total [LinearOrder α] (a b : Option α) :
    descNullsLast a b ∨ descNullsLast b a := by
  cases a with
  | none => exact Or.inr trivial
  | some x =>
    cases b with
    | none => exact Or.inl trivial
    | some y => exact (le_total y x).imp id id

theorem descNullsLast_trans [LinearOrder α] {a b c : Option α} (hab : descNullsLast a b)
    (hbc : descNullsLast b c) : descNullsLast a c := by
  cases c with
  | none => trivial
  | some z =>
    cases b with
    | none => cases hbc
    | some y =>
      cases a with
      | none => cases hab
      | some x => exact le_trans hbc hab

theorem descNullsLast_antisymm [LinearOrder α] {a b : Option α} (hab : descNullsLast a b)
    (hba : descNullsLast b a) : a = b := by
  cases a with
  | none =>
    cases b with
    | none => rfl
    | some y => cases hab
  | some x =>
    cases b with
    | none => cases hba
    | some y => exact congrArg some (le_antisymm hba hab)

theorem pairwise_descNullsLast {β : Type*} [LinearOrder α] (m : β → Option α) (l : List β) :
    (l.insertionSort fun a b => descNullsLast (m a) (m b)).Pairwise
      fun a b => descNullsLast (m a) (m b) := by
  have : Std.Total fun a b : β => descNullsLast (m a) (m b) := ⟨fun a b => descNullsLast_total _ _⟩
  have : IsTrans β fun a b => descNullsLast (m a) (m b) := ⟨fun a b c => descNullsLast_trans⟩
  exact List.pairwise_insertionSort _ l

/-- the first row of a list in the order `r` -/
def firstBy (r : α → α → Prop) [DecidableRel r] (l : List α) : Option α :=
  (l.insertionSort r).head?

theorem mem_of_firstBy {r : α → α → Prop} [DecidableRel r] {l : List α} {x : α}
    (h : firstBy r l = some x) : x ∈ l :=
  (List.perm_insertionSort r l).mem_iff.mp (List.mem_of_mem_head? h)

/-- **No row comes before the first one.** -/
theorem firstBy_descNullsLast {β : Type*} [LinearOrder α] {m : β → Option α} {l : List β} {x : β}
    (h : firstBy (fun a b => descNullsLast (m a) (m b)) l = some x) :
    ∀ y ∈ l, descNullsLast (m x) (m y) := by
  have hs := pairwise_descNullsLast m l
  unfold firstBy at h
  intro y hy
  have hy' := (List.perm_insertionSort (fun a b => descNullsLast (m a) (m b)) l).mem_iff.mpr hy
  cases hl : l.insertionSort fun a b => descNullsLast (m a) (m b) with
  | nil =>
    rw [hl] at h
    cases h
  | cons z zs =>
    rw [hl] at h hs hy'
    obtain rfl : z = x := Option.some.inj h
    rcases List.mem_cons.mp hy' with rfl | hy'
    · exact (descNullsLast_total (m y) (m y)).elim id id
    · exact (List.pairwise_cons.mp hs).1 y hy'

theorem exists_firstBy {r : α → α → Prop} [DecidableRel r] {l : List α} (h : l ≠ []) :
    ∃ x, firstBy r l = some x := by
  cases hf : firstBy r l with
  | some x => exact ⟨x, rfl⟩
  | none =>
    have hnil : l.insertionSort r = [] := List.head?_eq_none_iff.mp hf
    have hlen := (List.perm_insertionSort r l).length_eq
    rw [hnil] at hlen
    exact absurd (List.eq_nil_of_length_eq_zero hlen.symm) h

end

theorem nodup_firstBy_groups {α κ : Type*} [DecidableEq κ] {key : α → κ} {l : List α}
    {r : α → α → Prop} [DecidableRel r] :
    (((groups key l).filterMap fun g => firstBy r g.2).map key).Nodup := by
  rw [List.Nodup, List.pairwise_map, List.pairwise_filterMap]
  refine List.Pairwise.imp_of_mem ?_ (nodup_groups key l)
  intro g g' hg hg' hne x hx y hy hk
  have h1 := (of_mem_group hg (mem_of_firstBy hx)).2
  have h2 := (of_mem_group hg' (mem_of_firstBy hy)).2
  exact hne (groups_inj hg hg' (h1.symm.trans (hk.trans h2)))

/-! ## first row of each key -/

section
variable {α κ : Type*} [DecidableEq κ]

def dropDuplicates (key : α → κ) : List α → List α
  | [] => []
  | x :: l => x :: (dropDuplicates key l).filter fun y => decide (key y ≠ key x)

theorem mem_of_dropDuplicates {key : α → κ} {l : List α} {x : α} (h : x ∈ dropDuplicates key l) :
    x ∈ l := by
  induction l with
  | nil => cases h
  | cons y l ih =>
    rcases List.mem_cons.mp h with rfl | h
    · exact List.mem_cons_self
    · exact List.mem_cons_of_mem _ (ih (List.mem_of_mem_filter h))

theorem exists_dropDuplicates (key : α → κ) {l : List α} {x : α} (h : x ∈ l) :
    ∃ y ∈ dropDuplicates key l, key y = key x := by
  induction l with
  | nil => cases h
  | cons z l ih =>
    rcases List.mem_cons.mp h with rfl | h
    · exact ⟨x, List.mem_cons_self, rfl⟩
    · obtain ⟨y, hy, hk⟩ := ih h
      by_cases hz : key y = key z
      · exact ⟨z, List.mem_cons_self, hz.symm.trans hk⟩
      · exact ⟨y, List.mem_cons_of_mem _ (List.mem_filter.mpr ⟨hy, by simpa using hz⟩), hk⟩

theorem nodup_dropDuplicates (key : α → κ) (l : List α) : ((dropDuplicates key l).map key).Nodup := by
  induction l with
  | nil => exact List.nodup_nil
  | cons x l ih =>
    refine List.nodup_cons.mpr ⟨fun hx => ?_, ih.sublist (List.filter_sublist.map key)⟩
    obtain ⟨y, hy, hk⟩ := List.mem_map.mp hx
    exact of_decide_eq_true (List.mem_filter.mp hy).2 hk

theorem mem_dropDuplicates_of_inj {key : α → κ} {l : List α}
    (h : ∀ x ∈ l, ∀ y ∈ l, key x = key y → x = y) {x : α} : x ∈ dropDuplicates key l ↔ x ∈ l := by
  refine ⟨mem_of_dropDuplicates, fun hx => ?_⟩
  obtain ⟨y, hy, hk⟩ := exists_dropDuplicates key hx
  exact h y (mem_of_dropDuplicates hy) x hx hk ▸ hy

/-- **Of two lists one after the other** the second gives only the keys that the first has not. -/
theorem mem_dropDuplicates_append {key : α → κ} {l l' : List α} {x : α} :
    x ∈ dropDuplicates key (l ++ l') ↔
      x ∈ dropDuplicates key l ∨ (x ∈ dropDuplicates key l' ∧ ∀ y ∈ l, key y ≠ key x) := by
  induction l with
  | nil => simp [dropDuplicates]
  | cons z l ih =>
    have h1 : dropDuplicates key (z :: l ++ l') =
        z :: (dropDuplicates key (l ++ l')).filter fun y => decide (key y ≠ key z) := rfl
    have h2 : dropDuplicates key (z :: l) =
        z :: (dropDuplicates key l).filter fun y => decide (key y ≠ key z) := rfl
    rw [h1, h2, List.mem_cons, List.mem_cons, List.mem_filter, List.mem_filter, ih,
      List.forall_mem_cons, decide_eq_true_eq]
    by_cases hx : key x = key z
    · simp [hx]
    · simp only [hx, Ne.symm hx, ne_eq, not_false_eq_true, and_true, true_and, or_assoc]

/-- the first rows of the keys of `l` that satisfy `P` are those that `g` gives, and `l` has no
other keys -/
def Reads (key : α → κ) (P : κ → Prop) (g : κ → Option α) (l : List α) : Prop :=
  ∀ x, x ∈ dropDuplicates key l ↔ P (key x) ∧ g (key x) = some x

/-- **A list after another one** is read where the first one has nothing. -/
theorem Reads.append {key : α → κ} {P : κ → Prop} {g g' : κ → Option α} {l l' : List α}
    (hg : ∀ k x, g k = some x → key x = k) (h : Reads key P g l) (h' : Reads key P g' l') :
    Reads key P (fun k => (g k).or (g' k)) (l ++ l') := by
  intro x
  rw [mem_dropDuplicates_append, h x, h' x]
  show _ ↔ P (key x) ∧ (g (key x)).or (g' (key x)) = some x
  cases hx : g (key x) with
  | none =>
    have hno : ∀ y ∈ l, key y ≠ key x := by
      intro y hy hk
      obtain ⟨z, hz, hzk⟩ := exists_dropDuplicates key hy
      have hgz := ((h z).mp hz).2
      rw [hzk, hk, hx] at hgz
      cases hgz
    refine ⟨fun hx' => ?_, fun hx' => Or.inr ⟨hx', hno⟩⟩
    rcases hx' with ⟨-, hx'⟩ | ⟨hx', -⟩
    · cases hx'
    · exact hx'
  | some z =>
    have hzk := hg _ _ hx
    refine ⟨fun hx' => ?_, Or.inl⟩
    rcases hx' with hx' | ⟨⟨hP, -⟩, hno⟩
    · exact hx'
    · have hz : z ∈ dropDuplicates key l := (h z).mpr ⟨hzk ▸ hP, hzk ▸ hx⟩
      exact absurd hzk (hno z (mem_of_dropDuplicates hz))

end

end Group
