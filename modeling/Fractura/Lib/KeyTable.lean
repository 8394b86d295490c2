import Mathlib.Data.List.Basic
import Mathlib.Data.List.Nodup

/-!
# Tables with a primary key

`KeyTable ρ κ key` is a list of rows whose keys are pairwise different: the row list of a table
with a primary key, the uniqueness carried as a field.  The operations are those of a relational
engine, each one total:

* `filter p`            the rows that a `DELETE` leaves;
* `push r h`            an `INSERT` whose key is free;
* `insertOrIgnore r`    skips a row whose key is taken;
* `insertAll rs`        a batch of such inserts, in order.

Main facts: a key determines its row (`eq_of_key`), `insertOrIgnore` never changes an existing
row (`find_insertOrIgnore_of_mem`), and the keys after a batch are the old ones and those of the
batch (`mem_keys_insertAll`).
-/

set_option linter.unusedSectionVars false

structure KeyTable (ρ κ : Type*) (key : ρ → κ) where
  rows : List ρ
  nodup : (rows.map key).Nodup

namespace KeyTable

section
variable {ρ κ : Type*} {key : ρ → κ}

@[ext] theorem ext {t u : KeyTable ρ κ key} (h : t.rows = u.rows) : t = u := by
  cases t; cases u; simpa using h

def keys (t : KeyTable ρ κ key) : List κ := t.rows.map key

def empty : KeyTable ρ κ key := ⟨[], by simp⟩

@[simp] theorem rows_empty : (empty : KeyTable ρ κ key).rows = [] := rfl
@[simp] theorem keys_empty : (empty : KeyTable ρ κ key).keys = [] := rfl

theorem mem_keys {t : KeyTable ρ κ key} {k : κ} : k ∈ t.keys ↔ ∃ r ∈ t.rows, key r = k := by
  simp [keys]

theorem key_mem {t : KeyTable ρ κ key} {r : ρ} (h : r ∈ t.rows) : key r ∈ t.keys :=
  mem_keys.mpr ⟨r, h, rfl⟩

/-- **A key determines its row.** -/
theorem eq_of_key {t : KeyTable ρ κ key} {r r' : ρ} (h : r ∈ t.rows) (h' : r' ∈ t.rows)
    (hk : key r = key r') : r = r' :=
  List.inj_on_of_nodup_map t.nodup h h' hk

/-! ## deleting -/

def filter (t : KeyTable ρ κ key) (p : ρ → Bool) : KeyTable ρ κ key :=
  ⟨t.rows.filter p, t.nodup.sublist (List.filter_sublist.map key)⟩

@[simp] theorem rows_filter (t : KeyTable ρ κ key) (p : ρ → Bool) :
    (t.filter p).rows = t.rows.filter p := rfl

theorem filter_of_all {t : KeyTable ρ κ key} {p : ρ → Bool} (h : ∀ r ∈ t.rows, p r = true) :
    t.filter p = t :=
  ext (List.filter_eq_self.mpr h)

theorem keys_filter_subset (t : KeyTable ρ κ key) (p : ρ → Bool) {k : κ}
    (h : k ∈ (t.filter p).keys) : k ∈ t.keys := by
  obtain ⟨r, hr, rfl⟩ := mem_keys.mp h
  exact key_mem (List.mem_of_mem_filter hr)

theorem mem_keys_filter {t : KeyTable ρ κ key} {p : ρ → Bool} {k : κ} :
    k ∈ (t.filter p).keys ↔ ∃ r ∈ t.rows, key r = k ∧ p r = true := by
  rw [mem_keys]
  refine ⟨fun h => ?_, fun h => ?_⟩
  · obtain ⟨r, hr, rfl⟩ := h
    exact ⟨r, List.mem_of_mem_filter hr, rfl, (List.mem_filter.mp hr).2⟩
  · obtain ⟨r, hr, rfl, hp⟩ := h
    exact ⟨r, List.mem_filter.mpr ⟨hr, hp⟩, rfl⟩

theorem mem_keys_filter_key {t : KeyTable ρ κ key} {p : κ → Bool} {k : κ} :
    k ∈ (t.filter fun r => p (key r)).keys ↔ k ∈ t.keys ∧ p k = true := by
  rw [mem_keys_filter, mem_keys]
  refine ⟨fun h => ?_, fun h => ?_⟩
  · obtain ⟨r, hr, rfl, hp⟩ := h
    exact ⟨⟨r, hr, rfl⟩, hp⟩
  · obtain ⟨⟨r, hr, rfl⟩, hp⟩ := h
    exact ⟨r, hr, rfl, hp⟩

end

section
variable {ρ κ : Type*} {key : ρ → κ} [DecidableEq κ]

/-! ## looking up -/

def find (t : KeyTable ρ κ key) (k : κ) : Option ρ := t.rows.find? fun r => decide (key r = k)

theorem find_eq_some {t : KeyTable ρ κ key} {k : κ} {r : ρ} :
    t.find k = some r ↔ r ∈ t.rows ∧ key r = k := by
  refine ⟨fun h => ?_, fun h => ?_⟩
  · exact ⟨List.mem_of_find?_eq_some h, by simpa using List.find?_some h⟩
  · obtain ⟨hr, hk⟩ := h
    cases hf : t.find k with
    | none =>
      have := List.find?_eq_none.mp hf r hr
      simp [hk] at this
    | some r' =>
      have hr' := List.mem_of_find?_eq_some hf
      have hk' : key r' = k := by simpa using List.find?_some hf
      rw [eq_of_key hr' hr (hk'.trans hk.symm)]

theorem find_eq_none {t : KeyTable ρ κ key} {k : κ} : t.find k = none ↔ k ∉ t.keys := by
  simp [find, mem_keys]

theorem exists_find {t : KeyTable ρ κ key} {k : κ} (h : k ∈ t.keys) : ∃ r, t.find k = some r := by
  obtain ⟨r, hr, hk⟩ := mem_keys.mp h
  exact ⟨r, find_eq_some.mpr ⟨hr, hk⟩⟩

theorem filter_key (t : KeyTable ρ κ key) (k : κ) :
    t.rows.filter (fun r => decide (key r = k)) = (t.find k).toList := by
  obtain ⟨rows, hnd⟩ := t
  show rows.filter _ = (rows.find? _).toList
  induction rows with
  | nil => rfl
  | cons r rs ih =>
    rw [List.map_cons, List.nodup_cons] at hnd
    by_cases hk : key r = k
    · have hrest : rs.filter (fun x => decide (key x = k)) = [] := by
        rw [List.filter_eq_nil_iff]
        intro x hx
        have hne : key x ≠ key r := fun e => hnd.1 (e ▸ List.mem_map_of_mem hx)
        simpa [hk] using hne
      rw [List.filter_cons_of_pos (by simpa using hk), List.find?_cons_of_pos (by simpa using hk),
        hrest]
      rfl
    · rw [List.filter_cons_of_neg (by simpa using hk), List.find?_cons_of_neg (by simpa using hk),
        ih hnd.2]

theorem filter_fk (t : KeyTable ρ κ key) (k : Option κ) :
    t.rows.filter (fun r => decide (k = some (key r))) = (k.bind t.find).toList := by
  cases k with
  | none => simp
  | some k =>
    rw [Option.bind_some, ← filter_key]
    refine List.filter_congr fun r _ => decide_eq_decide.mpr ?_
    rw [Option.some.injEq, eq_comm]

theorem find_filter {t : KeyTable ρ κ key} {p : ρ → Bool} {k : κ}
    (h : ∀ r ∈ t.rows, key r = k → p r = true) : (t.filter p).find k = t.find k := by
  cases hf : t.find k with
  | none =>
    rw [find_eq_none] at hf ⊢
    exact fun hk => hf (keys_filter_subset t p hk)
  | some r =>
    obtain ⟨hr, hk⟩ := find_eq_some.mp hf
    exact find_eq_some.mpr ⟨List.mem_filter.mpr ⟨hr, h r hr hk⟩, hk⟩

/-! ## inserting -/

/-- an `INSERT` whose key is free -/
def push (t : KeyTable ρ κ key) (r : ρ) (h : key r ∉ t.keys) : KeyTable ρ κ key :=
  ⟨t.rows ++ [r], by
    rw [List.map_append, List.nodup_append]
    refine ⟨t.nodup, by simp, ?_⟩
    intro a ha b hb hab
    have hb' : b = key r := by simpa using hb
    exact h (by rw [← hb', ← hab]; exact ha)⟩

@[simp] theorem rows_push (t : KeyTable ρ κ key) (r : ρ) (h : key r ∉ t.keys) :
    (t.push r h).rows = t.rows ++ [r] := rfl

theorem mem_keys_push {t : KeyTable ρ κ key} {r : ρ} {h : key r ∉ t.keys} {k : κ} :
    k ∈ (t.push r h).keys ↔ k ∈ t.keys ∨ k = key r := by
  simp [keys]

theorem find_push_of_mem {t : KeyTable ρ κ key} {r : ρ} {h : key r ∉ t.keys} {k : κ}
    (hk : k ∈ t.keys) : (t.push r h).find k = t.find k := by
  obtain ⟨x, hx⟩ := exists_find hk
  obtain ⟨hm, he⟩ := find_eq_some.mp hx
  rw [hx]
  exact find_eq_some.mpr ⟨List.mem_append_left _ hm, he⟩

theorem find_push_self {t : KeyTable ρ κ key} {r : ρ} {h : key r ∉ t.keys} :
    (t.push r h).find (key r) = some r :=
  find_eq_some.mpr ⟨by simp, rfl⟩

theorem find_push_ne {t : KeyTable ρ κ key} {r : ρ} {h : key r ∉ t.keys} {k : κ}
    (hk : k ≠ key r) : (t.push r h).find k = t.find k := by
  cases hf : t.find k with
  | none =>
    rw [find_eq_none] at hf ⊢
    intro hm
    rcases mem_keys_push.mp hm with hm | hm
    · exact hf hm
    · exact hk hm
  | some x =>
    obtain ⟨hx, he⟩ := find_eq_some.mp hf
    exact find_eq_some.mpr ⟨List.mem_append_left _ hx, he⟩

def insertOrIgnore (t : KeyTable ρ κ key) (r : ρ) : KeyTable ρ κ key :=
  if h : key r ∈ t.keys then t else t.push r h

theorem insertOrIgnore_of_mem {t : KeyTable ρ κ key} {r : ρ} (h : key r ∈ t.keys) :
    t.insertOrIgnore r = t := dif_pos h

theorem insertOrIgnore_of_not_mem {t : KeyTable ρ κ key} {r : ρ} (h : key r ∉ t.keys) :
    t.insertOrIgnore r = t.push r h := dif_neg h

theorem mem_insertOrIgnore {t : KeyTable ρ κ key} {r x : ρ} :
    x ∈ (t.insertOrIgnore r).rows ↔ x ∈ t.rows ∨ (x = r ∧ key r ∉ t.keys) := by
  by_cases h : key r ∈ t.keys
  · simp [insertOrIgnore_of_mem h, h]
  · simp [insertOrIgnore_of_not_mem h, h]

theorem mem_keys_insertOrIgnore {t : KeyTable ρ κ key} {r : ρ} {k : κ} :
    k ∈ (t.insertOrIgnore r).keys ↔ k ∈ t.keys ∨ k = key r := by
  by_cases h : key r ∈ t.keys
  · rw [insertOrIgnore_of_mem h]
    constructor
    · exact Or.inl
    · rintro (hk | rfl)
      · exact hk
      · exact h
  · rw [insertOrIgnore_of_not_mem h, mem_keys_push]

/-- **An ignored or a new row never changes what an existing key reads.** -/
theorem find_insertOrIgnore_of_mem {t : KeyTable ρ κ key} {r : ρ} {k : κ} (h : k ∈ t.keys) :
    (t.insertOrIgnore r).find k = t.find k := by
  by_cases hr : key r ∈ t.keys
  · rw [insertOrIgnore_of_mem hr]
  · rw [insertOrIgnore_of_not_mem hr, find_push_of_mem h]

theorem find_insertOrIgnore {t : KeyTable ρ κ key} {r : ρ} {k : κ} :
    (t.insertOrIgnore r).find k = (t.find k).or (if key r = k then some r else none) := by
  by_cases hm : k ∈ t.keys
  · obtain ⟨x, hx⟩ := exists_find hm
    rw [find_insertOrIgnore_of_mem hm, hx]
    rfl
  · rw [find_eq_none.mpr hm, Option.none_or]
    by_cases hk : key r = k
    · subst hk
      rw [insertOrIgnore_of_not_mem hm, find_push_self, if_pos rfl]
    · rw [if_neg hk]
      by_cases hr : key r ∈ t.keys
      · rw [insertOrIgnore_of_mem hr, find_eq_none.mpr hm]
      · rw [insertOrIgnore_of_not_mem hr, find_push_ne (Ne.symm hk), find_eq_none.mpr hm]

/-- the rows of a class tell whether a key is taken, if its row can only be of the class -/
theorem mem_keys_of_filter_eq {t u : KeyTable ρ κ key} {p : ρ → Bool} {k : κ}
    (h : t.rows.filter p = u.rows.filter p) (ht : ∀ r ∈ t.rows, key r = k → p r = true)
    (hk : k ∈ t.keys) : k ∈ u.keys := by
  obtain ⟨r, hr, rfl⟩ := mem_keys.mp hk
  have hu : r ∈ u.rows.filter p := h ▸ List.mem_filter.mpr ⟨hr, ht r hr rfl⟩
  exact key_mem (List.mem_of_mem_filter hu)

theorem filter_insertOrIgnore_congr {t u : KeyTable ρ κ key} {p : ρ → Bool} {r : ρ}
    (h : t.rows.filter p = u.rows.filter p) (hk : key r ∈ t.keys ↔ key r ∈ u.keys) :
    (t.insertOrIgnore r).rows.filter p = (u.insertOrIgnore r).rows.filter p := by
  by_cases hr : key r ∈ t.keys
  · rw [insertOrIgnore_of_mem hr, insertOrIgnore_of_mem (hk.mp hr), h]
  · rw [insertOrIgnore_of_not_mem hr, insertOrIgnore_of_not_mem (fun hu => hr (hk.mpr hu)),
      rows_push, rows_push, List.filter_append, List.filter_append, h]

/-- a batch of inserts, each one skipped when its key is taken -/
def insertAll (t : KeyTable ρ κ key) : List ρ → KeyTable ρ κ key
  | [] => t
  | r :: rs => (t.insertOrIgnore r).insertAll rs

@[simp] theorem insertAll_nil (t : KeyTable ρ κ key) : t.insertAll [] = t := rfl
@[simp] theorem insertAll_cons (t : KeyTable ρ κ key) (r : ρ) (rs : List ρ) :
    t.insertAll (r :: rs) = (t.insertOrIgnore r).insertAll rs := rfl

theorem mem_keys_insertAll {t : KeyTable ρ κ key} {rs : List ρ} {k : κ} :
    k ∈ (t.insertAll rs).keys ↔ k ∈ t.keys ∨ ∃ r ∈ rs, key r = k := by
  induction rs generalizing t with
  | nil => simp
  | cons r rs ih =>
    rw [insertAll_cons, ih, mem_keys_insertOrIgnore, or_assoc, List.exists_mem_cons_iff, eq_comm]

theorem mem_insertAll {t : KeyTable ρ κ key} {rs : List ρ} {x : ρ} (h : x ∈ (t.insertAll rs).rows) :
    x ∈ t.rows ∨ (x ∈ rs ∧ key x ∉ t.keys) := by
  induction rs generalizing t with
  | nil => exact Or.inl h
  | cons r rs ih =>
    rw [insertAll_cons] at h
    rcases ih h with h1 | ⟨h1, h2⟩
    · rcases mem_insertOrIgnore.mp h1 with h3 | ⟨rfl, h3⟩
      · exact Or.inl h3
      · exact Or.inr ⟨List.mem_cons_self, h3⟩
    · exact Or.inr ⟨List.mem_cons_of_mem _ h1, fun hk => h2 (mem_keys_insertOrIgnore.mpr (Or.inl hk))⟩

theorem mem_insertAll_of_mem {t : KeyTable ρ κ key} {rs : List ρ} {x : ρ} (h : x ∈ t.rows) :
    x ∈ (t.insertAll rs).rows := by
  induction rs generalizing t with
  | nil => exact h
  | cons r rs ih => exact ih (mem_insertOrIgnore.mpr (Or.inl h))

/-- **First come, first served**: after a batch a key reads the old row, else the first row of
the batch that carries it. -/
theorem find_insertAll {t : KeyTable ρ κ key} {rs : List ρ} {k : κ} :
    (t.insertAll rs).find k = (t.find k).or (rs.find? fun r => decide (key r = k)) := by
  induction rs generalizing t with
  | nil => simp
  | cons r rs ih =>
    rw [insertAll_cons, ih, find_insertOrIgnore, Option.or_assoc]
    congr 1
    by_cases hk : key r = k
    · simp [hk]
    · simp [hk]

theorem insertAll_append (t : KeyTable ρ κ key) (rs rs' : List ρ) :
    t.insertAll (rs ++ rs') = (t.insertAll rs).insertAll rs' := by
  induction rs generalizing t with
  | nil => rfl
  | cons r rs ih => rw [List.cons_append, insertAll_cons, insertAll_cons, ih]

/-- **A batch whose keys are free** goes after the rows as it would go into an empty table. -/
theorem rows_insertAll_of_free {t : KeyTable ρ κ key} {rs : List ρ}
    (h : ∀ r ∈ rs, key r ∉ t.keys) :
    (t.insertAll rs).rows = t.rows ++ ((empty : KeyTable ρ κ key).insertAll rs).rows := by
  have key' {u v : KeyTable ρ κ key} (hv : v.rows = t.rows ++ u.rows) :
      (v.insertAll rs).rows = t.rows ++ (u.insertAll rs).rows := by
    induction rs generalizing u v with
    | nil => exact hv
    | cons r rs ih =>
      have hr := h r List.mem_cons_self
      rw [insertAll_cons, insertAll_cons]
      apply ih fun x hx => h x (List.mem_cons_of_mem _ hx)
      have hmem : key r ∈ v.keys ↔ key r ∈ u.keys := by
        unfold keys at hr ⊢
        rw [hv, List.map_append, List.mem_append]
        exact or_iff_right hr
      by_cases hu : key r ∈ u.keys
      · rw [insertOrIgnore_of_mem hu, insertOrIgnore_of_mem (hmem.mpr hu), hv]
      · rw [insertOrIgnore_of_not_mem hu, insertOrIgnore_of_not_mem fun hk => hu (hmem.mp hk),
          rows_push, rows_push, hv, List.append_assoc]
  exact key' (by rw [rows_empty, List.append_nil])

/-- **A batch with different keys** adds exactly its rows with a free key. -/
theorem rows_insertAll_of_nodup {t : KeyTable ρ κ key} {rs : List ρ} (h : (rs.map key).Nodup) :
    (t.insertAll rs).rows = t.rows ++ rs.filter fun r => decide (key r ∉ t.keys) := by
  induction rs generalizing t with
  | nil => rw [insertAll_nil, List.filter_nil, List.append_nil]
  | cons r rs ih =>
    obtain ⟨hr, hrs⟩ := List.nodup_cons.mp h
    rw [insertAll_cons, ih hrs]
    by_cases hk : key r ∈ t.keys
    · rw [insertOrIgnore_of_mem hk, List.filter_cons_of_neg (by simpa using hk)]
    · rw [insertOrIgnore_of_not_mem hk, List.filter_cons_of_pos (by simpa using hk), rows_push,
        List.append_assoc, List.singleton_append]
      congr 2
      apply List.filter_congr
      intro x hx
      have hne : key x ≠ key r := fun e => hr (e ▸ List.mem_map_of_mem hx)
      simp only [mem_keys_push, hne, or_false]

/-- **Replacing a class of rows by a batch** that brings all the keys of the class keeps the set of
keys exactly when the batch brings no new key. -/
theorem keys_filter_insertAll {t : KeyTable ρ κ key} {p : ρ → Bool} {rs : List ρ}
    (h : ∀ r ∈ t.rows, p r = false → ∃ x ∈ rs, key x = key r) :
    (∀ k, k ∈ ((t.filter p).insertAll rs).keys ↔ k ∈ t.keys) ↔ ∀ x ∈ rs, key x ∈ t.keys := by
  refine ⟨fun hk => ?_, fun hrs => ?_⟩
  · intro x hx
    exact (hk (key x)).mp (mem_keys_insertAll.mpr (Or.inr ⟨x, hx, rfl⟩))
  · intro k
    rw [mem_keys_insertAll]
    refine ⟨fun h => ?_, fun hk => ?_⟩
    · rcases h with hk | ⟨x, hx, rfl⟩
      · exact keys_filter_subset t p hk
      · exact hrs x hx
    · obtain ⟨r, hr, rfl⟩ := mem_keys.mp hk
      cases hp : p r with
      | true => exact Or.inl (mem_keys_filter.mpr ⟨r, hr, rfl, hp⟩)
      | false => exact Or.inr (h r hr hp)

theorem filter_insertAll {t : KeyTable ρ κ key} {rs : List ρ} {p : ρ → Bool}
    (h : ∀ r ∈ rs, p r = false) : (t.insertAll rs).rows.filter p = t.rows.filter p := by
  induction rs generalizing t with
  | nil => rfl
  | cons r rs ih =>
    rw [insertAll_cons, ih (fun x hx => h x (List.mem_cons_of_mem _ hx))]
    by_cases hr : key r ∈ t.keys
    · rw [insertOrIgnore_of_mem hr]
    · rw [insertOrIgnore_of_not_mem hr, rows_push, List.filter_append,
        List.filter_cons_of_neg (by simp [h r List.mem_cons_self]), List.filter_nil, List.append_nil]

end

end KeyTable
