import Mathlib.Data.String.Basic
import Mathlib.Tactic.IntervalCases

/-!
# Dates of the Gregorian calendar

A date is a valid one by construction; `number` counts its days from 1970-01-01.

* `number_lt`     the numbers follow the order of year, month and day;
* `read`          a date at the head of a text, as `YYYY-MM-DD`;
* `lt_of_read`    such texts sort like their dates.
-/

namespace Calendar

def leap (year : Nat) : Bool :=
  decide (year % 4 = 0) && (decide (year % 100 ≠ 0) || decide (year % 400 = 0))

def daysIn (year month : Nat) : Nat :=
  if month = 2 then if leap year then 29 else 28
  else if month = 4 ∨ month = 6 ∨ month = 9 ∨ month = 11 then 30 else 31

structure Date where
  year : Nat
  month : Nat
  day : Nat
  month_pos : 1 ≤ month
  month_le : month ≤ 12
  day_pos : 1 ≤ day
  day_le : day ≤ daysIn year month

/-- the date with these numbers, if there is one -/
def date? (year month day : Nat) : Option Date :=
  if h : (1 ≤ month ∧ month ≤ 12) ∧ 1 ≤ day ∧ day ≤ daysIn year month then
    some ⟨year, month, day, h.1.1, h.1.2, h.2.1, h.2.2⟩
  else none

/-! ## the number of a date

Years are counted from March on, so that the day that a leap year adds is the last one. -/

/-- the days before the first of March of a year -/
def yearStart (y : Int) : Int :=
  let era := y / 400
  let yoe := y - era * 400
  era * 146097 + (yoe * 365 + yoe / 4 - yoe / 100)

/-- the days before a month, March being the month 0 -/
def monthStart (p : Int) : Int := (153 * p + 2) / 5

namespace Date

def marchYear (x : Date) : Int := if x.month ≤ 2 then x.year - 1 else x.year

def marchMonth (x : Date) : Int := if x.month ≤ 2 then x.month + 9 else x.month - 3

/-- day number, 0 for 1970-01-01 -/
def number (x : Date) : Int :=
  yearStart x.marchYear + (monthStart x.marchMonth + x.day - 1) - 719468

end Date

theorem yearStart_succ (y : Nat) :
    yearStart y = yearStart (y - 1) + 365 + if leap y then 1 else 0 := by
  have hleap : leap y = true ↔ y % 4 = 0 ∧ (y % 100 ≠ 0 ∨ y % 400 = 0) := by simp [leap]
  unfold yearStart
  simp only [hleap]
  split <;> omega

theorem yearStart_mono {y y' : Int} (h : y ≤ y') : yearStart y ≤ yearStart y' := by
  unfold yearStart
  dsimp only
  omega

namespace Date

variable {x y : Date}

theorem day_le_month (h : x.month ≠ 2) :
    monthStart x.marchMonth + x.day ≤ monthStart (x.marchMonth + 1) := by
  have h1 := x.month_pos
  have h2 := x.month_le
  have hd := x.day_le
  unfold daysIn at hd
  rw [if_neg h] at hd
  unfold monthStart marchMonth
  generalize x.month = m at *
  interval_cases m <;> simp at hd ⊢ <;> omega

theorem day_lt_year : yearStart x.marchYear + (monthStart x.marchMonth + x.day - 1) <
    yearStart (x.marchYear + 1) := by
  have h1 := x.month_pos
  have h2 := x.month_le
  by_cases hfeb : x.month = 2
  · have hd := x.day_le
    have hy := yearStart_succ x.year
    unfold daysIn at hd
    rw [if_pos hfeb] at hd
    unfold marchYear marchMonth monthStart
    simp only [hfeb, le_refl, if_true, Int.sub_add_cancel]
    rw [hy]
    by_cases hl : leap x.year = true
    · simp only [hl, if_true] at hd ⊢
      omega
    · simp only [hl, Bool.false_eq_true, if_false] at hd ⊢
      omega
  · have hmes := day_le_month hfeb
    have hyear : yearStart x.marchYear + 365 ≤ yearStart (x.marchYear + 1) := by
      unfold yearStart
      dsimp only
      omega
    have hp : x.marchMonth + 1 ≤ 11 := by
      unfold marchMonth
      split <;> omega
    have hlast : monthStart (x.marchMonth + 1) ≤ 337 := by
      unfold monthStart
      omega
    omega

/-- by year, month and day -/
def Before (x y : Date) : Prop :=
  x.year < y.year ∨ x.year = y.year ∧ (x.month < y.month ∨ x.month = y.month ∧ x.day < y.day)

/-- **The numbers follow the calendar.** -/
theorem number_lt (h : x.Before y) : x.number < y.number := by
  have hx := And.intro x.month_pos x.month_le
  have hy := And.intro y.month_pos y.month_le
  have hd := y.day_pos
  have hstart : 0 ≤ monthStart y.marchMonth := by
    unfold monthStart marchMonth
    split <;> omega
  unfold number
  -- by the years that begin in March
  rcases lt_trichotomy x.marchYear y.marchYear with hlt | heq | hgt
  · have h1 := day_lt_year (x := x)
    have h2 := yearStart_mono (show x.marchYear + 1 ≤ y.marchYear by omega)
    omega
  · rw [heq]
    rcases lt_trichotomy x.marchMonth y.marchMonth with hm | hm | hm
    · have hfeb : x.month ≠ 2 := by
        intro h2
        unfold marchMonth at hm
        rw [h2] at hm
        split at hm <;> simp at hm <;> omega
      have h1 := day_le_month hfeb
      have h2 : monthStart (x.marchMonth + 1) ≤ monthStart y.marchMonth := by
        unfold monthStart
        omega
      omega
    · have hday : x.day < y.day := by
        unfold Before at h
        unfold marchYear at heq
        unfold marchMonth at hm
        by_cases h1 : x.month ≤ 2 <;> by_cases h2 : y.month ≤ 2 <;>
          simp only [h1, h2, if_true, if_false] at heq hm <;> omega
      rw [hm]
      omega
    · exfalso
      unfold Before at h
      unfold marchYear at heq
      unfold marchMonth at hm
      by_cases h1 : x.month ≤ 2 <;> by_cases h2 : y.month ≤ 2 <;>
        simp only [h1, h2, if_true, if_false] at heq hm <;> omega
  · exfalso
    unfold Before at h
    unfold marchYear at hgt
    split at hgt <;> split at hgt <;> omega

theorem before_of_number_lt (h : x.number < y.number) : x.Before y := by
  by_contra hno
  have hle : y.Before x ∨ (x.year = y.year ∧ x.month = y.month ∧ x.day = y.day) := by
    unfold Before at hno ⊢
    omega
  rcases hle with hlt | ⟨h1, h2, h3⟩
  · exact absurd (number_lt hlt) (not_lt.mpr h.le)
  · unfold number marchYear marchMonth at h
    rw [h1, h2, h3] at h
    exact lt_irrefl _ h

end Date

/-! ## texts -/

/-- the value of a list of digits -/
def digits (cs : List Char) : Nat := Nat.ofDigitChars 10 cs 0

theorem digits_cons (c : Char) (cs : List Char) :
    digits (c :: cs) = 10 ^ cs.length * (c.toNat - '0'.toNat) + digits cs := by
  unfold digits
  rw [Nat.ofDigitChars_cons, Nat.mul_zero, Nat.zero_add, Nat.ofDigitChars_eq_ofDigitChars_zero]

theorem toNat_of_isDigit {c : Char} (h : c.isDigit = true) :
    '0'.toNat ≤ c.toNat ∧ c.toNat ≤ '0'.toNat + 9 := by
  simp only [Char.isDigit, Bool.and_eq_true, decide_eq_true_eq, UInt32.le_iff_toNat_le] at h
  exact h

theorem digits_lt {cs : List Char} (h : ∀ c ∈ cs, c.isDigit = true) : digits cs < 10 ^ cs.length := by
  induction cs with
  | nil => exact Nat.one_pos
  | cons c cs ih =>
    have hc := toNat_of_isDigit (h c List.mem_cons_self)
    have hcs := ih fun d hd => h d (List.mem_cons_of_mem _ hd)
    have hmul : 10 ^ cs.length * (c.toNat - '0'.toNat) ≤ 10 ^ cs.length * 9 :=
      Nat.mul_le_mul_left _ (by omega)
    rw [digits_cons, List.length_cons, Nat.pow_succ]
    omega

theorem digit_le {c d : Char} {cs ds : List Char} (hds : ∀ c ∈ ds, c.isDigit = true)
    (hlen : cs.length = ds.length) (h : digits (c :: cs) ≤ digits (d :: ds)) :
    c.toNat - '0'.toNat ≤ d.toNat - '0'.toNat := by
  by_contra hgt
  have hlt := digits_lt hds
  rw [digits_cons, digits_cons, hlen] at h
  have hmul : 10 ^ ds.length * (d.toNat - '0'.toNat + 1) ≤ 10 ^ ds.length * (c.toNat - '0'.toNat) :=
    Nat.mul_le_mul_left _ (not_le.mp hgt)
  rw [Nat.mul_add, Nat.mul_one] at hmul
  omega

section
variable {xs ys : List Char} (hx : ∀ c ∈ xs, c.isDigit = true) (hy : ∀ c ∈ ys, c.isDigit = true)
  (hlen : xs.length = ys.length)
include hx hy hlen

theorem eq_of_digits (h : digits xs = digits ys) : xs = ys := by
  induction xs generalizing ys with
  | nil => exact (List.length_eq_zero_iff.mp hlen.symm).symm
  | cons c cs ih =>
    obtain ⟨d, ds, rfl⟩ := List.exists_cons_of_length_eq_add_one hlen.symm
    have hlen' : cs.length = ds.length := Nat.succ.inj hlen
    have hcs : ∀ e ∈ cs, e.isDigit = true := fun e he => hx e (List.mem_cons_of_mem _ he)
    have hds : ∀ e ∈ ds, e.isDigit = true := fun e he => hy e (List.mem_cons_of_mem _ he)
    have hc := toNat_of_isDigit (hx c List.mem_cons_self)
    have hd := toNat_of_isDigit (hy d List.mem_cons_self)
    have h1 := digit_le hds hlen' h.le
    have h2 := digit_le hcs hlen'.symm h.ge
    have hcd : c = d := Char.toNat_inj.mp (by omega)
    rw [digits_cons, digits_cons, hcd, hlen'] at h
    rw [hcd, ih hcs hds hlen' (Nat.add_left_cancel h)]

/-- **Numbers of one length sort as texts**, whatever follows them. -/
theorem append_lt_of_digits (h : digits xs < digits ys) (r r' : List Char) : xs ++ r < ys ++ r' := by
  induction xs generalizing ys with
  | nil =>
    rw [List.length_eq_zero_iff.mp hlen.symm] at h
    exact absurd h (lt_irrefl _)
  | cons c cs ih =>
    obtain ⟨d, ds, rfl⟩ := List.exists_cons_of_length_eq_add_one hlen.symm
    have hlen' : cs.length = ds.length := Nat.succ.inj hlen
    have hcs : ∀ e ∈ cs, e.isDigit = true := fun e he => hx e (List.mem_cons_of_mem _ he)
    have hds : ∀ e ∈ ds, e.isDigit = true := fun e he => hy e (List.mem_cons_of_mem _ he)
    have hc := toNat_of_isDigit (hx c List.mem_cons_self)
    have hd := toNat_of_isDigit (hy d List.mem_cons_self)
    have h1 := digit_le hds hlen' h.le
    rw [List.cons_append, List.cons_append, List.cons_lt_cons_iff]
    rcases lt_or_eq_of_le h1 with hlt | heq
    · exact Or.inl (Char.lt_def.mpr (UInt32.lt_iff_toNat_lt.mpr (by
        show c.toNat < d.toNat
        omega)))
    · have hcd : c = d := Char.toNat_inj.mp (by omega)
      rw [digits_cons, digits_cons, hcd, hlen'] at h
      exact Or.inr ⟨hcd, ih hcs hds hlen' (Nat.lt_of_add_lt_add_left h)⟩

end

/-- a date in the form `YYYY-MM-DD` and the rest of the text -/
def read : List Char → Option (Date × List Char)
  | y1 :: y2 :: y3 :: y4 :: '-' :: m1 :: m2 :: '-' :: d1 :: d2 :: rest =>
    if [y1, y2, y3, y4, m1, m2, d1, d2].all Char.isDigit then
      (date? (digits [y1, y2, y3, y4]) (digits [m1, m2]) (digits [d1, d2])).map fun x => (x, rest)
    else none
  | _ => none

theorem date?_eq_some {year month day : Nat} {x : Date} (h : date? year month day = some x) :
    x.year = year ∧ x.month = month ∧ x.day = day := by
  unfold date? at h
  split at h
  · cases h
    exact ⟨rfl, rfl, rfl⟩
  · cases h

theorem read_eq_some {s r : List Char} {x : Date} (h : read s = some (x, r)) :
    ∃ ys ms ds : List Char, (ys.length = 4 ∧ ms.length = 2 ∧ ds.length = 2) ∧
      (∀ c ∈ ys ++ ms ++ ds, c.isDigit = true) ∧
      (digits ys = x.year ∧ digits ms = x.month ∧ digits ds = x.day) ∧
      s = ys ++ '-' :: (ms ++ '-' :: (ds ++ r)) := by
  unfold read at h
  split at h
  · rename_i y1 y2 y3 y4 m1 m2 d1 d2 rest
    split at h
    · rename_i hall
      obtain ⟨x', hx', hp⟩ := Option.map_eq_some_iff.mp h
      cases hp
      obtain ⟨h1, h2, h3⟩ := date?_eq_some hx'
      exact ⟨[y1, y2, y3, y4], [m1, m2], [d1, d2], ⟨rfl, rfl, rfl⟩, List.all_eq_true.mp hall,
        ⟨h1.symm, h2.symm, h3.symm⟩, rfl⟩
    · cases h
  · cases h

/-- **Texts with a date at their head sort like their dates.** -/
theorem lt_of_read {s t r r' : List Char} {x y : Date} (hs : read s = some (x, r))
    (ht : read t = some (y, r')) (h : x.number < y.number) : s < t := by
  obtain ⟨ys, ms, ds, ⟨l1, l2, l3⟩, hdig, ⟨v1, v2, v3⟩, rfl⟩ := read_eq_some hs
  obtain ⟨ys', ms', ds', ⟨l1', l2', l3'⟩, hdig', ⟨v1', v2', v3'⟩, rfl⟩ := read_eq_some ht
  simp only [List.mem_append, or_imp, forall_and] at hdig hdig'
  obtain ⟨⟨hy, hm⟩, hd⟩ := hdig
  obtain ⟨⟨hy', hm'⟩, hd'⟩ := hdig'
  have hby := Date.before_of_number_lt h
  unfold Date.Before at hby
  rw [← v1, ← v2, ← v3, ← v1', ← v2', ← v3'] at hby
  rcases hby with hlt | ⟨heq, hlt | ⟨heq', hlt⟩⟩
  · exact append_lt_of_digits hy hy' (l1.trans l1'.symm) hlt _ _
  · rw [eq_of_digits hy hy' (l1.trans l1'.symm) heq]
    refine List.append_left_lt (List.cons_lt_cons_self.mpr ?_)
    exact append_lt_of_digits hm hm' (l2.trans l2'.symm) hlt _ _
  · rw [eq_of_digits hy hy' (l1.trans l1'.symm) heq, eq_of_digits hm hm' (l2.trans l2'.symm) heq']
    refine List.append_left_lt (List.cons_lt_cons_self.mpr ?_)
    refine List.append_left_lt (List.cons_lt_cons_self.mpr ?_)
    exact append_lt_of_digits hd hd' (l3.trans l3'.symm) hlt _ _

end Calendar
