import Mathlib.Data.Int.Log
import Mathlib.Data.Rat.Floor
import Mathlib.Tactic.Linarith
import Mathlib.Tactic.FieldSimp
import Mathlib.Tactic.Ring

/-!
# Numbers of bounded precision

The binary numbers `m * 2^k` with `|m| ≤ 2^prec` and `emin ≤ k` (`Bits`), and the rounding of a rational
to them (`round`), for any rounding mode to the integers.

* `bits_round`        a rounded number is one of them;
* `round_eq_self`     they are what rounding does not change;
* `exists_int_round`  a rounded integer is an integer, when the exponents may be 0;
* `le_abs_round`      rounding does not cross a power of two;
* `round_mono`        rounding keeps the order.
-/

namespace Precision

/-- a rounding mode to the integers -/
structure Mode where
  rnd : ℚ → ℤ
  mono {a b : ℚ} (h : a ≤ b) : rnd a ≤ rnd b
  int : ∀ n : ℤ, rnd n = n

/-- the numbers of a precision -/
def Bits (prec : ℕ) (emin : ℤ) (q : ℚ) : Prop :=
  ∃ m k : ℤ, |m| ≤ 2 ^ prec ∧ emin ≤ k ∧ q = m * 2 ^ k

section
variable (prec : ℕ) (emin : ℤ)

/-- the exponent of the last place of a number -/
def expo (q : ℚ) : ℤ := max (Int.log 2 |q| + 1 - prec) emin

def round (μ : Mode) (q : ℚ) : ℚ := μ.rnd (q / 2 ^ expo prec emin q) * 2 ^ expo prec emin q

end

theorem two_zpow_pos (k : ℤ) : (0 : ℚ) < 2 ^ k := zpow_pos (by norm_num) k

theorem two_zpow_le {j k : ℤ} (h : j ≤ k) : (2 : ℚ) ^ j ≤ 2 ^ k :=
  zpow_le_zpow_right₀ (by norm_num) h

theorem two_zpow_add (j k : ℤ) : (2 : ℚ) ^ (j + k) = 2 ^ j * 2 ^ k :=
  zpow_add₀ (by norm_num) j k

theorem two_zpow_multiple {j k : ℤ} (h : j ≤ k) : ∃ z : ℤ, (2 : ℚ) ^ k = z * 2 ^ j := by
  obtain ⟨n, hn⟩ : ∃ n : ℕ, k = n + j := ⟨(k - j).toNat, by omega⟩
  refine ⟨2 ^ n, ?_⟩
  rw [hn, two_zpow_add, zpow_natCast]
  push_cast
  rfl

namespace Mode
variable (μ : Mode)

theorem abs_rnd_le {x : ℚ} {n : ℕ} (h : |x| ≤ n) : |μ.rnd x| ≤ n := by
  obtain ⟨h1, h2⟩ := abs_le.mp h
  refine abs_le.mpr ⟨?_, ?_⟩
  · have := μ.mono (show ((-(n : ℤ) : ℤ) : ℚ) ≤ x by push_cast; exact h1)
    rwa [μ.int] at this
  · have := μ.mono (show x ≤ ((n : ℤ) : ℚ) by push_cast; exact h2)
    rwa [μ.int] at this

end Mode

section
variable {prec : ℕ} {emin : ℤ} (μ : Mode) {q : ℚ}

theorem emin_le_expo (q : ℚ) : emin ≤ expo prec emin q := le_max_right _ _

/-- in units of the last place a number has at most `prec` bits -/
theorem abs_div_le (q : ℚ) : |q / 2 ^ expo prec emin q| ≤ ((2 ^ prec : ℕ) : ℚ) := by
  have hlog : |q| < 2 ^ (Int.log 2 |q| + 1) := by
    exact_mod_cast Int.lt_zpow_succ_log_self (by norm_num : 1 < 2) |q|
  have hexp : Int.log 2 |q| + 1 ≤ prec + expo prec emin q := by
    have := le_max_left (Int.log 2 |q| + 1 - prec) emin
    unfold expo
    omega
  have hle : |q| ≤ 2 ^ prec * 2 ^ expo prec emin q := by
    rw [← zpow_natCast, ← two_zpow_add]
    exact hlog.le.trans (two_zpow_le hexp)
  rw [abs_div, abs_of_pos (two_zpow_pos _), div_le_iff₀ (two_zpow_pos _)]
  push_cast
  exact hle

/-- **A rounded number has the precision.** -/
theorem bits_round (q : ℚ) : Bits prec emin (round prec emin μ q) := by
  refine ⟨μ.rnd (q / 2 ^ expo prec emin q), expo prec emin q, ?_, emin_le_expo q, rfl⟩
  exact_mod_cast μ.abs_rnd_le (abs_div_le q)

theorem exists_multiple (hprec : 0 < prec) (h : Bits prec emin q) :
    ∃ z : ℤ, q = z * 2 ^ expo prec emin q := by
  obtain ⟨m, k, hm, hk, hq⟩ := h
  by_cases h0 : q = 0
  · exact ⟨0, by rw [h0]; simp⟩
  by_cases hle : expo prec emin q ≤ k
  · obtain ⟨z, hz⟩ := two_zpow_multiple hle
    refine ⟨m * z, hq.trans ?_⟩
    rw [hz]
    push_cast
    ring
  -- else the number is `2^prec` units of `k`, and its last place is one above `k`
  have habs : |q| = |(m : ℚ)| * 2 ^ k := by rw [hq, abs_mul, abs_of_pos (two_zpow_pos k)]
  have hpos : 0 < |q| := abs_pos.mpr h0
  have hbound : |(m : ℚ)| ≤ 2 ^ (prec : ℤ) := by
    rw [zpow_natCast]
    exact_mod_cast hm
  have hhigh : (prec : ℤ) + k ≤ Int.log 2 |q| := by
    unfold expo at hle
    omega
  have hlow : (2 : ℚ) ^ ((prec : ℤ) + k) ≤ |q| := by
    exact_mod_cast (Int.zpow_le_iff_le_log (by norm_num : 1 < 2) hpos).mpr hhigh
  have hm2 : |(m : ℚ)| = 2 ^ (prec : ℤ) := by
    rw [habs, two_zpow_add] at hlow
    exact le_antisymm hbound (le_of_mul_le_mul_right hlow (two_zpow_pos k))
  have hlog : Int.log 2 |q| = (prec : ℤ) + k := by
    rw [habs, hm2, ← two_zpow_add]
    exact_mod_cast Int.log_zpow (R := ℚ) (by norm_num : 1 < 2) ((prec : ℤ) + k)
  have hexpo : expo prec emin q = k + 1 := by
    unfold expo at hle ⊢
    omega
  obtain ⟨n, rfl⟩ : ∃ n, prec = n + 1 := ⟨prec - 1, by omega⟩
  have hpow : (2 : ℚ) ^ ((n + 1 : ℕ) : ℤ) = 2 * 2 ^ n := by
    rw [zpow_natCast, pow_succ, mul_comm]
  have hk1 : (2 : ℚ) ^ (k + 1) = 2 * 2 ^ k := by
    rw [two_zpow_add, zpow_one, mul_comm]
  rw [hpow] at hm2
  rw [hexpo, hq, hk1]
  rcases abs_eq (by positivity) |>.mp hm2 with hm2 | hm2
  · refine ⟨2 ^ n, ?_⟩
    rw [hm2]
    push_cast
    ring
  · refine ⟨-2 ^ n, ?_⟩
    rw [hm2]
    push_cast
    ring

/-- **Rounding does not change the numbers of the precision**, and only these. -/
theorem round_eq_self (hprec : 0 < prec) : round prec emin μ q = q ↔ Bits prec emin q := by
  refine ⟨fun h => h ▸ bits_round μ q, fun h => ?_⟩
  obtain ⟨z, hz⟩ := exists_multiple hprec h
  have hdiv : q / 2 ^ expo prec emin q = (z : ℚ) := by
    rw [div_eq_iff (two_zpow_pos _).ne']
    exact hz
  unfold round
  rw [hdiv, μ.int]
  exact hz.symm

theorem bits_int {n : ℤ} (hemin : emin ≤ 0) (hn : |n| ≤ 2 ^ prec) : Bits prec emin n :=
  ⟨n, 0, hn, hemin, by rw [zpow_zero, mul_one]⟩

theorem exists_int_round (hprec : 0 < prec) (hemin : emin ≤ 0) (n : ℤ) :
    ∃ z : ℤ, round prec emin μ n = z := by
  by_cases h : expo prec emin (n : ℚ) ≤ 0
  · -- then the integer has the precision
    refine ⟨n, (round_eq_self μ hprec).mpr (bits_int hemin ?_)⟩
    have hle : |(n : ℚ) / 2 ^ expo prec emin (n : ℚ)| ≤ ((2 ^ prec : ℕ) : ℚ) := abs_div_le (n : ℚ)
    have habs : |(n : ℚ)| ≤ |(n : ℚ) / 2 ^ expo prec emin (n : ℚ)| := by
      rw [abs_div, abs_of_pos (two_zpow_pos _), le_div_iff₀ (two_zpow_pos _)]
      have h1 : (2 : ℚ) ^ expo prec emin (n : ℚ) ≤ 1 := (two_zpow_le h).trans_eq (zpow_zero 2)
      exact mul_le_of_le_one_right (abs_nonneg _) h1
    exact_mod_cast habs.trans hle
  · obtain ⟨z, hz⟩ := two_zpow_multiple (j := 0) (not_le.mp h).le
    refine ⟨μ.rnd ((n : ℚ) / 2 ^ expo prec emin (n : ℚ)) * z, ?_⟩
    unfold round
    rw [hz, zpow_zero, mul_one]
    push_cast
    rw [← mul_one (z : ℚ), ← zpow_zero (2 : ℚ), ← hz]

/-- rounding does not cross a power of two -/
theorem le_abs_round (hprec : 0 < prec) {k : ℤ} (hk : emin ≤ k) (h : 2 ^ k ≤ |q|) :
    2 ^ k ≤ |round prec emin μ q| := by
  have hpos : 0 < |q| := (two_zpow_pos k).trans_le h
  have hlog : k ≤ Int.log 2 |q| :=
    (Int.zpow_le_iff_le_log (by norm_num : 1 < 2) hpos).mp (by exact_mod_cast h)
  have hself : (2 : ℚ) ^ Int.log 2 |q| ≤ |q| := by
    exact_mod_cast Int.zpow_log_le_self (by norm_num : 1 < 2) hpos
  have hexpo : expo prec emin q ≤ Int.log 2 |q| := by
    unfold expo
    omega
  obtain ⟨z, hz⟩ := two_zpow_multiple hexpo
  have hunit := two_zpow_pos (expo prec emin q)
  refine (two_zpow_le hlog).trans ?_
  unfold round
  rw [abs_mul, abs_of_pos hunit, hz]
  refine mul_le_mul_of_nonneg_right ?_ hunit.le
  rw [hz, ← le_div_iff₀ hunit] at hself
  -- in units of the last place the power is an integer, which rounding keeps
  rcases le_or_gt 0 q with hq | hq
  · rw [abs_of_nonneg hq] at hself
    have hr := μ.mono hself
    rw [μ.int] at hr
    exact (Int.cast_le.mpr hr).trans (le_abs_self _)
  · rw [abs_of_neg hq, neg_div] at hself
    have hr := μ.mono (show q / 2 ^ expo prec emin q ≤ ((-z : ℤ) : ℚ) by push_cast; linarith)
    rw [μ.int] at hr
    have hr' : (μ.rnd (q / 2 ^ expo prec emin q) : ℚ) ≤ -z := by exact_mod_cast hr
    exact (le_neg.mpr hr').trans (neg_le_abs _)

/-! ## rounding is monotone -/

theorem round_nonneg (h : 0 ≤ q) : 0 ≤ round prec emin μ q := by
  have hr := μ.mono (show ((0 : ℤ) : ℚ) ≤ q / 2 ^ expo prec emin q by
    push_cast
    exact div_nonneg h (two_zpow_pos _).le)
  rw [μ.int] at hr
  exact mul_nonneg (Int.cast_nonneg hr) (two_zpow_pos _).le

theorem round_nonpos (h : q ≤ 0) : round prec emin μ q ≤ 0 := by
  have hr := μ.mono (show q / 2 ^ expo prec emin q ≤ ((0 : ℤ) : ℚ) by
    push_cast
    exact div_nonpos_of_nonpos_of_nonneg h (two_zpow_pos _).le)
  rw [μ.int] at hr
  exact mul_nonpos_of_nonpos_of_nonneg (Int.cast_nonpos.mpr hr) (two_zpow_pos _).le

theorem abs_round_le (hprec : 0 < prec) {k : ℤ} (hk : emin ≤ k) (h : |q| ≤ 2 ^ k) :
    |round prec emin μ q| ≤ 2 ^ k := by
  rcases eq_or_ne q 0 with rfl | h0
  · have hr : round prec emin μ 0 = 0 :=
      le_antisymm (round_nonpos μ le_rfl) (round_nonneg μ le_rfl)
    rw [hr, abs_zero]
    exact (two_zpow_pos k).le
  have hlog : Int.log 2 |q| ≤ k := by
    have hmono := Int.log_mono_right (b := 2) (abs_pos.mpr h0) h
    rwa [show (2 : ℚ) ^ k = ((2 : ℕ) : ℚ) ^ k by norm_num, Int.log_zpow (by norm_num)] at hmono
  have hexpo : expo prec emin q ≤ k := by
    unfold expo
    omega
  obtain ⟨z, hz⟩ := two_zpow_multiple hexpo
  have hunit := two_zpow_pos (expo prec emin q)
  have hz0 : 0 ≤ z := by
    have hpos : (0 : ℚ) < z * 2 ^ expo prec emin q := hz ▸ two_zpow_pos k
    exact_mod_cast ((mul_pos_iff_of_pos_right hunit).mp hpos).le
  obtain ⟨n, rfl⟩ := Int.eq_ofNat_of_zero_le hz0
  have hle : |q / 2 ^ expo prec emin q| ≤ n := by
    rw [abs_div, abs_of_pos hunit, div_le_iff₀ hunit]
    exact h.trans_eq (by exact_mod_cast hz)
  have hr : (|μ.rnd (q / 2 ^ expo prec emin q)| : ℚ) ≤ n := by exact_mod_cast μ.abs_rnd_le hle
  unfold round
  rw [abs_mul, abs_of_pos hunit, hz]
  exact mul_le_mul_of_nonneg_right (by exact_mod_cast hr) hunit.le

/-- a power of two lies between two numbers of different last places -/
theorem abs_round_le_of_expo_lt (hprec : 0 < prec) {a b : ℚ} (hb : b ≠ 0)
    (h : expo prec emin a < expo prec emin b) :
    |round prec emin μ a| ≤ |round prec emin μ b| := by
  have hk : emin ≤ Int.log 2 |b| ∧ Int.log 2 |a| + 1 ≤ Int.log 2 |b| := by
    unfold expo at h
    omega
  have ha : |a| ≤ 2 ^ Int.log 2 |b| := by
    have hlt : |a| < ((2 : ℕ) : ℚ) ^ (Int.log 2 |a| + 1) :=
      Int.lt_zpow_succ_log_self (by norm_num : 1 < 2) |a|
    exact hlt.le.trans (by exact_mod_cast two_zpow_le hk.2)
  have hb' : 2 ^ Int.log 2 |b| ≤ |b| := by
    exact_mod_cast Int.zpow_log_le_self (by norm_num : 1 < 2) (abs_pos.mpr hb)
  exact (abs_round_le μ hprec hk.1 ha).trans (le_abs_round μ hprec hk.1 hb')

theorem expo_le_expo {a b : ℚ} (ha : a ≠ 0) (h : |a| ≤ |b|) :
    expo prec emin a ≤ expo prec emin b := by
  have hlog := Int.log_mono_right (b := 2) (abs_pos.mpr ha) h
  unfold expo
  omega

/-- **Rounding is monotone.** -/
theorem round_mono (hprec : 0 < prec) {a b : ℚ} (h : a ≤ b) :
    round prec emin μ a ≤ round prec emin μ b := by
  have hsame (he : expo prec emin a = expo prec emin b) :
      round prec emin μ a ≤ round prec emin μ b := by
    unfold round
    rw [he]
    refine mul_le_mul_of_nonneg_right (Int.cast_le.mpr (μ.mono ?_)) (two_zpow_pos _).le
    exact div_le_div_of_nonneg_right h (two_zpow_pos _).le
  rcases lt_or_ge 0 a with ha | ha
  · -- both positive: the greater one has the greater last place
    have hb : 0 < b := ha.trans_le h
    rcases (expo_le_expo ha.ne' (abs_le_abs_of_nonneg ha.le h)).eq_or_lt with he | he
    · exact hsame he
    · have hab := abs_round_le_of_expo_lt μ hprec hb.ne' he
      rwa [abs_of_nonneg (round_nonneg μ ha.le), abs_of_nonneg (round_nonneg μ hb.le)] at hab
  rcases le_or_gt 0 b with hb | hb
  · exact (round_nonpos μ ha).trans (round_nonneg μ hb)
  · -- both negative: the smaller one has the greater last place
    rcases (expo_le_expo hb.ne (abs_le_abs_of_nonpos hb.le h)).eq_or_lt with he | he
    · exact hsame he.symm
    · have hab := abs_round_le_of_expo_lt μ hprec (h.trans_lt hb).ne he
      rw [abs_of_nonpos (round_nonpos μ ha), abs_of_nonpos (round_nonpos μ hb.le)] at hab
      exact neg_le_neg_iff.mp hab

end

end Precision
