import Fractura.Lib.Precision
import Fractura.Chilecompra.Frames
import Fractura.Corrupcion

/-!
# Amounts: how a text becomes an integer

A `DOUBLE` is the nearest number of 53 bits (`doble`).  A text in Chilean notation has dots as thousands
separators and a comma before its decimals; `Importe` is what it consists of.
-/

namespace Fractura

/-! ## rounding -/

theorem roundHalfEven_int (n : ℤ) : roundHalfEven n = n := by
  unfold roundHalfEven
  simp

theorem floor_le_roundHalfEven (q : ℚ) : q.floor ≤ roundHalfEven q := by
  unfold roundHalfEven
  dsimp only
  split_ifs <;> omega

theorem roundHalfEven_le (q : ℚ) : roundHalfEven q ≤ q.floor + 1 := by
  unfold roundHalfEven
  dsimp only
  split_ifs <;> omega

theorem roundHalfEven_mono {a b : ℚ} (hab : a ≤ b) : roundHalfEven a ≤ roundHalfEven b := by
  have hfloor : a.floor ≤ b.floor := Rat.floor_monotone hab
  rcases lt_or_eq_of_le hfloor with hlt | heq
  · have h1 := roundHalfEven_le a
    have h2 := floor_le_roundHalfEven b
    omega
  · unfold roundHalfEven
    dsimp only
    rw [heq]
    split_ifs <;> first | omega | linarith

theorem roundHalfEven_le_add (q : ℚ) : (roundHalfEven q : ℚ) ≤ q + 1 / 2 := by
  have h1 : (q.floor : ℚ) ≤ q := Rat.floor_le q
  unfold roundHalfEven
  dsimp only
  split_ifs <;> push_cast <;> linarith

/-- the rounding of `::BIGINT` and of the arithmetic of a `DOUBLE` -/
def halfEven : Precision.Mode where
  rnd := roundHalfEven
  mono := roundHalfEven_mono
  int := roundHalfEven_int

/-- a rational as a `float64` -/
def doble (q : ℚ) : Double :=
  let r := Precision.round 53 (-1074) halfEven q
  if |r| < 2 ^ 1024 then .fin r else .inf (decide (q < 0))

/-- the rational is a `float64` -/
def EsDoble (q : ℚ) : Prop := Precision.Bits 53 (-1074) q ∧ |q| < 2 ^ 1024

theorem doble_of_esDoble {q : ℚ} (h : EsDoble q) : doble q = .fin q := by
  have hr : Precision.round 53 (-1074) halfEven q = q :=
    (Precision.round_eq_self halfEven (by norm_num)).mpr h.1
  unfold doble
  dsimp only
  rw [hr, if_pos h.2]

theorem round_of_doble {q r : ℚ} (h : doble q = .fin r) :
    Precision.round 53 (-1074) halfEven q = r := by
  unfold doble at h
  dsimp only at h
  split at h
  · exact Double.fin.inj h
  · cases h

theorem esDoble_of_doble {q r : ℚ} (h : doble q = .fin r) : EsDoble r := by
  have hr := round_of_doble h
  refine ⟨hr ▸ Precision.bits_round halfEven q, ?_⟩
  unfold doble at h
  dsimp only at h
  rw [hr] at h
  split at h
  · assumption
  · cases h

/-- **The rationals that do not change as a `float64`.** -/
theorem doble_eq_fin_iff {q : ℚ} : doble q = .fin q ↔ EsDoble q :=
  ⟨esDoble_of_doble, doble_of_esDoble⟩

theorem esDoble_int {n : ℤ} (h : |n| ≤ 2 ^ 53) : EsDoble n := by
  refine ⟨Precision.bits_int (by norm_num) h, ?_⟩
  have hq : |(n : ℚ)| ≤ 2 ^ 53 := by exact_mod_cast h
  exact hq.trans_lt (pow_lt_pow_right₀ (by norm_num) (by norm_num))

theorem doble_int (n : ℤ) : (∃ z : ℤ, doble n = .fin z) ∨ ∃ neg, doble n = .inf neg := by
  obtain ⟨z, hz⟩ : ∃ z : ℤ, Precision.round 53 (-1074) halfEven n = z :=
    Precision.exists_int_round halfEven (by norm_num) (by norm_num) n
  unfold doble
  dsimp only
  rw [hz]
  split
  · exact Or.inl ⟨z, rfl⟩
  · exact Or.inr ⟨_, rfl⟩

theorem doble_entre {a b c : ℚ} {z : ℤ} (hab : a ≤ b) (hbc : b ≤ c) (ha : doble a = .fin z)
    (hc : doble c = .fin z) : doble b = .fin z := by
  have h1 : Precision.round 53 (-1074) halfEven a ≤ Precision.round 53 (-1074) halfEven b :=
    Precision.round_mono halfEven (by norm_num) hab
  have h2 : Precision.round 53 (-1074) halfEven b ≤ Precision.round 53 (-1074) halfEven c :=
    Precision.round_mono halfEven (by norm_num) hbc
  rw [round_of_doble ha] at h1
  rw [round_of_doble hc] at h2
  unfold doble
  dsimp only
  rw [le_antisymm h2 h1, if_pos (esDoble_of_doble ha).2]

/-! ## the text of a `float64` -/

/-- the multiples of `10^j` on both sides of an integer, the nearer one first -/
def alrededor (j : Nat) (z : ℤ) : List ℤ :=
  let a := z / 10 ^ j * 10 ^ j
  if 2 * (z - a) ≤ 10 ^ j then [a, a + 10 ^ j] else [a + 10 ^ j, a]

/-- the first of them that is read back as the `float64` -/
def multiplo (j : Nat) (z : ℤ) : Option ℤ := (alrededor j z).find? fun m => decide (doble m = .fin z)

/-- the number that the text of an integer shows: of those that are read back as its `float64` the one
with the fewest digits, and of these the nearest -/
def corto (z : ℤ) : ℤ :=
  (multiplo (Nat.findGreatest (fun j => (multiplo j z).isSome = true)
    (Nat.toDigits 10 z.natAbs).length) z).getD z

theorem mem_alrededor {j : Nat} {z m : ℤ} :
    m ∈ alrededor j z ↔ m = z / 10 ^ j * 10 ^ j ∨ m = z / 10 ^ j * 10 ^ j + 10 ^ j := by
  unfold alrededor
  dsimp only
  split
  · simp
  · simp [or_comm]

/-- when some multiple of the power is read back, one beside the integer is -/
theorem multiplo_isSome {j : Nat} {z : ℤ} (h : EsDoble z) :
    (multiplo j z).isSome = true ↔ ∃ m : ℤ, doble ((m * 10 ^ j : ℤ) : ℚ) = .fin z := by
  have hpow : (0 : ℤ) < 10 ^ j := by positivity
  have hz := doble_of_esDoble h
  unfold multiplo
  rw [List.find?_isSome]
  simp only [mem_alrededor, decide_eq_true_eq]
  refine ⟨fun h => ?_, fun h => ?_⟩
  · obtain ⟨m, rfl | rfl, hm⟩ := h
    · exact ⟨_, hm⟩
    · exact ⟨z / 10 ^ j + 1, by rwa [add_mul, one_mul]⟩
  · obtain ⟨m, hm⟩ := h
    rcases le_or_gt (m * 10 ^ j) z with hle | hgt
    · have hma : m * 10 ^ j ≤ z / 10 ^ j * 10 ^ j :=
        mul_le_mul_of_nonneg_right ((Int.le_ediv_iff_mul_le hpow).mpr hle) hpow.le
      have haz : z / 10 ^ j * 10 ^ j ≤ z := Int.ediv_mul_le z hpow.ne'
      exact ⟨_, Or.inl rfl, doble_entre (Int.cast_le.mpr hma) (Int.cast_le.mpr haz) hm hz⟩
    · have hma : z / 10 ^ j * 10 ^ j + 10 ^ j ≤ m * 10 ^ j := by
        rw [← add_one_mul]
        exact mul_le_mul_of_nonneg_right ((Int.ediv_lt_iff_lt_mul hpow).mpr hgt) hpow.le
      have haz : z ≤ z / 10 ^ j * 10 ^ j + 10 ^ j := by
        have := Int.lt_ediv_add_one_mul_self z hpow
        rw [add_mul, one_mul] at this
        exact this.le
      exact ⟨_, Or.inr rfl, doble_entre (Int.cast_le.mpr haz) (Int.cast_le.mpr hma) hz hm⟩

theorem exists_corto {z : ℤ} (h : EsDoble z) :
    ∃ j, multiplo j z = some (corto z) ∧ ∀ i, (multiplo i z).isSome = true →
      i ≤ (Nat.toDigits 10 z.natAbs).length → i ≤ j := by
  have h0 : (multiplo 0 z).isSome = true :=
    (multiplo_isSome h).mpr ⟨z, by rw [pow_zero, mul_one]; exact doble_of_esDoble h⟩
  let P : Nat → Prop := fun j => (multiplo j z).isSome = true
  have hspec : P (Nat.findGreatest P (Nat.toDigits 10 z.natAbs).length) :=
    Nat.findGreatest_spec (Nat.zero_le _) h0
  obtain ⟨m, hm⟩ := Option.isSome_iff_exists.mp hspec
  refine ⟨Nat.findGreatest P (Nat.toDigits 10 z.natAbs).length, ?_, fun i hi hle => ?_⟩
  · have hc : corto z = m := by
      unfold corto
      rw [show multiplo (Nat.findGreatest (fun j => (multiplo j z).isSome = true)
        (Nat.toDigits 10 z.natAbs).length) z = some m from hm, Option.getD_some]
    rw [hc]
    exact hm
  · exact Nat.le_findGreatest hle hi

/-- **The text is read back.** -/
theorem doble_corto {z : ℤ} (h : EsDoble z) : doble (corto z) = .fin z := by
  obtain ⟨j, hj, -⟩ := exists_corto h
  have hp := List.find?_some (p := fun m : ℤ => decide (doble m = .fin z)) hj
  exact of_decide_eq_true hp

/-- **No text with fewer digits is read back**: what is shown ends in as many zeros as any other
number that is. -/
theorem corto_menos_cifras {z m : ℤ} {i : Nat} (h : EsDoble z)
    (hm : doble ((m * 10 ^ i : ℤ) : ℚ) = .fin z) (hi : i ≤ (Nat.toDigits 10 z.natAbs).length) :
    (10 : ℤ) ^ i ∣ corto z := by
  obtain ⟨j, hj, hmax⟩ := exists_corto h
  have hij : i ≤ j := hmax i ((multiplo_isSome h).mpr ⟨m, hm⟩) hi
  have hdvd : (10 : ℤ) ^ j ∣ corto z := by
    rcases mem_alrededor.mp (List.mem_of_find?_eq_some hj) with hc | hc
    · rw [hc]
      exact Dvd.intro_left _ rfl
    · rw [hc]
      exact dvd_add (Dvd.intro_left _ rfl) dvd_rfl
  exact (pow_dvd_pow 10 hij).trans hdvd

/-- below a power of two the numbers are closer: the nearest text of these digits, which ends in 1, is
not read back -/
example : corto (2 ^ 89) = 618970019642690200000000000 := by decide +kernel

theorem corto_of_lt {z : ℤ} (h : |z| < 2 ^ 53) : corto z = z := by
  have hread := doble_corto (esDoble_int h.le)
  rcases le_or_gt |corto z| (2 ^ 53) with hle | hgt
  · rw [doble_of_esDoble (esDoble_int hle)] at hread
    exact_mod_cast Double.fin.inj hread
  · -- no larger number is read as one below the power
    have hround : Precision.round 53 (-1074) halfEven (corto z : ℚ) = z := round_of_doble hread
    have hlow : (2 : ℚ) ^ (53 : ℤ) ≤ |(corto z : ℚ)| := by exact_mod_cast hgt.le
    have hbig : (2 : ℚ) ^ (53 : ℤ) ≤ |Precision.round 53 (-1074) halfEven (corto z : ℚ)| :=
      Precision.le_abs_round halfEven (by norm_num) (by norm_num) hlow
    rw [hround] at hbig
    have habs : |(z : ℚ)| < 2 ^ (53 : ℤ) := by exact_mod_cast h
    exact absurd hbig (not_le.mpr habs)

/-! ## digits -/

namespace Concreto

theorem digito_of_isDigit {c : Char} (h : c.isDigit = true) : digito c = some (c.toNat - '0'.toNat) := by
  have hc : '0' ≤ c ∧ c ≤ '9' := by
    simpa [Char.isDigit, Char.le_def] using h
  unfold digito
  rw [if_pos hc]
  rfl

theorem foldl_digitos {cs : List Char} (h : ∀ c ∈ cs, c.isDigit = true) (acc : Nat) :
    cs.foldl (fun acc c => acc.bind fun n => (digito c).map fun d => n * 10 + d) (some acc) =
      some (Nat.ofDigitChars 10 cs acc) := by
  induction cs generalizing acc with
  | nil => rfl
  | cons c cs ih =>
    rw [List.foldl_cons, digito_of_isDigit (h c List.mem_cons_self), Nat.ofDigitChars_cons,
      Nat.mul_comm]
    exact ih (fun d hd => h d (List.mem_cons_of_mem _ hd)) _

theorem natural_eq {cs : List Char} (h0 : cs ≠ []) (h : ∀ c ∈ cs, c.isDigit = true) :
    natural cs = some (Nat.ofDigitChars 10 cs 0) := by
  unfold natural
  rw [if_neg h0, foldl_digitos h]

end Concreto

/-! ## a concrete engine with `float64` numbers

It is `motorConcreto` on decimal texts of any length, their value rounded to a `float64`; an integer gets
the shortest text, in digits. -/

open Concreto in
def motorBinario : Motor :=
  { motorConcreto with
    tryCastDouble := fun s =>
      if s = "nan" then some .nan
      else if s = "inf" then some (.inf false)
      else if s = "-inf" then some (.inf true)
      else (decimal s).map doble
    bindDouble := fun d => some (textoDouble (fun n => toString n) (match d with
      | .fin q => .fin (corto (roundHalfEven q))
      | d => d))
    hugeintToDouble := fun n => doble n }

theorem tryCastDouble_motorBinario {s : String} {q : ℚ} (h : Concreto.decimal s = some q) :
    motorBinario.tryCastDouble s = some (doble q) := by
  have hno {t : String} (ht : Concreto.decimal t = none) : s ≠ t := by
    rintro rfl
    rw [ht] at h
    cases h
  show (if s = "nan" then some Double.nan else _) = _
  rw [if_neg (hno (by decide)), if_neg (hno (by decide)), if_neg (hno (by decide)), h]
  rfl

/-! ## Chilean notation -/

/-- `REPLACE(x, '.', '')` -/
def sinPuntos (cs : List Char) : List Char := cs.filter fun c => decide (c ≠ '.')

/-- an amount: the digits before the comma, without their dots, and those after it -/
structure Importe where
  entero : List Char
  decimales : List Char
  ne_nil : entero ≠ []
  digitos : ∀ c ∈ entero ++ decimales, c.isDigit = true
  deriving DecidableEq

namespace Importe

def parteEntera (x : Importe) : Nat := Nat.ofDigitChars 10 x.entero 0

/-- the denoted amount -/
def valor (x : Importe) : ℚ :=
  x.parteEntera + (Nat.ofDigitChars 10 x.decimales 0 : ℚ) / 10 ^ x.decimales.length

/-- the text with a decimal point -/
def texto (x : Importe) : List Char :=
  x.entero ++ if x.decimales = [] then [] else '.' :: x.decimales

end Importe

def importeDe (entero decimales : List Char) : Option Importe :=
  if h : entero ≠ [] ∧ (entero ++ decimales).all Char.isDigit = true then
    some ⟨entero, decimales, h.1, List.all_eq_true.mp h.2⟩
  else none

/-- digits with dots between them, then perhaps a comma and decimals -/
def leerImporte (cs : List Char) : Option Importe :=
  match cs.span fun c => decide (c ≠ ',') with
  | (a, []) => importeDe (sinPuntos a) []
  | (a, _ :: decimales) =>
    if decimales = [] then none else importeDe (sinPuntos a) decimales

/-- the dots, if any, separate groups of three digits -/
def agrupado (cs : List Char) : Bool :=
  match Text.fields '.' cs with
  | [] | [_] => true
  | g :: gs => decide (1 ≤ g.length ∧ g.length ≤ 3) && gs.all fun g => decide (g.length = 3)

def leerAgrupado (cs : List Char) : Option Importe :=
  if agrupado (cs.takeWhile fun c => decide (c ≠ ',')) then leerImporte cs else none

/-- the amount that a text denotes in Chilean notation, blanks around it allowed -/
def chileno (s : String) : Option ℚ :=
  match (trim s).toList with
  | '-' :: cs => (leerAgrupado cs).map fun x => -x.valor
  | cs => (leerAgrupado cs).map Importe.valor

/-! ## what the loaders make of a text in this notation -/

section
variable {cs : List Char} {x : Importe}

theorem ne_of_isDigit {c d : Char} (h : c.isDigit = true) (hd : d.isDigit = false) : c ≠ d := by
  rintro rfl
  exact absurd (h.symm.trans hd) (by decide)

theorem importeDe_eq_some {entero decimales : List Char} (h : importeDe entero decimales = some x) :
    x.entero = entero ∧ x.decimales = decimales := by
  unfold importeDe at h
  split at h
  · cases h
    exact ⟨rfl, rfl⟩
  · cases h

theorem leerImporte_eq_some (h : leerImporte cs = some x) :
    ∃ a, ',' ∉ a ∧ sinPuntos a = x.entero ∧
      cs = a ++ if x.decimales = [] then [] else ',' :: x.decimales := by
  have hspan : cs.span (fun c => decide (c ≠ ',')) =
      (cs.takeWhile fun c => decide (c ≠ ','), cs.dropWhile fun c => decide (c ≠ ',')) :=
    List.span_eq_takeWhile_dropWhile _ _
  have hcs := List.takeWhile_append_dropWhile (p := fun c : Char => decide (c ≠ ',')) (l := cs)
  have hno : ',' ∉ cs.takeWhile fun c => decide (c ≠ ',') := fun hm =>
    of_decide_eq_true (List.mem_takeWhile_imp (p := fun c : Char => decide (c ≠ ',')) hm) rfl
  unfold leerImporte at h
  rw [hspan] at h
  refine ⟨cs.takeWhile fun c => decide (c ≠ ','), hno, ?_⟩
  cases hd : cs.dropWhile fun c => decide (c ≠ ',') with
  | nil =>
    rw [hd] at h hcs
    obtain ⟨h1, h2⟩ := importeDe_eq_some h
    refine ⟨h1.symm, ?_⟩
    rw [if_pos h2]
    exact hcs.symm
  | cons c decimales =>
    rw [hd] at h hcs
    dsimp only at h
    split at h
    · cases h
    · rename_i hne
      obtain ⟨h1, h2⟩ := importeDe_eq_some h
      have hc : c = ',' := by
        have hhead := List.head?_dropWhile_not (fun c : Char => decide (c ≠ ',')) cs
        rw [hd] at hhead
        simpa using hhead
      subst hc
      refine ⟨h1.symm, ?_⟩
      rw [h2, if_neg hne]
      exact hcs.symm

theorem leerAgrupado_eq_some (h : leerAgrupado cs = some x) : leerImporte cs = some x := by
  unfold leerAgrupado at h
  split at h
  · exact h
  · cases h

theorem Importe.filter_decimales (x : Importe) {d : Char} (hd : d.isDigit = false) :
    x.decimales.filter (fun c => decide (c ≠ d)) = x.decimales :=
  List.filter_eq_self.mpr fun c hc =>
    decide_eq_true (ne_of_isDigit (x.digitos c (List.mem_append_right _ hc)) hd)

theorem Importe.filter_entero (x : Importe) {d : Char} (hd : d.isDigit = false) :
    x.entero.filter (fun c => decide (c ≠ d)) = x.entero :=
  List.filter_eq_self.mpr fun c hc =>
    decide_eq_true (ne_of_isDigit (x.digitos c (List.mem_append_left _ hc)) hd)

/-- **SQL casts the digits with a decimal point.** -/
theorem replace_importe (h : leerImporte cs = some x) :
    ((sinPuntos cs).map fun c => if c = ',' then '.' else c) = x.texto := by
  have hdig {l : List Char} (hl : ∀ c ∈ l, c ∈ x.entero ++ x.decimales) :
      (l.map fun c => if c = ',' then '.' else c) = l := by
    refine (List.map_congr_left fun c hc => ?_).trans (List.map_id l)
    exact if_neg (ne_of_isDigit (x.digitos c (hl c hc)) (by decide))
  obtain ⟨a, -, ha, rfl⟩ := leerImporte_eq_some h
  unfold sinPuntos at ha
  unfold sinPuntos Importe.texto
  rw [List.filter_append, ha, List.map_append, hdig fun c hc => List.mem_append_left _ hc]
  by_cases h0 : x.decimales = []
  · rw [if_pos h0, if_pos h0]
    rfl
  · rw [if_neg h0, if_neg h0, List.filter_cons_of_pos (by decide), x.filter_decimales (by decide),
      List.map_cons, hdig fun c hc => List.mem_append_right _ hc]
    rfl

/-- **Python reads all the digits as one integer.** -/
theorem sinComas_importe (h : leerImporte cs = some x) :
    (sinPuntos cs).filter (fun c => decide (c ≠ ',')) = x.entero ++ x.decimales := by
  obtain ⟨a, -, ha, rfl⟩ := leerImporte_eq_some h
  unfold sinPuntos at ha
  unfold sinPuntos
  rw [List.filter_append, ha, List.filter_append, x.filter_entero (by decide)]
  by_cases h0 : x.decimales = []
  · rw [if_pos h0, h0]
    rfl
  · rw [if_neg h0, List.filter_cons_of_pos (by decide), x.filter_decimales (by decide),
      List.filter_cons_of_neg (by decide), x.filter_decimales (by decide)]

theorem decimalSinSigno_importe (x : Importe) : Concreto.decimalSinSigno x.texto = some x.valor := by
  have hpunto : ∀ c ∈ x.entero, decide (c ≠ '.') = true := fun c hc =>
    decide_eq_true (ne_of_isDigit (x.digitos c (List.mem_append_left _ hc)) (by decide))
  have hent := Concreto.natural_eq x.ne_nil fun c hc => x.digitos c (List.mem_append_left _ hc)
  unfold Concreto.decimalSinSigno Importe.texto
  rw [List.span_eq_takeWhile_dropWhile, List.takeWhile_append_of_pos hpunto,
    List.dropWhile_append_of_pos hpunto]
  by_cases h0 : x.decimales = []
  · rw [if_pos h0]
    simp [hent, Importe.valor, Importe.parteEntera, h0]
  · have hdec := Concreto.natural_eq h0 fun c hc => x.digitos c (List.mem_append_right _ hc)
    rw [if_neg h0]
    simp [hent, hdec, Importe.valor, Importe.parteEntera]

theorem of_mem_importe (h : leerImporte cs = some x) {c : Char} (hc : c ∈ cs) :
    c = '.' ∨ c = ',' ∨ c.isDigit = true := by
  by_cases h1 : c = '.'
  · exact Or.inl h1
  by_cases h2 : c = ','
  · exact Or.inr (Or.inl h2)
  have hm : c ∈ x.entero ++ x.decimales := by
    rw [← sinComas_importe h]
    exact List.mem_filter.mpr ⟨List.mem_filter.mpr ⟨hc, decide_eq_true h1⟩, decide_eq_true h2⟩
  exact Or.inr (Or.inr (x.digitos c hm))

theorem montoTexto_toList (r : FilaCsv) : r.montoTexto.toList =
    (sinPuntos (trim (r.montototaloc.getD "")).toList).map fun c => if c = ',' then '.' else c :=
  String.toList_ofList

/-- the digits of an amount are not read as a sign -/
theorem decimal_importe {s : String} (hs : s.toList = x.texto) :
    Concreto.decimal s = some x.valor := by
  unfold Concreto.decimal
  split
  · rename_i ds hds
    rw [hs] at hds
    unfold Importe.texto at hds
    cases he : x.entero with
    | nil => exact absurd he x.ne_nil
    | cons c l =>
      rw [he] at hds
      have hc := x.digitos c (List.mem_append_left _ (he ▸ List.mem_cons_self))
      rw [(List.cons.inj hds).1] at hc
      exact absurd hc (by decide)
  · rw [hs]
    exact decimalSinSigno_importe x

/-- **The text to cast is the denoted amount in decimal notation.** -/
theorem decimal_montoTexto {r : FilaCsv} {q : ℚ} (h : chileno (r.montototaloc.getD "") = some q) :
    Concreto.decimal r.montoTexto = some q := by
  have hr := montoTexto_toList r
  unfold chileno at h
  split at h
  · rename_i cs hcs
    obtain ⟨x, hx, rfl⟩ := Option.map_eq_some_iff.mp h
    rw [hcs] at hr
    have hneg : r.montoTexto.toList = '-' :: x.texto := by
      rw [hr, ← replace_importe (leerAgrupado_eq_some hx)]
      rfl
    unfold Concreto.decimal
    rw [hneg]
    show (Concreto.decimalSinSigno x.texto).map _ = _
    rw [decimalSinSigno_importe]
    rfl
  · obtain ⟨x, hx, rfl⟩ := Option.map_eq_some_iff.mp h
    rw [replace_importe (leerAgrupado_eq_some hx)] at hr
    exact decimal_importe hr

end

/-! ## the amount of a row of the slice -/

/-- an amount as a BIGINT, NULL when it does not fit -/
def enBigint (q : ℚ) : Option Int :=
  if -2 ^ 63 ≤ roundHalfEven q ∧ roundHalfEven q < 2 ^ 63 then some (roundHalfEven q) else none

/-- the amount that the row should get -/
def montoDebido (r : FilaCsv) : Option Int := (chileno (r.montototaloc.getD "")).bind enBigint

/-- `TRY_CAST(s AS DOUBLE)` of a plain decimal text is the nearest `float64` -/
def LeeDecimales (M : Motor) : Prop :=
  ∀ s q, Concreto.decimal s = some q → |q| < 2 ^ 1000 → M.tryCastDouble s = some (doble q)

theorem leeDecimales_motorBinario : LeeDecimales motorBinario :=
  fun _ _ h _ => tryCastDouble_motorBinario h

/-- a plain decimal text, which is read whether it denotes an amount in the notation or not: `1.5`
without its dot is `15` -/
def esDecimal (s : String) : Bool := (Concreto.decimal s).any fun q => decide (|q| < 2 ^ 1000)

/-- the cast text is not read as a number: it is no plain decimal, and `TRY_CAST` rejects it as well
(exponents, `inf` and `nan` are read) -/
def Ilegible (M : Motor) (r : FilaCsv) : Prop :=
  esDecimal r.montoTexto = false ∧ M.tryCastDouble r.montoTexto = none

instance (M : Motor) (r : FilaCsv) : Decidable (Ilegible M r) := by
  unfold Ilegible; infer_instance

/-- the amount fits in a BIGINT and its `float64` rounds to the same integer, or there is no amount to
get and the text is not read as a number -/
def MontoSeguro (M : Motor) (r : FilaCsv) : Prop :=
  match chileno (r.montototaloc.getD "") with
  | none => Ilegible M r
  | some q =>
    match enBigint q with
    | none => Ilegible M r
    | some n => toBigint (doble q) = some n

instance (M : Motor) (r : FilaCsv) : Decidable (MontoSeguro M r) := by
  unfold MontoSeguro
  split
  · infer_instance
  · split <;> infer_instance

section
variable {M : Motor} {r : FilaCsv}

theorem abs_lt_of_enBigint {q : ℚ} {n : Int} (h : enBigint q = some n) : |q| < 2 ^ 1000 := by
  unfold enBigint at h
  split at h
  · rename_i hfit
    have h1 := floor_le_roundHalfEven q
    have h2 := roundHalfEven_le q
    have hlow : -(2 ^ 64 : ℤ) ≤ q.floor := by omega
    have hhigh : q.floor + 1 ≤ 2 ^ 64 := by omega
    have hq1 : (q.floor : ℚ) ≤ q := Rat.floor_le q
    have hq2 : q < (q.floor + 1 : ℤ) := Rat.lt_floor_add_one q
    have hlow' : -(2 ^ 64 : ℚ) ≤ q.floor := by exact_mod_cast hlow
    have hhigh' : ((q.floor + 1 : ℤ) : ℚ) ≤ 2 ^ 64 := by exact_mod_cast hhigh
    have habs : |q| ≤ 2 ^ 64 := abs_le.mpr ⟨hlow'.trans hq1, (hq2.trans_le hhigh').le⟩
    exact habs.trans_lt (pow_lt_pow_right₀ (by norm_num) (by norm_num))
  · cases h

theorem ilegible_iff (hM : LeeDecimales M) : Ilegible M r ↔ M.tryCastDouble r.montoTexto = none := by
  refine ⟨fun h => h.2, fun h => ⟨?_, h⟩⟩
  rw [Bool.eq_false_iff]
  intro hdec
  obtain ⟨q, hq, hlt⟩ := (Option.any_eq_true _ _).mp hdec
  rw [hM _ q hq (of_decide_eq_true hlt)] at h
  cases h

theorem sin_monto_iff (hM : LeeDecimales M) :
    (montoFalla M r = false ∧ monto M r = none) ↔ Ilegible M r := by
  rw [ilegible_iff hM]
  unfold montoFalla monto
  cases M.tryCastDouble r.montoTexto with
  | none => simp
  | some d => cases h : toBigint d <;> simp [h]

theorem montoSeguro_iff (hM : LeeDecimales M) :
    (montoFalla M r = false ∧ monto M r = montoDebido r) ↔ MontoSeguro M r := by
  unfold MontoSeguro montoDebido
  cases hq : chileno (r.montototaloc.getD "") with
  | none => exact sin_monto_iff hM
  | some q =>
    dsimp only
    rw [Option.bind_some]
    cases hn : enBigint q with
    | none => exact sin_monto_iff hM
    | some n =>
      have hcast := hM _ q (decimal_montoTexto hq) (abs_lt_of_enBigint hn)
      unfold montoFalla monto
      rw [hcast]
      cases h : toBigint (doble q) <;> simp [h]

/-- **When the amounts of a file load as they should.** -/
theorem montos_iff (hM : LeeDecimales M) (fuente : String) (csv : List FilaCsv) (limit : Int) :
    ((∃ con, conDf M fuente csv limit = .ok con) ∧
      ∀ r ∈ conFilas M csv limit, monto M r = montoDebido r) ↔
        ∀ r ∈ conFilas M csv limit, MontoSeguro M r := by
  rw [conDf_isOk, ← forall₂_and]
  exact forall₂_congr fun r _ => montoSeguro_iff hM

end

/-- a file of one order -/
def compraDe (monto : String) : List FilaCsv :=
  [FilaCsv.orden "1-OC" monto "2024-05-02" "61-K" "76.1-1" "" "Uno"]

theorem montos_compraDe :
    (∃ con, conDf motorBinario "chilecompra_oc_2024-05" (compraDe "1.000,50") 0 = .ok con) ∧
      ∀ r ∈ conFilas motorBinario (compraDe "1.000,50") 0, monto motorBinario r = montoDebido r :=
  (montos_iff leeDecimales_motorBinario _ _ _).mpr (by decide +kernel)

/-- an amount of twenty-one digits stops the load of its file -/
theorem monto_enorme :
    (compraDe "100.000.000.000.000.000.000").map montoDebido = [none] ∧
      conDf motorBinario "chilecompra_oc_2024-05" (compraDe "100.000.000.000.000.000.000") 0 =
        .error .conversion := by
  decide +kernel

/-! ## the amount of a documented case -/

/-- Python's `int` knows the ASCII digits -/
def LeeDigitos (M : Motor) : Prop := ∀ c d, Concreto.digito c = some d → M.decimal c = some d

theorem leeDigitos_motorBinario : LeeDigitos motorBinario := fun _ _ h => h

theorem isSpace_of_isDigit {c : Char} (h : c.isDigit = true) : isSpace c = false := by
  have hc : 48 ≤ c.val.toNat ∧ c.val.toNat ≤ 57 := by
    simpa [Char.isDigit, UInt32.le_iff_toNat_le] using h
  simp only [isSpace, isZs, Bool.or_eq_false_iff, Bool.and_eq_false_iff, decide_eq_false_iff_not,
    UInt32.le_iff_toNat_le, ← UInt32.toNat_inj, UInt32.reduceToNat]
  omega

theorem isSpace_of_isZs {c : Char} (h : isZs c = true) : isSpace c = true := by
  simp [isSpace, h]

section
variable {M : Motor} {cs : List Char} {x : Importe}

theorem pyDigits_eq (hM : LeeDigitos M) (hcs : ∀ c ∈ cs, c.isDigit = true) (acc : Nat) (listo : Bool)
    (h : cs ≠ [] ∨ listo = true) :
    pyDigits M acc listo cs = some (Nat.ofDigitChars 10 cs acc) := by
  induction cs generalizing acc listo with
  | nil =>
    rw [pyDigits, if_pos (h.resolve_left fun h => h rfl)]
    rfl
  | cons c cs ih =>
    have hc := hM c _ (Concreto.digito_of_isDigit (hcs c List.mem_cons_self))
    rw [pyDigits, hc, Nat.ofDigitChars_cons, Nat.mul_comm 10]
    exact ih (fun d hd => hcs d (List.mem_cons_of_mem _ hd)) _ true (Or.inr rfl)

/-- **`int` of a text of digits.** -/
theorem pyInt_eq (hM : LeeDigitos M) {s : String} (hs : s.toList = cs) (h0 : cs ≠ [])
    (hcs : ∀ c ∈ cs, c.isDigit = true) :
    pyInt M s = if 4300 < cs.length then none else some (Nat.ofDigitChars 10 cs 0 : Int) := by
  have hstrip : strip s = s :=
    Text.trimBy_of_trimmed (Text.trimmed_of_forall fun c hc => isSpace_of_isDigit (hcs c (hs ▸ hc)))
  have hlen : (cs.filter fun c => decide (c ≠ '_')).length = cs.length := by
    rw [List.filter_eq_self.mpr fun c hc => decide_eq_true (ne_of_isDigit (hcs c hc) (by decide))]
  obtain ⟨c, l, rfl⟩ := List.exists_cons_of_ne_nil h0
  have hc := hcs c List.mem_cons_self
  have hmas : c ≠ '+' := ne_of_isDigit hc (by decide)
  have hmenos : c ≠ '-' := ne_of_isDigit hc (by decide)
  have hhead : (c :: l).head? ≠ some '-' := fun h => hmenos (Option.some.inj h)
  unfold pyInt
  dsimp only
  rw [hstrip, hs]
  split
  · rename_i h
    exact absurd (List.cons.inj h).1 hmas
  · rename_i h
    exact absurd (List.cons.inj h).1 hmenos
  · rw [hlen, pyDigits_eq hM hcs 0 false (Or.inl h0)]
    show (if _ then none else some (if (c :: l).head? = some '-' then _ else _)) = _
    rw [if_neg hhead]

theorem strip_importe {s : String} (h : leerImporte (trim s).toList = some x) :
    strip s = trim s := by
  obtain ⟨-, l, r, hs, hl, hr⟩ := Text.exists_trimBy isZs s
  apply String.toList_inj.mp
  refine Text.toList_trimBy hs (Text.trimmed_of_forall fun c hc => ?_)
    (fun c hc => isSpace_of_isZs (hl c hc)) fun c hc => isSpace_of_isZs (hr c hc)
  rcases of_mem_importe h hc with rfl | rfl | hd
  · decide
  · decide
  · exact isSpace_of_isDigit hd

theorem trim_ne_empty {s : String} (h : leerImporte (trim s).toList = some x) : trim s ≠ "" := by
  intro h0
  rw [h0] at h
  exact absurd h (by rw [String.toList_empty]; exact fun h => by cases h)

/-- **What `load_corrupcion_chile` makes of an amount.** -/
theorem montoInt_importe (hM : LeeDigitos M) {s : String}
    (h : leerImporte (trim s).toList = some x) {c : Db.FilaCaso} (hc : c.monto = limpio (some s)) :
    montoInt M c = if 4300 < (x.entero ++ x.decimales).length then none
      else some (Nat.ofDigitChars 10 (x.entero ++ x.decimales) 0 : Int) := by
  have hmonto : c.monto = some (trim s) := by
    rw [hc, limpio, strip_importe h, if_neg (trim_ne_empty h)]
  let t := String.ofList (((trim s).toList.filter fun c => decide (c ≠ '.')).filter
    fun c => decide (c ≠ ','))
  have ht : t.toList = x.entero ++ x.decimales := by
    rw [← sinComas_importe h]
    exact String.toList_ofList
  have hne : x.entero ++ x.decimales ≠ [] := fun h => x.ne_nil (List.append_eq_nil_iff.mp h).1
  have hstrip : strip t = t := Text.trimBy_of_trimmed (Text.trimmed_of_forall fun c hc =>
    isSpace_of_isDigit (x.digitos c (ht ▸ hc)))
  have ht0 : t ≠ "" := fun h => hne (by rw [← ht, h, String.toList_empty])
  unfold montoInt
  rw [hmonto, Option.getD_some]
  show (if strip t = "" then some 0 else pyInt M (strip t)) = _
  rw [hstrip, if_neg ht0]
  exact pyInt_eq hM ht hne x.digitos

end

/-! ## one amount, two loaders -/

namespace Importe

/-- all the digits as one integer -/
def cifras (x : Importe) : Nat := Nat.ofDigitChars 10 (x.entero ++ x.decimales) 0

theorem cifras_eq (x : Importe) : (x.cifras : ℚ) = x.valor * 10 ^ x.decimales.length := by
  unfold cifras valor parteEntera
  rw [Nat.ofDigitChars_append, Nat.ofDigitChars_eq_ofDigitChars_zero]
  push_cast
  field_simp

theorem valor_nonneg (x : Importe) : 0 ≤ x.valor := by
  unfold valor
  positivity

section
variable {x : Importe} (h0 : x.decimales = [])
include h0

theorem valor_of_entero : x.valor = x.parteEntera := by
  unfold valor
  rw [h0]
  simp

theorem cifras_of_entero : x.cifras = x.parteEntera := by
  have h := x.cifras_eq
  rw [valor_of_entero h0, h0, List.length_nil, pow_zero, mul_one] at h
  exact_mod_cast h

theorem round_of_entero : roundHalfEven x.valor = (x.parteEntera : ℤ) := by
  rw [valor_of_entero h0]
  exact_mod_cast roundHalfEven_int x.parteEntera

end

end Importe

theorem ofDigitChars_eq_zero {cs : List Char} (hcs : ∀ c ∈ cs, c.isDigit = true) {acc : Nat} :
    Nat.ofDigitChars 10 cs acc = 0 ↔ acc = 0 ∧ ∀ c ∈ cs, c = '0' := by
  induction cs generalizing acc with
  | nil => simp
  | cons c cs ih =>
    have hcero : '0'.toNat = 48 := rfl
    have hc : 48 ≤ c.toNat := by
      have h := hcs c List.mem_cons_self
      simp only [Char.isDigit, Bool.and_eq_true, decide_eq_true_eq, UInt32.le_iff_toNat_le] at h
      exact h.1
    have h0 : c = '0' ↔ c.toNat = 48 := by
      rw [← hcero]
      exact Char.toNat_inj.symm
    have hacc : 10 * acc + (c.toNat - '0'.toNat) = 0 ↔ acc = 0 ∧ c.toNat = 48 := by
      rw [hcero]
      omega
    rw [Nat.ofDigitChars_cons, ih fun d hd => hcs d (List.mem_cons_of_mem _ hd),
      List.forall_mem_cons, h0, hacc, and_assoc]

/-- **The cast to BIGINT.** -/
theorem toBigint_eq_some {d : Double} {n : Int} : toBigint d = some n ↔
    ∃ q : ℚ, d = .fin q ∧ (-(2 ^ 63) ≤ q ∧ q < 2 ^ 63) ∧ roundHalfEven q = n := by
  cases d with
  | fin q =>
    show (if _ then some (roundHalfEven q) else none) = some n ↔ _
    simp [Option.ite_none_right_eq_some]
  | inf neg => simp [toBigint]
  | nan => simp [toBigint]

theorem le_of_toBigint {d : Double} {n : Int} (h : toBigint d = some n) : n ≤ 2 ^ 63 := by
  obtain ⟨q, -, ⟨-, hq⟩, rfl⟩ := toBigint_eq_some.mp h
  have hmono := roundHalfEven_mono (show q ≤ ((2 ^ 63 : ℤ) : ℚ) by push_cast; exact hq.le)
  rwa [roundHalfEven_int] at hmono

theorem toBigint_doble_int {n : Nat} :
    toBigint (doble n) = some (n : Int) ↔ n < 2 ^ 63 ∧ EsDoble n := by
  rw [toBigint_eq_some]
  refine ⟨fun h => ?_, fun h => ?_⟩
  · obtain ⟨q, hq, ⟨-, hlt⟩, hn⟩ := h
    obtain ⟨z, rfl⟩ : ∃ z : ℤ, q = z := by
      rcases doble_int n with ⟨z, hz⟩ | ⟨neg, hz⟩
      · exact ⟨z, Double.fin.inj (hq.symm.trans (by exact_mod_cast hz))⟩
      · exact absurd (hq.symm.trans (by exact_mod_cast hz)) (by simp)
    rw [roundHalfEven_int] at hn
    subst hn
    exact ⟨by exact_mod_cast hlt, doble_eq_fin_iff.mp (by exact_mod_cast hq)⟩
  · obtain ⟨hlt, hd⟩ := h
    have h0 : (0 : ℚ) ≤ n := Nat.cast_nonneg n
    refine ⟨n, doble_of_esDoble hd, ⟨by linarith, by exact_mod_cast hlt⟩, ?_⟩
    exact_mod_cast roundHalfEven_int n

/-- the amounts that both loaders read alike: at most 4300 digits, and only zeros, or no decimals and an
integer below `2^63` that is a `float64` -/
def MismaLectura (x : Importe) : Prop :=
  x.entero.length + x.decimales.length ≤ 4300 ∧
    ((∀ c ∈ x.entero ++ x.decimales, c = '0') ∨
      (x.decimales = [] ∧ x.parteEntera < 2 ^ 63 ∧ EsDoble x.parteEntera))

section
variable {M : Motor} {s : String} {x : Importe} {r : FilaCsv}

theorem monto_importe (hM : LeeDecimales M) (hx : leerImporte (trim s).toList = some x)
    (hr : r.montototaloc = some s) (hlt : x.valor < 2 ^ 1000) :
    monto M r = toBigint (doble x.valor) := by
  have hdec : Concreto.decimal r.montoTexto = some x.valor := by
    apply decimal_importe
    rw [montoTexto_toList, hr, Option.getD_some, replace_importe hx]
  have habs : |x.valor| < 2 ^ 1000 := (abs_of_nonneg x.valor_nonneg).trans_lt hlt
  unfold monto
  rw [hM _ _ hdec habs, Option.bind_some]

/-- **The slice stores an amount without decimals** when it is a `float64` below `2^63`. -/
theorem monto_entero_iff (hM : LeeDecimales M) (hx : leerImporte (trim s).toList = some x)
    (hr : r.montototaloc = some s) (h0 : x.decimales = []) :
    monto M r = some (x.parteEntera : Int) ↔ x.parteEntera < 2 ^ 63 ∧ EsDoble x.parteEntera := by
  have hval := Importe.valor_of_entero h0
  have hbig : x.parteEntera ≤ 2 ^ 63 → monto M r = toBigint (doble x.parteEntera) := by
    intro hle
    have hq : (x.parteEntera : ℚ) ≤ 2 ^ 63 := by exact_mod_cast hle
    have hlt : x.valor < 2 ^ 1000 := by
      rw [hval]
      exact hq.trans_lt (pow_lt_pow_right₀ (by norm_num) (by norm_num))
    rw [monto_importe hM hx hr hlt, hval]
  refine ⟨fun h => ?_, fun h => ?_⟩
  · -- what is stored is a BIGINT, so the amount is in range
    obtain ⟨d, -, hd⟩ := Option.bind_eq_some_iff.mp h
    have hle := le_of_toBigint hd
    rw [hbig (by exact_mod_cast hle)] at h
    exact toBigint_doble_int.mp h
  · rw [hbig h.1.le]
    exact toBigint_doble_int.mpr h

theorem monto_cero (hM : LeeDecimales M) (hx : leerImporte (trim s).toList = some x)
    (hr : r.montototaloc = some s) (h : x.cifras = 0) :
    monto M r = some 0 ∧ 0 = roundHalfEven x.valor := by
  have hval : x.valor = 0 := by
    have hc := x.cifras_eq
    rw [h, Nat.cast_zero, eq_comm, mul_eq_zero] at hc
    exact hc.resolve_right (by positivity)
  have hcero : toBigint (doble ((0 : ℕ) : ℚ)) = some ((0 : ℕ) : Int) :=
    toBigint_doble_int.mpr ⟨by norm_num, by exact_mod_cast esDoble_int (n := 0) (by norm_num)⟩
  rw [monto_importe hM hx hr (by rw [hval]; positivity), hval]
  exact ⟨by exact_mod_cast hcero, by exact_mod_cast (roundHalfEven_int 0).symm⟩

theorem Importe.ceros_of_decimales (x : Importe) (h : x.decimales ≠ [])
    (hround : (x.cifras : ℤ) = roundHalfEven x.valor) : x.cifras = 0 := by
  have hle : (x.cifras : ℚ) ≤ x.valor + 1 / 2 := by
    have h1 := roundHalfEven_le_add x.valor
    rw [← hround] at h1
    exact_mod_cast h1
  have hpow : (10 : ℚ) ≤ 10 ^ x.decimales.length :=
    le_self_pow₀ (by norm_num) (fun h0 => h (List.length_eq_zero_iff.mp h0))
  have hdiez : x.valor * 10 ≤ x.cifras := by
    rw [x.cifras_eq]
    exact mul_le_mul_of_nonneg_left hpow x.valor_nonneg
  have hlt : (x.cifras : ℚ) < 1 := by linarith
  have hlt' : x.cifras < 1 := by exact_mod_cast hlt
  omega

/-- **When both loaders store the denoted amount.** -/
theorem mismo_monto_iff (hD : LeeDecimales M) (hP : LeeDigitos M)
    (hx : leerImporte (trim s).toList = some x) (hr : r.montototaloc = some s) {fila : FilaDict}
    (hf : fila.get "Monto" = some s) {i : Nat} :
    (∃ n, monto M r = some n ∧ montoInt M (filaCaso M i fila) = some n ∧
      n = roundHalfEven x.valor) ↔ MismaLectura x := by
  have hcaso : montoInt M (filaCaso M i fila) =
      if 4300 < (x.entero ++ x.decimales).length then none else some (x.cifras : Int) :=
    montoInt_importe hP hx (congrArg limpio hf)
  rw [List.length_append] at hcaso
  have hceros : x.cifras = 0 ↔ ∀ c ∈ x.entero ++ x.decimales, c = '0' :=
    (ofDigitChars_eq_zero x.digitos).trans (and_iff_right rfl)
  refine ⟨fun h => ?_, fun h => ?_⟩
  · obtain ⟨n, hn, hn', rfl⟩ := h
    have hle : x.entero.length + x.decimales.length ≤ 4300 := by
      by_contra hgt
      rw [hcaso, if_pos (not_le.mp hgt)] at hn'
      cases hn'
    rw [hcaso, if_neg (not_lt.mpr hle)] at hn'
    have hround : (x.cifras : ℤ) = roundHalfEven x.valor := Option.some.inj hn'
    refine ⟨hle, ?_⟩
    by_cases h0 : x.decimales = []
    · rw [Importe.round_of_entero h0] at hn
      exact Or.inr ⟨h0, (monto_entero_iff hD hx hr h0).mp hn⟩
    · exact Or.inl (hceros.mp (x.ceros_of_decimales h0 hround))
  · obtain ⟨hle, h⟩ := h
    rw [if_neg (not_lt.mpr hle)] at hcaso
    rcases h with h | ⟨h0, h⟩
    · obtain ⟨hmonto, hround⟩ := monto_cero hD hx hr (hceros.mpr h)
      exact ⟨0, hmonto, by rw [hcaso, hceros.mpr h]; rfl, hround⟩
    · exact ⟨x.parteEntera, (monto_entero_iff hD hx hr h0).mpr h,
        by rw [hcaso, Importe.cifras_of_entero h0], (Importe.round_of_entero h0).symm⟩

end

/-- the amount `1.000` -/
def mil : Importe := ⟨['1', '0', '0', '0'], [], by decide, List.all_eq_true.mp rfl⟩

theorem mismo_monto_mil :
    ∃ n, monto motorBinario (FilaCsv.orden "1-OC" " 1.000 " "2024-05-02" "61-K" "76.1-1" "" "Uno") =
        some n ∧
      montoInt motorBinario (filaCaso motorBinario 0 [("Caso", some "Uno"), ("Monto", some " 1.000 ")]) =
        some n ∧
      n = roundHalfEven mil.valor :=
  (mismo_monto_iff leeDecimales_motorBinario leeDigitos_motorBinario (s := " 1.000 ")
    (by decide +kernel) rfl rfl).mpr
    ⟨by decide, Or.inr ⟨rfl, by decide, esDoble_int (n := 1000) (by decide)⟩⟩

/-- the corruption loader reads the decimals as more digits -/
theorem monto_con_decimales :
    chileno "1000,50" = some (2001 / 2) ∧ (compraDe "1000,50").map (monto motorBinario) = [some 1000] ∧
      montoInt motorBinario (filaCaso motorBinario 0 [("Monto", some "1000,50")]) = some 100050 := by
  decide +kernel

end Fractura
