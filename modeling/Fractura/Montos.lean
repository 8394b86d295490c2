import Fractura.Importes
import Fractura.Paginas.Entidad

/-!
# The amount of an alert

An alert of a rule gets the `SUM` of the readable amounts of its group, which `.df()` makes a `float64`.

* `monto_de_origen`     so its amount is the text of that `float64`;
* `monto_exacto_iff`    it is the exact sum when an amount is readable and the shortest text that is read as
                        the `float64` shows the sum itself (`SeMuestra`), as it does below `2^53`.

The second one is about the stores that loads and detections reach (`PorCargas`).
-/

namespace Fractura

open Db Group

/-! ## what a text denotes -/

/-- the digits after the `e`, with a sign -/
def exponente : List Char → Option ℤ
  | '+' :: cs => (Concreto.natural cs).map fun n => (n : ℤ)
  | '-' :: cs => (Concreto.natural cs).map fun n => -(n : ℤ)
  | cs => (Concreto.natural cs).map fun n => (n : ℤ)

/-- the number that a text denotes: a decimal, perhaps with a power of ten after `e` -/
def numero (s : String) : Option ℚ :=
  match s.toList.span fun c => decide (c ≠ 'e') with
  | (_, []) => Concreto.decimal s
  | (m, _ :: e) => (Concreto.decimal (String.ofList m)).bind fun q =>
    (exponente e).map fun n => q * 10 ^ n

theorem numero_of_sin_e {s : String} (h : ∀ c ∈ s.toList, c ≠ 'e') :
    numero s = Concreto.decimal s := by
  have htake : (s.toList.span fun c => decide (c ≠ 'e')) = (s.toList, []) := by
    have hall : ∀ c ∈ s.toList, decide (c ≠ 'e') = true := fun c hc => decide_eq_true (h c hc)
    rw [List.span_eq_takeWhile_dropWhile, List.takeWhile_eq_self_iff.mpr hall,
      List.dropWhile_eq_nil_iff.mpr hall]
  unfold numero
  rw [htake]

section
variable (M : Motor)

/-- the sum of the amounts of a group, those that cannot be read counting as zero -/
def montoTotal (g : List Unido) : Int := (g.map fun u => (montoDe M u.c).getD 0).sum

/-- the amount is a text that denotes that sum -/
def MontoExacto (a : Alerta) (g : List Unido) : Prop :=
  ∃ text, a.monto = some text ∧ numero text = some (montoTotal M g : ℚ)

/-- the nearest `float64` has a text that shows the integer itself -/
def SeMuestra (n : ℤ) : Prop := ∃ z : ℤ, doble n = .fin z ∧ corto z = n

/-- how a `float64` is stored: a sum becomes the nearest one, and an integer gets the shortest text that
is read as it; NaN and the infinities get texts that are not numbers -/
structure TextosDouble : Prop where
  suma : ∀ n : ℤ, M.hugeintToDouble n = doble n
  entero : ∀ z : ℤ, EsDoble z → ∃ text, M.bindDouble (.fin z) = some text ∧
    numero text = some (corto z : ℚ)
  noNumero : ∀ d, (d = .nan ∨ ∃ neg, d = .inf neg) → ∃ text, M.bindDouble d = some text ∧
    numero text = none

/-- the stores that loads of slices and detections reach -/
inductive PorCargas : Db → Prop where
  | vacio : PorCargas .empty
  | cargar (year month limit : Int) (a : Archivo) {s : Db} (h : PorCargas s) :
    PorCargas ((Op.cargar year month limit a).despues M s)
  | detectar (o : Option String) {s : Db} (h : PorCargas s) :
    PorCargas ((Op.detectar o).despues M s)

end

section
variable {M : Motor} {s : Db} {a : Alerta} {g : List Unido}

/-! ## the sum of a group -/

theorem sumaMontos_eq (g : List Unido) : (sumaMontos M g = none ∧ ∀ u ∈ g, montoDe M u.c = none) ∨
    (sumaMontos M g = some (montoTotal M g) ∧ ∃ u ∈ g, montoDe M u.c ≠ none) := by
  have hsum : montoTotal M g = ((g.map fun u => montoDe M u.c).filterMap id).sum := by
    rw [← sum_getD, List.map_map]
    rfl
  unfold sumaMontos suma
  rw [hsum]
  cases h : (g.map fun u => montoDe M u.c).filterMap id with
  | nil =>
    refine Or.inl ⟨rfl, fun u hu => ?_⟩
    have hmem := List.mem_map_of_mem (f := fun u : Unido => montoDe M u.c) hu
    exact List.filterMap_eq_nil_iff.mp h _ hmem
  | cons n ms =>
    refine Or.inr ⟨rfl, ?_⟩
    have hn : n ∈ (g.map fun u => montoDe M u.c).filterMap id := by
      rw [h]
      exact List.mem_cons_self
    obtain ⟨x, hx, hxn⟩ := List.mem_filterMap.mp hn
    obtain ⟨u, hu, rfl⟩ := List.mem_map.mp hx
    exact ⟨u, hu, by rw [show montoDe M u.c = some n from hxn]; exact Option.some_ne_none n⟩

/-- **The amount of an alert is that of any of its groups.** -/
theorem monto_de_origen (hg : g ∈ origenes M s a) :
    a.monto = M.bindDouble (montoVal M (sumaMontos M g)) := by
  rcases mem_origenes.mp hg with ⟨k, -, ha, rfl⟩ | ⟨k, -, ha, rfl⟩ | ⟨k, -, ha, rfl⟩
  · exact congrArg Alerta.monto ha
  · exact congrArg Alerta.monto ha
  · exact congrArg Alerta.monto ha

theorem fuente_de_origen (hg : g ∈ origenes M s a) {u : Unido} (hu : u ∈ g) :
    u.c.fuente = some (sliceDe a) := by
  have hmem : u ∈ s.unidos (sliceDe a) := by
    rcases mem_origenes.mp hg with ⟨k, -, -, rfl⟩ | ⟨k, -, -, rfl⟩ | ⟨k, -, -, rfl⟩
    · exact (mem_withKey.mp hu).1
    · exact (List.mem_filter.mp (mem_withKey.mp hu).1).1
    · exact (mem_withKey.mp hu).1
  exact of_decide_eq_true (List.mem_filter.mp (mem_unidos.mp hmem).1).2

theorem montoExacto_iff (hM : TextosDouble M) (hg : g ∈ origenes M s a) :
    MontoExacto M a g ↔ (∃ u ∈ g, montoDe M u.c ≠ none) ∧ SeMuestra (montoTotal M g) := by
  unfold MontoExacto
  rw [monto_de_origen hg]
  rcases sumaMontos_eq (M := M) g with ⟨hsum, hno⟩ | ⟨hsum, hsi⟩
  · rw [hsum]
    refine ⟨fun h => ?_, fun h => ?_⟩
    · obtain ⟨text, ht, hn⟩ := h
      obtain ⟨text', ht', hn'⟩ := hM.noNumero .nan (Or.inl rfl)
      obtain rfl := Option.some.inj (ht.symm.trans ht')
      cases hn.symm.trans hn'
    · obtain ⟨⟨u, hu, hne⟩, -⟩ := h
      exact absurd (hno u hu) hne
  · rw [hsum, montoVal, hM.suma, and_iff_right hsi]
    unfold SeMuestra
    rcases doble_int (montoTotal M g) with ⟨z, hz⟩ | ⟨neg, hz⟩
    · obtain ⟨text, ht, hn⟩ := hM.entero z (esDoble_of_doble hz)
      rw [hz, ht]
      refine ⟨fun h => ⟨z, rfl, ?_⟩, fun h => ⟨text, rfl, ?_⟩⟩
      · obtain ⟨text', ht', hn'⟩ := h
        obtain rfl := Option.some.inj ht'
        exact_mod_cast Option.some.inj (hn.symm.trans hn')
      · obtain ⟨z', hz', hc⟩ := h
        obtain rfl : z = z' := by exact_mod_cast Double.fin.inj hz'
        rw [hn, hc]
    · rw [hz]
      obtain ⟨text, ht, hn⟩ := hM.noNumero (.inf neg) (Or.inr ⟨neg, rfl⟩)
      refine ⟨fun h => ?_, fun h => ?_⟩
      · obtain ⟨text', ht', hn'⟩ := h
        obtain rfl := Option.some.inj (ht.symm.trans ht')
        cases hn.symm.trans hn'
      · obtain ⟨z, hz', -⟩ := h
        cases hz'

theorem seMuestra_of_lt {n : ℤ} (h : |n| < 2 ^ 53) : SeMuestra n :=
  ⟨n, doble_of_esDoble (esDoble_int h.le), corto_of_lt h⟩

/-! ## the alerts of a slice -/

theorem PorCargas.alcanzable (h : PorCargas M s) : Alcanzable M s := by
  induction h with
  | vacio => exact .vacio
  | cargar year month limit a _ ih => exact .paso _ ih
  | detectar o _ ih => exact .paso _ ih

theorem PorCargas.patron (h : PorCargas M s) : ∀ a ∈ s.alerta.rows, a.patron ≠ none := by
  induction h with
  | vacio => exact fun a ha => absurd ha List.not_mem_nil
  | @cargar year month limit archivo s _ ih =>
    intro a ha
    rcases load_alerta (M := M) year month limit archivo s with ht | ⟨ht, -⟩
    · exact ih a (ht ▸ ha)
    · exact ih a (List.mem_filter.mp (show a ∈ (s.alerta.filter _).rows from ht ▸ ha)).1
  | detectar o _ ih =>
    refine run_runDetection_keeps M (I := fun t : Db => ∀ a ∈ t.alerta.rows, a.patron ≠ none)
      (fun f t ht a ha => ?_) o ih
    rcases (detectar_filas M f t).2 a ha with ⟨ha, -⟩ | ⟨b, hb, n, rfl⟩
    · exact ht a ha
    · exact (alertasReglas_fuente hb).2.1

/-- **When the amount of an alert is the exact sum of the amounts of its group.** -/
theorem monto_exacto_iff (hM : TextosDouble M) (h : PorCargas M s) (f : String)
    (ha : a ∈ ((Op.detectar (some f)).despues M s).alerta.rows) (hf : a.fuente = some f) :
    origenes M ((Op.detectar (some f)).despues M s) a ≠ [] ∧
      ∀ g ∈ origenes M ((Op.detectar (some f)).despues M s) a,
        (∀ u ∈ g, u.c.fuente = some f) ∧
        (MontoExacto M a g ↔
          (∃ u ∈ g, montoDe M u.c ≠ none) ∧ SeMuestra (montoTotal M g)) := by
  have ht : PorCargas M ((Op.detectar (some f)).despues M s) := .detectar _ h
  obtain ⟨g, hg, -⟩ := exists_origen (inv_of_alcanzable ht.alcanzable) ha (ht.patron a ha)
  have hsl : sliceDe a = f := by rw [sliceDe, hf]; rfl
  exact ⟨List.ne_nil_of_mem hg, fun g hg =>
    ⟨fun u hu => hsl ▸ fuente_de_origen hg hu, montoExacto_iff hM hg⟩⟩

end

/-! ## the concrete engine -/

/-- an integer with a zero after its decimal point -/
def Importe.deNat (n : Nat) : Importe where
  entero := Nat.toDigits 10 n
  decimales := ['0']
  ne_nil := Nat.toDigits_ne_nil
  digitos c hc := by
    rcases List.mem_append.mp hc with hc | hc
    · exact Nat.isDigit_of_mem_toDigits (by decide) (by decide) hc
    · rw [List.mem_singleton.mp hc]
      rfl

theorem Importe.valor_deNat (n : Nat) : (Importe.deNat n).valor = n := by
  have hent : (Importe.deNat n).parteEntera = n := Nat.ofDigitChars_ten_toDigits
  unfold Importe.valor
  rw [hent]
  show (n : ℚ) + ((0 : ℕ) : ℚ) / _ = n
  rw [Nat.cast_zero, zero_div, add_zero]

theorem Importe.of_mem_texto (x : Importe) {c : Char} (hc : c ∈ x.texto) :
    c = '.' ∨ c.isDigit = true := by
  unfold Importe.texto at hc
  rcases List.mem_append.mp hc with hc | hc
  · exact Or.inr (x.digitos c (List.mem_append_left _ hc))
  · split at hc
    · cases hc
    · refine (List.mem_cons.mp hc).imp_right fun hc => ?_
      exact x.digitos c (List.mem_append_right _ hc)

section
variable (z : ℤ)

theorem toList_textoDouble : (Concreto.textoDouble (fun n => toString n) (.fin z)).toList =
    (if (z : ℚ) < 0 then ['-'] else []) ++ (Importe.deNat z.natAbs).texto := by
  unfold Concreto.textoDouble
  dsimp only
  rw [roundHalfEven_int, String.toList_append, String.toList_append, Nat.toString_eq_repr,
    Nat.toList_repr, List.append_assoc]
  split <;> rfl

theorem decimal_textoDouble :
    Concreto.decimal (Concreto.textoDouble (fun n => toString n) (.fin z)) = some (z : ℚ) := by
  have htexto := toList_textoDouble z
  by_cases hneg : (z : ℚ) < 0
  · rw [if_pos hneg] at htexto
    have habs : ((z.natAbs : ℕ) : ℚ) = -z := by
      rw [Nat.cast_natAbs, Int.cast_abs, abs_of_neg hneg]
    unfold Concreto.decimal
    rw [htexto]
    show (Concreto.decimalSinSigno (Importe.deNat z.natAbs).texto).map _ = _
    rw [decimalSinSigno_importe, Importe.valor_deNat, habs, Option.map_some, neg_neg]
  · rw [if_neg hneg] at htexto
    have habs : ((z.natAbs : ℕ) : ℚ) = z := by
      rw [Nat.cast_natAbs, Int.cast_abs, abs_of_nonneg (not_lt.mp hneg)]
    rw [decimal_importe htexto, Importe.valor_deNat, habs]

theorem numero_textoDouble :
    numero (Concreto.textoDouble (fun n => toString n) (.fin z)) = some (z : ℚ) := by
  rw [numero_of_sin_e, decimal_textoDouble]
  intro c hc
  rw [toList_textoDouble] at hc
  rcases List.mem_append.mp hc with hc | hc
  · split at hc
    · rw [List.mem_singleton.mp hc]
      decide
    · cases hc
  · rcases Importe.of_mem_texto _ hc with rfl | hd
    · decide
    · exact ne_of_isDigit hd (by decide)

end

theorem textosDouble_motorBinario : TextosDouble motorBinario := by
  refine ⟨fun n => rfl, fun z hz => ?_, fun d hd => ?_⟩
  · refine ⟨_, rfl, ?_⟩
    show numero (Concreto.textoDouble _ (.fin ((corto (roundHalfEven z) : ℤ) : ℚ))) = _
    rw [roundHalfEven_int, numero_textoDouble]
  · rcases hd with rfl | ⟨neg, rfl⟩
    · exact ⟨"nan", rfl, by decide⟩
    · cases neg
      · exact ⟨"inf", rfl, by decide⟩
      · exact ⟨"-inf", rfl, by decide⟩

/-- four orders of one supplier to one organism, by their amounts -/
def comprasDe (monto : String) : List FilaCsv :=
  ["1-OC", "2-OC", "3-OC", "4-OC"].map fun id => .orden id monto "2024-05-01" "61-K" "76-K" "" "Acme"

/-- the store that their load leaves -/
def cargadas (monto : String) : Db :=
  (Op.cargar 2024 5 0 (.csv (comprasDe monto))).despues motorBinario .empty

/-- what a detection makes of it -/
def detectadas (monto : String) : Db :=
  (Op.detectar (some "chilecompra_oc_2024-05")).despues motorBinario (cargadas monto)

theorem monto_exacto_recurrente :
    ∃ a ∈ (detectadas "1.000.000").alerta.rows, a.monto = some "4000000.0" ∧
      ∀ g ∈ origenes motorBinario (detectadas "1.000.000") a, MontoExacto motorBinario a g := by
  obtain ⟨a, ha, hm, hf, hg⟩ : ∃ a ∈ (detectadas "1.000.000").alerta.rows, a.monto = some "4000000.0" ∧
      a.fuente = some "chilecompra_oc_2024-05" ∧
      ∀ g ∈ origenes motorBinario (detectadas "1.000.000") a,
        (∃ u ∈ g, montoDe motorBinario u.c ≠ none) ∧ montoTotal motorBinario g = 4000000 := by
    decide +kernel
  have hs : PorCargas motorBinario (cargadas "1.000.000") := .cargar 2024 5 0 _ .vacio
  have h := (monto_exacto_iff textosDouble_motorBinario hs _ ha hf).2
  refine ⟨a, ha, hm, fun g hmem => (h g hmem).2.mpr ⟨(hg g hmem).1, ?_⟩⟩
  rw [(hg g hmem).2]
  exact seMuestra_of_lt (by decide)

/-- without amounts the alert stores a text that is not a number -/
theorem monto_nan :
    ∃ a ∈ (detectadas "").alerta.rows, a.fuente = some "chilecompra_oc_2024-05" ∧
      a.monto = some "nan" ∧ numero "nan" = none ∧
      ∃ g ∈ origenes motorBinario (detectadas "") a, montoTotal motorBinario g = 0 := by
  decide +kernel

end Fractura
