import Fractura.Lib.Calendar
import Fractura.Lib.Text
import Mathlib.Data.Rat.Floor
import Mathlib.Data.String.Basic

/-!
# What the program takes from DuckDB, pandas and Python

`Motor` collects the functions of DuckDB (casts, number formats, the order of the rows of a query
that asks for none), of pandas/numpy (`float64`) and of the Unicode tables of Python that are not
in the repository.  Everything below is stated for every `Motor`.  The only law it carries is that
the unspecified order of a query result is SOME order of the same rows (`orden_perm`).

What both sides document precisely is defined here:

* `trim`       DuckDB `TRIM`: removes the space characters (Unicode category Zs);
* `strip`      Python `str.strip`: removes all white space, tabs and line ends included;
* `Double`     a `float64`, by its value;
* `toBigint`   DuckDB `DOUBLE :: BIGINT`: rounds half to even, raises outside 64 bits;
* `coalesce`, `nullif`, `maxText`   the SQL functions on nullable texts.
-/

namespace Fractura

/-! ## texts -/

/-- Unicode category Zs -/
def isZs (c : Char) : Bool :=
  c.val = 0x20 || c.val = 0xa0 || c.val = 0x1680 || (0x2000 ≤ c.val && c.val ≤ 0x200a) ||
    c.val = 0x202f || c.val = 0x205f || c.val = 0x3000

/-- Python `str.isspace` on one character -/
def isSpace (c : Char) : Bool :=
  isZs c || (0x09 ≤ c.val && c.val ≤ 0x0d) || (0x1c ≤ c.val && c.val ≤ 0x1f) || c.val = 0x85 ||
    c.val = 0x2028 || c.val = 0x2029

/-- SQL `TRIM` -/
def trim (s : String) : String := Text.trimBy isZs s

/-- Python `str.strip` and pandas `.str.strip` -/
def strip (s : String) : String := Text.trimBy isSpace s

def trimN (s : Option String) : Option String := s.map trim

/-- SQL `COALESCE` of two values -/
def coalesce {α : Type} : Option α → Option α → Option α
  | some x, _ => some x
  | none, y => y

/-- SQL `NULLIF` -/
def nullif (s : Option String) (t : String) : Option String :=
  if s = some t then none else s

/-- SQL `MAX` of a text column: NULLs are skipped, NULL when there is nothing else -/
def maxText (l : List (Option String)) : Option String :=
  (l.filterMap id).foldl (fun m s => some (match m with | none => s | some x => max x s)) none

theorem coalesce_some {α : Type} (x : Option α) (y : α) : ∃ z, coalesce x (some y) = some z := by
  cases x with
  | none => exact ⟨y, rfl⟩
  | some z => exact ⟨z, rfl⟩

theorem nullif_eq_some {s : Option String} {t x : String} (h : nullif s t = some x) :
    s = some x ∧ x ≠ t := by
  unfold nullif at h
  split at h
  · cases h
  · rename_i hne
    exact ⟨h, fun e => hne (e ▸ h)⟩

theorem le_empty {x : String} (h : x ≤ "") : x = "" := by
  by_contra hne
  apply not_lt.mpr h
  rw [String.lt_iff_toList_lt]
  cases hx : x.toList with
  | nil => exact absurd (String.toList_inj.mp (hx.trans String.toList_empty.symm)) hne
  | cons c cs => exact List.nil_lt_cons c cs

/-- **`MAX` is the largest value that occurs.** -/
theorem maxText_spec {l : List (Option String)} {y : String} (h : maxText l = some y) :
    some y ∈ l ∧ ∀ x, some x ∈ l → x ≤ y := by
  have key {ms : List String} {m : Option String}
      (h : ms.foldl (fun m s => some (match m with | none => s | some x => max x s)) m = some y) :
      (y ∈ ms ∨ m = some y) ∧ ∀ x, x ∈ ms ∨ m = some x → x ≤ y := by
    induction ms generalizing m with
    | nil =>
      obtain rfl : m = some y := h
      refine ⟨Or.inr rfl, fun x hx => ?_⟩
      rcases hx with hx | hx
      · cases hx
      · exact (Option.some.inj hx).ge
    | cons a ms ih =>
      obtain ⟨h1, h2⟩ := ih h
      cases m with
      | none =>
        refine ⟨?_, fun x hx => h2 x ?_⟩
        · rcases h1 with h1 | h1
          · exact Or.inl (List.mem_cons_of_mem _ h1)
          · exact Or.inl ((Option.some.inj h1) ▸ List.mem_cons_self)
        · rcases hx with hx | hx
          · rcases List.mem_cons.mp hx with rfl | hx
            · exact Or.inr rfl
            · exact Or.inl hx
          · cases hx
      | some b =>
        have hmax : max b a ≤ y := h2 _ (Or.inr rfl)
        refine ⟨?_, fun x hx => ?_⟩
        · rcases h1 with h1 | h1
          · exact Or.inl (List.mem_cons_of_mem _ h1)
          · have hy : max b a = y := Option.some.inj h1
            rcases max_choice b a with hc | hc
            · exact Or.inr (congrArg some (hc.symm.trans hy))
            · exact Or.inl ((hc.symm.trans hy) ▸ List.mem_cons_self)
        · rcases hx with hx | hx
          · rcases List.mem_cons.mp hx with rfl | hx
            · exact (le_max_right b x).trans hmax
            · exact h2 x (Or.inl hx)
          · exact (Option.some.inj hx) ▸ (le_max_left b a).trans hmax
  obtain ⟨h1, h2⟩ := key h
  refine ⟨?_, fun x hx => h2 x (Or.inl (List.mem_filterMap.mpr ⟨some x, hx, rfl⟩))⟩
  rcases h1 with h1 | h1
  · obtain ⟨z, hz, hzy⟩ := List.mem_filterMap.mp h1
    exact hzy ▸ hz
  · cases h1

theorem exists_maxText {l : List (Option String)} {x : String} (h : some x ∈ l) :
    ∃ y, maxText l = some y := by
  have hx : x ∈ l.filterMap id := List.mem_filterMap.mpr ⟨some x, h, rfl⟩
  unfold maxText
  rcases List.eq_nil_or_concat (l.filterMap id) with hnil | ⟨ms, a, hms⟩
  · rw [hnil] at hx
    cases hx
  · rw [hms, List.concat_eq_append, List.foldl_append]
    exact ⟨_, rfl⟩

/-! ## numbers -/

/-- a `float64`, by its value -/
inductive Double where
  | fin (q : ℚ)
  | inf (neg : Bool)
  | nan
  deriving DecidableEq

/-- to the nearest integer, ties to the even one -/
def roundHalfEven (q : ℚ) : Int :=
  let f := q.floor
  if q - f < 1/2 then f else if 1/2 < q - f then f + 1 else if f % 2 = 0 then f else f + 1

/-- `DOUBLE :: BIGINT`; `none` is the conversion error -/
def toBigint : Double → Option Int
  | .fin q => if -(2^63 : ℚ) ≤ q ∧ q < (2^63 : ℚ) then some (roundHalfEven q) else none
  | .inf _ => none
  | .nan => none

/-! ## the parameters -/

structure Motor where
  /-- `TRY_CAST(s AS DATE)`, as a day number -/
  tryCastDate : String → Option Int
  /-- `TRY_CAST(s AS DOUBLE)` -/
  tryCastDouble : String → Option Double
  /-- `TRY_CAST(s AS BIGINT)` -/
  tryCastBigint : String → Option Int
  /-- what a Python `float` becomes when it is bound to a VARCHAR column -/
  bindDouble : Double → Option String
  /-- what a pandas `Timestamp` at midnight of a day becomes in a VARCHAR column -/
  bindTimestamp : Int → String
  /-- HUGEINT to `float64`, done by `.df()` -/
  hugeintToDouble : Int → Double
  /-- Python `format(x, ',')` of a `float` -/
  formatComma : Double → String
  /-- `str` of a pandas `Timestamp` at midnight of a day -/
  strTimestamp : Int → String
  /-- SQL `LOWER` -/
  sqlLower : String → String
  /-- Python `str.lower` -/
  pyLower : String → String
  /-- Python `str.isalnum` on one character -/
  isalnum : Char → Bool
  /-- the value of a decimal digit of any script, for Python `int` -/
  decimal : Char → Option Nat
  /-- the folder of the downloaded files (`LOCAL_DATA_PATH`) -/
  dataRoot : String
  /-- the order in which a query returns rows when it asks for no order, and in which it breaks ties; it
  is the same for the same rows, so a file that is loaded again is read as before -/
  orden : {α : Type} → List α → List α
  orden_perm : ∀ {α : Type} (l : List α), (orden l).Perm l

namespace Motor

variable (M : Motor)

@[simp] theorem mem_orden {α : Type} {l : List α} {x : α} : x ∈ M.orden l ↔ x ∈ l :=
  (M.orden_perm l).mem_iff

end Motor

/-! ## a concrete engine

It behaves as DuckDB, pandas and Python on decimal texts of up to 15 digits without exponent, ISO
dates, and Latin-1 letters, and returns rows in table order. -/

namespace Concreto

def digito (c : Char) : Option Nat := if '0' ≤ c ∧ c ≤ '9' then some (c.toNat - 48) else none

/-- the value of a non-empty list of digits -/
def natural (cs : List Char) : Option Nat :=
  if cs = [] then none
  else cs.foldl (fun acc c => acc.bind fun n => (digito c).map fun d => n * 10 + d) (some 0)

/-- the value of `digits` or `digits.digits` -/
def decimalSinSigno (cs : List Char) : Option ℚ :=
  match cs.span fun c => decide (c ≠ '.') with
  | (ent, []) => (natural ent).map fun n => (n : ℚ)
  | (ent, _ :: frac) =>
    (natural ent).bind fun n => (natural frac).map fun k => (n : ℚ) + (k : ℚ) / 10 ^ frac.length

def decimal (s : String) : Option ℚ :=
  match s.toList with
  | '-' :: cs => (decimalSinSigno cs).map fun q => -q
  | cs => decimalSinSigno cs

/-- the date with a day number, 0 for 1970-01-01 -/
def civilDia (z0 : Int) : Int × Int × Int :=
  let z := z0 + 719468
  let era := z / 146097
  let doe := z - era * 146097
  let yoe := (doe - doe / 1460 + doe / 36524 - doe / 146096) / 365
  let doy := doe - (365 * yoe + yoe / 4 - yoe / 100)
  let mp := (5 * doy + 2) / 153
  let m := if mp < 10 then mp + 3 else mp - 9
  (if m ≤ 2 then yoe + era * 400 + 1 else yoe + era * 400, m, doy - (153 * mp + 2) / 5 + 1)

/-- `YYYY-MM-DD`, alone or before something that is not a digit -/
def fecha (s : String) : Option Int :=
  (Calendar.read s.toList).bind fun p =>
    if p.2.head?.any Char.isDigit then none else some p.1.number

def rellenar (n : Int) (ancho : Nat) : String :=
  String.ofList (List.replicate (ancho - (toString n).length) '0') ++ toString n

def timestamp (d : Int) : String :=
  let (y, m, dd) := civilDia d
  rellenar y 4 ++ "-" ++ rellenar m 2 ++ "-" ++ rellenar dd 2 ++ " 00:00:00"

/-- thousands separators, on the reversed digits -/
def comas : List Char → List Char
  | a :: b :: c :: d :: rest => a :: b :: c :: ',' :: comas (d :: rest)
  | l => l

def textoDouble (entero : Nat → String) : Double → String
  | .fin q => (if q < 0 then "-" else "") ++ entero (roundHalfEven q).natAbs ++ ".0"
  | .inf neg => if neg then "-inf" else "inf"
  | .nan => "nan"

def minuscula (c : Char) : Char :=
  if 0xc0 ≤ c.val ∧ c.val ≤ 0xde ∧ c.val ≠ 0xd7 then Char.ofNat (c.toNat + 32) else c.toLower

def lower (s : String) : String := String.ofList (s.toList.map minuscula)

end Concreto

open Concreto in
def motorConcreto : Motor where
  tryCastDate := fecha
  tryCastDouble := fun s => (decimal s).map .fin
  tryCastBigint := fun s => (decimal s).map roundHalfEven
  bindDouble := fun x => some (textoDouble (fun n => toString n) x)
  bindTimestamp := timestamp
  hugeintToDouble := fun n => .fin n
  formatComma := textoDouble fun n => String.ofList (comas (toString n).toList.reverse).reverse
  strTimestamp := timestamp
  sqlLower := lower
  pyLower := lower
  isalnum := fun c => c.isAlphanum || (0xc0 ≤ c.val && c.val ≤ 0xff && c.val ≠ 0xd7 && c.val ≠ 0xf7)
  decimal := digito
  dataRoot := "/app/data"
  orden := fun l => l
  orden_perm := fun l => List.Perm.refl l

end Fractura
