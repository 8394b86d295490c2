import Fractura.Chilecompra.Conservacion

/-!
# The versions of an order

`QUALIFY ROW_NUMBER() ... = 1` keeps, of the rows of one purchase order, the last one in the TEXT order
of `fechacreacion`; what is stored is its DATE (`fechaDe`).  The two orders agree on dates in ISO
notation, with or without a time, and on NULL; a text that begins with a letter comes after all of them
and has no date (`adelanta_iff`).

`version_iff`: the latest version is kept exactly when no version that goes ahead of a later one
(`Adelanta`) is the last word (`SinAdelanto`).  Of an order without other notations it is kept unless a
text that begins with a letter stands beside an ISO date.
-/

namespace Fractura

open Group

/-- the rows of a purchase order that pass the `WHERE` -/
def versiones (csv : List FilaCsv) (id : Option String) : List FilaCsv :=
  csv.filter fun r => r.valida && decide (trimN r.id = id)

/-! ## spellings -/

/-- what follows a date: nothing, or a time -/
def horaOpcional : List Char → Bool
  | [] => true
  | [_] => false
  | c :: h :: _ => (decide (c = ' ') || decide (c = 'T')) && h.isDigit

/-- the date of a text in ISO notation -/
def fechaIso (s : String) : Option Calendar.Date :=
  (Calendar.read s.toList).bind fun p => if horaOpcional p.2 then some p.1 else none

/-- the text begins with a letter, and not with the one of `epoch` or `infinity` -/
def conLetra (s : String) : Bool :=
  s.toList.head?.any fun c => c.isAlpha && decide (c ∉ ['e', 'E', 'i', 'I'])

inductive Escritura where
  | nula | iso | letra | otra
  deriving DecidableEq

def escritura : Option String → Escritura
  | none => .nula
  | some s => if (fechaIso s).isSome then .iso else if conLetra s then .letra else .otra

/-- what DuckDB makes of these spellings -/
structure LeeFechas (M : Motor) : Prop where
  iso : ∀ s x, fechaIso s = some x → M.tryCastDate s = some x.number
  letra : ∀ s, conLetra s = true → M.tryCastDate s = none

section
variable (M : Motor)

/-- `TRY_CAST(fechacreacion AS DATE)` -/
def fechaDe (texto : Option String) : Option Int := texto.bind M.tryCastDate

/-- the first text comes before the second one in the query, although its date is earlier or missing:
a text that begins with a letter goes ahead of an ISO date, one in another notation may do so, and
nothing else does -/
def Adelanta (a b : Option String) : Prop :=
  match escritura a, escritura b with
  | .letra, .iso => True
  | .otra, _ => ¬ descNullsLast b a ∧ ¬ descNullsLast (fechaDe M a) (fechaDe M b)
  | _, .otra => ¬ descNullsLast b a ∧ ¬ descNullsLast (fechaDe M a) (fechaDe M b)
  | _, _ => False

instance (a b : Option String) : Decidable (Adelanta M a b) := by
  unfold Adelanta
  split <;> infer_instance

/-- where a version goes ahead of another one, a third one goes ahead of it whose date is not earlier
than that of the other -/
def SinAdelanto (csv : List FilaCsv) (id : Option String) : Prop :=
  ∀ r ∈ versiones csv id, ∀ r' ∈ versiones csv id,
    Adelanta M r.fechacreacion r'.fechacreacion → ∃ x ∈ versiones csv id,
      ¬ descNullsLast r.fechacreacion x.fechacreacion ∧
        descNullsLast (fechaDe M x.fechacreacion) (fechaDe M r'.fechacreacion)

instance (csv : List FilaCsv) (id : Option String) : Decidable (SinAdelanto M csv id) := by
  unfold SinAdelanto; infer_instance

/-- no version is later than a date, one without a readable date being the earliest -/
def EsUltima (csv : List FilaCsv) (id : Option String) (fecha : Option Int) : Prop :=
  ∀ r ∈ versiones csv id, descNullsLast fecha (fechaDe M r.fechacreacion)

instance (csv : List FilaCsv) (id : Option String) (fecha : Option Int) :
    Decidable (EsUltima M csv id fecha) := by
  unfold EsUltima; infer_instance

end

section
variable {M : Motor} {csv : List FilaCsv} {r r' : FilaCsv}

theorem mem_versiones {id : Option String} :
    r ∈ versiones csv id ↔ r ∈ csv ∧ r.valida = true ∧ trimN r.id = id := by
  simp [versiones]

/-! ## the two orders -/

theorem descNullsLast_none {α : Type} [LE α] (a : Option α) : descNullsLast a none := by
  cases a <;> trivial

theorem fechaIso_eq_some {s : String} {x : Calendar.Date} (h : fechaIso s = some x) :
    ∃ r, Calendar.read s.toList = some (x, r) ∧ horaOpcional r = true := by
  obtain ⟨⟨y, r⟩, hr, h⟩ := Option.bind_eq_some_iff.mp h
  split at h
  · rename_i hh
    obtain rfl := Option.some.inj h
    exact ⟨r, hr, hh⟩
  · cases h

theorem escritura_iso {a : Option String} (h : escritura a = .iso) :
    ∃ s x, a = some s ∧ fechaIso s = some x := by
  unfold escritura at h
  split at h
  · cases h
  · rename_i s
    split at h
    · rename_i his
      obtain ⟨x, hx⟩ := Option.isSome_iff_exists.mp his
      exact ⟨s, x, rfl, hx⟩
    · split at h <;> cases h

theorem escritura_letra {a : Option String} (h : escritura a = .letra) :
    ∃ s, a = some s ∧ conLetra s = true := by
  unfold escritura at h
  split at h
  · cases h
  · rename_i s
    split at h
    · cases h
    · split at h
      · rename_i hl
        exact ⟨s, rfl, hl⟩
      · cases h

theorem escritura_nula {a : Option String} (h : escritura a = .nula) : a = none := by
  cases a with
  | none => rfl
  | some s =>
    unfold escritura at h
    dsimp only at h
    split at h
    · cases h
    · split at h <;> cases h

/-- **ISO dates sort as texts like their dates.** -/
theorem iso_mono (hM : LeeFechas M) {s t : String} {x y : Calendar.Date} (hs : fechaIso s = some x)
    (ht : fechaIso t = some y) (h : t ≤ s) :
    descNullsLast (fechaDe M (some s)) (fechaDe M (some t)) := by
  obtain ⟨r, hr, -⟩ := fechaIso_eq_some hs
  obtain ⟨r', hr', -⟩ := fechaIso_eq_some ht
  show descNullsLast (M.tryCastDate s) (M.tryCastDate t)
  rw [hM.iso s x hs, hM.iso t y ht]
  show y.number ≤ x.number
  by_contra hlt
  have hst := Calendar.lt_of_read hr hr' (not_le.mp hlt)
  exact absurd (String.lt_iff_toList_lt.mpr hst) (not_lt.mpr h)

theorem toNat_of_isAlpha {c : Char} (h : c.isAlpha = true) : 65 ≤ c.toNat := by
  have hcase : (c.isUpper || c.isLower) = true := h
  rcases Bool.or_eq_true_iff.mp hcase with hup | hlow
  · have hA : 'A'.val ≤ c.val := (of_decide_eq_true hup).1
    exact UInt32.le_iff_toNat_le.mp hA
  · have ha : 'a'.val ≤ c.val := of_decide_eq_true (Bool.and_eq_true_iff.mp hlow).1
    exact le_trans (by decide) (UInt32.le_iff_toNat_le.mp ha)

/-- a letter comes after every digit -/
theorem iso_lt_letra {s t : String} {x : Calendar.Date} (hs : fechaIso s = some x)
    (ht : conLetra t = true) : s < t := by
  obtain ⟨r, hr, -⟩ := fechaIso_eq_some hs
  obtain ⟨ys, ms, ds, ⟨hlen, -⟩, hdig, -, htext⟩ := Calendar.read_eq_some hr
  obtain ⟨y, ys', rfl⟩ := List.exists_cons_of_length_eq_add_one hlen
  obtain ⟨c, hc, hcond⟩ := (Option.any_eq_true _ _).mp ht
  obtain ⟨cs, hcs⟩ := List.head?_eq_some_iff.mp hc
  have hy := (Calendar.toNat_of_isDigit (hdig y List.mem_cons_self)).2
  have hc65 := toNat_of_isAlpha (Bool.and_eq_true_iff.mp hcond).1
  rw [String.lt_iff_toList_lt, htext, hcs]
  refine List.cons_lt_cons_iff.mpr (Or.inl (Char.lt_def.mpr (UInt32.lt_iff_toNat_lt.mpr ?_)))
  show y.toNat < c.toNat
  have h0 : '0'.toNat = 48 := rfl
  omega

/-- **Which texts go ahead of a later date.** -/
theorem adelanta_iff (hM : LeeFechas M) (a b : Option String) : Adelanta M a b ↔
    ¬ descNullsLast b a ∧ ¬ descNullsLast (fechaDe M a) (fechaDe M b) := by
  have hletra {a : Option String} (h : escritura a = .letra) : fechaDe M a = none := by
    obtain ⟨s, rfl, hs⟩ := escritura_letra h
    exact hM.letra s hs
  have hnula {a : Option String} (h : escritura a = .nula) : fechaDe M a = none := by
    rw [escritura_nula h]
    rfl
  have hno {d : Option Int} (hd : d = none) (e : Option Int) : descNullsLast e d :=
    hd ▸ descNullsLast_none e
  unfold Adelanta
  cases ha : escritura a with
  | otra => exact Iff.rfl
  | nula =>
    rw [escritura_nula ha]
    cases hb : escritura b with
    | otra => exact Iff.rfl
    | nula => exact iff_of_false id fun h => h.1 (descNullsLast_none b)
    | iso => exact iff_of_false id fun h => h.1 (descNullsLast_none b)
    | letra => exact iff_of_false id fun h => h.1 (descNullsLast_none b)
  | iso =>
    cases hb : escritura b with
    | otra => exact Iff.rfl
    | nula => exact iff_of_false id fun h => h.2 (hno (hnula hb) _)
    | letra => exact iff_of_false id fun h => h.2 (hno (hletra hb) _)
    | iso =>
      obtain ⟨s, x, rfl, hs⟩ := escritura_iso ha
      obtain ⟨t, y, rfl, ht⟩ := escritura_iso hb
      refine iff_of_false id fun h => h.2 (iso_mono hM hs ht ?_)
      exact le_of_lt (not_le.mp h.1)
  | letra =>
    cases hb : escritura b with
    | otra => exact Iff.rfl
    | nula => exact iff_of_false id fun h => h.2 (hno (hnula hb) _)
    | letra => exact iff_of_false id fun h => h.2 (hno (hletra hb) _)
    | iso =>
      refine iff_of_true trivial ⟨?_, ?_⟩
      · obtain ⟨t, y, rfl, ht⟩ := escritura_iso hb
        obtain ⟨s, rfl, hs⟩ := escritura_letra ha
        exact not_le.mpr (iso_lt_letra ht hs)
      · obtain ⟨t, y, rfl, ht⟩ := escritura_iso hb
        rw [hletra ha]
        show ¬ descNullsLast none (M.tryCastDate t)
        rw [hM.iso t y ht]
        exact id

/-! ## the kept row -/

theorem Elegida.filter_eq (h : Elegida M csv r r') :
    ((conTodas M csv).filter fun x => decide (trimN x.id = trimN r.id)) = [r'] := by
  let t : KeyTable FilaCsv (Option String) fun r => trimN r.id := ⟨conTodas M csv, nodup_conTodas csv⟩
  have hfind : t.find (trimN r.id) = some r' := KeyTable.find_eq_some.mpr ⟨h.elegida, h.id⟩
  have hfil := KeyTable.filter_key t (trimN r.id)
  rw [hfind] at hfil
  exact hfil

/-- **Orders in the notations that DuckDB's rules settle**: the latest version is kept unless a text that
begins with a letter stands beside an ISO date. -/
theorem sinAdelanto_iff (hM : LeeFechas M) {id : Option String}
    (h : ∀ r ∈ versiones csv id, escritura r.fechacreacion ≠ .otra) :
    SinAdelanto M csv id ↔ ¬ ((∃ r ∈ versiones csv id, escritura r.fechacreacion = .letra) ∧
      ∃ r ∈ versiones csv id, escritura r.fechacreacion = .iso) := by
  constructor
  · rintro hsin ⟨⟨a, ha, hla⟩, b, hb, hib⟩
    have hab : Adelanta M a.fechacreacion b.fechacreacion := by
      unfold Adelanta
      rw [hla, hib]
      trivial
    obtain ⟨x, hx, hlt, hdate⟩ := hsin a ha b hb hab
    obtain ⟨s, hs, hsl⟩ := escritura_letra hla
    obtain ⟨t, d, ht, hd⟩ := escritura_iso hib
    rw [ht] at hdate
    rw [hs] at hlt
    -- what comes after a letter begins with a letter too, and has no date
    cases hcase : escritura x.fechacreacion with
    | otra => exact h x hx hcase
    | nula =>
      rw [escritura_nula hcase] at hlt
      exact hlt (descNullsLast_none _)
    | iso =>
      obtain ⟨u, e, hu, he⟩ := escritura_iso hcase
      rw [hu] at hlt
      exact hlt (iso_lt_letra he hsl).le
    | letra =>
      obtain ⟨u, hu, hul⟩ := escritura_letra hcase
      have hno : fechaDe M x.fechacreacion = none := by
        rw [hu]
        exact hM.letra u hul
      have hsi : fechaDe M (some t) = some d.number := hM.iso t d hd
      rw [hno, hsi] at hdate
      exact hdate
  · intro hno a ha b hb hab
    unfold Adelanta at hab
    cases hla : escritura a.fechacreacion with
    | otra => exact absurd hla (h a ha)
    | letra =>
      cases hib : escritura b.fechacreacion with
      | otra => exact absurd hib (h b hb)
      | iso => exact absurd ⟨⟨a, ha, hla⟩, b, hb, hib⟩ hno
      | _ =>
        rw [hla, hib] at hab
        exact hab.elim
    | _ =>
      cases hib : escritura b.fechacreacion with
      | otra => exact absurd hib (h b hb)
      | _ =>
        rw [hla, hib] at hab
        exact hab.elim

/-- **When the row that is kept of a purchase order is its latest version**, and what that means for an
order whose dates are in ISO notation, begin with a letter or are missing. -/
theorem version_iff (hM : LeeFechas M) {id : Option String} (h : versiones csv id ≠ []) :
    ((∃ r, ((conTodas M csv).filter fun x => decide (trimN x.id = id)) = [r] ∧
      EsUltima M csv id (fechaDe M r.fechacreacion)) ↔ SinAdelanto M csv id) ∧
    ((∀ r ∈ versiones csv id, escritura r.fechacreacion ≠ .otra) →
      (SinAdelanto M csv id ↔ ¬ ((∃ r ∈ versiones csv id, escritura r.fechacreacion = .letra) ∧
        ∃ r ∈ versiones csv id, escritura r.fechacreacion = .iso))) := by
  refine ⟨?_, sinAdelanto_iff hM⟩
  obtain ⟨r, hr⟩ := List.exists_mem_of_ne_nil _ h
  obtain ⟨hcsv, hval, rfl⟩ := mem_versiones.mp hr
  obtain ⟨r', he⟩ := exists_elegida (M := M) hcsv hval
  obtain ⟨hcsv', hval'⟩ := mem_conTodas he.elegida
  have hr' : r' ∈ versiones csv (trimN r.id) := mem_versiones.mpr ⟨hcsv', hval', he.id⟩
  have htexto : ∀ x ∈ versiones csv (trimN r.id),
      descNullsLast r'.fechacreacion x.fechacreacion := by
    intro x hx
    obtain ⟨h1, h2, h3⟩ := mem_versiones.mp hx
    exact he.ultima x h1 h2 h3
  rw [he.filter_eq]
  refine ⟨fun h a ha b hb hab => ?_, fun h => ⟨r', rfl, fun b hb => ?_⟩⟩
  · obtain ⟨x, hx, hult⟩ := h
    obtain rfl := (List.cons.inj hx).1
    refine ⟨r', hr', fun hle => ?_, hult b hb⟩
    -- otherwise the first version has the text of the kept row, and with it its date
    have hsame := descNullsLast_antisymm hle (htexto a ha)
    have hdate := hult b hb
    rw [← hsame] at hdate
    exact ((adelanta_iff hM _ _).mp hab).2 hdate
  · by_contra hno
    have hab : Adelanta M r'.fechacreacion b.fechacreacion := by
      refine (adelanta_iff hM _ _).mpr ⟨fun hle => hno ?_, hno⟩
      rw [descNullsLast_antisymm (htexto b hb) hle]
      exact or_self_iff.mp (descNullsLast_total _ _)
    obtain ⟨x, hx, hlt, -⟩ := h r' hr' b hb hab
    exact hlt (htexto x hx)

end

theorem leeFechas_motorConcreto : LeeFechas motorConcreto := by
  refine ⟨fun s x h => ?_, fun s h => ?_⟩
  · obtain ⟨r, hr, hh⟩ := fechaIso_eq_some h
    have hno : r.head?.any Char.isDigit = false := by
      unfold horaOpcional at hh
      split at hh
      · rfl
      · cases hh
      · rename_i c d l
        rcases Bool.or_eq_true_iff.mp (Bool.and_eq_true_iff.mp hh).1 with hc | hc
        · rw [of_decide_eq_true hc]
          rfl
        · rw [of_decide_eq_true hc]
          rfl
    show Concreto.fecha s = _
    unfold Concreto.fecha
    rw [hr, Option.bind_some, hno]
    rfl
  · show Concreto.fecha s = none
    unfold Concreto.fecha
    cases hr : Calendar.read s.toList with
    | none => rfl
    | some p =>
      exfalso
      obtain ⟨ys, ms, ds, ⟨hlen, -⟩, hdig, -, htext⟩ := Calendar.read_eq_some hr
      obtain ⟨y, ys', rfl⟩ := List.exists_cons_of_length_eq_add_one hlen
      obtain ⟨c, hc, hcond⟩ := (Option.any_eq_true _ _).mp h
      rw [htext] at hc
      obtain rfl := Option.some.inj hc
      have h65 := toNat_of_isAlpha (Bool.and_eq_true_iff.mp hcond).1
      have h57 := (Calendar.toNat_of_isDigit (hdig y List.mem_cons_self)).2
      have h0 : '0'.toNat = 48 := rfl
      omega

/-- a file with two versions of one order -/
def dosVersiones (fecha fecha' : String) : List FilaCsv :=
  [.orden "1-OC" "1.000.000" fecha "61-K" "76-K" "" "Uno",
    .orden " 1-OC" "2.000.000" fecha' "61-K" "76-K" "" "Uno"]

theorem version_de_mayo :
    ∃ r, ((conTodas motorConcreto (dosVersiones "2024-05-02" "2024-05-30")).filter
        fun x => decide (trimN x.id = some "1-OC")) = [r] ∧
      EsUltima motorConcreto (dosVersiones "2024-05-02" "2024-05-30") (some "1-OC")
        (fechaDe motorConcreto r.fechacreacion) :=
  (version_iff leeFechas_motorConcreto (by decide +kernel)).1.mpr (by decide +kernel)

/-- a text that is not a date comes after every date -/
theorem version_sin_fecha :
    ((conTodas motorConcreto (dosVersiones "2024-05-30" "sin fecha")).map
        FilaCsv.fechacreacion) = [some "sin fecha"] ∧
      ¬ EsUltima motorConcreto (dosVersiones "2024-05-30" "sin fecha") (some "1-OC")
        (fechaDe motorConcreto (some "sin fecha")) := by
  decide +kernel

end Fractura
