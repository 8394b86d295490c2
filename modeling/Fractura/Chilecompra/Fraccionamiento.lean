import Fractura.Lib.Window
import Fractura.Chilecompra.Proveedores

/-!
# What the second rule flags

The law: the dated contracts between an organism and a supplier contain at least three, each one
not above the amount threshold, within 30 days of one another, that total more than the threshold
(`Fraccionado`, an instance of `Window.Qualifies`).  The query adds up the whole group instead, the
single amounts unchecked, and compares the span of ALL its dates with the 30 days (`marcaP2_iff`).

`deteccion_fraccionamiento_iff`: for a pair the alert and the law agree if and only if none of the
three kinds of difference occurs (`SinDefecto`):

* `ventana`   the dates span more than 30 days and yet a window of 30 days suffices;
* `total`     within 30 days, the contracts up to the threshold suffice, the total does not;
* `grandes`   within 30 days, the total is enough only by contracts above the threshold.
-/

namespace Fractura

open Db Group Window

section
variable (M : Motor)

/-- the contracts of a slice between an organism and a supplier -/
def delPar (s : Db) (f o p : String) : List Contrato :=
  (s.contratosDe f).filter fun c => decide (c.organismoId = some o) && decide (c.proveedorId = some p)

/-- those of them with a date -/
def fechados (s : Db) (f o p : String) : List Contrato :=
  (delPar s f o p).filter fun c => (diaDe M c).isSome

/-- those that the query groups: their column is not NULL -/
def agrupados (s : Db) (f o p : String) : List Contrato :=
  (delPar s f o p).filter fun c => c.fecha.isSome

def dia (c : Contrato) : Int := (diaDe M c).getD 0

/-- an amount that is missing or unreadable adds nothing -/
def valor (c : Contrato) : Int := (montoDe M c).getD 0

/-- **The law.** -/
def Fraccionado (s : Db) (f o p : String) : Prop :=
  Qualifies (dia M) (valor M) P2_THRESHOLD_COUNT P2_THRESHOLD_DAYS P2_THRESHOLD_MONTO
    (fechados M s f o p)

/-- there is an alert of the second rule for the pair -/
def Alertado (t : Db) (f o p : String) : Prop :=
  ∃ a ∈ t.alerta.rows, a.fuente = some f ∧ a.patron = some "fraccionamiento" ∧
    a.organismoId = some o ∧ a.proveedorId = some p

/-- all the dates lie within the 30 days -/
def Juntos (s : Db) (f o p : String) : Prop :=
  ∀ c ∈ fechados M s f o p, ∀ c' ∈ fechados M s f o p, dia M c' - dia M c ≤ P2_THRESHOLD_DAYS

def sumaTotal (s : Db) (f o p : String) : Int := ((agrupados s f o p).map (valor M)).sum

/-- the contracts up to the threshold, at least three, can total more than it -/
def Bastan (l : List Contrato) : Prop :=
  Enough (valor M) P2_THRESHOLD_COUNT P2_THRESHOLD_MONTO l

structure SinDefecto (s : Db) (f o p : String) : Prop where
  ventana : ¬ Juntos M s f o p → ∀ c ∈ fechados M s f o p,
    ¬ Bastan M (window (dia M) P2_THRESHOLD_DAYS (dia M c) (fechados M s f o p))
  total : Juntos M s f o p → sumaTotal M s f o p ≤ P2_THRESHOLD_MONTO →
    ¬ Bastan M (fechados M s f o p)
  grandes : Juntos M s f o p → P2_THRESHOLD_COUNT ≤ (agrupados s f o p).length →
    fechados M s f o p ≠ [] → P2_THRESHOLD_MONTO < sumaTotal M s f o p →
      Bastan M (fechados M s f o p)

instance (s : Db) (f o p : String) : Decidable (Juntos M s f o p) := by
  unfold Juntos; infer_instance

instance (l : List Contrato) : Decidable (Bastan M l) := by unfold Bastan; infer_instance

instance (t : Db) (f o p : String) : Decidable (Alertado t f o p) := by
  unfold Alertado; infer_instance

end

section
variable {M : Motor} {s t : Db} {f o p : String}

/-! ## the aggregates of the query -/

theorem sum_getD (l : List (Option Int)) :
    (l.map fun x => x.getD 0).sum = (l.filterMap id).sum := by
  induction l with
  | nil => rfl
  | cons x l ih =>
    cases x with
    | none => rw [List.map_cons, List.sum_cons, ih]; simp
    | some n => rw [List.map_cons, List.sum_cons, ih]; simp

/-- the `SUM` of a nullable column, where it is compared with a bound that is not negative -/
theorem suma_any (l : List (Option Int)) {m : Int} (hm : 0 ≤ m) :
    (suma l).any (fun x => decide (m < x)) = decide (m < (l.map fun x => x.getD 0).sum) := by
  rw [sum_getD]
  unfold suma
  cases l.filterMap id with
  | nil =>
    have hnot : ¬ m < ([] : List Int).sum := by rw [List.sum_nil]; omega
    exact (decide_eq_false hnot).symm
  | cons x xs => rfl

/-- `MAX - MIN <= n` says that all days are within `n` of one another -/
theorem spanLe_iff {n : Int} {dias : List Int} :
    spanLe n dias = true ↔ dias ≠ [] ∧ ∀ x ∈ dias, ∀ y ∈ dias, y - x ≤ n := by
  unfold spanLe
  cases ha : dias.min? with
  | none =>
    have hnil := List.min?_eq_none_iff.mp ha
    exact ⟨fun h => (nomatch h), fun h => absurd hnil h.1⟩
  | some a =>
    cases hb : dias.max? with
    | none =>
      have hnil := List.max?_eq_none_iff.mp hb
      exact ⟨fun h => (nomatch h), fun h => absurd hnil h.1⟩
    | some b =>
      obtain ⟨hma, hla⟩ := List.min?_eq_some_iff.mp ha
      obtain ⟨hmb, hlb⟩ := List.max?_eq_some_iff.mp hb
      show decide (b - a ≤ n) = true ↔ _
      rw [decide_eq_true_eq]
      refine ⟨fun h => ⟨List.ne_nil_of_mem hma, fun x hx y hy => ?_⟩, fun h => h.2 a hma b hmb⟩
      have h1 := hla x hx
      have h2 := hlb y hy
      omega

theorem mem_dias {d : Int} : d ∈ (agrupados s f o p).filterMap (diaDe M) ↔
    ∃ c ∈ fechados M s f o p, dia M c = d := by
  rw [List.mem_filterMap]
  refine ⟨fun h => ?_, fun h => ?_⟩
  · obtain ⟨c, hc, hd⟩ := h
    refine ⟨c, List.mem_filter.mpr ⟨List.mem_of_mem_filter hc, by rw [hd]; rfl⟩, ?_⟩
    unfold dia
    rw [hd]
    rfl
  · obtain ⟨c, hc, hd⟩ := h
    obtain ⟨h1, h2⟩ := List.mem_filter.mp hc
    obtain ⟨d', hd'⟩ := Option.isSome_iff_exists.mp h2
    have hfecha : c.fecha.isSome = true := by
      cases hf : c.fecha with
      | none =>
        unfold diaDe at hd'
        rw [hf] at hd'
        cases hd'
      | some x => rfl
    refine ⟨c, List.mem_filter.mpr ⟨h1, hfecha⟩, ?_⟩
    unfold dia at hd
    rw [hd'] at hd ⊢
    rw [← hd]
    rfl

theorem fechados_sublist : (fechados M s f o p).length ≤ (agrupados s f o p).length := by
  unfold fechados agrupados
  refine (List.monotone_filter_right _ fun c hc => ?_).length_le
  cases hf : c.fecha with
  | none =>
    unfold diaDe at hc
    rw [hf] at hc
    cases hc
  | some x => rfl

theorem grupo_par {e : Empresa} (he : e ∈ s.empresa.rows) (hn : e.nombre ≠ "Sin nombre") :
    (withKey porPar (conFecha (s.unidos f)) (some o, some e.id, e.nombre, e.rut)).map Unido.c =
      agrupados s f o e.id := by
  have hown := congrArg (List.filter fun c : Contrato => decide (c.organismoId = some o))
    (unidos_proveedor (f := f) he hn)
  have hown' := congrArg (List.filter fun c : Contrato => c.fecha.isSome) hown
  have hright : ((propios s f e).filter fun c => decide (c.organismoId = some o)).filter
      (fun c => c.fecha.isSome) = agrupados s f o e.id := by
    unfold propios agrupados delPar
    simp only [List.filter_filter]
  rw [← hright, ← hown', List.filter_map, List.filter_map, List.filter_filter, List.filter_filter]
  congr 1
  unfold withKey conFecha
  rw [List.filter_filter]
  apply List.filter_congr
  intro u hu
  have hiff : porPar u = (some o, some e.id, e.nombre, e.rut) ↔
      u.c.organismoId = some o ∧ u.c.proveedorId = some e.id := by
    unfold porPar
    refine ⟨fun h => ?_, fun h => ?_⟩
    · obtain ⟨h1, h2⟩ := Prod.mk.inj h
      exact ⟨h1, (Prod.mk.inj h2).1⟩
    · obtain ⟨e', he', -, hk', hp, -⟩ := exists_empresa hu
      have hee : e' = e := KeyTable.eq_of_key he' he (Option.some.inj (hk'.symm.trans h.2))
      obtain ⟨hr, hnom⟩ := Prod.mk.inj hp
      rw [h.1, h.2, hnom, hr, hee]
  simp only [hiff, Function.comp, Bool.decide_and]
  cases decide (u.c.organismoId = some o) <;> cases decide (u.c.proveedorId = some e.id) <;>
    cases u.c.fecha.isSome <;> rfl

/-- **What the query asks of a pair.** -/
theorem marcaP2_iff {e : Empresa} (he : e ∈ s.empresa.rows) (hn : e.nombre ≠ "Sin nombre") :
    marcaP2 M (s.unidos f) (some o, some e.id, e.nombre, e.rut) ↔
      P2_THRESHOLD_COUNT ≤ (agrupados s f o e.id).length ∧
      P2_THRESHOLD_MONTO < sumaTotal M s f o e.id ∧ fechados M s f o e.id ≠ [] ∧
      Juntos M s f o e.id := by
  have hg := grupo_par (f := f) (o := o) he hn
  unfold marcaP2 havingP2 sumaMontos
  generalize hgr : withKey porPar (conFecha (s.unidos f)) (some o, some e.id, e.nombre, e.rut) = g
    at hg
  have hlen : g.length = (agrupados s f o e.id).length := by rw [← hg, List.length_map]
  have hsum : g.map (fun u => montoDe M u.c) = (agrupados s f o e.id).map (montoDe M) := by
    rw [← hg, List.map_map]
    rfl
  have hdias : g.filterMap (fun u => diaDe M u.c) =
      (agrupados s f o e.id).filterMap (diaDe M) := by
    rw [← hg, List.filterMap_map]
    rfl
  have htot : (((agrupados s f o e.id).map (montoDe M)).map fun x => x.getD 0).sum =
      sumaTotal M s f o e.id := by
    rw [List.map_map]
    rfl
  rw [hlen, hsum, hdias, suma_any _ (by decide), htot, Bool.and_eq_true, Bool.and_eq_true,
    decide_eq_true_eq, decide_eq_true_eq, spanLe_iff, and_assoc]
  have hspan : (((agrupados s f o e.id).filterMap (diaDe M) ≠ []) ∧
      ∀ x ∈ (agrupados s f o e.id).filterMap (diaDe M),
        ∀ y ∈ (agrupados s f o e.id).filterMap (diaDe M), y - x ≤ P2_THRESHOLD_DAYS) ↔
      fechados M s f o e.id ≠ [] ∧ Juntos M s f o e.id := by
    refine and_congr ⟨fun h hnil => ?_, fun h hnil => ?_⟩ ⟨fun h c hc c' hc' => ?_,
      fun h x hx y hy => ?_⟩
    · obtain ⟨d, hd⟩ := List.exists_mem_of_ne_nil _ h
      obtain ⟨c, hc, -⟩ := mem_dias.mp hd
      rw [hnil] at hc
      cases hc
    · obtain ⟨c, hc⟩ := List.exists_mem_of_ne_nil _ h
      have hd := mem_dias.mpr ⟨c, hc, rfl⟩
      rw [hnil] at hd
      cases hd
    · exact h _ (mem_dias.mpr ⟨c, hc, rfl⟩) _ (mem_dias.mpr ⟨c', hc', rfl⟩)
    · obtain ⟨c, hc, rfl⟩ := mem_dias.mp hx
      obtain ⟨c', hc', rfl⟩ := mem_dias.mp hy
      exact h c hc c' hc'
  rw [hspan]

/-! ## the alerts of a pair -/

theorem alertado_iff {r : ResultadoFuente} (h : Prog.run (exec M) (detectar M f) s = (.ok r, t))
    {e : Empresa} (he : e ∈ s.empresa.rows) :
    Alertado t f o e.id ↔ marcaP2 M (s.unidos f) (some o, some e.id, e.nombre, e.rut) := by
  have hrows := detectar_reglas M h
  have hmem (a : Alerta) : (a ∈ t.alerta.rows ∧ a.fuente = some f ∧ a.patron ≠ none) ↔
      a ∈ sellar s.reloj (alertasReglas M f (s.unidos f)) := by
    rw [← hrows, List.mem_filter, decide_eq_true_eq]
  refine ⟨fun hal => ?_, fun hk => ?_⟩
  · obtain ⟨a, ha, hf, hp, ho, hpr⟩ := hal
    obtain ⟨b, hb, n, rfl⟩ := mem_sellar
      ((hmem a).mp ⟨ha, hf, by rw [hp]; exact Option.some_ne_none _⟩)
    rcases mem_alertasReglas.mp hb with ⟨r, hr, rfl⟩ | ⟨r, hr, rfl⟩ | ⟨r, hr, rfl⟩
    · exact absurd (show some "recurrente" = some "fraccionamiento" from hp) (by decide)
    · obtain ⟨k, hk, rfl⟩ := mem_p2De.mp hr
      obtain ⟨u, hu, -, rfl⟩ := exists_of_marcaP2 hk
      obtain ⟨e', he', -, hk', hpe, -⟩ := exists_empresa hu
      have h1 : u.c.organismoId = some o := ho
      have h2 : u.c.proveedorId = some e.id := hpr
      have hee : e' = e := KeyTable.eq_of_key he' he (Option.some.inj (hk'.symm.trans h2))
      obtain ⟨hr, hnom⟩ := Prod.mk.inj hpe
      unfold porPar at hk
      rw [h1, h2, hnom, hr, hee] at hk
      exact hk
    · exact absurd (show some "multi-org" = some "fraccionamiento" from hp) (by decide)
  · have hb := (mem_alertasReglas (M := M) (f := f)).mpr
      (Or.inr (Or.inl ⟨_, mem_p2De.mpr ⟨_, hk, rfl⟩, rfl⟩))
    have hsin : (alertaP2 M f (filaP2 M ((some o, some e.id, e.nombre, e.rut),
        withKey porPar (conFecha (s.unidos f)) (some o, some e.id, e.nombre, e.rut)))).sinHora ∈
        (sellar s.reloj (alertasReglas M f (s.unidos f))).map Alerta.sinHora := by
      rw [map_sinHora_sellar]
      exact List.mem_map_of_mem hb
    obtain ⟨a, ha, hab⟩ := List.mem_map.mp hsin
    obtain ⟨h1, h2, -⟩ := (hmem a).mpr ha
    refine ⟨a, h1, h2, ?_, ?_, ?_⟩
    · exact congrArg Alerta.patron hab
    · exact congrArg Alerta.organismoId hab
    · exact congrArg Alerta.proveedorId hab

/-- **When the second rule follows its law**, for one pair and after a detection that returned. -/
theorem deteccion_fraccionamiento_iff {l : List (String × ResultadoFuente)}
    (hrun : Prog.run (exec M) (runDetection M (some f)) s = (.ok l, t)) {e : Empresa}
    (he : e ∈ s.empresa.rows) (hn : e.nombre ≠ "Sin nombre") (o : String) :
    (Alertado t f o e.id ↔ Fraccionado M s f o e.id) ↔ SinDefecto M s f o e.id := by
  obtain ⟨r, -, hdet⟩ := (runDetection_some_ok M).mp hrun
  rw [alertado_iff hdet he, marcaP2_iff he hn]
  unfold Fraccionado
  by_cases hj : Juntos M s f o e.id
  · -- one window holds all the dated contracts
    rw [qualifies_iff_of_within hj]
    refine ⟨fun h => ?_, fun h => ?_⟩
    · refine ⟨fun hno => absurd hj hno, fun _ htot hb => ?_, fun _ hlen hne htot => ?_⟩
      · have := (h.mpr hb).2.1
        omega
      · exact h.mp ⟨hlen, htot, hne, hj⟩
    · refine ⟨fun hm => h.grandes hj hm.1 hm.2.2.1 hm.2.1, fun hb => ?_⟩
      have hlen : P2_THRESHOLD_COUNT ≤ (fechados M s f o e.id).length :=
        le_trans hb.1 List.filter_sublist.length_le
      refine ⟨le_trans hlen fechados_sublist, ?_, ?_, hj⟩
      · by_contra hno
        exact h.total hj (by omega) hb
      · intro hnil
        rw [hnil] at hlen
        exact absurd hlen (by decide)
  · rw [qualifies_iff (by decide)]
    refine ⟨fun h => ?_, fun h => ?_⟩
    · refine ⟨fun _ c hc hb => hj (h.mpr ⟨c, hc, hb⟩).2.2.2, fun hy => absurd hy hj,
        fun hy => absurd hy hj⟩
    · refine ⟨fun hm => absurd hm.2.2.2 hj, fun hq => ?_⟩
      obtain ⟨c, hc, hb⟩ := hq
      exact absurd hb (h.ventana hj c hc)

end

/-! ## a fourth contract -/

/-- three orders of four million on three days of May, to one supplier -/
def comprasPartidas : List FilaCsv :=
  [.orden "1-OC" "4.000.000" "2024-05-02" "61-K" "76-K" "" "Acme",
    .orden "2-OC" "4.000.000" "2024-05-06" "61-K" "76-K" "" "Acme",
    .orden "3-OC" "4.000.000" "2024-05-10" "61-K" "76-K" "" "Acme"]

/-- and one of September -/
def comprasPartidasMas : List FilaCsv :=
  comprasPartidas ++ [.orden "4-OC" "4.000.000" "2024-09-20" "61-K" "76-K" "" "Acme"]

theorem fraccionado_partidas :
    Fraccionado motorConcreto (trasCarga 2024 5 comprasPartidasMas .empty)
      "chilecompra_oc_2024-05" "61-K" "76-K" :=
  (qualifies_iff (by decide)).mpr (by decide +kernel)

/-- **One more contract takes the alert away**: the three of May still fit the law. -/
theorem deteccion_fraccionamiento_pierde :
    Alertado (trasDeteccion (trasCarga 2024 5 comprasPartidas .empty))
      "chilecompra_oc_2024-05" "61-K" "76-K" ∧
    (Prog.run (exec motorConcreto) (runDetection motorConcreto (some "chilecompra_oc_2024-05"))
      (trasCarga 2024 5 comprasPartidasMas .empty)).1 =
      .ok [("chilecompra_oc_2024-05", ⟨false, 1, 0, 0, 1⟩)] ∧
    ¬ Alertado (trasDeteccion (trasCarga 2024 5 comprasPartidasMas .empty))
      "chilecompra_oc_2024-05" "61-K" "76-K" ∧
    Fraccionado motorConcreto (trasCarga 2024 5 comprasPartidasMas .empty)
      "chilecompra_oc_2024-05" "61-K" "76-K" :=
  ⟨by decide +kernel, by decide +kernel, by decide +kernel, fraccionado_partidas⟩

theorem deteccion_fraccionamiento_partidas :
    Alertado (trasDeteccion (trasCarga 2024 5 comprasPartidas .empty))
      "chilecompra_oc_2024-05" "61-K" "76-K" ↔
    Fraccionado motorConcreto (trasCarga 2024 5 comprasPartidas .empty)
      "chilecompra_oc_2024-05" "61-K" "76-K" := by
  have hrun : Prog.run (exec motorConcreto)
      (runDetection motorConcreto (some "chilecompra_oc_2024-05"))
      (trasCarga 2024 5 comprasPartidas .empty) =
      (.ok [("chilecompra_oc_2024-05", ⟨false, 0, 1, 0, 1⟩)],
        trasDeteccion (trasCarga 2024 5 comprasPartidas .empty)) :=
    Prod.ext (by decide +kernel) rfl
  obtain ⟨e, he, hid, hn⟩ : ∃ e ∈ (trasCarga 2024 5 comprasPartidas .empty).empresa.rows,
      e.id = "76-K" ∧ e.nombre ≠ "Sin nombre" := by decide +kernel
  have h := deteccion_fraccionamiento_iff hrun he hn "61-K"
  rw [hid] at h
  refine h.mpr ⟨by decide +kernel, by decide +kernel, by decide +kernel⟩

end Fractura
