import Fractura.Chilecompra.Guardar
import Fractura.Chilecompra.Reglas
import Fractura.Corrupcion

/-!
# The reachable stores

`Alcanzable M s`: the store `s` is left by some sequence of the four operations from the empty
schema, each one with any input, returning or raising (what a raising operation did stays).

`Inv M s` is what all of them keep (`inv_of_alcanzable`):

* every contract is of a slice and has both parents;
* the RUT of a supplier strips to its primary key;
* an alert of a rule is one that the rules still call for (`Justificada`);
* the other alerts are those of the documented cases, told apart by their ids.
-/

namespace Fractura

open Db

/-! ## operations and runs -/

inductive Op where
  | cargar (year month limit : Int) (a : Archivo)
  | detectar (fuente : Option String)
  | cargarCasos (csv : Option (List FilaDict))
  | detectarCasos

section
variable (M : Motor)

/-- the store that an operation leaves -/
def Op.despues (s : Db) : Op → Db
  | cargar year month limit a =>
    (Prog.run (exec M) (loadChilecompraSlice M year month limit a) s).2
  | detectar fuente => (Prog.run (exec M) (runDetection M fuente) s).2
  | cargarCasos csv => (Prog.run (exec M) (loadCorrupcionChile M csv) s).2
  | detectarCasos => (Prog.run (exec M) (runDetectionCorrupcion M) s).2

inductive Alcanzable : Db → Prop where
  | vacio : Alcanzable .empty
  | paso (op : Op) {s : Db} (h : Alcanzable s) : Alcanzable (op.despues M s)

/-! ## the invariant -/

/-- the alert is, up to its moment, one that a query of `run_detection` calls for now -/
inductive Justificada (s : Db) (a : Alerta) (f : String) : Prop where
  | p1 (r : FilaP1) (rows : List FilaP1)
      (hq : filas M s (.p1 f (umbrales (s.contratosDe f).length).c1) = .ok rows) (hr : r ∈ rows)
      (h : a.sinHora = alertaP1 M f r)
  | p2 (r : FilaP2) (rows : List FilaP2)
      (hq : filas M s (.p2 f (umbrales (s.contratosDe f).length).c2
        (umbrales (s.contratosDe f).length).m2) = .ok rows) (hr : r ∈ rows)
      (h : a.sinHora = alertaP2 M f r)
  | p3 (r : FilaP3) (rows : List FilaP3)
      (hq : filas M s (.p3 f (umbrales (s.contratosDe f).length).o3) = .ok rows) (hr : r ∈ rows)
      (h : a.sinHora = alertaP3 M f r)

theorem justificada_iff {M : Motor} {s : Db} {a : Alerta} {f : String} :
    Justificada M s a f ↔ a.sinHora ∈ alertasReglas M f (s.unidos f) := by
  rw [mem_alertasReglas]
  refine ⟨fun h => ?_, fun h => ?_⟩
  · cases h with
    | p1 r rows hq hr h =>
      rw [umbrales_eq, filas_p1] at hq
      cases hq
      exact Or.inl ⟨r, hr, h⟩
    | p2 r rows hq hr h =>
      rw [umbrales_eq, filas_p2] at hq
      cases hq
      exact Or.inr (Or.inl ⟨r, hr, h⟩)
    | p3 r rows hq hr h =>
      rw [umbrales_eq, filas_p3] at hq
      cases hq
      exact Or.inr (Or.inr ⟨r, hr, h⟩)
  · rcases h with ⟨r, hr, h⟩ | ⟨r, hr, h⟩ | ⟨r, hr, h⟩
    · exact .p1 r _ (by rw [umbrales_eq, filas_p1]) hr h
    · exact .p2 r _ (by rw [umbrales_eq, filas_p2]) hr h
    · exact .p3 r _ (by rw [umbrales_eq, filas_p3]) hr h

/-- what the statements of a load keep -/
structure InvTablas (s : Db) : Prop where
  slice : ∀ c ∈ s.contrato.rows, ∃ year month, c.fuente = some (fuenteDe year month)
  padres : ∀ c ∈ s.contrato.rows,
    (∃ k, c.organismoId = some k) ∧ ∃ k, c.proveedorId = some k
  rut : ∀ e ∈ s.empresa.rows, ∀ x, e.rut = some x → strip x = e.id

structure Inv (s : Db) : Prop extends InvTablas s where
  regla : ∀ a ∈ s.alerta.rows, a.patron ≠ none → ∃ f, a.fuente = some f ∧ Justificada M s a f
  caso : ∀ a ∈ s.alerta.rows, a.patron = none → ∃ x, a.id = "alert_" ++ x

end

section
variable {M : Motor}

/-! ## a load -/

theorem InvTablas.exec {year month : Int} {q : Sentencia}
    (hq : DeCarga (fuenteDe year month) q) {s t : Db} {x : Resp q} (hs : InvTablas s)
    (h : exec M q s = .ok (x, t)) : InvTablas t := by
  have hap := exec_aporta hq h
  refine ⟨?_, ?_, ?_⟩
  · intro c hc
    rcases hap.contrato c hc with hc | ⟨r, k, rfl, -, rfl⟩
    · exact hs.slice c hc
    · cases hq with
      | insertContrato r hf ho hp => exact ⟨year, month, hf⟩
  · intro c hc
    rcases hap.contrato c hc with hc | ⟨r, k, rfl, -, rfl⟩
    · exact hs.padres c hc
    · cases hq with
      | insertContrato r hf ho hp => exact ⟨ho, hp⟩
  · intro e he y hy
    rcases hap.empresa e he with he | ⟨r, k, rfl, hk, rfl⟩
    · exact hs.rut e he y hy
    · cases hq with
      | insertEmpresa r hf hr =>
        have hid : r.toEmpresa.id = k := by simp [FilaEmp.toEmpresa, hk]
        rw [hid]
        exact hr k y hk hy

/-- a load only deletes alerts: either it did nothing yet, or those of its slice are gone -/
theorem load_alerta (year month limit : Int) (a : Archivo) (s : Db) :
    (Prog.run (exec M) (loadChilecompraSlice M year month limit a) s).2 = s ∨
    (Prog.run (exec M) (loadChilecompraSlice M year month limit a) s).2.alerta =
        s.alerta.filter (fun b => decide (b.fuente ≠ some (fuenteDe year month))) ∧
      (Prog.run (exec M) (loadChilecompraSlice M year month limit a) s).2.reloj = s.reloj := by
  unfold loadChilecompraSlice
  cases a with
  | ausente => exact Or.inl rfl
  | ilegible => exact Or.inl rfl
  | csv csv =>
    dsimp only
    cases hfr : frames M (fuenteDe year month) csv limit with
    | error e => exact Or.inl rfl
    | ok fr =>
      refine Or.inr ?_
      have hg := run_guardar (M := M) (frames_wf hfr) s
      simp only [Prog.bind_eq, Prog.run_bind]
      cases hr : Prog.run (exec M) (guardar (fuenteDe year month) fr) s with
      | mk res t =>
        rw [hr] at hg
        have ht : t.alerta = s.alerta.filter
              (fun b => decide (b.fuente ≠ some (fuenteDe year month))) ∧ t.reloj = s.reloj := by
          generalize htab : t.toTablas = tab at hg
          dsimp only at hg
          cases hg <;> exact ⟨rfl, rfl⟩
        cases res with
        | error e => exact ht
        | ok c => exact ht

theorem Inv.cargar {s : Db} (hs : Inv M s) (year month limit : Int) (a : Archivo) :
    Inv M (Prog.run (exec M) (loadChilecompraSlice M year month limit a) s).2 := by
  let t := (Prog.run (exec M) (loadChilecompraSlice M year month limit a) s).2
  have htab : InvTablas t :=
    Prog.run_keeps (exec M) (fun q s x t hq hs h => hs.exec hq h) (load_deCarga M _ _ _ _)
      hs.toInvTablas
  have haj := load_ajeno M year month limit a s
  rcases load_alerta (M := M) year month limit a s with ht | ⟨ht, -⟩
  · rw [ht]
    exact hs
  · refine ⟨htab, ?_, ?_⟩
    · intro b hb hp
      rw [ht] at hb
      obtain ⟨hb, hf⟩ := List.mem_filter.mp hb
      obtain ⟨f, hbf, hj⟩ := hs.regla b hb hp
      refine ⟨f, hbf, ?_⟩
      -- the alert is of another slice, whose joined rows are the same
      have hne : f ≠ fuenteDe year month := by
        intro e
        exact of_decide_eq_true hf (hbf.trans (by rw [e]))
      rw [justificada_iff] at hj ⊢
      rw [haj.unidos hne]
      exact hj
    · intro b hb hp
      rw [ht] at hb
      exact hs.caso b (List.mem_of_mem_filter hb) hp

/-! ## a detection -/

theorem Inv.soloAlertas {s t : Db} (hs : Inv M s) (h : SoloAlertas s t)
    (ha : ∀ a ∈ t.alerta.rows, a ∈ s.alerta.rows ∨
      (∃ f, ∃ b ∈ alertasReglas M f (s.unidos f), ∃ n, a = b.stamp n) ∨
      (a.patron = none ∧ ∃ x, a.id = "alert_" ++ x)) : Inv M t := by
  refine ⟨⟨?_, ?_, ?_⟩, ?_, ?_⟩
  · rw [h.contrato]; exact hs.slice
  · rw [h.contrato]; exact hs.padres
  · rw [h.empresa]; exact hs.rut
  · intro a hat hp
    rcases ha a hat with has | ⟨f, b, hb, n, rfl⟩ | ⟨hn, -⟩
    · obtain ⟨f, hf, hj⟩ := hs.regla a has hp
      refine ⟨f, hf, ?_⟩
      rw [justificada_iff] at hj ⊢
      rw [h.unidos]
      exact hj
    · obtain ⟨hf, -, hsin⟩ := alertasReglas_fuente hb
      refine ⟨f, hf, justificada_iff.mpr ?_⟩
      rw [h.unidos, Alerta.sinHora_stamp, hsin]
      exact hb
    · exact absurd hn hp
  · intro a hat hp
    rcases ha a hat with has | ⟨f, b, hb, n, rfl⟩ | ⟨-, hx⟩
    · exact hs.caso a has hp
    · exact absurd hp (alertasReglas_fuente hb).2.1
    · exact hx

theorem Inv.detectarUna {s : Db} (hs : Inv M s) (f : String) :
    Inv M (Prog.run (exec M) (Fractura.detectar M f) s).2 := by
  obtain ⟨hsolo, hrows⟩ := detectar_filas M f s
  refine hs.soloAlertas hsolo fun a ha => ?_
  rcases hrows a ha with ⟨h, -⟩ | ⟨b, hb, n, hn⟩
  · exact Or.inl h
  · exact Or.inr (Or.inl ⟨f, b, hb, n, hn⟩)

theorem Inv.detectar {s : Db} (hs : Inv M s) (o : Option String) :
    Inv M (Prog.run (exec M) (runDetection M o) s).2 :=
  run_runDetection_keeps M (fun f _ h => h.detectarUna f) o hs

/-! ## the documented cases -/

/-- the statements of `load_corrupcion_chile` -/
inductive DeCasos : Sentencia → Prop where
  | caso (r : FilaCaso) (n : Int) : DeCasos (.dml (.insertCaso r n))
  | entidad (e : Entidad) : DeCasos (.dml (.insertEntidad e))

theorem loadCorrupcion_deCasos (M : Motor) (csv : Option (List FilaDict)) :
    (loadCorrupcionChile M csv).All DeCasos := by
  cases csv with
  | none => trivial
  | some csv =>
    refine Prog.all_bind (Prog.all_each fun r _ => ?_) fun _ => ?_
    · unfold insertarCaso
      split
      · trivial
      · exact ejecutar_all (.caso _ _)
    · exact Prog.all_bind (Prog.all_each fun e _ => ejecutar_all (.entidad e)) fun _ => trivial

theorem DeCasos.tablas {q : Sentencia} (hq : DeCasos q) {s t : Db} {x : Resp q}
    (h : exec M q s = .ok (x, t)) : t.organismo = s.organismo ∧ t.empresa = s.empresa ∧
      t.contrato = s.contrato ∧ t.alerta = s.alerta ∧ t.reloj = s.reloj := by
  cases hq with
  | caso r n =>
    have ht := insertCaso_ok (exec_dml_ok h)
    exact ⟨by rw [ht], by rw [ht], by rw [ht], by rw [ht], by rw [ht]⟩
  | entidad e =>
    have ht := insertEntidad_ok (exec_dml_ok h)
    exact ⟨by rw [ht], by rw [ht], by rw [ht], by rw [ht], by rw [ht]⟩

theorem Inv.exec_casos {q : Sentencia} (hq : DeCasos q) {s t : Db} {x : Resp q} (hs : Inv M s)
    (h : exec M q s = .ok (x, t)) : Inv M t := by
  obtain ⟨-, hemp, hcon, hal, -⟩ := hq.tablas h
  refine ⟨⟨?_, ?_, ?_⟩, ?_, ?_⟩
  · rw [hcon]; exact hs.slice
  · rw [hcon]; exact hs.padres
  · rw [hemp]; exact hs.rut
  · intro a ha hp
    rw [hal] at ha
    obtain ⟨f, hf, hj⟩ := hs.regla a ha hp
    refine ⟨f, hf, ?_⟩
    rw [justificada_iff] at hj ⊢
    rw [unidos_congr_tablas hcon hemp]
    exact hj
  · rw [hal]
    exact hs.caso

theorem Inv.cargarCasos {s : Db} (hs : Inv M s) (csv : Option (List FilaDict)) :
    Inv M (Prog.run (exec M) (loadCorrupcionChile M csv) s).2 :=
  Prog.run_keeps (exec M) (fun _ _ _ _ hq hs h => hs.exec_casos hq h)
    (loadCorrupcion_deCasos M csv) hs

theorem mem_alertasCasos {casos : List Caso} {a : Alerta} (h : a ∈ alertasCasos M casos) :
    ∃ c ∈ casos, ∃ sev, a = alertaCaso c sev := by
  obtain ⟨c, hc, ha⟩ := List.mem_filterMap.mp h
  obtain ⟨sev, -, rfl⟩ := Option.map_eq_some_iff.mp ha
  exact ⟨c, hc, sev, rfl⟩

/-- the cases that the detection reads -/
def casosLeidos (M : Motor) (s : Db) : List Caso :=
  M.orden (s.caso.rows.filter fun c =>
    conTexto c.conclusion || conTexto c.estado || conTexto c.delitos)

theorem run_detectarCasos (s : Db) :
    (∃ t, Prog.run (exec M) (runDetectionCorrupcion M) s =
        (.ok (alertasCasos M (casosLeidos M s)), t) ∧
      Insertadas s (alertasCasos M (casosLeidos M s)) t) ∨
    ∃ pre a post t, alertasCasos M (casosLeidos M s) = pre ++ a :: post ∧
      Prog.run (exec M) (runDetectionCorrupcion M) s = (.error (.primaryKey .alerta), t) ∧
      Insertadas s pre t := by
  let l := alertasCasos M (casosLeidos M s)
  have hprog : Prog.run (exec M) (runDetectionCorrupcion M) s =
      Prog.run (exec M) ((insertarAlertas l).bind fun _ => .ret l) s := rfl
  rw [hprog]
  rcases run_insertarAlertas M l s with ⟨t, h, hins⟩ | ⟨pre, a, post, t, he, h, hins, -⟩
  · exact Or.inl ⟨t, Prog.run_bind_ok _ h, hins⟩
  · exact Or.inr ⟨pre, a, post, t, he, Prog.run_bind_error _ h, hins⟩

theorem run_detectarCasos_insertadas (s : Db) :
    ∃ l, (∀ b ∈ l, b ∈ alertasCasos M (casosLeidos M s)) ∧
      Insertadas s l (Prog.run (exec M) (runDetectionCorrupcion M) s).2 := by
  rcases run_detectarCasos (M := M) s with ⟨t, h, hins⟩ | ⟨pre, a, post, t, he, h, hins⟩
  · exact ⟨_, fun b hb => hb, by rw [h]; exact hins⟩
  · exact ⟨pre, fun b hb => he ▸ List.mem_append_left _ hb, by rw [h]; exact hins⟩

theorem Inv.detectarCasos {s : Db} (hs : Inv M s) :
    Inv M (Prog.run (exec M) (runDetectionCorrupcion M) s).2 := by
  obtain ⟨l, hl, hins⟩ := run_detectarCasos_insertadas (M := M) s
  refine hs.soloAlertas hins.soloAlertas fun a ha => ?_
  rw [hins.rows] at ha
  rcases List.mem_append.mp ha with ha | ha
  · exact Or.inl ha
  · obtain ⟨b, hb, n, rfl⟩ := mem_sellar ha
    obtain ⟨c, -, sev, rfl⟩ := mem_alertasCasos (hl b hb)
    exact Or.inr (Or.inr ⟨rfl, c.id ++ "_cc", String.append_assoc⟩)

/-! ## every run -/

theorem Inv.vacio : Inv M .empty := by
  refine ⟨⟨?_, ?_, ?_⟩, ?_, ?_⟩ <;> exact fun x hx => absurd hx (List.not_mem_nil)

/-- **One operation keeps the invariant.** -/
theorem Inv.paso {s : Db} (hs : Inv M s) (op : Op) : Inv M (op.despues M s) := by
  cases op with
  | cargar year month limit a => exact hs.cargar year month limit a
  | detectar fuente => exact hs.detectar fuente
  | cargarCasos csv => exact hs.cargarCasos csv
  | detectarCasos => exact hs.detectarCasos

/-- **Every reachable store satisfies the invariant.** -/
theorem inv_of_alcanzable {s : Db} (h : Alcanzable M s) : Inv M s := by
  induction h with
  | vacio => exact Inv.vacio
  | paso op _ ih => exact ih.paso op

theorem Alcanzable.cargada {year month limit : Int} {a : Archivo} {s t : Db}
    {res : Except Error ResultadoCarga} (hs : Alcanzable M s)
    (h : Prog.run (exec M) (loadChilecompraSlice M year month limit a) s = (res, t)) :
    Alcanzable M t := by
  have ht := Alcanzable.paso (.cargar year month limit a) hs
  unfold Op.despues at ht
  dsimp only at ht
  rw [h] at ht
  exact ht

theorem despues_tablas (s : Db) (op : Op) :
    (∃ year month limit a, op = .cargar year month limit a) ∨
    ((op.despues M s).organismo = s.organismo ∧ (op.despues M s).empresa = s.empresa ∧
      (op.despues M s).contrato = s.contrato) := by
  cases op with
  | cargar year month limit a => exact Or.inl ⟨year, month, limit, a, rfl⟩
  | detectar fuente =>
    have hsolo := runDetection_soloAlertas M fuente s
    exact Or.inr ⟨hsolo.organismo, hsolo.empresa, hsolo.contrato⟩
  | cargarCasos csv =>
    refine Or.inr ?_
    refine Prog.run_keeps (exec M) (I := fun t => t.organismo = s.organismo ∧
      t.empresa = s.empresa ∧ t.contrato = s.contrato) (fun q u x t hq hu ht => ?_)
      (loadCorrupcion_deCasos M csv) ⟨rfl, rfl, rfl⟩
    obtain ⟨h1, h2, h3, -⟩ := hq.tablas ht
    exact ⟨h1.trans hu.1, h2.trans hu.2.1, h3.trans hu.2.2⟩
  | detectarCasos =>
    obtain ⟨l, -, hins⟩ := run_detectarCasos_insertadas (M := M) s
    have hsolo := hins.soloAlertas
    exact Or.inr ⟨hsolo.organismo, hsolo.empresa, hsolo.contrato⟩

/-- **What the loads keep of the tables that they fill** holds at every reachable store: the other
operations leave these tables. -/
theorem Alcanzable.keeps {I : Db → Prop} {s : Db} (h : Alcanzable M s) (h0 : I .empty)
    (hI : ∀ s t : Db, t.organismo = s.organismo → t.empresa = s.empresa →
      t.contrato = s.contrato → I s → I t)
    (hload : ∀ year month limit a s, I s →
      I (Prog.run (exec M) (loadChilecompraSlice M year month limit a) s).2) : I s := by
  induction h with
  | vacio => exact h0
  | @paso op s h ih =>
    rcases despues_tablas (M := M) s op with ⟨year, month, limit, a, rfl⟩ | ⟨h1, h2, h3⟩
    · exact hload year month limit a s ih
    · exact hI s _ h1 h2 h3 ih

/-! ## no stale accusation -/

/-- **In every reachable store an alert of a rule is one that the rule still calls for**, on the
contracts and suppliers stored now. -/
theorem sin_acusacion_caduca {s : Db} (h : Alcanzable M s) {a : Alerta} (ha : a ∈ s.alerta.rows)
    (hp : a.patron ≠ none) : ∃ f, a.fuente = some f ∧ Justificada M s a f :=
  (inv_of_alcanzable h).regla a ha hp

end

/-- four orders of one supplier to one organism -/
def comprasRecurrentes : List FilaCsv :=
  ["1-OC", "2-OC", "3-OC", "4-OC"].map fun id => .orden id "1.000.000" "2024-05-01" "61-K" "76-K" "" "Acme"

/-- their slice, loaded and searched -/
def tiendaRecurrente : Db :=
  Op.despues motorConcreto (trasCarga 2024 5 comprasRecurrentes .empty) (.detectar none)

theorem tiendaRecurrente_alcanzable : Alcanzable motorConcreto tiendaRecurrente :=
  .paso (.detectar none) (.paso (.cargar 2024 5 0 (.csv comprasRecurrentes)) .vacio)

theorem sin_acusacion_caduca_recurrente :
    ∃ a ∈ tiendaRecurrente.alerta.rows, a.id = "p1_76-K_chilecompra_oc_2024-05" ∧
      ∃ f, a.fuente = some f ∧ Justificada motorConcreto tiendaRecurrente a f := by
  obtain ⟨a, ha, hid, hp⟩ : ∃ a ∈ tiendaRecurrente.alerta.rows,
      a.id = "p1_76-K_chilecompra_oc_2024-05" ∧ a.patron ≠ none := by decide +kernel
  exact ⟨a, ha, hid, sin_acusacion_caduca tiendaRecurrente_alcanzable ha hp⟩

end Fractura
