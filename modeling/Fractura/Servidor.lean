import Fractura.Casos
import Fractura.Paginas.Alertas
import Fractura.Paginas.Grafo
import Fractura.Paginas.Vecinos
import Fractura.Routers

/-!
# The backend as a server

`Peticion` are the requests of all routers that read or write the store: those of `Routers`, and the
two `POST /seed`.  `atiende` is the program that serves one.

* `peticiones_alcanzables`  one request after another, the store is always one of those that the four
                            operations reach, and the GETs between them leave no trace;
* `estados`                 the status of every GET at a store whose names are not empty.
-/

namespace Fractura

open Db

/-! ## requests -/

inductive Peticion where
  | de (r : Request)
  | seedChilecompra (year month limit : Int) (a : Archivo)
  | seed (csv : Option (List FilaDict))

inductive Contestacion where
  | respuesta (r : Respuesta)
  | seed (r : SeedResponse)
  deriving DecidableEq

section
variable (M : Motor)

/-- `POST /seed/chilecompra`: a dictionary with `error` becomes a 400 -/
def seedChilecompra (year month limit : Int) (a : Archivo) : Prg SeedResponse := do
  let result ← loadChilecompraSlice M year month limit a
  match result with
  | .error mensaje => .raise (.http 400 mensaje)
  | .ok c =>
    return { organismos := c.organismos, empresas := c.empresas, contratos := c.contratos,
             fuente := some c.fuente }

def atiende : Peticion → Prg Contestacion
  | .de r => do return .respuesta (← handler M r)
  | .seedChilecompra year month limit a => do
    return .seed (← seedChilecompra M year month limit a)
  | .seed csv => do return .seed (← Fractura.seed M csv)

/-- the store that a request leaves, answered or failed -/
def Peticion.despues (s : Db) (p : Peticion) : Db := (Prog.run (exec M) (atiende M p) s).2

/-- the bounds of `Query`, `ge=1, le=500` for the graph and `le=500` for the list, which FastAPI checks
before it calls a handler; a negative limit of the graph is refused like 0 -/
def Request.valida : Request → Bool
  | .graphChilecompra _ limit _ => decide (1 ≤ limit ∧ limit ≤ 500)
  | .alertsChilecompra _ _ limit => decide (limit ≤ 500)
  | _ => true

def Peticion.valida : Peticion → Bool
  | .de r => r.valida
  | _ => true

/-- the HTTP status of a request at a store -/
def Peticion.estado (s : Db) (p : Peticion) : Nat :=
  if p.valida then
    match (Prog.run (exec M) (atiende M p) s).1 with
    | .ok _ => 200
    | .error e => statusOf e
  else 422

end

/-! ## reading requests -/

/-- the requests of the GET routes -/
def Request.lee : Request → Bool
  | .detectChilecompra _ => false
  | _ => true

inductive EsConsulta : Sentencia → Prop where
  | mk (q : Consulta) : EsConsulta (.query q)

section
variable {M : Motor} {s : Db}

theorem conNodos_consulta (links : List FilaEnlace) : (conNodos links).All EsConsulta := by
  unfold conNodos fetchNodesBatch
  refine Prog.all_bind ?_ fun _ => trivial
  split
  · trivial
  · exact Prog.all_bind (consulta_all (.mk _)) fun _ => trivial

theorem graphChilecompra_consulta (nodeId : Option String) (limit : Nat) (fuente : Option String) :
    (graphChilecompra nodeId limit fuente).All EsConsulta := by
  unfold graphChilecompra graphGeneral
  split
  · refine Prog.all_bind (consulta_all (.mk _)) fun _ => Prog.all_bind (consulta_all (.mk _)) fun _ => ?_
    split
    · exact Prog.all_bind (consulta_all (.mk _)) fun _ => conNodos_consulta _
    · split
      · exact Prog.all_bind (consulta_all (.mk _)) fun _ => conNodos_consulta _
      · trivial
  · split <;> exact Prog.all_bind (consulta_all (.mk _)) fun _ => conNodos_consulta _

theorem vecinosDe_consulta (entityId tipo : String) : (vecinosDe entityId tipo).All EsConsulta := by
  unfold vecinosDe
  split
  · exact Prog.all_bind (consulta_all (.mk _)) fun _ => trivial
  · split
    · exact Prog.all_bind (consulta_all (.mk _)) fun _ => trivial
    · split
      · exact Prog.all_bind (consulta_all (.mk _)) fun _ =>
          Prog.all_bind (consulta_all (.mk _)) fun _ => trivial
      · trivial

theorem getEntity_consulta (entityId : String) : (getEntity entityId).All EsConsulta := by
  refine Prog.all_bind (consulta_all (.mk _)) fun rows => ?_
  cases rows with
  | nil => trivial
  | cons r rows =>
    refine Prog.all_bind (vecinosDe_consulta _ _) fun _ => ?_
    refine Prog.all_bind (consulta_all (.mk _)) fun _ => ?_
    cases r.nombre <;> trivial

/-- **A GET executes queries only.** -/
theorem handler_consulta {r : Request} (h : r.lee = true) : (handler M r).All EsConsulta := by
  cases r with
  | getAlerts => exact Prog.all_bind (consulta_all (.mk _)) fun _ => trivial
  | getAlertById id =>
    refine Prog.all_bind (Prog.all_bind (consulta_all (.mk _)) fun rows => ?_) fun _ => trivial
    cases rows <;> trivial
  | getEntity id => exact Prog.all_bind (getEntity_consulta id) fun _ => trivial
  | graphChilecompra nodeId limit fuente =>
    exact Prog.all_bind (graphChilecompra_consulta nodeId limit fuente) fun _ => trivial
  | alertsChilecompra patron fuente limit =>
    exact Prog.all_bind (Prog.all_bind (consulta_all (.mk _)) fun _ => trivial) fun _ => trivial
  | detectChilecompra fuente => cases h

theorem run_consultas {α : Type} {p : Prg α} (h : p.All EsConsulta) (s : Db) :
    (Prog.run (exec M) p s).2 = s := by
  refine Prog.run_keeps (exec M) (I := fun t => t = s) (fun q t r u hq ht hx => ?_) h rfl
  cases hq with
  | mk q => rw [(exec_query_ok hx).1, ht]

/-! ## one request after another -/

theorem run_map_snd {α β : Type} (p : Prg α) (g : α → β) (s : Db) :
    (Prog.run (exec M) (p.bind fun a => .ret (g a)) s).2 = (Prog.run (exec M) p s).2 := by
  rw [Prog.run_bind]
  cases Prog.run (exec M) p s with
  | mk res t => cases res <;> rfl

theorem Peticion.despues_lee {r : Request} (h : r.lee = true) (s : Db) :
    (Peticion.de r).despues M s = s :=
  (run_map_snd _ _ s).trans (run_consultas (handler_consulta h) s)

theorem peticion_alcanzable (h : Alcanzable M s) (p : Peticion) : Alcanzable M (p.despues M s) := by
  cases p with
  | de r =>
    by_cases hr : r.lee = true
    · rw [Peticion.despues_lee hr]
      exact h
    · cases r with
      | detectChilecompra o =>
        have hdet : (Peticion.de (.detectChilecompra o)).despues M s =
            (Prog.run (exec M) (runDetection M o) s).2 :=
          (run_map_snd _ _ s).trans (run_map_snd _ _ s)
        rw [hdet]
        exact .paso (.detectar o) h
      | _ => exact absurd rfl hr
  | seedChilecompra year month limit a =>
    have hstore : (Peticion.seedChilecompra year month limit a).despues M s =
        (Prog.run (exec M) (seedChilecompra M year month limit a) s).2 := run_map_snd _ _ s
    have hload : (Prog.run (exec M) (seedChilecompra M year month limit a) s).2 =
        (Prog.run (exec M) (loadChilecompraSlice M year month limit a) s).2 := by
      unfold seedChilecompra
      simp only [Prog.bind_eq]
      rw [Prog.run_bind]
      cases Prog.run (exec M) (loadChilecompraSlice M year month limit a) s with
      | mk res t =>
        cases res with
        | error e => rfl
        | ok r => cases r <;> rfl
    rw [hstore, hload]
    exact .paso (.cargar year month limit a) h
  | seed csv =>
    have hstore : (Peticion.seed csv).despues M s =
        (Prog.run (exec M) (Fractura.seed M csv) s).2 := run_map_snd _ _ s
    rw [hstore]
    unfold Fractura.seed
    simp only [Prog.bind_eq]
    rw [Prog.run_bind]
    have h1 := Alcanzable.paso (.cargarCasos csv) h
    unfold Op.despues at h1
    dsimp only at h1
    cases hr : Prog.run (exec M) (loadCorrupcionChile M csv) s with
    | mk res t =>
      rw [hr] at h1
      cases res with
      | error e => exact h1
      | ok r =>
        have h2 := Alcanzable.paso .detectarCasos h1
        show Alcanzable M (Prog.run (exec M) ((runDetectionCorrupcion M).bind fun alertas =>
          .ret _) t).2
        rw [run_map_snd]
        exact h2

/-- the requests that write -/
def Peticion.escribe : Peticion → Bool
  | .de r => !r.lee
  | _ => true

theorem Peticion.despues_eq_self {p : Peticion} (h : p.escribe = false) (s : Db) :
    p.despues M s = s := by
  cases p with
  | de r => exact Peticion.despues_lee (by simpa [Peticion.escribe] using h) s
  | seedChilecompra => cases h
  | seed => cases h

/-- **One request after another**: the store is reachable by the operations of the loaders, and it is
the one that the requests which write leave alone. -/
theorem peticiones_alcanzables (ps : List Peticion) (h : Alcanzable M s) :
    Alcanzable M (ps.foldl (fun s p => p.despues M s) s) ∧
    ps.foldl (fun s p => p.despues M s) s =
      (ps.filter Peticion.escribe).foldl (fun s p => p.despues M s) s := by
  induction ps generalizing s with
  | nil => exact ⟨h, rfl⟩
  | cons p ps ih =>
    obtain ⟨hreach, heq⟩ := ih (peticion_alcanzable h p)
    refine ⟨hreach, ?_⟩
    rw [List.foldl_cons, heq]
    by_cases hp : p.escribe = true
    · rw [List.filter_cons_of_pos hp]
      rfl
    · rw [List.filter_cons_of_neg hp, Peticion.despues_eq_self (Bool.eq_false_iff.mpr hp)]

/-! ## the status of a GET -/

theorem estado_valida {p : Peticion} (h : p.valida = true) : p.estado M s =
    (match (Prog.run (exec M) (atiende M p) s).1 with
      | .ok _ => 200
      | .error e => statusOf e) := if_pos h

theorem estado_invalida {p : Peticion} (h : p.valida = false) : p.estado M s = 422 :=
  if_neg (Bool.eq_false_iff.mp h)

theorem estado_ok {α : Type} {p : Prg α} {g : α → Contestacion} {a : α} {t : Db}
    (h : Prog.run (exec M) p s = (.ok a, t)) :
    (match (Prog.run (exec M) (p.bind fun a => .ret (g a)) s).1 with
      | .ok _ => 200
      | .error e => statusOf e) = 200 := by
  rw [Prog.run_bind_ok _ h]
  rfl

theorem estado_error {α : Type} {p : Prg α} {g : α → Contestacion} {e : Error} {t : Db}
    (h : Prog.run (exec M) p s = (.error e, t)) :
    (match (Prog.run (exec M) (p.bind fun a => .ret (g a)) s).1 with
      | .ok _ => 200
      | .error e => statusOf e) = statusOf e := by
  rw [Prog.run_bind_error _ h]

theorem leer_key {ρ : Type} {key : ρ → String} (t : KeyTable ρ String key) (x : String) :
    (t.rows.filter fun r => decide (key r = x)).take 1 = (t.find x).toList := by
  rw [KeyTable.filter_key]
  cases t.find x <;> rfl

theorem run_getAlertById (id : String) : Prog.run (exec M) (getAlertById id) s =
    (match s.alerta.find id with
      | some a => .ok a
      | none => .error (.http 404 "Alerta no encontrada"), s) := by
  have h1 := run_consulta (M := M) (s := s) (q := .alertaPorId id) rfl
  rw [show leer (.alertaPorId id) (s.alerta.rows.filter fun a => decide (a.id = id)) =
    (s.alerta.find id).toList from leer_key s.alerta id] at h1
  refine (Prog.run_bind_ok _ h1).trans ?_
  cases s.alerta.find id <;> rfl

theorem filaEntidad_ausente {x : String}
    (h : ¬ (x ∈ s.organismo.keys ∨ x ∈ s.empresa.keys ∨ x ∈ s.contrato.keys)) :
    filaEntidad s x = none := by
  obtain ⟨ho, he, hc⟩ := not_or.mp h |>.imp_right not_or.mp
  unfold filaEntidad
  rw [KeyTable.find_eq_none.mpr ho, KeyTable.find_eq_none.mpr he, KeyTable.find_eq_none.mpr hc]
  rfl

theorem run_getEntity_ausente {x : String} (h : filaEntidad s x = none) :
    Prog.run (exec M) (getEntity x) s = (.error (.http 404 "Entity not found"), s) := by
  obtain ⟨rows, hf, hl⟩ := filas_entidad M s x
  have h1 := run_consulta hf
  rw [hl, h] at h1
  exact Prog.run_bind_ok _ h1

theorem getEntity_ok (hs : ConTextos s) {x : String} {e : EntityResponse} {t : Db}
    (h : Prog.run (exec M) (getEntity x) s = (.ok e, t)) :
    e.id = x ∧ (x ∈ s.organismo.keys ∨ x ∈ s.empresa.keys ∨ x ∈ s.contrato.keys) := by
  by_cases hx : x ∈ s.organismo.keys ∨ x ∈ s.empresa.keys ∨ x ∈ s.contrato.keys
  · obtain ⟨fila, hf⟩ := exists_filaNodo hx
    obtain ⟨r, hr, hid, -⟩ := exists_pagina (M := M) hs hf
    rw [hr] at h
    cases h
    exact ⟨hid, hx⟩
  · rw [run_getEntity_ausente (filaEntidad_ausente hx)] at h
    cases h

theorem donde_eq_none (s : Db) (nodeId fuente : Option String) : donde s nodeId fuente = none ↔
    conTexto nodeId = true ∧
      ¬ (nodeId.getD "" ∈ s.organismo.keys ∨ nodeId.getD "" ∈ s.empresa.keys) := by
  unfold donde
  by_cases hid : conTexto nodeId = true
  · rw [if_pos hid]
    by_cases ho : nodeId.getD "" ∈ s.organismo.keys
    · simp [ho]
    · by_cases he : nodeId.getD "" ∈ s.empresa.keys <;> simp [hid, ho, he]
  · rw [if_neg hid]
    by_cases hf : conTexto fuente = true <;> simp [hid, hf]

theorem estados (hs : ConTextos s) :
    (Peticion.de .getAlerts).estado M s = 200 ∧
    (∀ id, (Peticion.de (.getAlertById id)).estado M s =
      if id ∈ s.alerta.keys then 200 else 404) ∧
    (∀ x, (Peticion.de (.getEntity x)).estado M s =
      if x ∈ s.organismo.keys ∨ x ∈ s.empresa.keys ∨ x ∈ s.contrato.keys then 200 else 404) ∧
    (∀ nodeId limit fuente, (Peticion.de (.graphChilecompra nodeId limit fuente)).estado M s =
      if ¬ (1 ≤ limit ∧ limit ≤ 500) then 422
      else if conTexto nodeId = true ∧
        ¬ (nodeId.getD "" ∈ s.organismo.keys ∨ nodeId.getD "" ∈ s.empresa.keys)
      then 404 else 200) ∧
    ∀ patron fuente limit, (Peticion.de (.alertsChilecompra patron fuente limit)).estado M s =
      if 500 < limit then 422 else if limit < 0 then 500 else 200 := by
  refine ⟨rfl, fun id => ?_, fun x => ?_, fun nodeId limit fuente => ?_,
    fun patron fuente limit => ?_⟩
  · have hrun := run_getAlertById (M := M) (s := s) id
    cases hfind : s.alerta.find id with
    | none =>
      rw [hfind] at hrun
      rw [if_neg (KeyTable.find_eq_none.mp hfind)]
      exact estado_error (Prog.run_bind_error (exec M) hrun)
    | some a =>
      rw [hfind] at hrun
      have hmem := (KeyTable.find_eq_some.mp hfind)
      rw [if_pos (hmem.2 ▸ KeyTable.key_mem hmem.1)]
      exact estado_ok (Prog.run_bind_ok (exec M) hrun)
  · by_cases hx : x ∈ s.organismo.keys ∨ x ∈ s.empresa.keys ∨ x ∈ s.contrato.keys
    · rw [if_pos hx]
      obtain ⟨f, hf⟩ := exists_filaNodo hx
      obtain ⟨r, hr, -⟩ := exists_pagina (M := M) hs hf
      exact estado_ok (Prog.run_bind_ok (exec M) hr)
    · rw [if_neg hx]
      exact estado_error (Prog.run_bind_error (exec M)
        (run_getEntity_ausente (filaEntidad_ausente hx)))
  · have hrun := run_graphChilecompra (M := M) (s := s) nodeId limit fuente
    have hdonde := donde_eq_none s nodeId fuente
    by_cases hl : 1 ≤ limit ∧ limit ≤ 500
    swap
    · rw [if_pos hl]
      exact estado_invalida (decide_eq_false hl)
    have hv : (Peticion.de (.graphChilecompra nodeId limit fuente)).valida = true :=
      decide_eq_true hl
    rw [if_neg (not_not_intro hl), estado_valida hv]
    by_cases hn : donde s nodeId fuente = none
    · rw [if_pos (hdonde.mp hn)]
      rw [hn] at hrun
      exact estado_error (Prog.run_bind_error (exec M) hrun)
    · rw [if_neg (mt hdonde.mpr hn)]
      obtain ⟨p, hp⟩ := Option.ne_none_iff_exists'.mp hn
      rw [hp] at hrun
      exact estado_ok (Prog.run_bind_ok (exec M) hrun)
  · rcases lt_or_ge 500 limit with h500 | h500
    · rw [if_pos h500]
      exact estado_invalida (decide_eq_false (not_le.mpr h500))
    have hv : (Peticion.de (.alertsChilecompra patron fuente limit)).valida = true :=
      decide_eq_true h500
    rw [if_neg (not_lt.mpr h500), estado_valida hv]
    rcases lt_or_ge limit 0 with hl | hl
    · rw [if_pos hl]
      have hq : filas M s (.alertasChile patron fuente limit) = .error .negativeLimit := if_pos hl
      exact estado_error (Prog.run_bind_error (exec M) (Prog.run_bind_error (exec M)
        (run_consulta_error hq)))
    · rw [if_neg (not_lt.mpr hl)]
      obtain ⟨n, rfl⟩ := Int.eq_ofNat_of_zero_le hl
      obtain ⟨rows, hr, -⟩ := run_alertsChilecompra (M := M) (s := s) patron fuente n
      have hserved : Prog.run (exec M) (handler M (.alertsChilecompra patron fuente n)) s =
          (.ok (.alertasChile rows rows.length), s) := Prog.run_bind_ok (exec M) hr
      exact estado_ok (g := .respuesta) hserved

end

theorem peticiones_alcanzables_recurrente :
    Alcanzable motorConcreto (([.de (.detectChilecompra none), .de .getAlerts] : List Peticion).foldl
      (fun s p => p.despues motorConcreto s) tiendaRecurrente) :=
  (peticiones_alcanzables _ tiendaRecurrente_alcanzable).1

end Fractura
