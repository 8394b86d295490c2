import Fractura.Chilecompra.Redeteccion

/-!
# Seeding the documented cases

`POST /seed` runs `load_corrupcion_chile` and `run_detection_corrupcion` (`seed`).  The loader
inserts the cases one by one, with ids that count the rows of the file.

* `run_casos`             the loop ends, or stops at the first row that is rejected (`Rechazada`);
                          the cases before it stay;
* `entidadesDe_nil`       no entity is ever inserted: its three columns are looked up in the
                          re-keyed row, which does not have them;
* `carga_casos_fallida`   what a load that raises leaves;
* `partes_iff`            every party named in a file becomes an entity exactly when it names none;
* `seed_repetible_iff`    a file can be seeded twice exactly when it has no rows.
-/

namespace Fractura

open Db

/-! ## `routers/seed.py` -/

structure SeedResponse where
  organismos : Nat := 0
  empresas : Nat := 0
  entidades : Nat := 0
  contratos : Nat := 0
  casos : Nat := 0
  alertas : Nat := 0
  filasProcesadas : Nat := 0
  fuente : Option String := none
  deriving DecidableEq

def seed (M : Motor) (csv : Option (List FilaDict)) : Prg SeedResponse := do
  let (casos, entidades) ← loadCorrupcionChile M csv
  let alertas ← runDetectionCorrupcion M
  return { casos := casos, entidades := entidades, alertas := alertas.length }

/-! ## one case -/

/-- the row of `caso` that a row of the file becomes -/
def Db.FilaCaso.toCaso (r : FilaCaso) (monto : Int) : Caso :=
  ⟨r.id, r.nombre.getD "", some (toString monto), r.ano, r.anoInicio, r.anoFin, r.sector, r.partido,
    r.comuna, r.posicion, r.actual, r.delitos, r.estado, r.sentence, r.condemna, r.conclusion,
    r.fuente1, r.fuente2, r.fuente3, r.fuente4, r.fuente5, r.fuente⟩

/-- why the insertion of a row raises at a store -/
inductive Rechazada (M : Motor) (t : Db) (r : FilaCaso) : Error → Prop where
  | monto (h : montoInt M r = none) : Rechazada M t r .valueError
  | grande (n : Int) (h : montoInt M r = some n) (h128 : int128 n = false) :
    Rechazada M t r .conversion
  | anos (h : ¬ (int32 r.ano ∧ int32 r.anoInicio ∧ int32 r.anoFin)) : Rechazada M t r .conversion
  | nombre (h : r.nombre = none) : Rechazada M t r (.notNull .caso)
  | id (h : r.id ∈ t.caso.keys) : Rechazada M t r (.primaryKey .caso)

section
variable {M : Motor} {s t : Db}

def casosDe (M : Motor) (l : List FilaCaso) : List Caso :=
  l.map fun r => r.toCaso ((montoInt M r).getD 0)

/-- `t` is `s` with the cases of the rows `l` inserted -/
structure CasosInsertados (M : Motor) (s : Db) (l : List FilaCaso) (t : Db) : Prop where
  rows : t.caso.rows = s.caso.rows ++ casosDe M l
  resto : t.toTablas = { s.toTablas with caso := t.caso }

namespace CasosInsertados

theorem refl (s : Db) : CasosInsertados M s [] s := ⟨(List.append_nil _).symm, rfl⟩

theorem trans {s t u : Db} {l l' : List FilaCaso} (h : CasosInsertados M s l t)
    (h' : CasosInsertados M t l' u) : CasosInsertados M s (l ++ l') u := by
  refine ⟨?_, ?_⟩
  · rw [h'.rows, h.rows, casosDe, casosDe, casosDe, List.map_append, List.append_assoc]
  · rw [h'.resto, h.resto]

theorem keys {l : List FilaCaso} (h : CasosInsertados M s l t) :
    t.caso.keys = s.caso.keys ++ l.map FilaCaso.id := by
  unfold KeyTable.keys
  rw [h.rows, List.map_append, casosDe, List.map_map]
  rfl

theorem entidad {l : List FilaCaso} (h : CasosInsertados M s l t) : t.entidad = s.entidad := by
  rw [h.resto]

end CasosInsertados

/-- **One row**: it is inserted, or it is rejected and nothing changes. -/
theorem run_insertarCaso (r : FilaCaso) (s : Db) :
    (∃ t, Prog.run (exec M) (insertarCaso M r) s = (.ok (), t) ∧ CasosInsertados M s [r] t) ∨
    ∃ e, Prog.run (exec M) (insertarCaso M r) s = (.error e, s) ∧ Rechazada M s r e := by
  unfold insertarCaso
  cases hm : montoInt M r with
  | none => exact Or.inr ⟨_, rfl, .monto hm⟩
  | some n =>
    dsimp only
    by_cases ha : int128 n ∧ int32 r.ano ∧ int32 r.anoInicio ∧ int32 r.anoFin
    · cases hn : r.nombre with
      | none =>
        refine Or.inr ⟨_, run_ejecutar_error (d := .insertCaso r n) ?_, .nombre hn⟩
        show s.insertCaso r n = _
        unfold insertCaso
        rw [if_neg (not_not_intro ha), hn]
      | some nombre =>
        have hid : r.toCaso n = ⟨r.id, nombre, some (toString n), r.ano, r.anoInicio, r.anoFin,
            r.sector, r.partido, r.comuna, r.posicion, r.actual, r.delitos, r.estado, r.sentence,
            r.condemna, r.conclusion, r.fuente1, r.fuente2, r.fuente3, r.fuente4, r.fuente5,
            r.fuente⟩ := by
          simp [FilaCaso.toCaso, hn]
        by_cases hk : r.id ∈ s.caso.keys
        · refine Or.inr ⟨_, run_ejecutar_error (d := .insertCaso r n) ?_, .id hk⟩
          show s.insertCaso r n = _
          unfold insertCaso
          rw [if_neg (not_not_intro ha), hn]
          exact dif_pos hk
        · refine Or.inl ⟨{ s with caso := s.caso.push (r.toCaso n) hk },
            run_ejecutar (d := .insertCaso r n) ?_, ?_, rfl⟩
          · show s.insertCaso r n = _
            unfold insertCaso
            rw [if_neg (not_not_intro ha), hn]
            simp only [hid]
            exact dif_neg hk
          · show s.caso.rows ++ [r.toCaso n] = s.caso.rows ++ casosDe M [r]
            simp [casosDe, hm]
    · have hrech : Rechazada M s r .conversion := by
        by_cases h128 : int128 n = true
        · exact .anos fun h => ha ⟨h128, h⟩
        · exact .grande n hm (Bool.eq_false_iff.mpr h128)
      refine Or.inr ⟨_, run_ejecutar_error (d := .insertCaso r n) ?_, hrech⟩
      show s.insertCaso r n = _
      unfold insertCaso
      rw [if_pos ha]

/-- **The loop over the rows**: all of them, or those before the first one that is rejected. -/
theorem run_casos (l : List FilaCaso) (s : Db) :
    (∃ t, Prog.run (exec M) (Prog.each l (insertarCaso M)) s = (.ok (), t) ∧
      CasosInsertados M s l t) ∨
    ∃ pre r post e t, l = pre ++ r :: post ∧
      Prog.run (exec M) (Prog.each l (insertarCaso M)) s = (.error e, t) ∧
      CasosInsertados M s pre t ∧ Rechazada M t r e := by
  induction l generalizing s with
  | nil => exact Or.inl ⟨s, rfl, .refl s⟩
  | cons r l ih =>
    rw [Prog.each_cons]
    rcases run_insertarCaso (M := M) r s with ⟨s1, h1, hins⟩ | ⟨e, h1, hr⟩
    · rw [Prog.run_bind_ok _ h1]
      rcases ih s1 with ⟨t, ht, hrest⟩ | ⟨pre, r', post, e, t, rfl, ht, hrest, hr⟩
      · exact Or.inl ⟨t, ht, hins.trans hrest⟩
      · exact Or.inr ⟨r :: pre, r', post, e, t, rfl, ht, hins.trans hrest, hr⟩
    · exact Or.inr ⟨[], r, l, e, s, rfl, Prog.run_bind_error _ h1, .refl s, hr⟩

/-! ## the loader -/

/-- **No entity is found**: the re-keyed row has none of the three columns. -/
theorem entidadesDe_nil (r : FilaCaso) : entidadesDe M r = [] := by
  unfold entidadesDe PARTES
  rw [List.filterMap_eq_nil_iff]
  intro field hf
  have hget : (campos r).get field = none := by
    unfold FilaDict.get campos
    simp only [List.mem_cons, List.not_mem_nil, or_false] at hf
    rcases hf with rfl | rfl | rfl <;> simp
  rw [hget]
  rfl

/-- **The load of a file**: all of its cases and no entity, or the cases before the first row that
is rejected. -/
theorem run_loadCasos (csv : List FilaDict) (s : Db) :
    (∃ t, Prog.run (exec M) (loadCorrupcionChile M (some csv)) s = (.ok (csv.length, 0), t) ∧
      CasosInsertados M s (csv.mapIdx (filaCaso M)) t) ∨
    ∃ pre r post e t, csv.mapIdx (filaCaso M) = pre ++ r :: post ∧
      Prog.run (exec M) (loadCorrupcionChile M (some csv)) s = (.error e, t) ∧
      CasosInsertados M s pre t ∧ Rechazada M t r e := by
  have hent : (csv.mapIdx (filaCaso M)).flatMap (entidadesDe M) = [] :=
    List.flatMap_eq_nil_iff.mpr fun r _ => entidadesDe_nil r
  have hload : loadCorrupcionChile M (some csv) =
      (Prog.each (csv.mapIdx (filaCaso M)) (insertarCaso M)).bind
        fun _ => .ret (csv.length, 0) := by
    unfold loadCorrupcionChile
    simp only [hent, List.length_mapIdx]
    rfl
  rw [hload]
  rcases run_casos (M := M) (csv.mapIdx (filaCaso M)) s with
    ⟨t, ht, hins⟩ | ⟨pre, r, post, e, t, hl, ht, hins, hr⟩
  · exact Or.inl ⟨t, Prog.run_bind_ok _ ht, hins⟩
  · exact Or.inr ⟨pre, r, post, e, t, hl, Prog.run_bind_error _ ht, hins, hr⟩

/-- **A load that raises** has not opened its file, or it leaves the cases of the rows before the
rejected one and changes nothing else. -/
theorem carga_casos_fallida {csv : Option (List FilaDict)} {e : Error}
    (h : Prog.run (exec M) (loadCorrupcionChile M csv) s = (.error e, t)) :
    (csv = none ∧ t = s ∧ e = .readError) ∨
    ∃ filas pre r post, csv = some filas ∧ filas.mapIdx (filaCaso M) = pre ++ r :: post ∧
      CasosInsertados M s pre t ∧ Rechazada M t r e := by
  cases csv with
  | none =>
    cases h
    exact Or.inl ⟨rfl, rfl, rfl⟩
  | some csv =>
    refine Or.inr ?_
    rcases run_loadCasos (M := M) csv s with
      ⟨t', ht, -⟩ | ⟨pre, r, post, e', t', hl, ht, hins, hr⟩
    · rw [h] at ht
      cases ht
    · rw [h] at ht
      cases ht
      exact ⟨csv, pre, r, post, rfl, hl, hins, hr⟩

/-! ## seeding -/

theorem Insertadas.caso {l : List Alerta} (h : Insertadas s l t) : t.caso = s.caso := by
  rw [h.resto]

theorem Insertadas.entidad {l : List Alerta} (h : Insertadas s l t) : t.entidad = s.entidad := by
  rw [h.resto]

theorem run_seed_ok {csv : List FilaDict} {r : SeedResponse}
    (h : Prog.run (exec M) (seed M (some csv)) s = (.ok r, t)) :
    ∃ u, CasosInsertados M s (csv.mapIdx (filaCaso M)) u ∧ t.caso = u.caso ∧
      t.entidad = u.entidad := by
  obtain ⟨⟨casos, entidades⟩, u, hu, h⟩ := Prog.run_bind_inv _ h
  obtain ⟨alertas, v, hv, h⟩ := Prog.run_bind_inv _ h
  cases h
  rcases run_loadCasos (M := M) csv s with ⟨u', hu', hins⟩ | ⟨pre, r, post, e, u', -, hu', -, -⟩
  case inr =>
    rw [hu] at hu'
    cases hu'
  rw [hu] at hu'
  cases hu'
  rcases run_detectarCasos (M := M) u with ⟨v', hv', hal⟩ | ⟨pre, a, post, v', -, hv', -⟩
  case inr =>
    rw [hv] at hv'
    cases hv'
  rw [hv] at hv'
  cases hv'
  exact ⟨u, hins, hal.caso, hal.entidad⟩

theorem run_seed_vacia : Prog.run (exec M) (seed M (some [])) .empty = (.ok {}, .empty) := by
  have hnil : casosLeidos M .empty = [] := List.perm_nil.mp (M.orden_perm [])
  have hdet : Prog.run (exec M) (runDetectionCorrupcion M) .empty = (.ok [], .empty) := by
    show Prog.run (exec M) ((insertarAlertas (alertasCasos M (casosLeidos M .empty))).bind
      fun _ => .ret (alertasCasos M (casosLeidos M .empty))) .empty = _
    rw [hnil]
    rfl
  have hload : Prog.run (exec M) (loadCorrupcionChile M (some [])) .empty = (.ok (0, 0), .empty) :=
    rfl
  unfold seed
  simp only [Prog.bind_eq]
  rw [Prog.run_bind_ok _ hload, Prog.run_bind_ok _ hdet]
  rfl

/-- **A file that has been seeded can be seeded again exactly when it has no rows.** -/
theorem seed_repetible_iff {csv : List FilaDict} {r : SeedResponse}
    (h : Prog.run (exec M) (seed M (some csv)) .empty = (.ok r, t)) :
    (∃ u, Prog.run (exec M) (seed M (some csv)) t = (.ok r, u) ∧
      MismasFilas t.caso.rows u.caso.rows ∧ MismasFilas t.entidad.rows u.entidad.rows ∧
      MismasFilas t.sinHoras u.sinHoras) ↔ csv = [] := by
  refine ⟨fun hu => ?_, fun hcsv => ?_⟩
  · obtain ⟨u, hu, -, -, -⟩ := hu
    obtain ⟨t1, ht1, htc, -⟩ := run_seed_ok h
    obtain ⟨u1, hu1, -, -⟩ := run_seed_ok hu
    -- the ids of the second pass meet those of the first one in the key
    have hkeys : u1.caso.keys = t.caso.keys ++ (csv.mapIdx (filaCaso M)).map FilaCaso.id := hu1.keys
    have hold : (csv.mapIdx (filaCaso M)).map FilaCaso.id = t.caso.keys := by
      rw [htc, ht1.keys]
      rfl
    have hnd : (t.caso.keys ++ t.caso.keys).Nodup := by
      rw [hold] at hkeys
      rw [← hkeys]
      exact u1.caso.nodup
    have hnil : t.caso.keys = [] := by
      rw [List.eq_nil_iff_forall_not_mem]
      intro k hk
      exact (List.nodup_append.mp hnd).2.2 k hk k hk rfl
    rw [← hold, List.map_eq_nil_iff] at hnil
    simpa using congrArg List.length hnil
  · subst hcsv
    rw [run_seed_vacia] at h
    cases h
    exact ⟨.empty, run_seed_vacia, ⟨fun _ hx => hx, fun _ hx => hx⟩,
      ⟨fun _ hx => hx, fun _ hx => hx⟩, fun _ hx => hx, fun _ hx => hx⟩

/-! ## the parties of the cases -/

/-- a cell of one of the three columns with a name in it -/
structure Parte where
  casoId : String
  field : String
  name : String

/-- the parties that the rows of a file name -/
def partes (M : Motor) (csv : List FilaDict) : List Parte :=
  (csv.mapIdx fun i r => PARTES.filterMap fun field =>
    (limpio (r.get field)).map fun name => ⟨(filaCaso M i r).id, field, name⟩).flatten

/-- the entity is the one of the party -/
def Parte.esDe (p : Parte) (e : Entidad) : Prop :=
  e.nombre = p.name ∧ e.tipo = some p.field ∧ e.source = some ("corrupcion_chile:" ++ p.casoId)

/-- what a load leaves holds every party of the file, once -/
structure ConPartes (M : Motor) (csv : List FilaDict) (res : Except Error (Nat × Nat)) (t : Db) :
    Prop where
  una : ∀ p ∈ partes M csv, ∃! e, e ∈ t.entidad.rows ∧ p.esDe e
  cuantas : ∀ casos entidades, res = .ok (casos, entidades) → entidades = (partes M csv).length
  sinChoque : res ≠ .error (.primaryKey .entidad)

theorem partes_nil {csv : List FilaDict} :
    partes M csv = [] ↔ ∀ r ∈ csv, ∀ field ∈ PARTES, limpio (r.get field) = none := by
  unfold partes
  rw [List.flatten_eq_nil_iff]
  refine ⟨fun h r hr field hf => ?_, fun h l hl => ?_⟩
  · obtain ⟨i, hi, rfl⟩ := List.mem_iff_getElem.mp hr
    have hnil := h _ (List.mem_mapIdx.mpr ⟨i, hi, rfl⟩)
    exact Option.map_eq_none_iff.mp (List.filterMap_eq_nil_iff.mp hnil field hf)
  · obtain ⟨i, hi, rfl⟩ := List.mem_mapIdx.mp hl
    refine List.filterMap_eq_nil_iff.mpr fun field hf => Option.map_eq_none_iff.mpr ?_
    exact h _ (List.getElem_mem hi) field hf

theorem carga_casos_entidad (csv : List FilaDict) (s : Db) :
    (Prog.run (exec M) (loadCorrupcionChile M (some csv)) s).2.entidad = s.entidad := by
  rcases run_loadCasos (M := M) csv s with ⟨t, ht, hins⟩ | ⟨pre, r, post, e, t, -, ht, hins, -⟩
  · rw [ht]
    exact hins.entidad
  · rw [ht]
    exact hins.entidad

theorem carga_casos_sinChoque (csv : List FilaDict) (s : Db) :
    (Prog.run (exec M) (loadCorrupcionChile M (some csv)) s).1 ≠
      .error (.primaryKey .entidad) := by
  rcases run_loadCasos (M := M) csv s with ⟨t, ht, -⟩ | ⟨pre, r, post, e, t, -, ht, -, hr⟩
  · rw [ht]
    exact fun h => by cases h
  · rw [ht]
    intro h
    obtain rfl : e = .primaryKey .entidad := Except.error.inj h
    cases hr

/-- **When every party of a file becomes an entity**: no row names one. -/
theorem partes_iff (csv : List FilaDict) (hs : s.entidad.rows = []) :
    ConPartes M csv (Prog.run (exec M) (loadCorrupcionChile M (some csv)) s).1
        (Prog.run (exec M) (loadCorrupcionChile M (some csv)) s).2 ↔
      ∀ r ∈ csv, ∀ field ∈ PARTES, limpio (r.get field) = none := by
  rw [← partes_nil (M := M)]
  refine ⟨fun h => ?_, fun h => ⟨fun p hp => ?_, fun casos entidades hres => ?_, ?_⟩⟩
  · rw [List.eq_nil_iff_forall_not_mem]
    intro p hp
    obtain ⟨e, ⟨he, -⟩, -⟩ := h.una p hp
    rw [carga_casos_entidad, hs] at he
    cases he
  · rw [h] at hp
    cases hp
  · rcases run_loadCasos (M := M) csv s with ⟨t, ht, -⟩ | ⟨pre, r, post, e, t, -, ht, -, -⟩
    · rw [ht] at hres
      cases hres
      rw [h]
      rfl
    · rw [ht] at hres
      cases hres
  · exact carga_casos_sinChoque csv s

end

/-! ## concrete runs -/

/-- a row of the file by its name, its amount and its state -/
def filaDict (caso monto estado : String) : FilaDict :=
  [("Caso", some caso), ("Monto", some monto), ("Estado", some estado)]

theorem seed_repetible_sin_filas :
    ∃ r t u, Prog.run (exec motorConcreto) (seed motorConcreto (some [])) .empty = (.ok r, t) ∧
      Prog.run (exec motorConcreto) (seed motorConcreto (some [])) t = (.ok r, u) := by
  obtain ⟨u, hu, -⟩ := (seed_repetible_iff (run_seed_vacia (M := motorConcreto))).mpr rfl
  exact ⟨_, _, u, run_seed_vacia, hu⟩

/-- the second call of a file with one case dies on its id -/
theorem seed_no_repetible :
    let csv := [filaDict "Milicogate" "1000" "fraude"]
    let t := (Prog.run (exec motorConcreto) (seed motorConcreto (some csv)) .empty).2
    (∃ r, (Prog.run (exec motorConcreto) (seed motorConcreto (some csv)) .empty).1 = .ok r) ∧
      (Prog.run (exec motorConcreto) (seed motorConcreto (some csv)) t).1 =
        .error (.primaryKey .caso) := by
  refine ⟨⟨{ casos := 1, alertas := 1 }, ?_⟩, ?_⟩ <;> decide +kernel

theorem carga_casos_fallida_monto :
    let csv := [filaDict "Milicogate" "1000" "fraude", filaDict "Corfo" "cien" "fraude"]
    ∃ t pre r post, csv.mapIdx (filaCaso motorConcreto) = pre ++ r :: post ∧
      CasosInsertados motorConcreto .empty pre t ∧
      Rechazada motorConcreto t r .valueError := by
  intro csv
  have hrun : Prog.run (exec motorConcreto) (loadCorrupcionChile motorConcreto (some csv)) .empty =
      (.error .valueError,
        (Prog.run (exec motorConcreto) (loadCorrupcionChile motorConcreto (some csv)) .empty).2) :=
    Prod.ext (by decide +kernel) rfl
  rcases carga_casos_fallida hrun with ⟨hcsv, -, -⟩ | ⟨filas, pre, r, post, hcsv, hl, hins, hr⟩
  · cases hcsv
  · cases hcsv
    exact ⟨_, pre, r, post, hl, hins, hr⟩

/-- an amount beyond 128 bits -/
example :
    (Prog.run (exec motorConcreto) (loadCorrupcionChile motorConcreto (some [filaDict "Milicogate"
      "1000000000000000000000000000000000000000" "fraude"])) .empty).1 = .error .conversion := by
  decide +kernel

/-- **A load that raises leaves its first cases behind**, and a retry dies on them. -/
theorem carga_casos_no_atomica :
    let mala := [filaDict "Milicogate" "1000" "fraude", filaDict "Corfo" "cien" "fraude"]
    let buena := [filaDict "Milicogate" "1000" "fraude", filaDict "Corfo" "100" "fraude"]
    let t := (Prog.run (exec motorConcreto) (loadCorrupcionChile motorConcreto (some mala)) .empty).2
    (Prog.run (exec motorConcreto) (loadCorrupcionChile motorConcreto (some mala)) .empty).1 =
        .error .valueError ∧
      t.caso.keys = ["caso_001"] ∧
      (Prog.run (exec motorConcreto) (loadCorrupcionChile motorConcreto (some buena)) t).1 =
        .error (.primaryKey .caso) ∧
      (Prog.run (exec motorConcreto) (loadCorrupcionChile motorConcreto (some buena)) .empty).1 =
        .ok (2, 0) := by
  decide +kernel

theorem partes_sin_filas :
    ConPartes motorConcreto [filaDict "Milicogate" "1000" "fraude"]
      (Prog.run (exec motorConcreto)
        (loadCorrupcionChile motorConcreto (some [filaDict "Milicogate" "1000" "fraude"])) .empty).1
      (Prog.run (exec motorConcreto)
        (loadCorrupcionChile motorConcreto (some [filaDict "Milicogate" "1000" "fraude"])) .empty).2 :=
  (partes_iff _ rfl).mpr (by decide +kernel)

theorem parte_perdida :
    let csv : List FilaDict := [filaDict "Milicogate" "1000" "fraude" ++ [("Beneficiado", some "Ana")]]
    let carga := Prog.run (exec motorConcreto) (loadCorrupcionChile motorConcreto (some csv)) .empty
    carga.1 = .ok (1, 0) ∧ ¬ ConPartes motorConcreto csv carga.1 carga.2 := by
  intro csv carga
  have hres : carga.1 = .ok (1, 0) := by decide +kernel
  refine ⟨hres, fun h => ?_⟩
  have hn : (partes motorConcreto csv).length = 1 := by decide +kernel
  exact absurd ((h.cuantas 1 0 hres).trans hn) (by decide)

end Fractura
