import Fractura.Conexion
import Fractura.Lib.Rely
import Fractura.Servidor

/-!
# What concurrent requests leave

One process of the backend serves any requests on the connection of `get_db`, in any interleaving of
their statements and fetches, so a request may be answered with the rows of another one.  It dies at
some point, and the next process starts from the last checkpoint: `Servida M` are the stores that come
out of that.

All statements move the store up in one order: the cases and their alerts are only ever appended
(`pacto`).  By rely and guarantee:

* `tablas_servidas`     what the loads keep holds at every such store, whatever rows were mixed up;
* `casos_servidos`      the stored cases are the first rows of ONE file, and every alert of a case is
                        one that a stored case calls for;
* `estado_http`         the status of every GET at such a store: a limit out of bounds is a 422, and a
                        500 is the answer to a negative limit of the list and to nothing else.
-/

namespace Fractura

open Db Connection

/-! ## processes -/

section
variable (M : Motor)

/-- the requests of a process, before their first statement -/
def proceso (reqs : ℕ → Peticion) (s : Db) :
    Pool ℕ Sentencia Resp Error Contestacion Pendiente Db :=
  start (fun i => atiende M (reqs i)) none s

/-- the process after a schedule -/
def tras (reqs : ℕ → Peticion) (w : List ℕ) (s : Db) :
    Pool ℕ Sentencia Resp Error Contestacion Pendiente Db :=
  (run (driver M) w (proceso M reqs s)).1

/-- the stores that one process after another leaves on disk -/
inductive Servida : Db → Prop where
  | vacia : Servida .empty
  | proceso {s : Db} (reqs : ℕ → Peticion) (w : List ℕ) (h : Servida s) :
      Servida (tras M reqs w s).state

/-- the alerts of the documented cases -/
def Db.alertasDeCasos (s : Db) : List Alerta := s.alerta.rows.filter fun a => decide (a.patron = none)

/-- an alert that a rule of `f` makes of a row -/
inductive HechaPor (f : String) : Alerta → Prop where
  | p1 (r : FilaP1) : HechaPor f (alertaP1 M f r)
  | p2 (r : FilaP2) : HechaPor f (alertaP2 M f r)
  | p3 (r : FilaP3) : HechaPor f (alertaP3 M f r)

/-- what every statement of every request keeps, in any interleaving -/
structure InvServida (s : Db) : Prop extends InvTablas s where
  textos : ConTextos s
  regla : ∀ a ∈ s.alerta.rows, a.patron ≠ none → ∃ f b n, HechaPor M f b ∧ a = b.stamp n
  casos : ∃ csv : List FilaDict, s.caso.rows <+: casosDe M (csv.mapIdx (filaCaso M))
  entidad : s.entidad.rows = []
  deCaso : ∀ a ∈ s.alertasDeCasos, ∃ c ∈ s.caso.rows, ∃ sev n,
    severityDe M c = some sev ∧ a = (alertaCaso c sev).stamp n

end

section
variable {M : Motor}

/-- the pending rows of a query of cases are stored cases -/
def PendienteDe (p : Pendiente) (s : Db) : Prop :=
  ∀ rows, p = some ⟨.caso, rows⟩ → ∀ c ∈ rows, c ∈ s.caso.rows

/-- cases and their alerts are appended -/
structure Crece (s t : Db) : Prop where
  caso : s.caso.rows <+: t.caso.rows
  alerta : s.alertasDeCasos <+: t.alertasDeCasos

theorem Crece.refl (s : Db) : Crece s s := ⟨List.prefix_rfl, List.prefix_rfl⟩

theorem tomar_casos {q : Sentencia} {p : Pendiente} {s : Db} (h : PendienteDe p s) :
    PendienteDe (tomar q p).2 s := by
  unfold tomar
  split
  · exact fun rows hr => nomatch hr
  · rename_i q fm rows
    have hsub : ∀ x ∈ (if q.una = true then rows.drop 1 else []), x ∈ rows := by
      intro x hx
      split at hx
      · exact List.mem_of_mem_drop hx
      · cases hx
    have hrest : PendienteDe (some ⟨fm, if q.una = true then rows.drop 1 else []⟩) s := by
      intro rows' hr c hc
      cases hr
      exact h rows rfl c (hsub c hc)
    dsimp only
    split <;> exact hrest
  · exact h

theorem casos_de_tomar {p : Pendiente} {s : Db} {casos : List Caso} (hp : PendienteDe p s)
    (h : (tomar (.query .casos) p).1 = .ok casos) : ∀ c ∈ casos, c ∈ s.caso.rows := by
  cases p with
  | none => cases h
  | some x =>
    obtain ⟨fm, rows⟩ := x
    unfold tomar at h
    dsimp only at h
    split at h
    · rename_i hf
      subst hf
      cases h
      exact hp rows rfl
    · cases h

/-- the order, the invariant and what is known of the pending rows -/
def pacto (M : Motor) : Pact (driver M) where
  le := Crece
  inv := InvServida M
  valid := PendienteDe
  refl := Crece.refl
  trans h h' := ⟨h.1.trans h'.1, h.2.trans h'.2⟩
  mono h hle rows hr c hc := hle.caso.subset (h rows hr c hc)
  lost _ _ hr := nomatch hr
  take := tomar_casos

/-! ## statements -/

theorem pendiente_of_forma {q : Consulta} {rows : List q.forma.fila} {s : Db}
    (h : filas M s q = .ok rows) : PendienteDe (some ⟨q.forma, rows⟩) s := by
  intro rows' hr c hc
  cases q with
  | casos =>
    cases h
    cases hr
    exact List.mem_of_mem_filter (M.mem_orden.mp hc)
  | _ => cases hr

theorem execute_ok {q : Sentencia} {s t : Db} {p : Pendiente}
    (h : (driver M).execute q s = .ok (p, t)) : (∃ x, exec M q s = .ok (x, t)) ∧ PendienteDe p t := by
  cases q with
  | query q =>
    unfold driver at h
    dsimp only at h
    cases hf : filas M s q with
    | error e => simp only [hf] at h; cases h
    | ok rows =>
      simp only [hf] at h
      cases h
      exact ⟨⟨_, exec_query hf⟩, pendiente_of_forma hf⟩
  | dml d =>
    unfold driver at h
    dsimp only at h
    cases hd : d.exec s with
    | error e => simp only [hd] at h; cases h
    | ok u =>
      simp only [hd] at h
      cases h
      exact ⟨⟨(), exec_dml hd⟩, fun rows hr => nomatch hr⟩

/-- the statements that leave the cases and their alerts alone -/
inductive SinCasos (M : Motor) : Sentencia → Prop where
  | query (q : Consulta) : SinCasos M (.query q)
  | carga (year month : Int) {q : Sentencia} (h : DeCarga (fuenteDe year month) q)
      (h' : DeTextos q) : SinCasos M q
  | deleteAlertaPatron (f : String) : SinCasos M (.dml (.deleteAlertaPatron f))
  | insertAlerta (f : String) (a : Alerta) (h : HechaPor M f a) : SinCasos M (.dml (.insertAlerta a))

theorem HechaPor.patron {f : String} {a : Alerta} (h : HechaPor M f a) : a.patron ≠ none := by
  cases h <;> exact Option.some_ne_none _

theorem fuenteDe_ne_corrupcion (year month : Int) :
    fuenteDe year month ≠ "corrupcion_chile" := by
  intro h
  have hlike := like_fuenteDe year month
  rw [h] at hlike
  exact absurd hlike (by decide)

theorem InvTablas.congr {s t : Db} (hs : InvTablas s) (he : t.empresa = s.empresa)
    (hc : t.contrato = s.contrato) : InvTablas t := by
  refine ⟨?_, ?_, ?_⟩
  · rw [hc]; exact hs.slice
  · rw [hc]; exact hs.padres
  · rw [he]; exact hs.rut

theorem ConTextos.congr {s t : Db} (hs : ConTextos s) (ho : t.organismo = s.organismo)
    (he : t.empresa = s.empresa) (hc : t.contrato = s.contrato) : ConTextos t :=
  ⟨ho ▸ hs.organismo, he ▸ hs.empresa, hc ▸ hs.contrato⟩

theorem InvServida.congr {s t : Db} (hs : InvServida M s) (htab : InvTablas t)
    (htx : ConTextos t) (hc : t.caso = s.caso) (he : t.entidad = s.entidad)
    (ha : t.alertasDeCasos = s.alertasDeCasos)
    (hr : ∀ a ∈ t.alerta.rows, a.patron ≠ none → a ∈ s.alerta.rows ∨
      ∃ f b n, HechaPor M f b ∧ a = b.stamp n) : Crece s t ∧ InvServida M t := by
  refine ⟨⟨by rw [hc], by rw [ha]⟩, htab, htx, fun a hat hp => ?_, ?_, ?_, ?_⟩
  · rcases hr a hat hp with has | h
    · exact hs.regla a has hp
    · exact h
  · rw [hc]; exact hs.casos
  · rw [he]; exact hs.entidad
  · rw [ha, hc]; exact hs.deCaso

theorem InvServida.exec {q : Sentencia} (hq : SinCasos M q) {s t : Db} {x : Resp q}
    (hs : InvServida M s) (h : exec M q s = .ok (x, t)) : Crece s t ∧ InvServida M t := by
  cases hq with
  | query q =>
    rw [(exec_query_ok h).1]
    exact ⟨.refl s, hs⟩
  | carga year month hq hq' =>
    have haj := exec_ajeno hq h
    have hsub := (exec_aporta hq h).alerta
    refine hs.congr (hs.toInvTablas.exec hq h) (hs.textos.exec hq hq' h) haj.caso haj.entidad ?_
      fun a ha _ => Or.inl (hsub a ha)
    -- the alerts of the cases are of another source
    have hcase (u : Db) (hu : ∀ a ∈ u.alerta.rows, a ∈ s.alerta.rows) : u.alertasDeCasos =
        (otros Alerta.fuente (fuenteDe year month) u.alerta.rows).filter
          fun a => decide (a.patron = none) := by
      unfold Db.alertasDeCasos otros
      rw [List.filter_filter]
      refine List.filter_congr fun a ha => ?_
      by_cases hp : a.patron = none
      · have hm : a ∈ s.alertasDeCasos := List.mem_filter.mpr ⟨hu a ha, decide_eq_true hp⟩
        obtain ⟨c, -, sev, n, -, rfl⟩ := hs.deCaso a hm
        have hne : some "corrupcion_chile" ≠ some (fuenteDe year month) :=
          fun e => fuenteDe_ne_corrupcion year month (Option.some.inj e).symm
        simp [alertaCaso, Alerta.stamp, hne]
      · simp [hp]
    rw [hcase t hsub, hcase s fun _ ha => ha, haj.alerta]
  | deleteAlertaPatron f =>
    cases exec_dml_ok h
    refine hs.congr (hs.toInvTablas.congr rfl rfl) (hs.textos.congr rfl rfl rfl) rfl rfl ?_
      fun a ha _ => Or.inl (List.mem_of_mem_filter ha)
    show List.filter _ (List.filter _ s.alerta.rows) = List.filter _ s.alerta.rows
    rw [List.filter_filter]
    refine List.filter_congr fun a _ => ?_
    by_cases hp : a.patron = none <;> simp [hp]
  | insertAlerta f a hreg =>
    obtain ⟨hnew, htab⟩ := insertAlerta_ok (exec_dml_ok h)
    obtain ⟨tab, h1, h2⟩ := t
    dsimp only at htab
    subst htab
    refine hs.congr (hs.toInvTablas.congr rfl rfl) (hs.textos.congr rfl rfl rfl) rfl rfl ?_
      fun b hb _ => ?_
    · show List.filter _ (s.alerta.rows ++ [a.stamp s.reloj]) = List.filter _ s.alerta.rows
      rw [List.filter_append]
      have hne : (a.stamp s.reloj).patron ≠ none := hreg.patron
      simp [hne]
    · rcases List.mem_append.mp hb with hb | hb
      · exact Or.inl hb
      · rw [List.mem_singleton.mp hb]
        exact Or.inr ⟨f, a, s.reloj, hreg, rfl⟩

theorem honours_sinCasos {α : Type} {p : Prg α} (hp : p.All (SinCasos M)) (s : Db) :
    Honours (pacto M) (fun _ _ => True) p s := by
  refine honours_all (fun q t p u hq ht hx => ?_) hp s
  obtain ⟨⟨x, hexec⟩, hpend⟩ := execute_ok hx
  obtain ⟨hle, hu⟩ := InvServida.exec hq ht hexec
  exact ⟨hle, hu, hpend⟩

/-! ### the requests -/

theorem load_sinCasos (year month limit : Int) (a : Archivo) :
    (loadChilecompraSlice M year month limit a).All (SinCasos M) :=
  ((load_deCarga M year month limit a).and (load_deTextos M year month limit a)).mono
    fun _ h => .carga year month h.1 h.2

theorem detectar_sinCasos (f : String) : (Fractura.detectar M f).All (SinCasos M) := by
  have hins {ρ : Type} {l : List ρ} {g : ρ → Alerta} (h : ∀ r, HechaPor M f (g r)) :
      (insertarAlertas (l.map g)).All (SinCasos M) := by
    refine Prog.all_each fun a ha => ejecutar_all ?_
    obtain ⟨r, -, rfl⟩ := List.mem_map.mp ha
    exact .insertAlerta f _ (h r)
  refine Prog.all_bind (consulta_all (.query _)) fun _ => Prog.all_bind unico_all fun _ => ?_
  refine Prog.all_bind (ejecutar_all (.deleteAlertaPatron f)) fun _ => ?_
  refine Prog.all_bind (consulta_all (.query _)) fun _ => Prog.all_bind (hins .p1) fun _ => ?_
  refine Prog.all_bind (consulta_all (.query _)) fun _ => Prog.all_bind (hins .p2) fun _ => ?_
  exact Prog.all_bind (consulta_all (.query _)) fun _ => Prog.all_bind (hins .p3) fun _ => trivial

theorem detectarTodas_sinCasos (fs : List String) : (detectarTodas M fs).All (SinCasos M) := by
  induction fs with
  | nil => trivial
  | cons f fs ih =>
    exact Prog.all_bind (detectar_sinCasos f) fun _ => Prog.all_bind ih fun _ => trivial

/-- whatever rows it is given, a search inserts alerts of rules only -/
theorem runDetection_sinCasos (o : Option String) : (runDetection M o).All (SinCasos M) := by
  cases o with
  | none => exact Prog.all_bind (consulta_all (.query _)) fun fs => detectarTodas_sinCasos fs
  | some f => exact detectarTodas_sinCasos [f]

theorem handler_sinCasos (r : Request) : (handler M r).All (SinCasos M) := by
  by_cases hr : r.lee = true
  · refine (handler_consulta hr).mono fun q hq => ?_
    cases hq with
    | mk q => exact .query q
  · cases r with
    | detectChilecompra o => exact Prog.all_bind (runDetection_sinCasos o) fun _ => trivial
    | _ => exact absurd rfl hr

/-! ### the cases -/

theorem insertCaso_rows {s t : Db} {r : FilaCaso} {n : Int} (h : s.insertCaso r n = .ok t) :
    r.id ∉ s.caso.keys ∧ t.caso.rows = s.caso.rows ++ [r.toCaso n] := by
  unfold insertCaso at h
  split at h
  · cases h
  · split at h
    · cases h
    · rename_i nombre hn
      dsimp only at h
      split at h
      · cases h
      · rename_i hk
        cases h
        have hid : r.toCaso n = ⟨r.id, nombre, some (toString n), r.ano, r.anoInicio, r.anoFin,
            r.sector, r.partido, r.comuna, r.posicion, r.actual, r.delitos, r.estado, r.sentence,
            r.condemna, r.conclusion, r.fuente1, r.fuente2, r.fuente3, r.fuente4, r.fuente5,
            r.fuente⟩ := by
          simp [FilaCaso.toCaso, hn]
        rw [hid]
        exact ⟨hk, rfl⟩

/-- the id of a row is its place in the file, whatever the file -/
theorem id_de_fila {csv : List FilaDict} {pre post : List FilaCaso} {r : FilaCaso}
    (h : csv.mapIdx (filaCaso M) = pre ++ r :: post) : r.id = "caso_" ++ pad3 (pre.length + 1) := by
  have hr : (csv.mapIdx (filaCaso M))[pre.length]? = some r := by
    rw [h, List.getElem?_append_right le_rfl, Nat.sub_self]
    rfl
  rw [List.getElem?_mapIdx, Option.map_eq_some_iff] at hr
  obtain ⟨d, -, rfl⟩ := hr
  rfl

theorem InvServida.id_ocupada {s : Db} (hs : InvServida M s) {k : Nat}
    (hk : k < s.caso.rows.length) : "caso_" ++ pad3 (k + 1) ∈ s.caso.keys := by
  obtain ⟨csv, hcsv⟩ := hs.casos
  have hid : (s.caso.rows[k]).id = "caso_" ++ pad3 (k + 1) := by
    rw [List.IsPrefix.getElem hcsv hk]
    simp only [casosDe, List.getElem_map, List.getElem_mapIdx]
    rfl
  rw [← hid]
  exact KeyTable.key_mem (List.getElem_mem hk)

/-- the rows `pre` of the file have been inserted, unless the store has more cases by now -/
def Van (M : Motor) (pre : List FilaCaso) (s : Db) : Prop :=
  pre.length ≤ s.caso.rows.length ∧
    (s.caso.rows.length = pre.length → s.caso.rows = casosDe M pre)

theorem Van.crece {pre : List FilaCaso} {s t : Db} (h : Van M pre s) (hle : Crece s t) :
    Van M pre t := by
  have hlen := hle.caso.length_le
  refine ⟨h.1.trans hlen, fun he => ?_⟩
  rw [← h.2 (by have := h.1; omega)]
  exact (hle.caso.eq_of_length (by have := h.1; omega)).symm

/-- **One row of a file among the others.** -/
theorem honours_insertarCaso {csv : List FilaDict} {pre post : List FilaCaso} {r : FilaCaso}
    (hcsv : csv.mapIdx (filaCaso M) = pre ++ r :: post) {s : Db} (hv : Van M pre s) :
    Honours (pacto M) (fun _ t => Van M (pre ++ [r]) t) (insertarCaso M r) s := by
  unfold insertarCaso
  cases hm : montoInt M r with
  | none => exact honours_raise
  | some n =>
    refine honours_call fun t p u hle ht hx => ?_
    obtain ⟨⟨x, hexec⟩, hpend⟩ := execute_ok hx
    have hu := exec_dml_ok hexec
    obtain ⟨hnew, hrows⟩ := insertCaso_rows hu
    have hvt := hv.crece hle
    -- a store with more cases has the id of this row
    have hlen : t.caso.rows.length = pre.length := by
      by_contra hne
      have hlt : pre.length < t.caso.rows.length := lt_of_le_of_ne hvt.1 (Ne.symm hne)
      exact hnew (id_de_fila hcsv ▸ ht.id_ocupada hlt)
    have hcasos : u.caso.rows = casosDe M (pre ++ [r]) := by
      rw [hrows, hvt.2 hlen]
      simp [casosDe, hm]
    have hvan : Van M (pre ++ [r]) u := by
      refine ⟨?_, fun _ => hcasos⟩
      rw [hcasos, casosDe, List.length_map]
    have htab := insertCaso_ok hu
    have hale : u.alerta = t.alerta := by rw [htab]
    have hgrow : t.caso.rows <+: u.caso.rows := ⟨_, hrows.symm⟩
    refine ⟨⟨⟨hgrow, ?_⟩, ?_, hpend⟩, fun _ v hf => honours_ret fun w hw _ => (hvan.crece hf.1).crece hw⟩
    · unfold Db.alertasDeCasos
      rw [hale]
    · refine ⟨ht.toInvTablas.congr (by rw [htab]) (by rw [htab]),
        ht.textos.congr (by rw [htab]) (by rw [htab]) (by rw [htab]), ?_, ⟨csv, ?_⟩, ?_, ?_⟩
      · rw [hale]
        exact ht.regla
      · rw [hcasos, hcsv, List.append_cons pre r post]
        exact (List.prefix_append (pre ++ [r]) post).map _
      · have hent : u.entidad = t.entidad := by rw [htab]
        rw [hent]
        exact ht.entidad
      · intro a ha
        rw [Db.alertasDeCasos, hale] at ha
        obtain ⟨c, hc, h⟩ := ht.deCaso a ha
        exact ⟨c, hgrow.subset hc, h⟩

theorem loadCorrupcionChile_eq (csv : List FilaDict) : loadCorrupcionChile M (some csv) =
    (Prog.each (csv.mapIdx (filaCaso M)) (insertarCaso M)).bind fun _ => .ret (csv.length, 0) := by
  have hent : (csv.mapIdx (filaCaso M)).flatMap (entidadesDe M) = [] :=
    List.flatMap_eq_nil_iff.mpr fun r _ => entidadesDe_nil r
  unfold loadCorrupcionChile
  simp only [hent, List.length_mapIdx]
  rfl

/-- **The load of a file among the others.** -/
theorem honours_loadCorrupcion (csv : Option (List FilaDict)) {s : Db} (hs : InvServida M s) :
    Honours (pacto M) (fun _ _ => True) (loadCorrupcionChile M csv) s := by
  cases csv with
  | none => exact honours_raise
  | some csv =>
    rw [loadCorrupcionChile_eq]
    have h0 : ∀ t, Crece s t → InvServida M t → Van M [] t := fun t _ _ =>
      ⟨Nat.zero_le _, fun h => List.length_eq_zero_iff.mp h⟩
    have hloop : Honours (pacto M) (fun _ t => Van M (csv.mapIdx (filaCaso M)) t)
        (Prog.each (csv.mapIdx (filaCaso M)) (insertarCaso M)) s :=
      honours_each (J := Van M) (fun pre r post hl t _ hv => honours_insertarCaso hl hv) hs h0
    exact honours_bind hs hloop fun _ _ _ _ _ => honours_ret fun _ _ _ => trivial

theorem honours_insertarAlertaCaso {c : Caso} {sev : String} (hsev : severityDe M c = some sev)
    {s : Db} (hc : c ∈ s.caso.rows) :
    Honours (pacto M) (fun _ _ => True) (ejecutar (.insertAlerta (alertaCaso c sev))) s := by
  refine honours_call fun t p u hle ht hx => ?_
  obtain ⟨⟨x, hexec⟩, hpend⟩ := execute_ok hx
  obtain ⟨hnew, htab⟩ := insertAlerta_ok (exec_dml_ok hexec)
  have hrows : u.alerta.rows = t.alerta.rows ++ [(alertaCaso c sev).stamp t.reloj] := by
    rw [htab]
    rfl
  have hcaso : u.caso = t.caso := by rw [htab]
  have hnuevas : u.alertasDeCasos = t.alertasDeCasos ++ [(alertaCaso c sev).stamp t.reloj] := by
    unfold Db.alertasDeCasos
    rw [hrows, List.filter_append]
    rfl
  refine ⟨⟨⟨by rw [hcaso], ⟨_, hnuevas.symm⟩⟩, ?_, hpend⟩, fun _ _ _ => honours_ret fun _ _ _ => trivial⟩
  refine ⟨ht.toInvTablas.congr (by rw [htab]) (by rw [htab]),
    ht.textos.congr (by rw [htab]) (by rw [htab]) (by rw [htab]), ?_, ?_, ?_, ?_⟩
  · intro a ha hp
    rw [hrows] at ha
    rcases List.mem_append.mp ha with ha | ha
    · exact ht.regla a ha hp
    · rw [List.mem_singleton.mp ha] at hp
      exact absurd rfl hp
  · rw [hcaso]
    exact ht.casos
  · have hent : u.entidad = t.entidad := by rw [htab]
    rw [hent]
    exact ht.entidad
  · intro a ha
    rw [hnuevas] at ha
    rw [hcaso]
    rcases List.mem_append.mp ha with ha | ha
    · exact ht.deCaso a ha
    · exact ⟨c, hle.caso.subset hc, sev, t.reloj, hsev, List.mem_singleton.mp ha⟩

/-- **The search of the cases among the others**: the rows that it is given are stored cases, whoever
asked for them. -/
theorem honours_detectarCasos (s : Db) :
    Honours (pacto M) (fun _ _ => True) (runDetectionCorrupcion M) s := by
  refine honours_call fun t p u hle ht hx => ?_
  obtain ⟨⟨x, hexec⟩, hpend⟩ := execute_ok hx
  obtain ⟨rfl, -⟩ := exec_query_ok hexec
  refine ⟨⟨.refl _, ht, hpend⟩, fun casos v hv => ?_⟩
  obtain ⟨-, hinv, p', hp', htake⟩ := hv
  have hstored := casos_de_tomar hp' htake
  have hloop : Honours (pacto M) (fun _ t => ∀ c ∈ casos, c ∈ t.caso.rows)
      (Prog.each (alertasCasos M casos) fun a => ejecutar (.insertAlerta a)) v := by
    refine honours_each (J := fun _ t => ∀ c ∈ casos, c ∈ t.caso.rows) (fun _ a _ ha w hw hJ => ?_)
      hinv fun w hle _ c hc => hle.caso.subset (hstored c hc)
    have ham : a ∈ alertasCasos M casos := ha ▸ List.mem_append_right _ List.mem_cons_self
    obtain ⟨c, hc, hcsev⟩ := List.mem_filterMap.mp ham
    obtain ⟨sev, hsev, rfl⟩ := Option.map_eq_some_iff.mp hcsev
    exact (honours_insertarAlertaCaso hsev (hJ c hc)).imp
      fun _ _ hle _ _ c hc => hle.caso.subset (hJ c hc)
  show Honours (pacto M) (fun _ _ => True) ((Prog.each (alertasCasos M casos) fun a =>
    ejecutar (.insertAlerta a)).bind fun _ => .ret (alertasCasos M casos)) v
  exact honours_bind hinv hloop fun _ _ _ _ _ => honours_ret fun _ _ _ => trivial

theorem honours_seed (csv : Option (List FilaDict)) {s : Db} (hs : InvServida M s) :
    Honours (pacto M) (fun _ _ => True) (Fractura.seed M csv) s := by
  have hdet (r : Nat × Nat) (t : Db) (ht : InvServida M t) :
      Honours (pacto M) (fun _ _ => True) ((runDetectionCorrupcion M).bind fun alertas =>
        .ret ({ casos := r.1, entidades := r.2, alertas := alertas.length } : SeedResponse)) t :=
    honours_bind ht (honours_detectarCasos t) fun _ _ _ _ _ => honours_ret fun _ _ _ => trivial
  exact honours_bind hs (honours_loadCorrupcion csv hs) fun r t _ ht _ => hdet r t ht

/-- **Every request honours the pact.** -/
theorem honours_atiende (p : Peticion) {s : Db} (hs : InvServida M s) :
    Honours (pacto M) (fun _ _ => True) (atiende M p) s := by
  cases p with
  | de r =>
    have hall : (atiende M (.de r)).All (SinCasos M) :=
      Prog.all_bind (handler_sinCasos r) fun _ => trivial
    exact honours_sinCasos hall s
  | seedChilecompra year month limit a =>
    have hall : (atiende M (.seedChilecompra year month limit a)).All (SinCasos M) := by
      refine Prog.all_bind (Prog.all_bind (load_sinCasos year month limit a) fun res => ?_)
        fun _ => trivial
      cases res <;> trivial
    exact honours_sinCasos hall s
  | seed csv =>
    exact honours_bind hs (honours_seed csv hs) fun _ _ _ _ _ => honours_ret fun _ _ _ => trivial

/-! ## the stores that processes leave -/

theorem proceso_honra (reqs : ℕ → Peticion) (w : List ℕ) {s : Db} (hs : InvServida M s) :
    Honoured (pacto M) (fun _ _ _ => True) (tras M reqs w s) ∧
      Crece s (tras M reqs w s).state := by
  have hstart : Honoured (pacto M) (fun _ _ _ => True) (proceso M reqs s) :=
    ⟨fun i => honours_atiende (reqs i) hs, hs, fun _ hr => nomatch hr⟩
  exact run_honours hstart w

theorem Servida.inv {s : Db} (h : Servida M s) : InvServida M s := by
  induction h with
  | vacia =>
    refine ⟨⟨?_, ?_, ?_⟩, ⟨?_, ?_, ?_⟩, ?_, ⟨[], List.nil_prefix⟩, rfl, ?_⟩ <;>
      exact fun x hx => absurd hx List.not_mem_nil
  | proceso reqs w _ ih => exact (proceso_honra reqs w ih).1.inv

/-- **What the loads keep holds whatever rows were mixed up**: every contract is of a slice and has
both parents, the key of a supplier is its RUT, nothing that the nodes show is empty, and an alert
with a pattern is one that a rule makes of some row. -/
theorem tablas_servidas {s : Db} (h : Servida M s) : InvTablas s ∧ ConTextos s ∧
    ∀ a ∈ s.alerta.rows, a.patron ≠ none → ∃ f b n, HechaPor M f b ∧ a = b.stamp n :=
  ⟨h.inv.toInvTablas, h.inv.textos, h.inv.regla⟩

/-- **The stored cases are the first rows of one file**, no entity is stored, an alert without a
pattern is the one that a stored case calls for, and a process only appends to both. -/
theorem casos_servidos {s : Db} (h : Servida M s) :
    (∃ csv : List FilaDict, s.caso.rows <+: casosDe M (csv.mapIdx (filaCaso M))) ∧
    s.entidad.rows = [] ∧
    (∀ a ∈ s.alerta.rows, a.patron = none → ∃ c ∈ s.caso.rows, ∃ sev,
      severityDe M c = some sev ∧ a.sinHora = alertaCaso c sev) ∧
    ∀ reqs w, s.caso.rows <+: (tras M reqs w s).state.caso.rows ∧
      s.alertasDeCasos <+: (tras M reqs w s).state.alertasDeCasos := by
  refine ⟨h.inv.casos, h.inv.entidad, fun a ha hp => ?_, fun reqs w => ?_⟩
  · obtain ⟨c, hc, sev, n, hsev, rfl⟩ :=
      h.inv.deCaso a (List.mem_filter.mpr ⟨ha, decide_eq_true hp⟩)
    exact ⟨c, hc, sev, hsev, rfl⟩
  · have hle := (proceso_honra reqs w h.inv).2
    exact ⟨hle.caso, hle.alerta⟩

/-- **The status of every GET** at every such store: the list of alerts is always answered; an alert,
an entity or the centre of a graph that is not stored is a 404; a limit that does not validate is a 422;
the only 500 is the answer to a negative limit of the list, which has no lower bound. -/
theorem estado_http {s : Db} (h : Servida M s) :
    (Peticion.de .getAlerts).estado M s = 200 ∧
    (∀ id, (Peticion.de (.getAlertById id)).estado M s = if id ∈ s.alerta.keys then 200 else 404) ∧
    (∀ x, (Peticion.de (.getEntity x)).estado M s =
      if x ∈ s.organismo.keys ∨ x ∈ s.empresa.keys ∨ x ∈ s.contrato.keys then 200 else 404) ∧
    (∀ nodeId limit fuente, (Peticion.de (.graphChilecompra nodeId limit fuente)).estado M s =
      if ¬ (1 ≤ limit ∧ limit ≤ 500) then 422
      else if conTexto nodeId = true ∧
        ¬ (nodeId.getD "" ∈ s.organismo.keys ∨ nodeId.getD "" ∈ s.empresa.keys)
      then 404 else 200) ∧
    ∀ patron fuente limit, (Peticion.de (.alertsChilecompra patron fuente limit)).estado M s =
      if 500 < limit then 422 else if limit < 0 then 500 else 200 :=
  estados h.inv.textos

end

/-! ## a concrete process -/

/-- two files of cases, a load and a search -/
def peticionesMezcladas : ℕ → Peticion
  | 0 => .seed (some [filaDict "Caso A" "1" "fraude", filaDict "Caso B" "2" "fraude"])
  | 1 => .seed (some [filaDict "Caso C" "3" "fraude"])
  | 2 => .seedChilecompra 2024 5 0 (.csv compraMayo)
  | _ => .de (.detectChilecompra none)

/-- the process dies in the middle of the first file, after the load of its slice -/
def tiendaMezclada : Db :=
  (tras motorConcreto peticionesMezcladas [2, 0, 1, 2, 3, 2, 2, 2, 3, 2, 2] .empty).state

theorem tiendaMezclada_servida : Servida motorConcreto tiendaMezclada := .proceso _ _ .vacia

theorem tablas_servidas_mezclada : tiendaMezclada.contrato.rows.length = 1 ∧
    InvTablas tiendaMezclada ∧ ConTextos tiendaMezclada :=
  have h := tablas_servidas tiendaMezclada_servida
  ⟨by decide, h.1, h.2.1⟩

theorem casos_servidos_mezclada : tiendaMezclada.caso.rows.map Caso.nombre = ["Caso A"] ∧
    ∀ reqs w, tiendaMezclada.caso.rows <+:
      (tras motorConcreto reqs w tiendaMezclada).state.caso.rows :=
  ⟨by decide, fun reqs w => ((casos_servidos tiendaMezclada_servida).2.2.2 reqs w).1⟩

theorem estado_http_mezclada :
    (Peticion.de (.getEntity "76-K")).estado motorConcreto tiendaMezclada = 200 ∧
    (Peticion.de (.graphChilecompra none 0 none)).estado motorConcreto tiendaMezclada = 422 ∧
    (Peticion.de (.alertsChilecompra none none 501)).estado motorConcreto tiendaMezclada = 422 ∧
    (Peticion.de (.alertsChilecompra none none (-1))).estado motorConcreto tiendaMezclada = 500 := by
  obtain ⟨-, -, hentity, hgraph, halerts⟩ := estado_http tiendaMezclada_servida
  exact ⟨(hentity "76-K").trans (if_pos (by decide)), hgraph none 0 none,
    halerts none none 501, halerts none none (-1)⟩

end Fractura
