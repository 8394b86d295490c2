import Fractura.Concurrencia.Deteccion
import Fractura.Concurrencia.Servida

/-!
# What one process leaves alone

Any requests on one connection, in any interleaving (`tras`):

* `casos_congelados`    a process that finds a case stored never adds one: every `POST /seed` of a file
                        with rows fails;
* `rebanada_quieta`     a slice that no request loads keeps its contracts and what the rules call for
                        in it, and its alerts too when no request searches it.
-/

namespace Fractura

open Db Connection

section
variable {M : Motor}

/-! ## a process that finds a case -/

/-- the table of the cases is `c` -/
def pactoCasos (M : Motor) (c : KeyTable Caso String Caso.id) : Pact (driver M) where
  le _ _ := True
  inv s := s.caso = c
  valid _ _ := True
  refl _ := trivial
  trans _ _ := trivial
  mono _ _ := trivial
  lost _ := trivial
  take _ := trivial

/-- the statements that insert no case -/
def NoInsertaCaso (q : Sentencia) : Prop := ∀ r n, q ≠ .dml (.insertCaso r n)

theorem exec_caso {q : Sentencia} (hq : NoInsertaCaso q) {s t : Db} {x : Resp q}
    (h : exec M q s = .ok (x, t)) : t.caso = s.caso := by
  cases q with
  | query q => rw [(exec_query_ok h).1]
  | dml d =>
    have hd := exec_dml_ok h
    cases d with
    | deleteContrato f => cases hd; rfl
    | deleteAlerta f => cases hd; rfl
    | deleteEmpresa f => rw [(deleteEmpresa_ok hd).2]
    | deleteOrganismo f => rw [(deleteOrganismo_ok hd).2]
    | deleteAlertaPatron f => cases hd; rfl
    | insertOrganismo r => rw [(insertOrganismo_ok hd).2]; rfl
    | insertEmpresa r => rw [(insertEmpresa_ok hd).2]; rfl
    | insertContrato r => rw [(insertContrato_ok hd).2]
    | insertAlerta a => rw [(insertAlerta_ok hd).2]
    | insertCaso r n => exact absurd rfl (hq r n)
    | insertEntidad e => rw [insertEntidad_ok hd]

theorem SinCasos.noInserta {q : Sentencia} (h : SinCasos M q) : NoInsertaCaso q := by
  intro r n hq
  subst hq
  cases h with
  | carga year month h h' => cases h

theorem honours_noInserta {α : Type} {p : Prg α} (hp : p.All NoInsertaCaso)
    (c : KeyTable Caso String Caso.id) (s : Db) :
    Honours (pactoCasos M c) (fun _ _ => True) p s := by
  refine honours_all (fun q t p u hq ht hx => ?_) hp s
  obtain ⟨⟨x, hexec⟩, -⟩ := execute_ok hx
  exact ⟨trivial, (exec_caso hq hexec).trans ht, trivial⟩

theorem detectarCasos_noInserta : (runDetectionCorrupcion M).All NoInsertaCaso := by
  refine Prog.all_bind (consulta_all fun _ _ hq => nomatch hq) fun casos => ?_
  refine Prog.all_bind (Prog.all_each fun a _ => ejecutar_all fun _ _ hq => ?_) fun _ => trivial
  cases hq

theorem honours_primera {c : KeyTable Caso String Caso.id} (hc : "caso_" ++ pad3 1 ∈ c.keys)
    (d : FilaDict) (s : Db) :
    Honours (pactoCasos M c) (fun _ _ => False) (insertarCaso M (filaCaso M 0 d)) s := by
  unfold insertarCaso
  cases hm : montoInt M (filaCaso M 0 d) with
  | none => exact honours_raise
  | some n =>
    refine honours_call fun t p u _ ht hx => ?_
    obtain ⟨⟨x, hexec⟩, -⟩ := execute_ok hx
    have hnew := (insertCaso_rows (exec_dml_ok hexec)).1
    have htc : t.caso = c := ht
    rw [htc] at hnew
    exact absurd hc hnew

/-- a request that seeds a file with rows -/
def Peticion.siembra : Peticion → Bool
  | .seed (some (_ :: _)) => true
  | _ => false

theorem honours_congelada {c : KeyTable Caso String Caso.id} (hc : "caso_" ++ pad3 1 ∈ c.keys)
    (p : Peticion) {s : Db} (hs : s.caso = c) :
    Honours (pactoCasos M c) (fun _ _ => p.siembra = false) (atiende M p) s := by
  have hsin {p : Peticion} (hp : p.siembra = false) (hall : (atiende M p).All NoInsertaCaso) :
      Honours (pactoCasos M c) (fun _ _ => p.siembra = false) (atiende M p) s :=
    (honours_noInserta hall c s).imp fun _ _ _ _ _ => hp
  cases p with
  | de r =>
    have hall : (atiende M (.de r)).All (SinCasos M) :=
      Prog.all_bind (handler_sinCasos r) fun _ => trivial
    exact hsin rfl (hall.mono fun _ h => h.noInserta)
  | seedChilecompra year month limit a =>
    have hall : (atiende M (.seedChilecompra year month limit a)).All (SinCasos M) := by
      refine Prog.all_bind (Prog.all_bind (load_sinCasos year month limit a) fun res => ?_)
        fun _ => trivial
      cases res <;> trivial
    exact hsin rfl (hall.mono fun _ h => h.noInserta)
  | seed csv =>
    cases csv with
    | none => exact hsin rfl trivial
    | some csv =>
      cases csv with
      | nil =>
        refine hsin rfl (Prog.all_bind (Prog.all_bind trivial fun _ => ?_) fun _ => trivial)
        exact Prog.all_bind detectarCasos_noInserta fun _ => trivial
      | cons d csv =>
        have hload : Honours (pactoCasos M c) (fun _ _ => False)
            (loadCorrupcionChile M (some (d :: csv))) s := by
          rw [loadCorrupcionChile_eq, List.mapIdx_cons, Prog.each_cons]
          exact honours_bind_never hs (honours_bind_never hs (honours_primera hc d s))
        have hseed : Honours (pactoCasos M c) (fun _ _ => False)
            (Fractura.seed M (some (d :: csv))) s := honours_bind_never hs hload
        exact honours_bind_never hs hseed

/-- **A process that finds a case stored never adds one**: every `POST /seed` of a file with rows
fails, whatever else runs, so a seed that died half way is never completed. -/
theorem casos_congelados {s : Db} (h : Servida M s) (hc : s.caso.rows ≠ []) (reqs : ℕ → Peticion)
    (w : List ℕ) : (tras M reqs w s).state.caso = s.caso ∧
      ∀ i, (reqs i).siembra = true → ((tras M reqs w s).threads i).result = none := by
  have hid := h.inv.id_ocupada (List.length_pos_iff.mpr hc)
  have hstart : Honoured (pactoCasos M s.caso) (fun i _ _ => (reqs i).siembra = false)
      (proceso M reqs s) :=
    ⟨fun i => honours_congelada hid (reqs i) rfl, rfl, trivial⟩
  obtain ⟨hrun, -⟩ := run_honours hstart w
  refine ⟨hrun.inv, fun i hi => ?_⟩
  cases hres : ((tras M reqs w s).threads i).result with
  | none => rfl
  | some a =>
    rw [hrun.result hres] at hi
    cases hi

/-! ## a slice that is not loaded -/

/-- the request loads the slice -/
def Peticion.carga (f : String) : Peticion → Bool
  | .seedChilecompra year month _ _ => decide (fuenteDe year month = f)
  | _ => false

/-- the request searches the slice, or all of them -/
def Peticion.busca (f : String) : Peticion → Bool
  | .de (.detectChilecompra o) => decide (o = none ∨ o = some f)
  | _ => false

/-- the contracts of the slice, and what their keys read -/
structure Quieta (f : String) (s t : Db) : Prop where
  contratos : t.contratosDe f = s.contratosDe f
  organismo : ∀ c ∈ s.contratosDe f, ∀ k, c.organismoId = some k →
    t.organismo.find k = s.organismo.find k
  empresa : ∀ c ∈ s.contratosDe f, ∀ k, c.proveedorId = some k →
    t.empresa.find k = s.empresa.find k

theorem Quieta.refl (f : String) (s : Db) : Quieta f s s := ⟨rfl, fun _ _ _ _ => rfl, fun _ _ _ _ => rfl⟩

theorem Quieta.of_ajeno {f g : String} (hfg : f ≠ g) {s t u : Db} (h : Quieta f s t)
    (haj : Ajeno g t u) : Quieta f s u := by
  have hcon := haj.contratosDe hfg
  have hother {c : Contrato} (hc : c ∈ s.contratosDe f) :
      c ∈ t.contrato.rows ∧ c.fuente ≠ some g := by
    rw [← h.contratos] at hc
    obtain ⟨hc, hf⟩ := mem_contratosDe.mp hc
    rw [hf]
    exact ⟨hc, fun e => hfg (Option.some.inj e)⟩
  refine ⟨hcon.trans h.contratos, fun c hc k hk => ?_, fun c hc k hk => ?_⟩
  · exact (haj.refOrg c (hother hc).1 (hother hc).2 k hk).trans (h.organismo c hc k hk)
  · exact (haj.refEmp c (hother hc).1 (hother hc).2 k hk).trans (h.empresa c hc k hk)

theorem Quieta.congr {f : String} {s t u : Db} (h : Quieta f s t) (ho : u.organismo = t.organismo)
    (he : u.empresa = t.empresa) (hc : u.contrato = t.contrato) : Quieta f s u := by
  refine ⟨?_, ?_, ?_⟩
  · unfold Db.contratosDe
    rw [hc]
    exact h.contratos
  · rw [ho]
    exact h.organismo
  · rw [he]
    exact h.empresa

/-- the statements that write no contract of the slice and no parent of one; with `b`, no alert of the
slice either -/
inductive Fuera (f : String) (b : Bool) : Sentencia → Prop where
  | query (q : Consulta) : Fuera f b (.query q)
  | carga {g : String} (hfg : f ≠ g) {q : Sentencia} (h : DeCarga g q) : Fuera f b q
  | deleteAlertaPatron (g : String) (h : b = true → g ≠ f) :
      Fuera f b (.dml (.deleteAlertaPatron g))
  | insertAlerta (a : Alerta) (h : b = true → a.fuente ≠ some f) :
      Fuera f b (.dml (.insertAlerta a))
  | casos {q : Sentencia} (h : DeCasos q) : Fuera f b q

/-- the alerts of a slice -/
def Db.alertasDe (s : Db) (f : String) : List Alerta :=
  s.alerta.rows.filter fun a => decide (a.fuente = some f)

theorem Quieta.exec {f : String} {b : Bool} {q : Sentencia} (hq : Fuera f b q) {s t u : Db}
    {x : Resp q} (h : Quieta f s t) (hx : exec M q t = .ok (x, u)) :
    Quieta f s u ∧ (b = true → u.alertasDe f = t.alertasDe f) := by
  cases hq with
  | query q =>
    rw [(exec_query_ok hx).1]
    exact ⟨h, fun _ => rfl⟩
  | carga hfg hq =>
    have haj := exec_ajeno hq hx
    exact ⟨h.of_ajeno hfg haj, fun _ => haj.alertasDe hfg⟩
  | deleteAlertaPatron g hg =>
    cases exec_dml_ok hx
    refine ⟨h.congr rfl rfl rfl, fun hb => ?_⟩
    show List.filter _ (List.filter _ t.alerta.rows) = List.filter _ t.alerta.rows
    rw [List.filter_filter]
    refine List.filter_congr fun a _ => ?_
    by_cases hf : a.fuente = some f
    · have hne : ¬ f = g := fun e => hg hb e.symm
      simp [hf, hne]
    · simp [hf]
  | insertAlerta a ha =>
    obtain ⟨hnew, htab⟩ := insertAlerta_ok (exec_dml_ok hx)
    refine ⟨h.congr (by rw [htab]) (by rw [htab]) (by rw [htab]), fun hb => ?_⟩
    have hrows : u.alerta.rows = t.alerta.rows ++ [a.stamp t.reloj] := by
      rw [htab]
      rfl
    unfold Db.alertasDe
    rw [hrows, List.filter_append]
    simp [ha hb]
  | casos hq =>
    obtain ⟨ho, he, hc, ha, -⟩ := hq.tablas hx
    refine ⟨h.congr ho he hc, fun _ => ?_⟩
    unfold Db.alertasDe
    rw [ha]

theorem detectar_fuera {f g : String} {b : Bool} (h : b = true → g ≠ f) :
    (Fractura.detectar M g).All (Fuera f b) := by
  refine (detectar_deDeteccion M g).mono fun q hq => ?_
  cases hq with
  | query q => exact .query q
  | deleteAlertaPatron => exact .deleteAlertaPatron g h
  | insertAlerta a hf hid =>
    exact .insertAlerta a fun hb e => h hb (Option.some.inj (hf.symm.trans e))

theorem detectarTodas_fuera {f : String} {b : Bool} {gs : List String}
    (h : ∀ g ∈ gs, b = true → g ≠ f) : (detectarTodas M gs).All (Fuera f b) := by
  induction gs with
  | nil => trivial
  | cons g gs ih =>
    obtain ⟨hg, hgs⟩ := List.forall_mem_cons.mp h
    exact Prog.all_bind (detectar_fuera hg) fun _ => Prog.all_bind (ih hgs) fun _ => trivial

theorem handler_fuera {f : String} {b : Bool} {r : Request}
    (hb : b = true → (Peticion.de r).busca f = false) : (handler M r).All (Fuera f b) := by
  by_cases hr : r.lee = true
  · refine (handler_consulta hr).mono fun q hq => ?_
    cases hq with
    | mk q => exact .query q
  · cases r with
    | detectChilecompra o =>
      have hother (g : String) (h : o = none ∨ o = some g) (hbt : b = true) : g ≠ f := by
        rintro rfl
        have hno := hb hbt
        simp [Peticion.busca, h] at hno
      refine Prog.all_bind ?_ fun _ => trivial
      cases o with
      | none =>
        exact Prog.all_bind (consulta_all (.query _)) fun gs =>
          detectarTodas_fuera fun g _ => hother g (Or.inl rfl)
      | some g =>
        refine detectarTodas_fuera fun g' hg' => ?_
        rw [List.mem_singleton.mp hg']
        exact hother g (Or.inr rfl)
    | _ => exact absurd rfl hr

theorem atiende_fuera {f : String} {b : Bool} (hf : f ≠ "corrupcion_chile") {p : Peticion}
    (hp : p.carga f = false) (hb : b = true → p.busca f = false) : (atiende M p).All (Fuera f b) := by
  cases p with
  | de r => exact Prog.all_bind (handler_fuera hb) fun _ => trivial
  | seedChilecompra year month limit a =>
    have hne : f ≠ fuenteDe year month := fun e => of_decide_eq_false hp e.symm
    refine Prog.all_bind (Prog.all_bind ((load_deCarga M year month limit a).mono fun _ h =>
      .carga hne h) fun res => ?_) fun _ => trivial
    cases res <;> trivial
  | seed csv =>
    refine Prog.all_bind (Prog.all_bind ((loadCorrupcion_deCasos M csv).mono fun _ h => .casos h)
      fun _ => Prog.all_bind ?_ fun _ => trivial) fun _ => trivial
    refine Prog.all_bind (consulta_all (.query _)) fun casos => ?_
    refine Prog.all_bind (Prog.all_each fun a ha => ejecutar_all (.insertAlerta a fun _ => ?_))
      fun _ => trivial
    obtain ⟨c, -, hc⟩ := List.mem_filterMap.mp ha
    obtain ⟨sev, -, rfl⟩ := Option.map_eq_some_iff.mp hc
    exact fun e => hf (Option.some.inj e).symm

/-- **A slice that no request of a process loads** keeps its contracts, and the rules call for the
same alerts in it; when no request searches it either, its alerts stay as they are. -/
theorem rebanada_quieta (year month : Int) {reqs : ℕ → Peticion}
    (hno : ∀ i, (reqs i).carga (fuenteDe year month) = false) (s : Db) (w : List ℕ) :
    (tras M reqs w s).state.contratosDe (fuenteDe year month) =
      s.contratosDe (fuenteDe year month) ∧
    alertasReglas M (fuenteDe year month) ((tras M reqs w s).state.unidos (fuenteDe year month)) =
      alertasReglas M (fuenteDe year month) (s.unidos (fuenteDe year month)) ∧
    ((∀ i, (reqs i).busca (fuenteDe year month) = false) →
      (tras M reqs w s).state.alertasDe (fuenteDe year month) =
        s.alertasDe (fuenteDe year month)) := by
  have hrun (b : Bool) (hb : ∀ i, b = true → (reqs i).busca (fuenteDe year month) = false) :
      Quieta (fuenteDe year month) s (tras M reqs w s).state ∧ (b = true →
        (tras M reqs w s).state.alertasDe (fuenteDe year month) =
          s.alertasDe (fuenteDe year month)) := by
    have hall : ∀ i, ((proceso M reqs s).threads i).All (Fuera (fuenteDe year month) b) :=
      fun i => atiende_fuera (fuenteDe_ne_corrupcion year month) (hno i) (hb i)
    refine run_keeps (D := driver M) (I := fun t => Quieta (fuenteDe year month) s t ∧ (b = true →
      t.alertasDe (fuenteDe year month) = s.alertasDe (fuenteDe year month)))
      (fun i q t p u hq ht hx => ?_) hall ⟨.refl _ s, fun _ => rfl⟩ w
    obtain ⟨⟨x, hexec⟩, -⟩ := execute_ok hx
    obtain ⟨hquiet, hal⟩ := ht.1.exec hq hexec
    exact ⟨hquiet, fun hbt => (hal hbt).trans (ht.2 hbt)⟩
  obtain ⟨hquiet, -⟩ := hrun false fun _ h => nomatch h
  refine ⟨hquiet.contratos, ?_, fun hb => (hrun true fun i _ => hb i).2 rfl⟩
  have hu : (tras M reqs w s).state.unidos (fuenteDe year month) =
      s.unidos (fuenteDe year month) :=
    unidos_congr hquiet.contratos fun c hc k hk => by rw [hquiet.empresa c hc k hk]
  rw [hu]

/-! ## a request alone -/

theorem driver_atomic (M : Motor) : (driver M).Atomic (exec M) := by
  intro q s
  have h := driver_exec (M := M) q s
  refine ⟨fun p t hx => ?_, fun e hx => ?_⟩
  · rw [hx] at h
    have hok : ∃ r, (tomar q p).1 = .ok r := by
      cases q with
      | dml d => exact ⟨(), rfl⟩
      | query q =>
        unfold driver at hx
        dsimp only at hx
        cases hf : filas M s q with
        | error e => simp only [hf] at hx; cases hx
        | ok rows =>
          simp only [hf] at hx
          cases hx
          refine ⟨leer q rows, ?_⟩
          unfold tomar
          dsimp only
          rw [dif_pos rfl]
    obtain ⟨r, hr⟩ := hok
    refine ⟨r, hr, ?_⟩
    dsimp only at h
    rw [hr] at h
    exact h.symm
  · rw [hx] at h
    exact h.symm

/-- **A process with one request** is the request with atomic statements: the same answer and the same
store. -/
theorem peticion_sola (p : Peticion) (s : Db) : ∃ n,
    (tras M (fun _ => p) (List.replicate n 0) s).state = p.despues M s ∧
    (tras M (fun _ => p) (List.replicate n 0) s).threads 0 =
      .ready (ended (Prog.run (exec M) (atiende M p) s).1) :=
  have hp : (proceso M (fun _ => p) s).threads 0 = .ready (atiende M p) := rfl
  run_alone (driver_atomic M) hp

theorem Servida.despues {s : Db} (h : Servida M s) (p : Peticion) : Servida M (p.despues M s) := by
  obtain ⟨n, hn, -⟩ := peticion_sola (M := M) p s
  rw [← hn]
  exact .proceso _ _ h

end

/-! ## concrete processes -/

/-- the file whose load died half way, once more -/
theorem casos_congelados_mezclada : tiendaMezclada.caso.rows ≠ [] ∧ ∀ w : List ℕ,
    (tras motorConcreto peticionesMezcladas w tiendaMezclada).state.caso = tiendaMezclada.caso ∧
    ((tras motorConcreto peticionesMezcladas w tiendaMezclada).threads 0).result = none := by
  have hc : tiendaMezclada.caso.rows ≠ [] := by decide
  refine ⟨hc, fun w => ?_⟩
  obtain ⟨hsame, hnone⟩ :=
    casos_congelados tiendaMezclada_servida hc peticionesMezcladas w
  exact ⟨hsame, hnone 0 rfl⟩

/-- another month with the orders of May, and detections of everything -/
def peticionesDeJunio : ℕ → Peticion
  | 0 => .seedChilecompra 2024 6 0 (.csv compraMayo)
  | _ => .de (.detectChilecompra none)

theorem rebanada_quieta_mezclada : tiendaMezclada.contratosDe (fuenteDe 2024 5) ≠ [] ∧
    ∀ w : List ℕ, (tras motorConcreto peticionesDeJunio w tiendaMezclada).state.contratosDe
      (fuenteDe 2024 5) = tiendaMezclada.contratosDe (fuenteDe 2024 5) := by
  have hno : ∀ i, (peticionesDeJunio i).carga (fuenteDe 2024 5) = false := by
    intro i
    match i with
    | 0 => decide
    | _ + 1 => rfl
  exact ⟨by decide, fun w => (rebanada_quieta 2024 5 hno tiendaMezclada w).1⟩

end Fractura
