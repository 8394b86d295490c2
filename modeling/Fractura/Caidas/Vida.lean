import Fractura.Caidas.Carga
import Fractura.Chilecompra.Redeteccion

/-!
# The backend dies and comes back

`watchdog.sh` starts the backend again whenever it dies, after it removed the log of the database
file: what the process had executed since the last checkpoint is gone.  So a store comes back as it
was after some statement of some operation (`Op.hasta`), and `Vida M m d` are the stores in memory
and on disk that operations, checkpoints at any statement and crashes reach.

* `acusacion_tras_caida`   at every store of such a life an alert of a rule is one that the rule calls
                           for, or its slice has no contracts at all;
* `acusacion_huerfana`     the alerts of a slice without contracts stay until that slice is loaded or
                           searched by its name: a search of everything never looks at it;
* `deteccion_tras_caida`   a detection that died at any statement, run again, ends as if it had never
                           died, up to the moments of its alerts.
-/

namespace Fractura

open Db Prog

/-! ## the stores of a life with crashes -/

section
variable (M : Motor)

/-- the store when an operation dies after `n` statements -/
def Op.hasta (n : Nat) (s : Db) : Op → Db
  | cargar year month limit a => cut (exec M) n (loadChilecompraSlice M year month limit a) s
  | detectar fuente => cut (exec M) n (runDetection M fuente) s
  | cargarCasos csv => cut (exec M) n (loadCorrupcionChile M csv) s
  | detectarCasos => cut (exec M) n (runDetectionCorrupcion M) s

/-- the store in memory and the one on disk, from the empty schema -/
def Vida : Db → Db → Prop :=
  Life (fun op s => Op.despues M s op) (fun op n s => Op.hasta M n s op) .empty

/-- what every statement of every operation keeps, when the operations come one after the other -/
structure InvCaida (s : Db) : Prop extends InvTablas s where
  regla : ∀ a ∈ s.alerta.rows, a.patron ≠ none →
    ∃ f, a.fuente = some f ∧ (Justificada M s a f ∨ s.contratosDe f = [])
  caso : ∀ a ∈ s.alerta.rows, a.patron = none → ∃ x, a.id = "alert_" ++ x
  ids : ∀ a ∈ s.alerta.rows, a.patron ≠ none →
    ∃ year month, a.fuente = some (fuenteDe year month) ∧ EsIdRegla (fuenteDe year month) a.id

end

section
variable {M : Motor}

theorem Op.despues_eq_hasta (op : Op) (s : Db) : ∃ n, op.despues M s = op.hasta M n s := by
  cases op with
  | cargar year month limit a =>
    obtain ⟨n, hn⟩ := exists_cut_run (exec M) (loadChilecompraSlice M year month limit a) s
    exact ⟨n, hn.symm⟩
  | detectar fuente =>
    obtain ⟨n, hn⟩ := exists_cut_run (exec M) (runDetection M fuente) s
    exact ⟨n, hn.symm⟩
  | cargarCasos csv =>
    obtain ⟨n, hn⟩ := exists_cut_run (exec M) (loadCorrupcionChile M csv) s
    exact ⟨n, hn.symm⟩
  | detectarCasos =>
    obtain ⟨n, hn⟩ := exists_cut_run (exec M) (runDetectionCorrupcion M) s
    exact ⟨n, hn.symm⟩

/-! ### a load -/

/-- wherever a load dies, its slice has no alerts, or no contracts, or nothing happened -/
theorem Cortada.alertas {f : String} {s t : Db} (h : Cortada f s t) :
    Ajeno f s t ∧ (∀ a ∈ t.alerta.rows, a ∈ s.alerta.rows) ∧
      (t = s ∨ t.contratosDe f = [] ∨ ∀ a ∈ t.alerta.rows, a.fuente ≠ some f) := by
  have h1 : Ajeno f s (s.deleteContrato f) := .deleteContrato s
  have h2 : Ajeno f s (sinLaRebanada s f) := h1.trans _ _ _ (.deleteAlerta _)
  have hsub : ∀ a ∈ (sinLaRebanada s f).alerta.rows, a ∈ s.alerta.rows :=
    fun a ha => List.mem_of_mem_filter ha
  cases h with
  | intacta => exact ⟨.refl s, fun _ ha => ha, Or.inl rfl⟩
  | sinContratos =>
    refine ⟨h1, fun _ ha => ha, Or.inr (Or.inl ?_)⟩
    exact List.filter_eq_nil_iff.mpr fun c hc hf => mem_filter_fuente hc (of_decide_eq_true hf)
  | sinAlertas => exact ⟨h2, hsub, Or.inr (Or.inr (sinLaRebanada_alerta s f))⟩
  | sinEmpresas t hE =>
    have hale : t.alerta = (sinLaRebanada s f).alerta := by rw [(deleteEmpresa_ok hE).2]
    refine ⟨h2.trans _ _ _ (.deleteEmpresa hE), fun a ha => ?_, Or.inr (Or.inr ?_)⟩
    · rw [hale] at ha
      exact hsub a ha
    · exact (sinEmpresas_tabla hE).2.2
  | vaciada t u v hE hO haj hal =>
    have hu := limpia_of_deletes hE hO
    have hale : u.alerta = (sinLaRebanada s f).alerta := by
      rw [(deleteOrganismo_ok hO).2, (deleteEmpresa_ok hE).2]
    refine ⟨?_, fun a ha => ?_, Or.inr (Or.inr fun a ha => hu.alerta a (hal a ha))⟩
    · exact ((h2.trans _ _ _ (.deleteEmpresa hE)).trans _ _ _ (.deleteOrganismo hO)).trans _ _ _ haj
    · have ha' := hal a ha
      rw [hale] at ha'
      exact hsub a ha'

theorem InvCaida.cargar {s : Db} (hs : InvCaida M s) (year month limit : Int) (a : Archivo)
    (n : Nat) : InvCaida M (Op.hasta M n s (.cargar year month limit a)) := by
  let t := Op.hasta M n s (.cargar year month limit a)
  have htab : InvTablas t :=
    ((load_deCarga M year month limit a).keeps (exec M)
      fun q s x t hq hs h => hs.exec hq h).cut n hs.toInvTablas
  obtain ⟨haj, hsub, hcase⟩ := (cortada_load M year month limit a n s).alertas
  refine ⟨htab, fun b hb hp => ?_, fun b hb hp => hs.caso b (hsub b hb) hp,
    fun b hb hp => hs.ids b (hsub b hb) hp⟩
  obtain ⟨f, hbf, hj⟩ := hs.regla b (hsub b hb) hp
  refine ⟨f, hbf, ?_⟩
  by_cases hf : f = fuenteDe year month
  · subst hf
    rcases hcase with he | hnil | hno
    · rw [show Op.hasta M n s (.cargar year month limit a) = s from he]
      exact hj
    · exact Or.inr hnil
    · exact absurd hbf (hno b hb)
  · refine hj.imp (fun h => ?_) fun h => ?_
    · rw [justificada_iff] at h ⊢
      rw [show (Op.hasta M n s (.cargar year month limit a)).unidos f = s.unidos f from
        haj.unidos hf]
      exact h
    · exact (haj.contratosDe hf).trans h

/-! ### a detection -/

/-- the rows that a detection of the slices `fs` leaves wherever it dies: all the old ones that are no
rule alerts of these slices, and alerts that the rules call for -/
structure Buscada (M : Motor) (fs : List String) (s t : Db) : Prop where
  solo : SoloAlertas s t
  filas : ∀ a ∈ t.alerta.rows, a ∈ s.alerta.rows ∨
    ∃ f ∈ fs, ∃ b ∈ alertasReglas M f (s.unidos f), ∃ n, a = b.stamp n
  resto : ∀ a ∈ s.alerta.rows, ¬ DeLista fs a → a ∈ t.alerta.rows

theorem Buscada.refl (fs : List String) (s : Db) : Buscada M fs s s :=
  ⟨.refl s, fun _ ha => Or.inl ha, fun _ ha _ => ha⟩

theorem Buscada.borrada {fs : List String} {s t : Db} {f : String} (h : Buscada M fs s t)
    (hf : f ∈ fs) : Buscada M fs s (t.deleteAlertaPatron f) := by
  refine ⟨h.solo.trans rfl, fun a ha => h.filas a (List.mem_of_mem_filter ha), fun a ha hd => ?_⟩
  exact List.mem_filter.mpr ⟨h.resto a ha hd, decide_eq_true fun hp => hd ⟨hp.2, f, hf, hp.1⟩⟩

theorem Buscada.insertada {fs : List String} {s t u : Db} {f : String} {a : Alerta}
    (h : Buscada M fs s t) (hf : f ∈ fs) (ha : a ∈ alertasReglas M f (s.unidos f))
    (hu : t.insertAlerta a = .ok u) : Buscada M fs s u := by
  obtain ⟨hid, htab⟩ := insertAlerta_ok hu
  refine ⟨h.solo.trans ?_, fun b hb => ?_, fun b hb hd => ?_⟩
  · unfold SoloAlertas
    rw [htab]
  · rw [htab] at hb
    rcases List.mem_append.mp hb with hb | hb
    · exact h.filas b hb
    · exact Or.inr ⟨f, hf, a, ha, t.reloj, List.mem_singleton.mp hb⟩
  · rw [htab]
    exact List.mem_append_left _ (h.resto b hb hd)

theorem keeps_insertarAlertas {fs : List String} {s : Db} {f : String} {l : List Alerta}
    (hf : f ∈ fs) (h : ∀ a ∈ l, a ∈ alertasReglas M f (s.unidos f)) :
    (insertarAlertas l).Keeps (exec M) (Buscada M fs s) :=
  keeps_each _ fun a ha _ _ _ ht hx => ⟨ht.insertada hf (h a ha) (exec_dml_ok hx), trivial⟩

theorem keeps_consulta {α : Type} {I : Db → Prop} {q : Consulta} {k : List q.forma.fila → Prg α}
    (h : ∀ t rows, I t → filas M t q = .ok rows → (k (leer q rows)).Keeps (exec M) I) :
    ((consulta q).bind k).Keeps (exec M) I := by
  intro t r t' ht hx
  obtain ⟨rfl, rows, hrows, rfl⟩ := exec_query_ok hx
  exact ⟨ht, h t' rows ht hrows⟩

theorem keeps_regla {α : Type} {fs : List String} {s : Db} {f : String} {q : Consulta}
    {rows : List q.forma.fila} {g : q.forma.fila → Alerta} {k : List q.forma.fila → Prg α}
    (hf : f ∈ fs) (hq : ∀ t, Buscada M fs s t → filas M t q = .ok rows) (hu : q.una = false)
    (hg : ∀ r ∈ rows, g r ∈ alertasReglas M f (s.unidos f))
    (hk : ∀ p, (k p).Keeps (exec M) (Buscada M fs s)) : (show Prg α from do
      let p ← consulta q
      insertarAlertas (p.map g)
      k p).Keeps (exec M) (Buscada M fs s) := by
  refine keeps_consulta fun t rows' ht hrows => ?_
  rw [hq t ht] at hrows
  cases hrows
  rw [show leer q rows = rows by unfold leer; rw [hu]; rfl]
  refine keeps_bind _ (keeps_insertarAlertas hf fun a ha => ?_) fun _ => hk _
  obtain ⟨r, hr, rfl⟩ := List.mem_map.mp ha
  exact hg r hr

theorem keeps_detectar {fs : List String} {f : String} (hf : f ∈ fs) (s : Db) :
    (Fractura.detectar M f).Keeps (exec M) (Buscada M fs s) := by
  have hunico (l : List Nat) : (unico l).Keeps (exec M) (Buscada M fs s) := by cases l <;> trivial
  refine keeps_consulta fun _ _ _ _ => keeps_bind _ (hunico _) fun total => ?_
  rw [umbrales_eq]
  refine keeps_bind _ (fun t r t' ht hx => ?_) fun _ => ?_
  · cases exec_dml_ok hx
    exact ⟨ht.borrada hf, trivial⟩
  refine keeps_regla hf (fun t ht => by rw [filas_p1, ht.solo.unidos]) rfl
    (fun r hr => mem_alertasReglas.mpr (Or.inl ⟨r, hr, rfl⟩)) fun p1 => ?_
  refine keeps_regla hf (fun t ht => by rw [filas_p2, ht.solo.unidos]) rfl
    (fun r hr => mem_alertasReglas.mpr (Or.inr (Or.inl ⟨r, hr, rfl⟩))) fun p2 => ?_
  exact keeps_regla hf (fun t ht => by rw [filas_p3, ht.solo.unidos]) rfl
    (fun r hr => mem_alertasReglas.mpr (Or.inr (Or.inr ⟨r, hr, rfl⟩))) fun p3 => trivial

theorem keeps_detectarTodas {fs : List String} (s : Db) {gs : List String}
    (h : ∀ g ∈ gs, g ∈ fs) : (detectarTodas M gs).Keeps (exec M) (Buscada M fs s) := by
  induction gs with
  | nil => trivial
  | cons g gs ih =>
    obtain ⟨hg, hgs⟩ := List.forall_mem_cons.mp h
    exact keeps_bind _ (keeps_detectar hg s) fun _ => keeps_bind _ (ih hgs) fun _ => trivial

theorem fuentesDe_congr {s t : Db} (h : t.contrato = s.contrato) (o : Option String) :
    fuentesDe M t o = fuentesDe M s o := by
  cases o with
  | none =>
    unfold fuentesDe
    rw [h]
  | some f => rfl

/-- **Wherever a detection dies** it leaves the rows outside its slices, and alerts of the rules. -/
theorem keeps_runDetection (s : Db) (o : Option String) :
    (runDetection M o).Keeps (exec M) (Buscada M (fuentesDe M s o) s) := by
  cases o with
  | none =>
    refine keeps_consulta fun t rows ht hq => keeps_detectarTodas s fun g hg => ?_
    have hrows : filas M t .fuentes = .ok (fuentesDe M t none) := rfl
    rw [hrows, fuentesDe_congr ht.solo.contrato] at hq
    cases hq
    exact hg
  | some f => exact keeps_detectarTodas s fun g hg => hg

theorem InvCaida.soloAlertas {s t : Db} (hs : InvCaida M s) (h : SoloAlertas s t)
    (ha : ∀ a ∈ t.alerta.rows, a ∈ s.alerta.rows ∨
      (∃ f, ∃ b ∈ alertasReglas M f (s.unidos f), ∃ n, a = b.stamp n) ∨
      (a.patron = none ∧ ∃ x, a.id = "alert_" ++ x)) : InvCaida M t := by
  refine ⟨⟨?_, ?_, ?_⟩, fun a hat hp => ?_, fun a hat hp => ?_, fun a hat hp => ?_⟩
  · rw [h.contrato]; exact hs.slice
  · rw [h.contrato]; exact hs.padres
  · rw [h.empresa]; exact hs.rut
  · rcases ha a hat with has | ⟨f, b, hb, n, rfl⟩ | ⟨hn, -⟩
    · obtain ⟨f, hf, hj⟩ := hs.regla a has hp
      refine ⟨f, hf, hj.imp (fun hj => ?_) fun hj => ?_⟩
      · rw [justificada_iff] at hj ⊢
        rw [h.unidos]
        exact hj
      · exact (contratosDe_congr h.contrato f).trans hj
    · obtain ⟨hf, -, hsin⟩ := alertasReglas_fuente hb
      refine ⟨f, hf, Or.inl (justificada_iff.mpr ?_)⟩
      rw [h.unidos, Alerta.sinHora_stamp, hsin]
      exact hb
    · exact absurd hn hp
  · rcases ha a hat with has | ⟨f, b, hb, n, rfl⟩ | ⟨-, hx⟩
    · exact hs.caso a has hp
    · exact absurd hp (alertasReglas_fuente hb).2.1
    · exact hx
  · rcases ha a hat with has | ⟨f, b, hb, n, rfl⟩ | ⟨hn, -⟩
    · exact hs.ids a has hp
    · obtain ⟨year, month, rfl⟩ := slice_of_regla hs.toInvTablas hb
      exact ⟨year, month, (alertasReglas_fuente hb).1,
        show EsIdRegla (fuenteDe year month) b.id from idRegla hb⟩
    · exact absurd hn hp

theorem InvCaida.buscada {fs : List String} {s t : Db} (hs : InvCaida M s)
    (h : Buscada M fs s t) : InvCaida M t := by
  refine hs.soloAlertas h.solo fun a ha => ?_
  rcases h.filas a ha with ha | ⟨f, -, b, hb, n, hn⟩
  · exact Or.inl ha
  · exact Or.inr (Or.inl ⟨f, b, hb, n, hn⟩)

theorem InvCaida.detectar {s : Db} (hs : InvCaida M s) (o : Option String) (n : Nat) :
    InvCaida M (Op.hasta M n s (.detectar o)) :=
  hs.buscada ((keeps_runDetection s o).cut n (.refl _ s))

/-! ### the documented cases -/

theorem InvCaida.cargarCasos {s : Db} (hs : InvCaida M s) (csv : Option (List FilaDict))
    (n : Nat) : InvCaida M (Op.hasta M n s (.cargarCasos csv)) := by
  refine ((loadCorrupcion_deCasos M csv).keeps (exec M) fun q t x u hq ht h => ?_).cut n hs
  obtain ⟨horg, hemp, hcon, hal, -⟩ := hq.tablas h
  refine ⟨⟨?_, ?_, ?_⟩, fun a ha hp => ?_, ?_, ?_⟩
  · rw [hcon]; exact ht.slice
  · rw [hcon]; exact ht.padres
  · rw [hemp]; exact ht.rut
  · rw [hal] at ha
    obtain ⟨f, hf, hj⟩ := ht.regla a ha hp
    refine ⟨f, hf, hj.imp (fun hj => ?_) fun hj => ?_⟩
    · rw [justificada_iff] at hj ⊢
      rw [unidos_congr_tablas hcon hemp]
      exact hj
    · exact (contratosDe_congr hcon f).trans hj
  · rw [hal]
    exact ht.caso
  · rw [hal]
    exact ht.ids

theorem keeps_detectarCasos (s : Db) : (runDetectionCorrupcion M).Keeps (exec M) fun t =>
    SoloAlertas s t ∧ ∀ a ∈ t.alerta.rows, a ∈ s.alerta.rows ∨
      (a.patron = none ∧ ∃ x, a.id = "alert_" ++ x) := by
  refine keeps_consulta fun t rows _ _ => keeps_bind _ (keeps_each _ fun a ha => ?_) fun _ => trivial
  intro t r u ht hx
  obtain ⟨hid, htab⟩ := insertAlerta_ok (exec_dml_ok hx)
  refine ⟨⟨ht.1.trans ?_, fun b hb => ?_⟩, trivial⟩
  · unfold SoloAlertas
    rw [htab]
  · rw [htab] at hb
    rcases List.mem_append.mp hb with hb | hb
    · exact ht.2 b hb
    · obtain ⟨c, -, sev, rfl⟩ := mem_alertasCasos ha
      rw [List.mem_singleton.mp hb]
      exact Or.inr ⟨rfl, c.id ++ "_cc", String.append_assoc⟩

theorem InvCaida.detectarCasos {s : Db} (hs : InvCaida M s) (n : Nat) :
    InvCaida M (Op.hasta M n s .detectarCasos) := by
  obtain ⟨hsolo, hrows⟩ := (keeps_detectarCasos (M := M) s).cut n ⟨.refl s, fun _ ha => Or.inl ha⟩
  exact hs.soloAlertas hsolo fun a ha => (hrows a ha).imp_right Or.inr

/-! ### every life -/

theorem InvCaida.vacio : InvCaida M .empty := by
  refine ⟨⟨?_, ?_, ?_⟩, ?_, ?_, ?_⟩ <;> exact fun x hx => absurd hx List.not_mem_nil

/-- **One operation that dies keeps the invariant**, at every statement. -/
theorem InvCaida.hasta {s : Db} (hs : InvCaida M s) (op : Op) (n : Nat) :
    InvCaida M (op.hasta M n s) := by
  cases op with
  | cargar year month limit a => exact hs.cargar year month limit a n
  | detectar fuente => exact hs.detectar fuente n
  | cargarCasos csv => exact hs.cargarCasos csv n
  | detectarCasos => exact hs.detectarCasos n

theorem InvCaida.despues {s : Db} (hs : InvCaida M s) (op : Op) : InvCaida M (op.despues M s) := by
  obtain ⟨n, hn⟩ := op.despues_eq_hasta (M := M) s
  rw [hn]
  exact hs.hasta op n

theorem Vida.inv {m d : Db} (h : Vida M m d) : InvCaida M m ∧ InvCaida M d :=
  h.keeps InvCaida.vacio (fun op _ hs => hs.despues op) fun op n _ hs => hs.hasta op n

/-- **In a life with crashes** an alert of a rule, in memory or on disk, is one that the rule calls for
now, or its slice has no contracts at all. -/
theorem acusacion_tras_caida {m d : Db} (h : Vida M m d) {s : Db} (hs : s = m ∨ s = d) :
    ∀ a ∈ s.alerta.rows, a.patron ≠ none →
      ∃ f, a.fuente = some f ∧ (Justificada M s a f ∨ s.contratosDe f = []) := by
  rcases hs with rfl | rfl
  · exact h.inv.1.regla
  · exact h.inv.2.regla

theorem Alcanzable.vida {s : Db} (h : Alcanzable M s) : Vida M s .empty := by
  induction h with
  | vacio => exact Life.start
  | paso op _ ih => exact Life.run op ih

/-- the load of the slice of `tiendaRecurrente`, again -/
def recargaRecurrente : Op := .cargar 2024 5 0 (.csv comprasRecurrentes)

/-- that slice, found and searched, whose second load died after its first `DELETE` -/
def tiendaCaida : Db := Op.hasta motorConcreto 1 tiendaRecurrente recargaRecurrente

theorem tiendaRecurrente_vida : Vida motorConcreto tiendaRecurrente .empty :=
  tiendaRecurrente_alcanzable.vida

theorem tiendaCaida_vida : Vida motorConcreto tiendaCaida tiendaCaida :=
  Life.crash (Life.checkpoint recargaRecurrente 1 tiendaRecurrente_vida)

/-- an accusation without contracts is on disk -/
theorem acusacion_tras_caida_recurrente :
    (∃ a ∈ tiendaCaida.alerta.rows, a.patron ≠ none ∧
      a.fuente = some "chilecompra_oc_2024-05" ∧
      ¬ Justificada motorConcreto tiendaCaida a "chilecompra_oc_2024-05") ∧
    ∀ a ∈ tiendaCaida.alerta.rows, a.patron ≠ none →
      ∃ f, a.fuente = some f ∧ tiendaCaida.contratosDe f = [] := by
  have hno : ∀ a ∈ tiendaCaida.alerta.rows, ∀ f ∈ a.fuente,
      ¬ Justificada motorConcreto tiendaCaida a f := by
    simp only [justificada_iff]
    decide +kernel
  have hsome : ∃ a ∈ tiendaCaida.alerta.rows, a.patron ≠ none ∧
      a.fuente = some "chilecompra_oc_2024-05" := by decide +kernel
  obtain ⟨a, ha, hp, hf⟩ := hsome
  refine ⟨⟨a, ha, hp, hf, hno a ha _ hf⟩, fun a ha hp => ?_⟩
  obtain ⟨f, hf, hj⟩ := acusacion_tras_caida tiendaCaida_vida (Or.inl rfl) a ha hp
  exact ⟨f, hf, hj.resolve_left (hno a ha f hf)⟩

/-! ## the alerts of a slice without contracts -/

/-- the operations that take away the old alerts of the rules of `f` -/
inductive Repara (M : Motor) (f : String) : Op → Prop where
  | cargar (year month limit : Int) (csv : List FilaCsv) (fr : Frames) (hf : fuenteDe year month = f)
      (h : frames M f csv limit = .ok fr) : Repara M f (.cargar year month limit (.csv csv))
  | detectar : Repara M f (.detectar (some f))

theorem despues_of_not_repara {year month limit : Int} {a : Archivo} (s : Db)
    (h : ¬ Repara M (fuenteDe year month) (.cargar year month limit a)) :
    Op.despues M s (.cargar year month limit a) = s := by
  unfold Op.despues loadChilecompraSlice
  cases a with
  | ausente => rfl
  | ilegible => rfl
  | csv csv =>
    cases hfr : frames M (fuenteDe year month) csv limit with
    | error e => simp only [hfr, Prog.run]
    | ok fr => exact absurd (.cargar year month limit csv fr rfl hfr) h

theorem detectarTodas_huerfana {s : Db} {f : String} {a : Alerta} {fs : List String} (hf : f ∉ fs)
    (hfa : a.fuente = some f) : a ∈ (Prog.run (exec M) (detectarTodas M fs) s).2.alerta.rows ↔
      a ∈ s.alerta.rows := by
  refine detectarTodas_resto fun hd => ?_
  obtain ⟨-, g, hg, hga⟩ := hd
  rw [hfa] at hga
  cases hga
  exact hf hg

theorem despues_cargarCasos (csv : Option (List FilaDict)) (s : Db) :
    ((Op.cargarCasos csv).despues M s).contrato = s.contrato ∧
      ((Op.cargarCasos csv).despues M s).alerta = s.alerta := by
  have hkeep : (loadCorrupcionChile M csv).Keeps (exec M) fun t =>
      t.contrato = s.contrato ∧ t.alerta = s.alerta :=
    (loadCorrupcion_deCasos M csv).keeps (exec M) fun q t x u hq ht h => by
      obtain ⟨-, -, hcon, hal, -⟩ := hq.tablas h
      exact ⟨hcon.trans ht.1, hal.trans ht.2⟩
  obtain ⟨n, hn⟩ := (Op.cargarCasos csv).despues_eq_hasta (M := M) s
  rw [hn]
  exact hkeep.cut n ⟨rfl, rfl⟩

theorem despues_huerfana {s : Db} {f : String} {op : Op} (hno : ¬ Repara M f op)
    (hf : s.contratosDe f = []) : (op.despues M s).contratosDe f = [] ∧
      ∀ a, a.fuente = some f → a ∈ s.alerta.rows → a ∈ (op.despues M s).alerta.rows := by
  cases op with
  | cargar year month limit a =>
    by_cases he : f = fuenteDe year month
    · subst he
      rw [despues_of_not_repara s hno]
      exact ⟨hf, fun _ _ ha => ha⟩
    · have haj := load_ajeno M year month limit a s
      refine ⟨(haj.contratosDe he).trans hf, fun b hb hm => ?_⟩
      have hbo : b ∈ otros Alerta.fuente (fuenteDe year month) s.alerta.rows :=
        mem_otros.mpr ⟨hm, fun e => he (Option.some.inj (hb.symm.trans e))⟩
      rw [← haj.alerta] at hbo
      exact (mem_otros.mp hbo).1
  | detectar o =>
    have hsolo := runDetection_soloAlertas M o s
    refine ⟨(contratosDe_congr hsolo.contrato f).trans hf, fun a ha hm => ?_⟩
    show a ∈ (Prog.run (exec M) (runDetection M o) s).2.alerta.rows
    rw [run_runDetection]
    refine (detectarTodas_huerfana ?_ ha).mpr hm
    cases o with
    | none =>
      intro hmem
      obtain ⟨c, hc, hcf⟩ := List.mem_filterMap.mp
        (List.mem_filter.mp (List.mem_dedup.mp (M.mem_orden.mp hmem))).1
      have hcm := mem_contratosDe.mpr ⟨hc, hcf⟩
      rw [hf] at hcm
      cases hcm
    | some g =>
      intro hmem
      rw [List.mem_singleton.mp hmem] at hno
      exact hno .detectar
  | cargarCasos csv =>
    obtain ⟨hcon, hal⟩ := despues_cargarCasos (M := M) csv s
    refine ⟨(contratosDe_congr hcon f).trans hf, fun a _ ha => ?_⟩
    rw [hal]
    exact ha
  | detectarCasos =>
    obtain ⟨l, -, hins⟩ := run_detectarCasos_insertadas (M := M) s
    refine ⟨(contratosDe_congr hins.contrato f).trans hf, fun a _ ha => ?_⟩
    rw [show (Op.despues M s .detectarCasos).alerta.rows = _ from hins.rows]
    exact List.mem_append_left _ ha

theorem despues_repara {s : Db} {f : String} {op : Op} (h : Repara M f op) {a : Alerta}
    (ha : a ∈ (op.despues M s).alerta.rows) (hf : a.fuente = some f) (hp : a.patron ≠ none) :
    Justificada M (op.despues M s) a f := by
  cases h with
  | cargar year month limit csv fr hfm hfr =>
    subst hfm
    obtain ⟨res, hg, -⟩ := run_load (M := M) (s := s) hfr
    have hale : (Op.despues M s (.cargar year month limit (.csv csv))).alerta =
        s.alerta.filter fun b => decide (b.fuente ≠ some (fuenteDe year month)) := by
      show (Prog.run (exec M) (loadChilecompraSlice M year month limit (.csv csv)) s).2.alerta = _
      generalize (Prog.run (exec M) (loadChilecompraSlice M year month limit (.csv csv)) s).2 = t at hg
      generalize htab : t.toTablas = tab at hg
      cases hg <;> rfl
    rw [hale] at ha
    exact absurd hf (mem_filter_fuente ha)
  | detectar =>
    have hrun : Op.despues M s (.detectar (some f)) =
        (Prog.run (exec M) (Fractura.detectar M f) s).2 := by
      show (Prog.run (exec M) ((Fractura.detectar M f).bind fun r => .ret [(f, r)]) s).2 = _
      rw [Prog.run_bind]
      cases Prog.run (exec M) (Fractura.detectar M f) s with
      | mk res t => cases res <;> rfl
    rw [hrun] at ha ⊢
    obtain ⟨hsolo, hrows⟩ := detectar_filas M f s
    rw [justificada_iff, hsolo.unidos]
    rcases hrows a ha with ⟨-, hn⟩ | ⟨b, hb, n, rfl⟩
    · exact absurd ⟨hf, hp⟩ hn
    · rw [Alerta.sinHora_stamp, (alertasReglas_fuente hb).2.2]
      exact hb

/-- **The alerts of a slice without contracts stay** through any operations that neither load the
slice nor search it by its name, a search of everything included; the first one that does leaves of
them only what the rules call for. -/
theorem acusacion_huerfana {s : Db} {f : String} (hf : s.contratosDe f = []) (ops : List Op)
    (hno : ∀ op ∈ ops, ¬ Repara M f op) :
    (∀ a ∈ s.alerta.rows, a.fuente = some f →
      a ∈ (ops.foldl (fun s op => op.despues M s) s).alerta.rows) ∧
    ∀ op, Repara M f op → ∀ a ∈ (op.despues M (ops.foldl (fun s op => op.despues M s) s)).alerta.rows,
      a.fuente = some f → a.patron ≠ none →
        Justificada M (op.despues M (ops.foldl (fun s op => op.despues M s) s)) a f := by
  refine ⟨?_, fun op h a ha haf hp => despues_repara h ha haf hp⟩
  induction ops generalizing s with
  | nil => exact fun a ha _ => ha
  | cons op ops ih =>
    obtain ⟨hop, hops⟩ := List.forall_mem_cons.mp hno
    obtain ⟨hnil, hstay⟩ := despues_huerfana hop hf
    exact fun a ha haf => ih hnil hops a (hstay a haf ha) haf

end

/-- a search of everything, and then one of the slice -/
theorem acusacion_huerfana_recurrente :
    (∃ a ∈ (Op.despues motorConcreto tiendaCaida (.detectar none)).alerta.rows,
      a.id = "p1_76-K_chilecompra_oc_2024-05") ∧
    Repara motorConcreto "chilecompra_oc_2024-05" (.detectar (some "chilecompra_oc_2024-05")) := by
  have hno : ∀ op ∈ [Op.detectar none], ¬ Repara motorConcreto "chilecompra_oc_2024-05" op := by
    intro op hop h
    rw [List.mem_singleton.mp hop] at h
    cases h
  have hnil : tiendaCaida.contratosDe "chilecompra_oc_2024-05" = [] := by decide +kernel
  obtain ⟨a, ha, hf, hid⟩ : ∃ a ∈ tiendaCaida.alerta.rows,
      a.fuente = some "chilecompra_oc_2024-05" ∧ a.id = "p1_76-K_chilecompra_oc_2024-05" := by
    decide +kernel
  exact ⟨⟨a, (acusacion_huerfana hnil [.detectar none] hno).1 a ha hf, hid⟩, .detectar⟩

end Fractura
