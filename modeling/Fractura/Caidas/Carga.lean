import Fractura.Chilecompra.Guardar
import Fractura.Lib.Crash

/-!
# A load that dies

The backend may die after any statement of a load.  `Cortada f s` are the stores that a load of the
slice `f` can leave of the store `s` when it dies (`cortada_load`): the `DELETE`s come first, and what
follows them only adds rows of `f`.  From any of them the `DELETE`s lead to the store that they would
have led to (`Cortada.run_vaciar`).

`carga_tras_caida`: a load that died at any statement, run again, ends as if it had never died;
`carga_tras_caidas`: so it does after any number of them, of other files too.

A store is reopened with its write-ahead log, so it is the one of the last statement; `watchdog.sh`, which
deletes the log, restarts from the statement of the last checkpoint.  A file that is loaded again is read
as the same rows (`Motor.orden`).
-/

namespace Fractura

open Db Prog

/-! ## a load in two parts -/

/-- the four `DELETE`s of a load -/
def vaciar (f : String) : Prg Unit := do
  ejecutar (.deleteContrato f)
  ejecutar (.deleteAlerta f)
  ejecutar (.deleteEmpresa f)
  ejecutar (.deleteOrganismo f)

/-- its inserts and counts -/
def reponer (f : String) (fr : Frames) : Prg Carga := do
  executemany fr.org .insertOrganismo
  executemany fr.emp .insertEmpresa
  executemany fr.con .insertContrato
  let organismos ← unico (← consulta (.countOrganismo f))
  let empresas ← unico (← consulta (.countEmpresa f))
  let contratos ← unico (← consulta (.countContrato f))
  return ⟨organismos, empresas, contratos, fr.warnDescartados, f⟩

theorem guardar_eq (f : String) (fr : Frames) :
    guardar f fr = (vaciar f).bind fun _ => reponer f fr := rfl

theorem Db.ext_tablas {s t : Db} (h : s.toTablas = t.toTablas) : s = t := by
  cases s
  cases t
  cases h
  rfl

section
variable {M : Motor} {f : String} {s t : Db}

theorem cut_ejecutar {α : Type} {d : Dml} (h : d.exec s = .ok t) (k : Unit → Prg α) (n : Nat) :
    cut (exec M) (n + 1) ((ejecutar d).bind k) s = cut (exec M) n (k ()) t :=
  cut_call_ok _ n (exec_dml h)

theorem cut_ejecutar_error {α : Type} {d : Dml} {e : Error} (h : d.exec s = .error e)
    (k : Unit → Prg α) (n : Nat) : cut (exec M) n ((ejecutar d).bind k) s = s :=
  cut_call_error _ n (exec_dml_error h)

/-! ## the stores that a load leaves when it dies -/

/-- the store after the first two `DELETE`s -/
def sinLaRebanada (s : Db) (f : String) : Db := (s.deleteContrato f).deleteAlerta f

/-- **The stores where a load of `f` can die**: as it was, after each of the `DELETE`s, or later with
everything of the other slices in place. -/
inductive Cortada (f : String) (s : Db) : Db → Prop where
  | intacta : Cortada f s s
  | sinContratos : Cortada f s (s.deleteContrato f)
  | sinAlertas : Cortada f s (sinLaRebanada s f)
  | sinEmpresas (t : Db) (h : (sinLaRebanada s f).deleteEmpresa f = .ok t) : Cortada f s t
  | vaciada (t u v : Db) (h : (sinLaRebanada s f).deleteEmpresa f = .ok t)
      (h' : t.deleteOrganismo f = .ok u) (haj : Ajeno f u v)
      (hal : ∀ a ∈ v.alerta.rows, a ∈ u.alerta.rows) : Cortada f s v

theorem reponer_deCarga {fr : Frames} (h : fr.Wf f) : (reponer f fr).All (DeCarga f) := by
  have hg := guardar_deCarga h
  exact ((((hg.2 ()).2 ()).2 ()).2 ())

theorem cortada_guardar {fr : Frames} (hw : fr.Wf f) (n : Nat) (s : Db) :
    Cortada f s (cut (exec M) n (guardar f fr) s) := by
  let resto : Prg Carga := (ejecutar (.deleteOrganismo f)).bind fun _ => reponer f fr
  match n with
  | 0 => exact .intacta
  | 1 => exact .sinContratos
  | 2 => exact .sinAlertas
  | n + 3 =>
    show Cortada f s (cut (exec M) (n + 1) ((ejecutar (.deleteEmpresa f)).bind fun _ => resto)
      (sinLaRebanada s f))
    cases hE : (sinLaRebanada s f).deleteEmpresa f with
    | error e =>
      rw [cut_ejecutar_error (d := .deleteEmpresa f) hE]
      exact .sinAlertas
    | ok t =>
      rw [cut_ejecutar (d := .deleteEmpresa f) hE]
      cases n with
      | zero => exact .sinEmpresas t hE
      | succ n =>
        cases hO : t.deleteOrganismo f with
        | error e =>
          rw [show cut (exec M) (n + 1) resto t = t from
            cut_ejecutar_error (d := .deleteOrganismo f) hO _ _]
          exact .sinEmpresas t hE
        | ok u =>
          rw [show cut (exec M) (n + 1) resto t = cut (exec M) n (reponer f fr) u from
            cut_ejecutar (d := .deleteOrganismo f) hO _ _]
          have hkeep : (reponer f fr).Keeps (exec M) fun v =>
              Ajeno f u v ∧ ∀ a ∈ v.alerta.rows, a ∈ u.alerta.rows :=
            (reponer_deCarga hw).keeps (exec M) fun q v r w hq hv hw =>
              ⟨hv.1.trans _ _ _ (exec_ajeno hq hw), fun a ha => hv.2 a ((exec_aporta hq hw).alerta a ha)⟩
          obtain ⟨haj, hal⟩ := hkeep.cut n ⟨Ajeno.refl u, fun _ ha => ha⟩
          exact .vaciada t u _ hE hO haj hal

theorem cortada_load (M : Motor) (year month limit : Int) (a : Archivo) (n : Nat) (s : Db) :
    Cortada (fuenteDe year month) s
      (cut (exec M) n (loadChilecompraSlice M year month limit a) s) := by
  unfold loadChilecompraSlice
  cases a with
  | ausente =>
    rw [cut_ret]
    exact .intacta
  | ilegible =>
    rw [cut_raise]
    exact .intacta
  | csv csv =>
    dsimp only
    cases hfr : frames M (fuenteDe year month) csv limit with
    | error e =>
      dsimp only
      rw [cut_raise]
      exact .intacta
    | ok fr =>
      rw [show cut (exec M) n (do
          let c ← guardar (fuenteDe year month) fr
          return ResultadoCarga.ok c) s = _ from cut_map _ n _ _ s]
      exact cortada_guardar (frames_wf hfr) n s

/-! ## running it again -/

theorem deleteContrato_of_none (h : ∀ c ∈ s.contrato.rows, c.fuente ≠ some f) :
    s.deleteContrato f = s := by
  apply Db.ext_tablas
  show (⟨s.organismo, s.empresa, s.contrato.filter _, s.alerta, s.caso, s.entidad, s.reloj⟩ :
    Tablas) = s.toTablas
  rw [KeyTable.filter_of_all fun c hc => decide_eq_true (h c hc)]

theorem deleteAlerta_of_none (h : ∀ a ∈ s.alerta.rows, a.fuente ≠ some f) :
    s.deleteAlerta f = s := by
  apply Db.ext_tablas
  show (⟨s.organismo, s.empresa, s.contrato, s.alerta.filter _, s.caso, s.entidad, s.reloj⟩ :
    Tablas) = s.toTablas
  rw [KeyTable.filter_of_all fun a ha => decide_eq_true (h a ha)]

theorem deleteEmpresa_of_none (h : ∀ e ∈ s.empresa.rows, e.fuente ≠ some f) :
    s.deleteEmpresa f = .ok s := by
  have hno : ¬ s.EmpresaEnUso f := fun ⟨e, he, hf, _⟩ => h e he hf
  obtain ⟨t, ht, htab⟩ := deleteEmpresa_eq hno
  rw [ht]
  congr 1
  apply Db.ext_tablas
  rw [htab]
  show (⟨s.organismo, s.empresa.filter _, s.contrato, s.alerta, s.caso, s.entidad, s.reloj⟩ :
    Tablas) = s.toTablas
  rw [KeyTable.filter_of_all fun e he => decide_eq_true (h e he)]

/-- no row of the slice in the four tables that a load fills -/
structure Limpia (f : String) (s : Db) : Prop where
  organismo : ∀ o ∈ s.organismo.rows, o.fuente ≠ some f
  empresa : ∀ e ∈ s.empresa.rows, e.fuente ≠ some f
  contrato : ∀ c ∈ s.contrato.rows, c.fuente ≠ some f
  alerta : ∀ a ∈ s.alerta.rows, a.fuente ≠ some f

theorem mem_filter_fuente {ρ : Type} {fuente : ρ → Option String} {l : List ρ} {r : ρ}
    (h : r ∈ l.filter fun r => decide (fuente r ≠ some f)) : fuente r ≠ some f :=
  of_decide_eq_true (List.mem_filter.mp h).2

theorem sinLaRebanada_contrato (s : Db) (f : String) :
    ∀ c ∈ (sinLaRebanada s f).contrato.rows, c.fuente ≠ some f := fun _ hc => mem_filter_fuente hc

theorem sinLaRebanada_alerta (s : Db) (f : String) :
    ∀ a ∈ (sinLaRebanada s f).alerta.rows, a.fuente ≠ some f := fun _ ha => mem_filter_fuente ha

theorem sinLaRebanada_of_none (h : ∀ c ∈ s.contrato.rows, c.fuente ≠ some f)
    (h' : ∀ a ∈ s.alerta.rows, a.fuente ≠ some f) : sinLaRebanada s f = s := by
  unfold sinLaRebanada
  rw [deleteContrato_of_none h, deleteAlerta_of_none h']

theorem sinEmpresas_tabla (h : (sinLaRebanada s f).deleteEmpresa f = .ok t) :
    (∀ e ∈ t.empresa.rows, e.fuente ≠ some f) ∧ (∀ c ∈ t.contrato.rows, c.fuente ≠ some f) ∧
      ∀ a ∈ t.alerta.rows, a.fuente ≠ some f := by
  obtain ⟨-, ht⟩ := deleteEmpresa_ok h
  rw [ht]
  exact ⟨fun _ he => mem_filter_fuente he, sinLaRebanada_contrato s f, sinLaRebanada_alerta s f⟩

theorem limpia_of_deletes {u : Db} (h : (sinLaRebanada s f).deleteEmpresa f = .ok t)
    (h' : t.deleteOrganismo f = .ok u) : Limpia f u := by
  obtain ⟨he, hc, ha⟩ := sinEmpresas_tabla h
  obtain ⟨-, hu⟩ := deleteOrganismo_ok h'
  refine ⟨?_, ?_, ?_, ?_⟩ <;> rw [hu]
  · exact fun _ ho => mem_filter_fuente ho
  · exact he
  · exact hc
  · exact ha

/-- **The `DELETE`s take a damaged slice back to the store without it**: whatever a load of `f`
did after them, its own `DELETE`s undo. -/
theorem Limpia.deletes {u v : Db} (hu : Limpia f u) (haj : Ajeno f u v) :
    ∃ t, (sinLaRebanada v f).deleteEmpresa f = .ok t ∧ t.deleteOrganismo f = .ok u := by
  have hcon : (sinLaRebanada v f).contrato = u.contrato := by
    apply KeyTable.ext
    refine haj.contrato.trans ?_
    exact List.filter_eq_self.mpr fun c hc => decide_eq_true (hu.contrato c hc)
  have hale : (sinLaRebanada v f).alerta = u.alerta := by
    apply KeyTable.ext
    refine haj.alerta.trans ?_
    exact List.filter_eq_self.mpr fun a ha => decide_eq_true (hu.alerta a ha)
  have hemp : (sinLaRebanada v f).empresa.filter (fun e => decide (e.fuente ≠ some f)) =
      u.empresa := by
    apply KeyTable.ext
    refine haj.empresa.trans ?_
    exact List.filter_eq_self.mpr fun e he => decide_eq_true (hu.empresa e he)
  have horg : v.organismo.filter (fun o => decide (o.fuente ≠ some f)) = u.organismo := by
    apply KeyTable.ext
    refine haj.organismo.trans ?_
    exact List.filter_eq_self.mpr fun o ho => decide_eq_true (hu.organismo o ho)
  -- no contract that is left references a parent of the slice
  have hE : ¬ (sinLaRebanada v f).EmpresaEnUso f := by
    rintro ⟨e, he, hf, c, hc, hk⟩
    rw [hcon] at hc
    have hfind := haj.refEmp c hc (hu.contrato c hc) e.id hk
    rw [show v.empresa.find e.id = some e from KeyTable.find_eq_some.mpr ⟨he, rfl⟩] at hfind
    exact hu.empresa e (KeyTable.find_eq_some.mp hfind.symm).1 hf
  obtain ⟨t, ht, htab⟩ := deleteEmpresa_eq hE
  have hO : ¬ t.OrganismoEnUso f := by
    rintro ⟨o, ho, hf, c, hc, hk⟩
    have ho' : o ∈ v.organismo.rows := by rw [htab] at ho; exact ho
    have hc' : c ∈ u.contrato.rows := by rw [htab] at hc; exact hcon ▸ hc
    have hfind := haj.refOrg c hc' (hu.contrato c hc') o.rut hk
    rw [show v.organismo.find o.rut = some o from KeyTable.find_eq_some.mpr ⟨ho', rfl⟩] at hfind
    exact hu.organismo o (KeyTable.find_eq_some.mp hfind.symm).1 hf
  obtain ⟨w, hw, hwtab⟩ := deleteOrganismo_eq hO
  refine ⟨t, ht, ?_⟩
  rw [hw]
  congr 1
  apply Db.ext_tablas
  rw [hwtab, htab]
  have hcaso : v.caso = u.caso := haj.caso
  have hent : v.entidad = u.entidad := haj.entidad
  have hrel : v.reloj = u.reloj := haj.reloj
  show (⟨v.organismo.filter _, (sinLaRebanada v f).empresa.filter _, (sinLaRebanada v f).contrato,
    (sinLaRebanada v f).alerta, v.caso, v.entidad, v.reloj⟩ : Tablas) = u.toTablas
  rw [hcon, hale, hemp, horg, hcaso, hent, hrel]

theorem run_vaciar_eq (s : Db) (f : String) : Prog.run (exec M) (vaciar f) s =
    match (sinLaRebanada s f).deleteEmpresa f with
    | .error e => (.error e, sinLaRebanada s f)
    | .ok t =>
      match t.deleteOrganismo f with
      | .error e => (.error e, t)
      | .ok u => (.ok (), u) := by
  show Prog.run (exec M) ((ejecutar (.deleteEmpresa f)).bind fun _ =>
    ejecutar (.deleteOrganismo f)) (sinLaRebanada s f) = _
  cases hE : (sinLaRebanada s f).deleteEmpresa f with
  | error e => exact Prog.run_bind_error _ (run_ejecutar_error (d := .deleteEmpresa f) hE)
  | ok t =>
    rw [Prog.run_bind_ok _ (run_ejecutar (d := .deleteEmpresa f) hE)]
    dsimp only
    cases hO : t.deleteOrganismo f with
    | error e => exact run_ejecutar_error (d := .deleteOrganismo f) hO
    | ok u => exact run_ejecutar (d := .deleteOrganismo f) hO

/-- **From any store where a load can die, the `DELETE`s end as they would have.** -/
theorem Cortada.run_vaciar (h : Cortada f s t) :
    Prog.run (exec M) (vaciar f) t = Prog.run (exec M) (vaciar f) s := by
  have hcon := sinLaRebanada_contrato s f
  rw [run_vaciar_eq, run_vaciar_eq]
  cases h with
  | intacta => rfl
  | sinContratos =>
    have hsin : sinLaRebanada (s.deleteContrato f) f = sinLaRebanada s f := by
      unfold sinLaRebanada
      rw [deleteContrato_of_none (s := s.deleteContrato f) hcon]
    rw [hsin]
  | sinAlertas => rw [sinLaRebanada_of_none hcon (sinLaRebanada_alerta s f)]
  | sinEmpresas t hE =>
    obtain ⟨he, hc, ha⟩ := sinEmpresas_tabla hE
    rw [sinLaRebanada_of_none hc ha, deleteEmpresa_of_none he, hE]
  | vaciada t u v hE hO haj hal =>
    obtain ⟨w, hw, hwu⟩ := (limpia_of_deletes hE hO).deletes haj
    rw [hw, hE]
    dsimp only
    rw [hwu, hO]

theorem Cortada.run_load {year month limit : Int} {csv : List FilaCsv} {fr : Frames}
    (h : Cortada (fuenteDe year month) s t) (hfr : frames M (fuenteDe year month) csv limit = .ok fr) :
    Prog.run (exec M) (loadChilecompraSlice M year month limit (.csv csv)) t =
      Prog.run (exec M) (loadChilecompraSlice M year month limit (.csv csv)) s := by
  unfold loadChilecompraSlice
  dsimp only
  rw [hfr]
  dsimp only
  simp only [guardar_eq, Prog.bind_eq, Prog.run_bind]
  rw [h.run_vaciar]

/-- **A load that died at any statement, run again, ends as if it had never died**: it returns or
raises the same, and leaves the same store. -/
theorem carga_tras_caida (year month limit : Int) (a : Archivo) (n : Nat) (s : Db) :
    Prog.run (exec M) (loadChilecompraSlice M year month limit a)
        (cut (exec M) n (loadChilecompraSlice M year month limit a) s) =
      Prog.run (exec M) (loadChilecompraSlice M year month limit a) s := by
  have hcut := cortada_load M year month limit a n s
  cases a with
  | ausente => rw [loadChilecompraSlice, cut_ret]
  | ilegible => rw [loadChilecompraSlice, cut_raise]
  | csv csv =>
    cases hfr : frames M (fuenteDe year month) csv limit with
    | error e =>
      unfold loadChilecompraSlice
      dsimp only
      rw [hfr]
      dsimp only
      rw [cut_raise]
    | ok fr => exact hcut.run_load hfr

/-- **Any number of loads of the slice that died, of any files and each at any statement, leave
nothing behind**: the next load whose frames can be built ends as it would have on the store before
them. -/
theorem carga_tras_caidas {year month limit : Int} {csv : List FilaCsv} {fr : Frames}
    (hfr : frames M (fuenteDe year month) csv limit = .ok fr)
    (intentos : List (Int × Archivo × Nat)) (s : Db) :
    Prog.run (exec M) (loadChilecompraSlice M year month limit (.csv csv))
        (intentos.foldl (fun s i =>
          cut (exec M) i.2.2 (loadChilecompraSlice M year month i.1 i.2.1) s) s) =
      Prog.run (exec M) (loadChilecompraSlice M year month limit (.csv csv)) s := by
  induction intentos generalizing s with
  | nil => rfl
  | cons i l ih =>
    rw [List.foldl_cons, ih]
    exact (cortada_load M year month i.1 i.2.1 i.2.2 s).run_load hfr

end

/-- a load without rows that died after its `DELETE`s, and then one with an order -/
theorem carga_tras_caidas_orden :
    ∃ fr, frames motorConcreto (fuenteDe 2024 5)
        [.orden "1-OC" "1.000.000" "2024-05-01" "61-K" "76-K" "" "Acme"] 0 = .ok fr ∧
      Prog.run (exec motorConcreto) (loadChilecompraSlice motorConcreto 2024 5 0
          (.csv [.orden "1-OC" "1.000.000" "2024-05-01" "61-K" "76-K" "" "Acme"]))
        (cut (exec motorConcreto) 4 (loadChilecompraSlice motorConcreto 2024 5 0 (.csv [])) .empty) =
      Prog.run (exec motorConcreto) (loadChilecompraSlice motorConcreto 2024 5 0
          (.csv [.orden "1-OC" "1.000.000" "2024-05-01" "61-K" "76-K" "" "Acme"])) .empty := by
  obtain ⟨fr, hfr⟩ : ∃ fr, frames motorConcreto (fuenteDe 2024 5)
      [.orden "1-OC" "1.000.000" "2024-05-01" "61-K" "76-K" "" "Acme"] 0 = .ok fr :=
    frames_isOk.mpr (by decide)
  exact ⟨fr, hfr, carga_tras_caidas hfr [(0, .csv [], 4)] .empty⟩

end Fractura
