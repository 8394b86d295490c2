import Fractura.Chilecompra.Ajeno

/-!
# What `load_chilecompra_slice` does to the store

`Guardado f fr s` lists the six ways in which the statements of a load of the frames `fr` can end
at the store `s`, each with the tables it leaves (`run_guardar`):

* the `DELETE` of the suppliers raises: a contract of another slice references one of them;
* the `DELETE` of the organisms raises, for the same reason (`EmpresaCompartida`,
  `OrganismoCompartido`);
* one of the three batches is empty, and `executemany` raises;
* the end: the batches are inserted, first come first served.

The `INSERT`s themselves never fail: the frames bring the parents of their contracts.
-/

namespace Fractura

open Db KeyTable

/-! ## parents that other slices use -/

/-- a contract of another slice has a supplier that the slice owns -/
def EmpresaCompartida (s : Db) (f : String) : Prop :=
  ∃ e ∈ s.empresa.rows, e.fuente = some f ∧
    ∃ c ∈ s.contrato.rows, c.fuente ≠ some f ∧ c.proveedorId = some e.id

/-- a contract of another slice has an organism that the slice owns -/
def OrganismoCompartido (s : Db) (f : String) : Prop :=
  ∃ o ∈ s.organismo.rows, o.fuente = some f ∧
    ∃ c ∈ s.contrato.rows, c.fuente ≠ some f ∧ c.organismoId = some o.rut

instance (s : Db) (f : String) : Decidable (EmpresaCompartida s f) := by
  unfold EmpresaCompartida; infer_instance

instance (s : Db) (f : String) : Decidable (OrganismoCompartido s f) := by
  unfold OrganismoCompartido; infer_instance

/-! ## the tables after each statement -/

namespace Tablas

/-- after the first two `DELETE`s -/
def sinContratos (s : Tablas) (f : String) : Tablas :=
  { s with
    contrato := s.contrato.filter fun c => decide (c.fuente ≠ some f)
    alerta := s.alerta.filter fun a => decide (a.fuente ≠ some f) }

def sinEmpresas (s : Tablas) (f : String) : Tablas :=
  { s with empresa := s.empresa.filter fun e => decide (e.fuente ≠ some f) }

def sinOrganismos (s : Tablas) (f : String) : Tablas :=
  { s with organismo := s.organismo.filter fun o => decide (o.fuente ≠ some f) }

/-- after the four `DELETE`s -/
def vaciada (s : Tablas) (f : String) : Tablas :=
  ((s.sinContratos f).sinEmpresas f).sinOrganismos f

def conOrganismos (s : Tablas) (l : List FilaOrg) : Tablas :=
  { s with organismo := s.organismo.insertAll (l.map FilaOrg.toOrganismo) }

def conEmpresas (s : Tablas) (l : List FilaEmp) : Tablas :=
  { s with empresa := s.empresa.insertAll (l.map FilaEmp.toEmpresa) }

def conContratos (s : Tablas) (l : List FilaCon) : Tablas :=
  { s with contrato := s.contrato.insertAll (l.map FilaCon.toContrato) }

/-- after a load that returns -/
def cargada (s : Tablas) (f : String) (fr : Frames) : Tablas :=
  (((s.vaciada f).conOrganismos fr.org).conEmpresas fr.emp).conContratos fr.con

/-- the dictionary of a load that returns -/
def carga (s : Tablas) (f : String) (descartados : Nat) : Carga where
  organismos := (s.organismo.rows.filter fun o => decide (o.fuente = some f)).length
  empresas := (s.empresa.rows.filter fun e => decide (e.fuente = some f)).length
  contratos := (s.contrato.rows.filter fun c => decide (c.fuente = some f)).length
  warnContratosDescartados := descartados
  fuente := f

end Tablas

/-- **The ends of a load.** -/
inductive Guardado (f : String) (fr : Frames) (s : Db) : Except Error Carga → Tablas → Prop where
  | empresaCompartida (h : EmpresaCompartida s f) :
      Guardado f fr s (.error (.foreignKey .empresa)) (s.sinContratos f)
  | organismoCompartido (h : ¬ EmpresaCompartida s f) (h' : OrganismoCompartido s f) :
      Guardado f fr s (.error (.foreignKey .organismo)) ((s.sinContratos f).sinEmpresas f)
  | sinOrganismos (h : ¬ EmpresaCompartida s f) (h' : ¬ OrganismoCompartido s f)
      (ho : fr.org = []) : Guardado f fr s (.error .emptyBatch) (s.vaciada f)
  | sinEmpresas (h : ¬ EmpresaCompartida s f) (h' : ¬ OrganismoCompartido s f)
      (he : fr.emp = []) :
      Guardado f fr s (.error .emptyBatch) ((s.vaciada f).conOrganismos fr.org)
  | sinContratos (h : ¬ EmpresaCompartida s f) (h' : ¬ OrganismoCompartido s f)
      (hc : fr.con = []) : Guardado f fr s (.error .emptyBatch)
        (((s.vaciada f).conOrganismos fr.org).conEmpresas fr.emp)
  | fin (h : ¬ EmpresaCompartida s f) (h' : ¬ OrganismoCompartido s f) (ho : fr.org ≠ [])
      (he : fr.emp ≠ []) (hc : fr.con ≠ []) :
      Guardado f fr s (.ok ((s.cargada f fr).carga f fr.warnDescartados)) (s.cargada f fr)

section
variable {M : Motor} {f : String}

/-! ## the batches -/

theorem run_executemany {β : Type} {g : β → Dml} (upd : Tablas → β → Tablas) (I : Db → Prop)
    {l : List β} (hl : l ≠ [])
    (h : ∀ x ∈ l, ∀ s, I s → ∃ t, (g x).exec s = .ok t ∧ t.toTablas = upd s.toTablas x ∧ I t)
    {s : Db} (hs : I s) : ∃ t, Prog.run (exec M) (executemany l g) s = (.ok (), t) ∧
      t.toTablas = l.foldl upd s.toTablas ∧ I t := by
  have key : ∃ t, Prog.run (exec M) (Prog.each l fun x => ejecutar (g x)) s = (.ok (), t) ∧
      t.toTablas = l.foldl upd s.toTablas ∧ I t := by
    clear hl
    induction l generalizing s with
    | nil => exact ⟨s, rfl, rfl, hs⟩
    | cons x l ih =>
      obtain ⟨t, ht, htab, hI⟩ := h x List.mem_cons_self s hs
      obtain ⟨u, hu, hutab, hIu⟩ := ih (fun y hy => h y (List.mem_cons_of_mem _ hy)) hI
      refine ⟨u, ?_, ?_, hIu⟩
      · rw [Prog.each_cons, Prog.run_bind_ok _ (run_ejecutar ht), hu]
      · rw [hutab, htab, List.foldl_cons]
  have hne : l.isEmpty = false := by simpa using hl
  unfold executemany
  rw [hne]
  exact key

theorem run_executemany_nil {β : Type} {g : β → Dml} {s : Db} :
    Prog.run (exec M) (executemany [] g) s = (.error .emptyBatch, s) := rfl

theorem ne_nil_of_executemany {β : Type} {l : List β} {g : β → Dml} {s t : Db}
    (h : Prog.run (exec M) (executemany l g) s = (.ok (), t)) : l ≠ [] := by
  rintro rfl
  rw [run_executemany_nil] at h
  cases h

theorem foldl_organismos (l : List FilaOrg) (s : Tablas) :
    l.foldl (fun s r => { s with organismo := s.organismo.insertOrIgnore r.toOrganismo }) s =
      s.conOrganismos l := by
  induction l generalizing s with
  | nil => rfl
  | cons r l ih => rw [List.foldl_cons, ih]; rfl

theorem foldl_empresas (l : List FilaEmp) (s : Tablas) :
    l.foldl (fun s r => { s with empresa := s.empresa.insertOrIgnore r.toEmpresa }) s =
      s.conEmpresas l := by
  induction l generalizing s with
  | nil => rfl
  | cons r l ih => rw [List.foldl_cons, ih]; rfl

theorem foldl_contratos (l : List FilaCon) (s : Tablas) :
    l.foldl (fun s r => { s with contrato := s.contrato.insertOrIgnore r.toContrato }) s =
      s.conContratos l := by
  induction l generalizing s with
  | nil => rfl
  | cons r l ih => rw [List.foldl_cons, ih]; rfl

theorem run_organismos {l : List FilaOrg} (hl : l ≠ [])
    (h : ∀ o ∈ l, (∃ k, o.rut = some k) ∧ ∃ n, o.nombre = some n) (s : Db) :
    ∃ t, Prog.run (exec M) (executemany l .insertOrganismo) s = (.ok (), t) ∧
      t.toTablas = s.conOrganismos l := by
  obtain ⟨t, ht, htab, -⟩ := run_executemany (M := M) (g := .insertOrganismo)
    (fun s r => { s with organismo := s.organismo.insertOrIgnore r.toOrganismo }) (fun _ => True) hl
    (s := s) (fun o ho s _ => by
      obtain ⟨⟨k, hk⟩, n, hn⟩ := h o ho
      exact ⟨_, insertOrganismo_eq hk hn, rfl, trivial⟩) trivial
  exact ⟨t, ht, htab.trans (foldl_organismos l _)⟩

theorem run_empresas {l : List FilaEmp} (hl : l ≠ [])
    (h : ∀ e ∈ l, (∃ k, e.id = some k) ∧ ∃ n, e.nombre = some n) (s : Db) :
    ∃ t, Prog.run (exec M) (executemany l .insertEmpresa) s = (.ok (), t) ∧
      t.toTablas = s.conEmpresas l := by
  obtain ⟨t, ht, htab, -⟩ := run_executemany (M := M) (g := .insertEmpresa)
    (fun s r => { s with empresa := s.empresa.insertOrIgnore r.toEmpresa }) (fun _ => True) hl
    (s := s) (fun e he s _ => by
      obtain ⟨⟨k, hk⟩, n, hn⟩ := h e he
      exact ⟨_, insertEmpresa_eq hk hn, rfl, trivial⟩) trivial
  exact ⟨t, ht, htab.trans (foldl_empresas l _)⟩

theorem run_contratos {l : List FilaCon} (hl : l ≠ []) {s : Db}
    (h : ∀ c ∈ l, (∃ k, c.id = some k) ∧ (∀ k, c.organismoId = some k → k ∈ s.organismo.keys) ∧
      ∀ k, c.proveedorId = some k → k ∈ s.empresa.keys) :
    ∃ t, Prog.run (exec M) (executemany l .insertContrato) s = (.ok (), t) ∧
      t.toTablas = s.conContratos l := by
  obtain ⟨t, ht, htab, -⟩ := run_executemany (M := M) (g := .insertContrato)
    (fun s r => { s with contrato := s.contrato.insertOrIgnore r.toContrato })
    (fun t => t.organismo = s.organismo ∧ t.empresa = s.empresa) hl (s := s) (fun c hc t ht => by
      obtain ⟨⟨k, hk⟩, ho, hp⟩ := h c hc
      have hpar : t.Parents c.toContrato := by
        refine ⟨fun k hk => ?_, fun k hk => ?_⟩
        · rw [ht.1]; exact ho k hk
        · rw [ht.2]; exact hp k hk
      obtain ⟨u, hu⟩ := insertContrato_eq hk hpar
      have hutab := (insertContrato_ok hu).2
      refine ⟨u, hu, hutab, ?_, ?_⟩
      · rw [hutab]; exact ht.1
      · rw [hutab]; exact ht.2) ⟨rfl, rfl⟩
  exact ⟨t, ht, htab.trans (foldl_contratos l _)⟩

/-! ## the deletions -/

theorem empresaEnUso_iff {s t : Db} (h : t.toTablas = s.sinContratos f) :
    t.EmpresaEnUso f ↔ EmpresaCompartida s f := by
  have he : t.empresa = s.empresa := by rw [h]; rfl
  have hc : t.contrato = s.contrato.filter fun c => decide (c.fuente ≠ some f) := by rw [h]; rfl
  unfold EmpresaEnUso EmpresaCompartida
  rw [he, hc]
  simp only [rows_filter, List.mem_filter, decide_eq_true_eq, and_assoc]

theorem organismoEnUso_iff {s t : Db} (h : t.toTablas = (s.sinContratos f).sinEmpresas f) :
    t.OrganismoEnUso f ↔ OrganismoCompartido s f := by
  have ho : t.organismo = s.organismo := by rw [h]; rfl
  have hc : t.contrato = s.contrato.filter fun c => decide (c.fuente ≠ some f) := by rw [h]; rfl
  unfold OrganismoEnUso OrganismoCompartido
  rw [ho, hc]
  simp only [rows_filter, List.mem_filter, decide_eq_true_eq, and_assoc]

theorem deleteEmpresa_eq {s : Db} (h : ¬ s.EmpresaEnUso f) :
    ∃ t, s.deleteEmpresa f = .ok t ∧ t.toTablas = s.sinEmpresas f := by
  unfold deleteEmpresa
  rw [dif_neg h]
  exact ⟨_, rfl, rfl⟩

theorem deleteOrganismo_eq {s : Db} (h : ¬ s.OrganismoEnUso f) :
    ∃ t, s.deleteOrganismo f = .ok t ∧ t.toTablas = s.sinOrganismos f := by
  unfold deleteOrganismo
  rw [dif_neg h]
  exact ⟨_, rfl, rfl⟩

/-! ## the program -/

/-- the four `DELETE`s, before the rest: a parent in use stops them -/
theorem run_vaciar {α : Type} (k : Prg α) (s : Db) :
    (EmpresaCompartida s f ∧ ∃ t, t.toTablas = s.sinContratos f ∧ Prog.run (exec M) (do
        ejecutar (.deleteContrato f)
        ejecutar (.deleteAlerta f)
        ejecutar (.deleteEmpresa f)
        ejecutar (.deleteOrganismo f)
        k) s = (.error (.foreignKey .empresa), t)) ∨
    (¬ EmpresaCompartida s f ∧ OrganismoCompartido s f ∧
      ∃ t, t.toTablas = (s.sinContratos f).sinEmpresas f ∧ Prog.run (exec M) (do
        ejecutar (.deleteContrato f)
        ejecutar (.deleteAlerta f)
        ejecutar (.deleteEmpresa f)
        ejecutar (.deleteOrganismo f)
        k) s = (.error (.foreignKey .organismo), t)) ∨
    (¬ EmpresaCompartida s f ∧ ¬ OrganismoCompartido s f ∧
      ∃ t, t.toTablas = s.vaciada f ∧ Prog.run (exec M) (do
        ejecutar (.deleteContrato f)
        ejecutar (.deleteAlerta f)
        ejecutar (.deleteEmpresa f)
        ejecutar (.deleteOrganismo f)
        k) s = Prog.run (exec M) k t) := by
  let s1 := (s.deleteContrato f).deleteAlerta f
  have h1 : s1.toTablas = s.sinContratos f := rfl
  have hrun : Prog.run (exec M) (do
      ejecutar (.deleteContrato f)
      ejecutar (.deleteAlerta f)
      ejecutar (.deleteEmpresa f)
      ejecutar (.deleteOrganismo f)
      k) s = Prog.run (exec M) (do
      ejecutar (.deleteEmpresa f)
      ejecutar (.deleteOrganismo f)
      k) s1 := rfl
  rw [hrun]
  simp only [Prog.bind_eq]
  by_cases hE : EmpresaCompartida s f
  · have herr : Dml.exec s1 (.deleteEmpresa f) = .error (.foreignKey .empresa) :=
      dif_pos ((empresaEnUso_iff h1).mpr hE)
    exact Or.inl ⟨hE, s1, h1, Prog.run_bind_error _ (run_ejecutar_error herr)⟩
  obtain ⟨s2, hs2, h2⟩ := deleteEmpresa_eq fun h => hE ((empresaEnUso_iff h1).mp h)
  rw [h1] at h2
  rw [Prog.run_bind_ok _ (run_ejecutar (d := .deleteEmpresa f) hs2)]
  by_cases hO : OrganismoCompartido s f
  · have herr : Dml.exec s2 (.deleteOrganismo f) = .error (.foreignKey .organismo) :=
      dif_pos ((organismoEnUso_iff h2).mpr hO)
    exact Or.inr (Or.inl ⟨hE, hO, s2, h2, Prog.run_bind_error _ (run_ejecutar_error herr)⟩)
  obtain ⟨s3, hs3, h3⟩ := deleteOrganismo_eq fun h => hO ((organismoEnUso_iff h2).mp h)
  rw [h2] at h3
  exact Or.inr (Or.inr ⟨hE, hO, s3, h3,
    Prog.run_bind_ok _ (run_ejecutar (d := .deleteOrganismo f) hs3)⟩)

theorem Frames.Wf.parents {fr : Frames} (hw : fr.Wf f) {s t : Db}
    (ho : t.organismo = s.organismo.insertAll (fr.org.map FilaOrg.toOrganismo))
    (he : t.empresa = s.empresa.insertAll (fr.emp.map FilaEmp.toEmpresa)) {c : FilaCon}
    (hc : c ∈ fr.con) : (∀ k, c.organismoId = some k → k ∈ t.organismo.keys) ∧
      ∀ k, c.proveedorId = some k → k ∈ t.empresa.keys := by
  obtain ⟨-, -, ⟨ko, hko, hmo⟩, ⟨kp, hkp, hmp⟩⟩ := hw.con c hc
  refine ⟨fun k hk => ?_, fun k hk => ?_⟩
  · rw [hko] at hk
    cases hk
    obtain ⟨o, hom, hor⟩ := List.mem_map.mp hmo
    rw [ho]
    refine mem_keys_insertAll.mpr (Or.inr ⟨o.toOrganismo, List.mem_map_of_mem hom, ?_⟩)
    simp [FilaOrg.toOrganismo, hor]
  · rw [hkp] at hk
    cases hk
    obtain ⟨e, hem, her⟩ := List.mem_map.mp hmp
    rw [he]
    refine mem_keys_insertAll.mpr (Or.inr ⟨e.toEmpresa, List.mem_map_of_mem hem, ?_⟩)
    simp [FilaEmp.toEmpresa, her]

theorem run_guardar {fr : Frames} (hw : fr.Wf f) (s : Db) :
    Guardado f fr s (Prog.run (exec M) (guardar f fr) s).1
      (Prog.run (exec M) (guardar f fr) s).2.toTablas := by
  unfold guardar
  rcases run_vaciar (M := M) (f := f) (do
      executemany fr.org .insertOrganismo
      executemany fr.emp .insertEmpresa
      executemany fr.con .insertContrato
      let organismos ← unico (← consulta (.countOrganismo f))
      let empresas ← unico (← consulta (.countEmpresa f))
      let contratos ← unico (← consulta (.countContrato f))
      return (⟨organismos, empresas, contratos, fr.warnDescartados, f⟩ : Carga)) s
    with ⟨hE, t, ht, hrun⟩ | ⟨hE, hO, t, ht, hrun⟩ | ⟨hE, hO, s3, h3, hrun⟩
  case inl =>
    rw [hrun]
    show Guardado f fr s _ t.toTablas
    rw [ht]
    exact .empresaCompartida hE
  case inr.inl =>
    rw [hrun]
    show Guardado f fr s _ t.toTablas
    rw [ht]
    exact .organismoCompartido hE hO
  rw [hrun]
  simp only [Prog.bind_eq]
  -- the three batches
  by_cases ho : fr.org = []
  · rw [ho, Prog.run_bind_error _ run_executemany_nil]
    show Guardado f fr s _ s3.toTablas
    rw [h3]
    exact .sinOrganismos hE hO ho
  obtain ⟨s4, hs4, h4⟩ := run_organismos (M := M) ho
    (fun o hm => ⟨(hw.org o hm).1, (hw.org o hm).2.1⟩) s3
  rw [Prog.run_bind_ok _ hs4]
  rw [h3] at h4
  by_cases he : fr.emp = []
  · rw [he, Prog.run_bind_error _ run_executemany_nil]
    show Guardado f fr s _ s4.toTablas
    rw [h4]
    exact .sinEmpresas hE hO he
  obtain ⟨s5, hs5, h5⟩ := run_empresas (M := M) he (fun e hm => by
    obtain ⟨⟨k, hk, -⟩, hn, -⟩ := hw.emp e hm
    exact ⟨⟨k, hk⟩, hn⟩) s4
  rw [Prog.run_bind_ok _ hs5]
  rw [h4] at h5
  by_cases hc : fr.con = []
  · rw [hc, Prog.run_bind_error _ run_executemany_nil]
    show Guardado f fr s _ s5.toTablas
    rw [h5]
    exact .sinContratos hE hO hc
  have hog : s5.organismo = s3.organismo.insertAll (fr.org.map FilaOrg.toOrganismo) := by
    rw [h5, h3]
    rfl
  have hemp : s5.empresa = s3.empresa.insertAll (fr.emp.map FilaEmp.toEmpresa) := by
    rw [h5, h3]
    rfl
  obtain ⟨s6, hs6, h6⟩ := run_contratos (M := M) hc
    (fun c hm => ⟨(hw.con c hm).1, hw.parents hog hemp hm⟩)
  rw [Prog.run_bind_ok _ hs6]
  rw [h5] at h6
  -- the three counts read the store and leave it
  show Guardado f fr s (.ok (s6.toTablas.carga f fr.warnDescartados)) s6.toTablas
  rw [h6]
  exact .fin hE hO ho he hc

/-! ## a whole load -/

variable {year month limit : Int} {csv : List FilaCsv} {fr : Frames} {s t : Db}

theorem run_load (h : frames M (fuenteDe year month) csv limit = .ok fr) :
    ∃ res, Guardado (fuenteDe year month) fr s res
        (Prog.run (exec M) (loadChilecompraSlice M year month limit (.csv csv)) s).2.toTablas ∧
      (Prog.run (exec M) (loadChilecompraSlice M year month limit (.csv csv)) s).1 =
        res.map .ok := by
  have hg := run_guardar (M := M) (frames_wf h) s
  unfold loadChilecompraSlice
  dsimp only
  rw [h]
  simp only [Prog.bind_eq, Prog.run_bind]
  cases hr : Prog.run (exec M) (guardar (fuenteDe year month) fr) s with
  | mk res u =>
    rw [hr] at hg
    cases res with
    | error e => exact ⟨.error e, hg, rfl⟩
    | ok c => exact ⟨.ok c, hg, rfl⟩

theorem load_ok_guardado {r : ResultadoCarga}
    (h : Prog.run (exec M) (loadChilecompraSlice M year month limit (.csv csv)) s = (.ok r, t)) :
    ∃ fr c, frames M (fuenteDe year month) csv limit = .ok fr ∧ r = .ok c ∧
      Guardado (fuenteDe year month) fr s (.ok c) t.toTablas := by
  cases hfr : frames M (fuenteDe year month) csv limit with
  | error e =>
    unfold loadChilecompraSlice at h
    dsimp only at h
    rw [hfr] at h
    cases h
  | ok fr =>
    obtain ⟨res, hg, hres⟩ := run_load (M := M) (s := s) hfr
    rw [h] at hg hres
    cases res with
    | error e => cases hres
    | ok c => exact ⟨fr, c, rfl, Except.ok.inj hres, hg⟩

/-- **When a load returns** no parent of the slice was used by another one and the three frames
have rows. -/
theorem load_ok_inv {r : ResultadoCarga}
    (h : Prog.run (exec M) (loadChilecompraSlice M year month limit (.csv csv)) s = (.ok r, t)) :
    ∃ fr, frames M (fuenteDe year month) csv limit = .ok fr ∧
      ¬ EmpresaCompartida s (fuenteDe year month) ∧
      ¬ OrganismoCompartido s (fuenteDe year month) ∧
      fr.org ≠ [] ∧ fr.emp ≠ [] ∧ fr.con ≠ [] ∧
      t.toTablas = s.cargada (fuenteDe year month) fr := by
  obtain ⟨fr, c, hfr, -, hg⟩ := load_ok_guardado h
  generalize htab : t.toTablas = tab at hg
  cases hg with
  | fin h1 h2 h3 h4 h5 => exact ⟨fr, hfr, h1, h2, h3, h4, h5, rfl⟩

theorem load_ok_carga {c : Carga}
    (h : Prog.run (exec M) (loadChilecompraSlice M year month limit (.csv csv)) s =
      (.ok (.ok c), t)) :
    ∃ fr, frames M (fuenteDe year month) csv limit = .ok fr ∧
      t.toTablas = s.cargada (fuenteDe year month) fr ∧
      c = t.toTablas.carga (fuenteDe year month) fr.warnDescartados := by
  obtain ⟨fr, c', hfr, hc, hg⟩ := load_ok_guardado h
  cases hc
  generalize htab : t.toTablas = tab at hg ⊢
  cases hg with
  | fin => exact ⟨fr, hfr, rfl, rfl⟩

theorem load_ok (h : frames M (fuenteDe year month) csv limit = .ok fr)
    (h1 : ¬ EmpresaCompartida s (fuenteDe year month))
    (h2 : ¬ OrganismoCompartido s (fuenteDe year month))
    (h3 : fr.org ≠ []) (h4 : fr.emp ≠ []) (h5 : fr.con ≠ []) :
    ∃ c t, Prog.run (exec M) (loadChilecompraSlice M year month limit (.csv csv)) s =
      (.ok (.ok c), t) ∧ t.toTablas = s.cargada (fuenteDe year month) fr := by
  obtain ⟨res, hg, hres⟩ := run_load (M := M) (s := s) h
  cases hr : Prog.run (exec M) (loadChilecompraSlice M year month limit (.csv csv)) s with
  | mk res' t =>
    rw [hr] at hg hres
    dsimp only at hg hres
    subst hres
    generalize htab : t.toTablas = tab at hg
    cases hg with
    | empresaCompartida h => exact absurd h h1
    | organismoCompartido _ h => exact absurd h h2
    | sinOrganismos _ _ h => exact absurd h h3
    | sinEmpresas _ _ h => exact absurd h h4
    | sinContratos _ _ h => exact absurd h h5
    | fin => exact ⟨_, t, rfl, htab⟩

end

end Fractura
