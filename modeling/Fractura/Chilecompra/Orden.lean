import Fractura.Chilecompra.Redeteccion

/-!
# Two slices in either order

`INSERT OR IGNORE` keeps the first row of a key, so of what two slices share the one that was
loaded first wins: the purchase orders themselves, and the name and the RUT of the suppliers, which
the detection groups by and prints.  Each file is read as the same rows in both orders.

`orden_indiferente_iff`: from the empty store, the contracts of each slice are the same in both
orders if and only if the files share no purchase order; and then, if the shared suppliers have the
same name and RUT in both files, the detection finds the same alerts.
-/

namespace Fractura

open Db KeyTable

section
variable (M : Motor)

/-- two loads and the detection of everything, each one called when the one before has returned -/
def dosCargas (year month limit : Int) (csv : List FilaCsv) (year' month' limit' : Int)
    (csv' : List FilaCsv) : Prg Unit := do
  let _ ← loadChilecompraSlice M year month limit (.csv csv)
  let _ ← loadChilecompraSlice M year' month' limit' (.csv csv')
  let _ ← runDetection M none
  return ()

end

section
variable {M : Motor} {s t : Db}

/-! ## the alerts of a detection of everything -/

/-- **The alerts of a detection of everything**, at a store without alerts. -/
theorem deteccion_alertas (hs : InvTablas s) (hnil : s.alerta.rows = [])
    {l : List (String × ResultadoFuente)}
    (h : Prog.run (exec M) (runDetection M none) s = (.ok l, t)) :
    SoloAlertas s t ∧ ∀ b, b ∈ t.sinHoras ↔ ∃ f, b ∈ alertasReglas M f (s.unidos f) := by
  obtain ⟨fs, hfs, hrun⟩ := run_runDetection_none M s
  rw [hrun] at h
  have hsolo := detectarTodas_soloAlertas M fs s
  rw [h] at hsolo
  refine ⟨hsolo, fun b => ?_⟩
  have hno : b ∉ s.sinHoras := by
    rw [sinHoras, hnil]
    exact List.not_mem_nil
  rw [detectarTodas_alertas_iff h]
  refine ⟨fun hb => ?_, fun hb => ?_⟩
  · rcases hb with ⟨hb, -⟩ | ⟨f, -, hb⟩
    · exact absurd hb hno
    · exact ⟨f, hb⟩
  · obtain ⟨f, hb⟩ := hb
    obtain ⟨u, hu⟩ := exists_unido_of_regla hb
    exact Or.inr ⟨f, mem_fuentes hs hfs hu, hb⟩

/-! ## two loads from the empty store -/

def Frames.contratos (fr : Frames) : List Contrato := fr.con.map FilaCon.toContrato

def Frames.empresas (fr : Frames) : List Empresa := fr.emp.map FilaEmp.toEmpresa

/-- what two loads from the empty store leave -/
structure Cargadas (fr fr' : Frames) (s : Db) : Prop where
  contrato : s.contrato = KeyTable.empty.insertAll (fr.contratos ++ fr'.contratos)
  empresa : s.empresa = KeyTable.empty.insertAll (fr.empresas ++ fr'.empresas)
  alerta : s.alerta.rows = []

variable {fr fr' : Frames} {f g : String}

theorem fuente_contratos (hw : fr.Wf f) {c : Contrato} (hc : c ∈ fr.contratos) :
    c.fuente = some f := by
  obtain ⟨r, hr, rfl⟩ := List.mem_map.mp hc
  exact (hw.con r hr).2.1

theorem fuente_empresas (hw : fr.Wf f) {e : Empresa} (he : e ∈ fr.empresas) :
    e.fuente = some f := by
  obtain ⟨r, hr, rfl⟩ := List.mem_map.mp he
  exact (hw.emp r hr).2.2

theorem cargadas_of_cargada (hfg : f ≠ g) (hw : fr.Wf f)
    (hs : s.toTablas = Tablas.cargada Db.empty.toTablas f fr)
    (ht : t.toTablas = Tablas.cargada s.toTablas g fr') : Cargadas fr fr' t := by
  have hne : some f ≠ some g := fun e => hfg (Option.some.inj e)
  have hcon : s.contrato = KeyTable.empty.insertAll fr.contratos := by rw [hs]; rfl
  have hemp : s.empresa = KeyTable.empty.insertAll fr.empresas := by rw [hs]; rfl
  have hal : s.alerta.rows = [] := by rw [hs]; rfl
  refine ⟨?_, ?_, ?_⟩
  · have hall : ∀ c ∈ s.contrato.rows, decide (c.fuente ≠ some g) = true := by
      intro c hc
      rw [hcon] at hc
      rcases mem_insertAll hc with hc | ⟨hc, -⟩
      · cases hc
      · rw [fuente_contratos hw hc]
        exact decide_eq_true hne
    rw [insertAll_append, ← hcon, ← filter_of_all hall, ht]
    rfl
  · have hall : ∀ e ∈ s.empresa.rows, decide (e.fuente ≠ some g) = true := by
      intro e he
      rw [hemp] at he
      rcases mem_insertAll he with he | ⟨he, -⟩
      · cases he
      · rw [fuente_empresas hw he]
        exact decide_eq_true hne
    rw [insertAll_append, ← hemp, ← filter_of_all hall, ht]
    rfl
  · rw [ht]
    show s.alerta.rows.filter _ = []
    rw [hal]
    rfl

theorem dosCargas_inv {year month limit : Int} {csv : List FilaCsv} {year' month' limit' : Int}
    {csv' : List FilaCsv} (hfg : fuenteDe year month ≠ fuenteDe year' month')
    (h : Prog.run (exec M) (dosCargas M year month limit csv year' month' limit' csv') .empty =
      (.ok (), t)) :
    ∃ fr fr' u l, frames M (fuenteDe year month) csv limit = .ok fr ∧
      frames M (fuenteDe year' month') csv' limit' = .ok fr' ∧ Cargadas fr fr' u ∧
      Alcanzable M u ∧ Prog.run (exec M) (runDetection M none) u = (.ok l, t) := by
  obtain ⟨r, s1, h1, h⟩ := Prog.run_bind_inv _ h
  obtain ⟨r', s2, h2, h⟩ := Prog.run_bind_inv _ h
  obtain ⟨l, s3, h3, h⟩ := Prog.run_bind_inv _ h
  cases h
  obtain ⟨fr, hfr, -, -, -, -, -, ht1⟩ := load_ok_inv h1
  obtain ⟨fr', hfr', -, -, -, -, -, ht2⟩ := load_ok_inv h2
  exact ⟨fr, fr', s2, l, hfr, hfr', cargadas_of_cargada hfg (frames_wf hfr) ht1 ht2,
    (Alcanzable.vacio.cargada h1).cargada h2, h3⟩

/-! ## the two orders -/

/-- no purchase order is in both files -/
def SinOrdenComun (fr fr' : Frames) : Prop := ∀ c ∈ fr.con, ∀ c' ∈ fr'.con, c.id ≠ c'.id

/-- a supplier in both files has one name and one RUT -/
def MismosProveedores (fr fr' : Frames) : Prop :=
  ∀ e ∈ fr.emp, ∀ e' ∈ fr'.emp, e.id = e'.id → e.nombre = e'.nombre ∧ e.rut = e'.rut

instance (fr fr' : Frames) : Decidable (SinOrdenComun fr fr') := by
  unfold SinOrdenComun; infer_instance

instance (fr fr' : Frames) : Decidable (MismosProveedores fr fr') := by
  unfold MismosProveedores; infer_instance

theorem SinOrdenComun.symm (h : SinOrdenComun fr fr') : SinOrdenComun fr' fr :=
  fun c' hc' c hc he => h c hc c' hc' he.symm

theorem toContrato_id_eq (hw : fr.Wf f) (hw' : fr'.Wf g) {c c' : FilaCon} (hc : c ∈ fr.con)
    (hc' : c' ∈ fr'.con) : c.toContrato.id = c'.toContrato.id ↔ c.id = c'.id := by
  obtain ⟨⟨k, hk⟩, -⟩ := hw.con c hc
  obtain ⟨⟨k', hk'⟩, -⟩ := hw'.con c' hc'
  simp [FilaCon.toContrato, hk, hk']

theorem toEmpresa_id_eq (hw : fr.Wf f) (hw' : fr'.Wf g) {e e' : FilaEmp} (he : e ∈ fr.emp)
    (he' : e' ∈ fr'.emp) : e.toEmpresa.id = e'.toEmpresa.id ↔ e.id = e'.id := by
  obtain ⟨⟨k, hk, -⟩, -⟩ := hw.emp e he
  obtain ⟨⟨k', hk', -⟩, -⟩ := hw'.emp e' he'
  simp [FilaEmp.toEmpresa, hk, hk']

theorem contratos_rows (hw : fr.Wf f) (hw' : fr'.Wf g) (hd : SinOrdenComun fr fr')
    (hs : Cargadas fr fr' s) :
    s.contrato.rows = ((KeyTable.empty : KeyTable Contrato String Contrato.id).insertAll
        fr.contratos).rows ++
      ((KeyTable.empty : KeyTable Contrato String Contrato.id).insertAll fr'.contratos).rows := by
  rw [hs.contrato, insertAll_append]
  apply rows_insertAll_of_free
  intro c' hc' hk
  obtain ⟨r', hr', rfl⟩ := List.mem_map.mp hc'
  rcases mem_keys_insertAll.mp hk with hk | ⟨c, hc, hk⟩
  · cases hk
  · obtain ⟨r, hr, rfl⟩ := List.mem_map.mp hc
    exact hd r hr r' hr' ((toContrato_id_eq hw hw' hr hr').mp hk)

theorem filter_otra {h : String} (hne : h ≠ f) {cs : List Contrato}
    (hcs : ∀ c ∈ cs, c.fuente = some f) :
    (((KeyTable.empty : KeyTable Contrato String Contrato.id).insertAll cs).rows.filter
      fun c => decide (c.fuente = some h)) = [] := by
  rw [List.filter_eq_nil_iff]
  intro c hc hh
  rcases mem_insertAll hc with hc | ⟨hc, -⟩
  · cases hc
  · have hf := (of_decide_eq_true hh).symm.trans (hcs c hc)
    exact hne (Option.some.inj hf)

theorem contratosDe_orden (hfg : f ≠ g) (hw : fr.Wf f) (hw' : fr'.Wf g)
    (hd : SinOrdenComun fr fr') (hs : Cargadas fr fr' s) (ht : Cargadas fr' fr t) (h : String) :
    t.contratosDe h = s.contratosDe h := by
  have hf : ∀ c ∈ fr.contratos, c.fuente = some f := fun c => fuente_contratos hw
  have hg : ∀ c ∈ fr'.contratos, c.fuente = some g := fun c => fuente_contratos hw'
  unfold contratosDe
  rw [contratos_rows hw hw' hd hs, contratos_rows hw' hw hd.symm ht, List.filter_append,
    List.filter_append]
  by_cases hh : h = f
  · rw [filter_otra (fun e => hfg (hh.symm.trans e)) hg, List.append_nil, List.nil_append]
  · rw [filter_otra hh hf, List.append_nil, List.nil_append]

/-- what a supplier key reads is, up to the other columns, what it reads in the other order -/
theorem leida_orden (hw : fr.Wf f) (hw' : fr'.Wf g) (hp : MismosProveedores fr fr')
    (hs : Cargadas fr fr' s) (ht : Cargadas fr' fr t) (k : String) :
    (t.empresa.find k).map leida = (s.empresa.find k).map leida := by
  rw [hs.empresa, ht.empresa, find_insertAll, find_insertAll, List.find?_append,
    List.find?_append]
  show Option.map leida (Option.or none _) = Option.map leida (Option.or none _)
  rw [Option.none_or, Option.none_or]
  cases h : fr.empresas.find? fun e => decide (e.id = k) with
  | none => rw [Option.none_or, Option.or_none]
  | some e =>
    cases h' : fr'.empresas.find? fun e => decide (e.id = k) with
    | none => rw [Option.none_or, Option.or_none]
    | some e' =>
      rw [Option.some_or, Option.some_or]
      obtain ⟨r, hr, rfl⟩ := List.mem_map.mp (List.mem_of_find?_eq_some h)
      obtain ⟨r', hr', rfl⟩ := List.mem_map.mp (List.mem_of_find?_eq_some h')
      have hk : r.toEmpresa.id = k := by simpa using List.find?_some h
      have hk' : r'.toEmpresa.id = k := by simpa using List.find?_some h'
      obtain ⟨hn, hrut⟩ := hp r hr r' hr' ((toEmpresa_id_eq hw hw' hr hr').mp (hk.trans hk'.symm))
      simp [leida, FilaEmp.toEmpresa, hn, hrut]

/-- **The detection reads the same rows in both orders.** -/
theorem unidos_orden (hfg : f ≠ g) (hw : fr.Wf f) (hw' : fr'.Wf g) (hd : SinOrdenComun fr fr')
    (hp : MismosProveedores fr fr') (hs : Cargadas fr fr' s) (ht : Cargadas fr' fr t) (h : String) :
    t.unidos h = s.unidos h :=
  unidos_congr (contratosDe_orden hfg hw hw' hd hs ht h) fun _ _ k _ =>
    leida_orden hw hw' hp hs ht k

theorem sinOrdenComun_of_contratosDe (hfg : f ≠ g) (hw : fr.Wf f) (hw' : fr'.Wf g)
    (hs : Cargadas fr fr' s) (ht : Cargadas fr' fr t)
    (h : ∀ h, MismasFilas (s.contratosDe h) (t.contratosDe h)) : SinOrdenComun fr fr' := by
  intro c hc c' hc' hid
  have hkey := (toContrato_id_eq hw hw' hc hc').mpr hid
  -- the row that the key reads in each order
  have hfind {fr fr' : Frames} {f : String} {s : Db} (hw : fr.Wf f) (hs : Cargadas fr fr' s)
      {c : FilaCon} (hc : c ∈ fr.con) :
      ∃ x ∈ s.contrato.rows, x.id = c.toContrato.id ∧ x.fuente = some f := by
    have hmem : c.toContrato ∈ fr.contratos := List.mem_map_of_mem hc
    have hx : ∃ x ∈ (KeyTable.empty.insertAll fr.contratos :
        KeyTable Contrato String Contrato.id).rows, x.id = c.toContrato.id :=
      mem_keys.mp (mem_keys_insertAll.mpr (Or.inr ⟨_, hmem, rfl⟩))
    obtain ⟨x, hx, hxk⟩ := hx
    refine ⟨x, ?_, hxk, ?_⟩
    · rw [hs.contrato, insertAll_append]
      exact mem_insertAll_of_mem hx
    · rcases mem_insertAll hx with hx | ⟨hx, -⟩
      · cases hx
      · exact fuente_contratos hw hx
  obtain ⟨x, hx, hxk, hxf⟩ := hfind hw hs hc
  obtain ⟨y, hy, hyk, hyg⟩ := hfind hw' ht hc'
  have hxt : x ∈ t.contrato.rows :=
    (mem_contratosDe.mp ((h f).1 x (mem_contratosDe.mpr ⟨hx, hxf⟩))).1
  have hxy : x = y := eq_of_key hxt hy (hxk.trans (hkey.trans hyk.symm))
  rw [hxy, hyg] at hxf
  exact hfg (Option.some.inj hxf).symm

/-- **When the order of two slices does not matter.** -/
theorem orden_indiferente_iff {year month limit : Int} {csv : List FilaCsv}
    {year' month' limit' : Int} {csv' : List FilaCsv}
    (hfg : fuenteDe year month ≠ fuenteDe year' month')
    (h : Prog.run (exec M) (dosCargas M year month limit csv year' month' limit' csv') .empty =
      (.ok (), s))
    (h' : Prog.run (exec M) (dosCargas M year' month' limit' csv' year month limit csv) .empty =
      (.ok (), t)) :
    ∃ fr fr', frames M (fuenteDe year month) csv limit = .ok fr ∧
      frames M (fuenteDe year' month') csv' limit' = .ok fr' ∧
      ((∀ h, MismasFilas (s.contratosDe h) (t.contratosDe h)) ↔ SinOrdenComun fr fr') ∧
      (SinOrdenComun fr fr' → MismosProveedores fr fr' →
        MismasFilas (s.alerta.rows.map Alerta.sinHora) (t.alerta.rows.map Alerta.sinHora)) := by
  obtain ⟨fr, fr', u, l, hfr, hfr', hu, hau, hdu⟩ := dosCargas_inv hfg h
  obtain ⟨fr₂, fr₁, v, l', hfr₂, hfr₁, hv, hav, hdv⟩ := dosCargas_inv (Ne.symm hfg) h'
  cases hfr.symm.trans hfr₁
  cases hfr'.symm.trans hfr₂
  have hw := frames_wf hfr
  have hw' := frames_wf hfr'
  obtain ⟨hus, hual⟩ := deteccion_alertas (inv_of_alcanzable hau).toInvTablas hu.alerta hdu
  obtain ⟨hvt, hval⟩ := deteccion_alertas (inv_of_alcanzable hav).toInvTablas hv.alerta hdv
  have hcs (h : String) : s.contratosDe h = u.contratosDe h := by
    unfold contratosDe
    rw [hus.contrato]
  have hct (h : String) : t.contratosDe h = v.contratosDe h := by
    unfold contratosDe
    rw [hvt.contrato]
  refine ⟨fr, fr', hfr, hfr', ⟨fun heq => ?_, fun hd h => ?_⟩, fun hd hp => ?_⟩
  · refine sinOrdenComun_of_contratosDe hfg hw hw' hu hv fun h => ?_
    rw [← hcs, ← hct]
    exact heq h
  · rw [hcs, hct, contratosDe_orden hfg hw hw' hd hu hv h]
    exact ⟨fun _ hx => hx, fun _ hx => hx⟩
  · have hun := unidos_orden hfg hw hw' hd hp hu hv
    refine ⟨fun b hb => ?_, fun b hb => ?_⟩
    · obtain ⟨h, hb⟩ := (hual b).mp hb
      exact (hval b).mpr ⟨h, by rw [hun]; exact hb⟩
    · obtain ⟨h, hb⟩ := (hval b).mp hb
      exact (hual b).mpr ⟨h, by rw [← hun]; exact hb⟩

end

/-! ## May and June -/

/-- May before June, by the engine of the concrete runs -/
abbrev mayoJunio (mayo junio : List FilaCsv) : Except Error Unit × Db :=
  Prog.run (exec motorConcreto) (dosCargas motorConcreto 2024 5 0 mayo 2024 6 0 junio) .empty

abbrev junioMayo (mayo junio : List FilaCsv) : Except Error Unit × Db :=
  Prog.run (exec motorConcreto) (dosCargas motorConcreto 2024 6 0 junio 2024 5 0 mayo) .empty

/-- **The order matters**: June calls the supplier of the alert another name, and then the alert is
another one; or June has an order of May. -/
theorem orden_importa :
    ((mayoJunio comprasRecurrentes compraCompartida).1 = .ok () ∧
      (junioMayo comprasRecurrentes compraCompartida).1 = .ok () ∧
      ¬ MismasFilas
        ((mayoJunio comprasRecurrentes compraCompartida).2.alerta.rows.map Alerta.sinHora)
        ((junioMayo comprasRecurrentes compraCompartida).2.alerta.rows.map Alerta.sinHora)) ∧
    ((mayoJunio compraCompartida compraCompartida).1 = .ok () ∧
      (junioMayo compraCompartida compraCompartida).1 = .ok () ∧
      ¬ MismasFilas
        ((mayoJunio compraCompartida compraCompartida).2.contratosDe "chilecompra_oc_2024-05")
        ((junioMayo compraCompartida compraCompartida).2.contratosDe "chilecompra_oc_2024-05")) :=
  ⟨⟨by decide +kernel, by decide +kernel, by decide +kernel⟩, by decide +kernel, by decide +kernel,
    by decide +kernel⟩

/-- one order of the same supplier under the same name -/
def compraMismoNombre : List FilaCsv := [.orden "9-OC" "5.000.000" "2024-06-01" "62-K" "76-K" "" "Acme"]

theorem orden_indiferente_mismo_nombre :
    (∀ h, MismasFilas ((mayoJunio comprasRecurrentes compraMismoNombre).2.contratosDe h)
      ((junioMayo comprasRecurrentes compraMismoNombre).2.contratosDe h)) ∧
    MismasFilas ((mayoJunio comprasRecurrentes compraMismoNombre).2.alerta.rows.map Alerta.sinHora)
      ((junioMayo comprasRecurrentes compraMismoNombre).2.alerta.rows.map Alerta.sinHora) := by
  have h : mayoJunio comprasRecurrentes compraMismoNombre =
      (.ok (), (mayoJunio comprasRecurrentes compraMismoNombre).2) :=
    Prod.ext (by decide +kernel) rfl
  have h' : junioMayo comprasRecurrentes compraMismoNombre =
      (.ok (), (junioMayo comprasRecurrentes compraMismoNombre).2) :=
    Prod.ext (by decide +kernel) rfl
  obtain ⟨fr, fr', hfr, hfr', hcon, hal⟩ := orden_indiferente_iff (by decide +kernel) h h'
  have hb : ((frames motorConcreto (fuenteDe 2024 5) comprasRecurrentes 0).toOption.any fun fr =>
      (frames motorConcreto (fuenteDe 2024 6) compraMismoNombre 0).toOption.any fun fr' =>
        decide (SinOrdenComun fr fr' ∧ MismosProveedores fr fr')) = true := by decide +kernel
  rw [hfr, hfr'] at hb
  obtain ⟨hd, hp⟩ := of_decide_eq_true hb
  exact ⟨hcon.mpr hd, hal hd hp⟩

end Fractura
