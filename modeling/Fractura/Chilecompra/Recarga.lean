import Fractura.Chilecompra.Guardar

/-!
# Loading a slice again

`Vigente M year month csv s`: `s` is reached by loads that returned, the slice was last loaded
from `csv` and everything after that load is of other slices.  `RecargaIgual` says that a full load
of the same file, which is read as the same rows, returns and changes no key.  `recarga_iff` is the
exact condition (`Recargable`):

* no contract of another slice uses a supplier or an organism that the slice owns, else the
  `DELETE` of the parents raises (`recarga_compartida`);
* every amount of the file fits into 64 bits (a first load with a limit may not have read them);
* every purchase order, organism and supplier of the file is still stored, by whatever slice.
-/

namespace Fractura

open Db KeyTable

section
variable (M : Motor)

/-! ## histories of loads -/

inductive Cargado : Db → Prop where
  | vacio : Cargado .empty
  | carga {year month limit : Int} {a : Archivo} {s t : Db} {c : Carga} (hs : Cargado s)
      (h : Prog.run (exec M) (loadChilecompraSlice M year month limit a) s = (.ok (.ok c), t)) :
      Cargado t

inductive Vigente (year month : Int) (csv : List FilaCsv) : Db → Prop where
  | carga {limit : Int} {s t : Db} {c : Carga} (hs : Cargado M s)
      (h : Prog.run (exec M) (loadChilecompraSlice M year month limit (.csv csv)) s =
        (.ok (.ok c), t)) : Vigente year month csv t
  | otra {year' month' limit : Int} {a : Archivo} {s t : Db} {c : Carga}
      (hs : Vigente year month csv s) (hne : fuenteDe year' month' ≠ fuenteDe year month)
      (h : Prog.run (exec M) (loadChilecompraSlice M year' month' limit a) s =
        (.ok (.ok c), t)) : Vigente year month csv t

/-- a full load of the file returns, and every slice keeps its purchase orders, and the store its
organisms and suppliers -/
def RecargaIgual (year month : Int) (csv : List FilaCsv) (s : Db) : Prop :=
  ∃ c t, Prog.run (exec M) (loadChilecompraSlice M year month 0 (.csv csv)) s = (.ok (.ok c), t) ∧
    (∀ g id, (∃ x ∈ t.contratosDe g, x.id = id) ↔ ∃ x ∈ s.contratosDe g, x.id = id) ∧
    (∀ k, k ∈ t.organismo.keys ↔ k ∈ s.organismo.keys) ∧
    (∀ k, k ∈ t.empresa.keys ↔ k ∈ s.empresa.keys)

structure Recargable (year month : Int) (csv : List FilaCsv) (s : Db) : Prop where
  empresas : ¬ EmpresaCompartida s (fuenteDe year month)
  organismos : ¬ OrganismoCompartido s (fuenteDe year month)
  montos : ∀ r ∈ conTodas M csv, montoFalla M r = false
  pedidos : ∀ r ∈ conTodas M csv, r.Admitida csv → ∀ id, trimN r.id = some id →
    "cc_" ++ id ∈ s.contrato.keys
  ruts : ∀ r ∈ csv, r.tieneOrganismo = true → ∀ k, r.organismo = some k →
    strip k ∈ s.organismo.keys
  proveedores : ∀ r ∈ csv, r.tieneProveedor = true → ∀ k, r.proveedor = some k →
    strip k ∈ s.empresa.keys

end

section
variable {M : Motor} {year month : Int} {csv : List FilaCsv} {f : String}

/-! ## the rows of a frame in the store -/

theorem mem_orgIds {limit : Int} {fr : Frames} (h : frames M f csv limit = .ok fr) {k : String} :
    (∃ o ∈ fr.org.map FilaOrg.toOrganismo, o.rut = k) ↔
      ∃ r ∈ csv, r.tieneOrganismo = true ∧ r.organismo.map strip = some k := by
  rw [← mem_orgKeys h, List.mem_map]
  simp only [List.mem_map, exists_exists_and_eq_and]
  refine ⟨fun h => ?_, fun h => ?_⟩
  · obtain ⟨o, ho, rfl⟩ := h
    obtain ⟨⟨k, hk⟩, -⟩ := (frames_wf h).org o ho
    exact ⟨o, ho, by simp [FilaOrg.toOrganismo, hk]⟩
  · obtain ⟨o, ho, hk⟩ := h
    exact ⟨o, ho, by simp [FilaOrg.toOrganismo, hk]⟩

theorem mem_empIds {limit : Int} {fr : Frames} (h : frames M f csv limit = .ok fr) {k : String} :
    (∃ e ∈ fr.emp.map FilaEmp.toEmpresa, e.id = k) ↔
      ∃ r ∈ csv, r.tieneProveedor = true ∧ r.proveedor.map strip = some k := by
  rw [← mem_empKeys h, List.mem_map]
  simp only [List.mem_map, exists_exists_and_eq_and]
  refine ⟨fun h => ?_, fun h => ?_⟩
  · obtain ⟨e, he, rfl⟩ := h
    obtain ⟨⟨k, hk, -⟩, -⟩ := (frames_wf h).emp e he
    exact ⟨e, he, by simp [FilaEmp.toEmpresa, hk]⟩
  · obtain ⟨e, he, hk⟩ := h
    exact ⟨e, he, by simp [FilaEmp.toEmpresa, hk]⟩

theorem mem_conIds {limit : Int} {fr : Frames} (h : frames M f csv limit = .ok fr) {k : String} :
    (∃ c ∈ fr.con.map FilaCon.toContrato, c.id = k) ↔ ∃ r ∈ conFilas M csv limit,
      r.Admitida csv ∧ ∃ id, trimN r.id = some id ∧ "cc_" ++ id = k := by
  have hk : (∃ c ∈ fr.con.map FilaCon.toContrato, c.id = k) ↔ some k ∈ fr.con.map FilaCon.id := by
    simp only [List.mem_map, exists_exists_and_eq_and]
    refine ⟨fun h => ?_, fun h => ?_⟩
    · obtain ⟨c, hc, rfl⟩ := h
      obtain ⟨⟨k, hk⟩, -⟩ := (frames_wf h).con c hc
      exact ⟨c, hc, by simp [FilaCon.toContrato, hk]⟩
    · obtain ⟨c, hc, hk⟩ := h
      exact ⟨c, hc, by simp [FilaCon.toContrato, hk]⟩
  rw [hk, mem_conKeys h]
  simp only [Option.map_eq_some_iff]

theorem fuente_conIds {limit : Int} {fr : Frames} (h : frames M f csv limit = .ok fr)
    {c : Contrato} (hc : c ∈ fr.con.map FilaCon.toContrato) : c.fuente = some f := by
  obtain ⟨r, hr, rfl⟩ := List.mem_map.mp hc
  exact ((frames_wf h).con r hr).2.1

/-! ## what the slice owns comes from its file -/

structure DelArchivo (M : Motor) (f : String) (csv : List FilaCsv) (s : Db) : Prop where
  contratos : ∀ c ∈ s.contrato.rows, c.fuente = some f → ∃ r ∈ conTodas M csv, r.Admitida csv ∧
    ∃ id, trimN r.id = some id ∧ "cc_" ++ id = c.id
  organismos : ∀ o ∈ s.organismo.rows, o.fuente = some f →
    ∃ r ∈ csv, r.tieneOrganismo = true ∧ r.organismo.map strip = some o.rut
  empresas : ∀ e ∈ s.empresa.rows, e.fuente = some f →
    ∃ r ∈ csv, r.tieneProveedor = true ∧ r.proveedor.map strip = some e.id
  alguno : ∃ r ∈ conTodas M csv, r.Admitida csv

theorem mem_batch {ρ : Type} {key : ρ → String} {fuente : ρ → Option String}
    {t : KeyTable ρ String key} {rs : List ρ} {x : ρ}
    (hx : x ∈ ((t.filter fun r => decide (fuente r ≠ some f)).insertAll rs).rows)
    (hf : fuente x = some f) : x ∈ rs := by
  rcases mem_insertAll hx with hx | ⟨hx, -⟩
  · exact absurd hf (of_decide_eq_true (List.mem_filter.mp hx).2)
  · exact hx

theorem DelArchivo.carga {limit : Int} {fr : Frames} (h : frames M f csv limit = .ok fr)
    (hne : fr.con ≠ []) {s t : Db} (ht : t.toTablas = s.cargada f fr) : DelArchivo M f csv t := by
  have hsub : ∀ r, r ∈ conFilas M csv limit → r ∈ conTodas M csv :=
    fun r hr => (conFilas_sublist csv limit).subset hr
  refine ⟨?_, ?_, ?_, ?_⟩
  · intro c hc hf
    rw [ht] at hc
    obtain ⟨r, hr, ha, hid⟩ := (mem_conIds h).mp ⟨c, mem_batch hc hf, rfl⟩
    exact ⟨r, hsub r hr, ha, hid⟩
  · intro o ho hf
    rw [ht] at ho
    exact (mem_orgIds h).mp ⟨o, mem_batch ho hf, rfl⟩
  · intro e he hf
    rw [ht] at he
    exact (mem_empIds h).mp ⟨e, mem_batch he hf, rfl⟩
  · obtain ⟨c, hc⟩ := List.exists_mem_of_ne_nil _ hne
    obtain ⟨r, hr, ha, -⟩ := (mem_conIds h).mp ⟨c.toContrato, List.mem_map_of_mem hc, rfl⟩
    exact ⟨r, hsub r hr, ha⟩

theorem DelArchivo.otra {g : String} (hfg : f ≠ g) {s t : Db} (hs : DelArchivo M f csv s)
    (h : Ajeno g s t) : DelArchivo M f csv t := by
  have hne : some f ≠ some g := fun e => hfg (Option.some.inj e)
  refine ⟨?_, ?_, ?_, hs.alguno⟩
  · intro c hc hf
    exact hs.contratos c ((h.mem_contrato (hf ▸ hne)).mp hc) hf
  · intro o ho hf
    exact hs.organismos o (h.mem_organismo (hf ▸ hne) ho) hf
  · intro e he hf
    exact hs.empresas e (h.mem_empresa (hf ▸ hne) he) hf

/-- **Over the whole history** the slice owns only rows of its last file. -/
theorem delArchivo_of_vigente {s : Db} (h : Vigente M year month csv s) :
    DelArchivo M (fuenteDe year month) csv s := by
  induction h with
  | carga hs h =>
    obtain ⟨fr, hfr, -, -, -, -, hne, ht⟩ := load_ok_inv h
    exact .carga hfr hne ht
  | @otra year' month' limit a s t c _ hne h ih =>
    have haj := load_ajeno M year' month' limit a s
    rw [h] at haj
    exact ih.otra (Ne.symm hne) haj

/-! ## the reload -/

theorem frames_ne_nil {s : Db} (hs : DelArchivo M f csv s) {fr : Frames}
    (h : frames M f csv 0 = .ok fr) : fr.org ≠ [] ∧ fr.emp ≠ [] ∧ fr.con ≠ [] := by
  obtain ⟨r, hr, ha⟩ := hs.alguno
  have hv := (mem_conTodas hr).2
  obtain ⟨id, hid⟩ := FilaCsv.id_isSome hv
  obtain ⟨c, hc, -⟩ := (mem_conIds h).mpr ⟨r, hr, ha, id, hid, rfl⟩
  obtain ⟨x, hx, -⟩ := List.mem_map.mp hc
  obtain ⟨-, -, ⟨k, -, ho⟩, ⟨k', -, he⟩⟩ := (frames_wf h).con x hx
  obtain ⟨o, ho, -⟩ := List.mem_map.mp ho
  obtain ⟨e, he, -⟩ := List.mem_map.mp he
  exact ⟨List.ne_nil_of_mem ho, List.ne_nil_of_mem he, List.ne_nil_of_mem hx⟩

theorem organismos_iff {s : Db} (hs : DelArchivo M f csv s) {fr : Frames}
    (h : frames M f csv 0 = .ok fr) :
    (∀ k, k ∈ (s.cargada f fr).organismo.keys ↔ k ∈ s.organismo.keys) ↔
      ∀ r ∈ csv, r.tieneOrganismo = true → ∀ k, r.organismo = some k →
        strip k ∈ s.organismo.keys := by
  refine (keys_filter_insertAll (fun o ho hf => ?_)).trans ?_
  · have hf' : o.fuente = some f := by simpa using hf
    exact (mem_orgIds h).mpr (hs.organismos o ho hf')
  · refine ⟨fun hk => ?_, fun hk => ?_⟩
    · intro r hr ht k hrk
      obtain ⟨o, ho, hok⟩ := (mem_orgIds h).mpr ⟨r, hr, ht, by rw [hrk]; rfl⟩
      exact hok ▸ hk o ho
    · intro o ho
      obtain ⟨r, hr, ht, hrk⟩ := (mem_orgIds h).mp ⟨o, ho, rfl⟩
      obtain ⟨k, hk', hkk⟩ := Option.map_eq_some_iff.mp hrk
      exact hkk ▸ hk r hr ht k hk'

theorem empresas_iff {s : Db} (hs : DelArchivo M f csv s) {fr : Frames}
    (h : frames M f csv 0 = .ok fr) :
    (∀ k, k ∈ (s.cargada f fr).empresa.keys ↔ k ∈ s.empresa.keys) ↔
      ∀ r ∈ csv, r.tieneProveedor = true → ∀ k, r.proveedor = some k →
        strip k ∈ s.empresa.keys := by
  refine (keys_filter_insertAll (fun e he hf => ?_)).trans ?_
  · have hf' : e.fuente = some f := by simpa using hf
    exact (mem_empIds h).mpr (hs.empresas e he hf')
  · refine ⟨fun hk => ?_, fun hk => ?_⟩
    · intro r hr ht k hrk
      obtain ⟨e, he, hek⟩ := (mem_empIds h).mpr ⟨r, hr, ht, by rw [hrk]; rfl⟩
      exact hek ▸ hk e he
    · intro e he
      obtain ⟨r, hr, ht, hrk⟩ := (mem_empIds h).mp ⟨e, he, rfl⟩
      obtain ⟨k, hk', hkk⟩ := Option.map_eq_some_iff.mp hrk
      exact hkk ▸ hk r hr ht k hk'

theorem contrato_cargado {s t : Db} {fr : Frames} (ht : t.toTablas = s.cargada f fr) {x : Contrato}
    (hx : x ∈ t.contrato.rows) : (x ∈ s.contrato.rows ∧ x.fuente ≠ some f) ∨
      (x ∈ fr.con.map FilaCon.toContrato ∧
        ∀ y ∈ s.contrato.rows, y.id = x.id → y.fuente = some f) := by
  have htab : t.contrato = (s.contrato.filter fun c => decide (c.fuente ≠ some f)).insertAll
      (fr.con.map FilaCon.toContrato) := by rw [ht]; rfl
  rw [htab] at hx
  rcases mem_insertAll hx with hx | ⟨hx, hfree⟩
  · obtain ⟨h1, h2⟩ := List.mem_filter.mp hx
    exact Or.inl ⟨h1, of_decide_eq_true h2⟩
  · refine Or.inr ⟨hx, fun y hy hid => ?_⟩
    by_contra hyf
    exact hfree (mem_keys_filter.mpr ⟨y, hy, hid, decide_eq_true hyf⟩)

theorem pedidos_iff {s t : Db} (hs : DelArchivo M f csv s) {fr : Frames}
    (h : frames M f csv 0 = .ok fr) (ht : t.toTablas = s.cargada f fr) :
    (∀ g id, (∃ x ∈ t.contratosDe g, x.id = id) ↔ ∃ x ∈ s.contratosDe g, x.id = id) ↔
      ∀ r ∈ conTodas M csv, r.Admitida csv → ∀ id, trimN r.id = some id →
        "cc_" ++ id ∈ s.contrato.keys := by
  have htab : t.contrato = (s.contrato.filter fun c => decide (c.fuente ≠ some f)).insertAll
      (fr.con.map FilaCon.toContrato) := by rw [ht]; rfl
  refine ⟨fun hids => ?_, fun hped => ?_⟩
  · intro r hr ha id hid
    have hk : "cc_" ++ id ∈ t.contrato.keys := by
      rw [htab]
      exact mem_keys_insertAll.mpr (Or.inr ((mem_conIds h).mpr ⟨r, hr, ha, id, hid, rfl⟩))
    obtain ⟨x, hx, hxid⟩ := mem_keys.mp hk
    rcases contrato_cargado ht hx with ⟨hxs, -⟩ | ⟨hxc, -⟩
    · exact hxid ▸ key_mem hxs
    · have hxf := fuente_conIds h hxc
      obtain ⟨y, hy, hyid⟩ := (hids f _).mp ⟨x, mem_contratosDe.mpr ⟨hx, hxf⟩, hxid⟩
      exact hyid ▸ key_mem (mem_contratosDe.mp hy).1
  · intro g id
    refine ⟨fun h => ?_, fun h => ?_⟩
    · obtain ⟨x, hx, rfl⟩ := h
      obtain ⟨hx, hg⟩ := mem_contratosDe.mp hx
      rcases contrato_cargado ht hx with ⟨hxs, -⟩ | ⟨hxc, hown⟩
      · exact ⟨x, mem_contratosDe.mpr ⟨hxs, hg⟩, rfl⟩
      · obtain ⟨r, hr, ha, id, hid, hidx⟩ := (mem_conIds h).mp ⟨x, hxc, rfl⟩
        obtain ⟨y, hy, hyid⟩ := mem_keys.mp (hped r hr ha id hid)
        have hyx : y.id = x.id := hyid.trans hidx
        refine ⟨y, mem_contratosDe.mpr ⟨hy, ?_⟩, hyx⟩
        rw [hown y hy hyx, ← hg, fuente_conIds h hxc]
    · obtain ⟨x, hx, rfl⟩ := h
      obtain ⟨hx, hg⟩ := mem_contratosDe.mp hx
      by_cases hf : x.fuente = some f
      · have hk : x.id ∈ t.contrato.keys := by
          rw [htab]
          exact mem_keys_insertAll.mpr (Or.inr ((mem_conIds h).mpr (hs.contratos x hx hf)))
        obtain ⟨y, hy, hyid⟩ := mem_keys.mp hk
        refine ⟨y, mem_contratosDe.mpr ⟨hy, ?_⟩, hyid⟩
        rcases contrato_cargado ht hy with ⟨hys, hyf⟩ | ⟨hyc, -⟩
        · exact absurd (eq_of_key hys hx hyid ▸ hf) hyf
        · rw [fuente_conIds h hyc, ← hf, hg]
      · refine ⟨x, mem_contratosDe.mpr ⟨?_, hg⟩, rfl⟩
        rw [htab]
        exact mem_insertAll_of_mem (List.mem_filter.mpr ⟨hx, decide_eq_true hf⟩)

/-- **When a slice can be loaded again.** -/
theorem recarga_iff {s : Db} (hs : Vigente M year month csv s) :
    RecargaIgual M year month csv s ↔ Recargable M year month csv s := by
  have hd := delArchivo_of_vigente hs
  refine ⟨fun h => ?_, fun h => ?_⟩
  · obtain ⟨c, t, hrun, hids, horg, hemp⟩ := h
    obtain ⟨fr, hfr, hE, hO, -, -, -, ht⟩ := load_ok_inv hrun
    have hto : t.organismo = (s.cargada (fuenteDe year month) fr).organismo := by rw [ht]
    have hte : t.empresa = (s.cargada (fuenteDe year month) fr).empresa := by rw [ht]
    rw [hto] at horg
    rw [hte] at hemp
    exact ⟨hE, hO, frames_isOk.mp ⟨fr, hfr⟩, (pedidos_iff hd hfr ht).mp hids,
      (organismos_iff hd hfr).mp horg, (empresas_iff hd hfr).mp hemp⟩
  · have hex : ∃ fr, frames M (fuenteDe year month) csv 0 = .ok fr := frames_isOk.mpr h.montos
    obtain ⟨fr, hfr⟩ := hex
    obtain ⟨h1, h2, h3⟩ := frames_ne_nil hd hfr
    obtain ⟨c, t, hrun, ht⟩ := load_ok (M := M) hfr h.empresas h.organismos h1 h2 h3
    refine ⟨c, t, hrun, (pedidos_iff hd hfr ht).mpr h.pedidos, ?_, ?_⟩
    · rw [ht]
      exact (organismos_iff hd hfr).mpr h.ruts
    · rw [ht]
      exact (empresas_iff hd hfr).mpr h.proveedores

end

/-! ## two slices with one supplier -/

def compraMayo : List FilaCsv := [.orden "1-OC" "1.000.000" "2024-05-01" "61-K" "76-K" "" "Acme"]
def compraJunio : List FilaCsv := [.orden "2-OC" "1.000.000" "2024-06-01" "61-K" "76-K" "" "Acme"]

/-- May, then June, which references the supplier and the organism that May owns -/
def tiendaCompartida : Db := trasCarga 2024 6 compraJunio (trasCarga 2024 5 compraMayo .empty)

theorem tiendaCompartida_vigente : Vigente motorConcreto 2024 5 compraMayo tiendaCompartida := by
  have h1 : Prog.run (exec motorConcreto)
      (loadChilecompraSlice motorConcreto 2024 5 0 (.csv compraMayo)) .empty =
      (.ok (.ok ⟨1, 1, 1, 0, "chilecompra_oc_2024-05"⟩), trasCarga 2024 5 compraMayo .empty) :=
    Prod.ext (by decide +kernel) rfl
  have h2 : Prog.run (exec motorConcreto)
      (loadChilecompraSlice motorConcreto 2024 6 0 (.csv compraJunio))
      (trasCarga 2024 5 compraMayo .empty) =
      (.ok (.ok ⟨0, 0, 1, 0, "chilecompra_oc_2024-06"⟩), tiendaCompartida) :=
    Prod.ext (by decide +kernel) rfl
  exact .otra (.carga .vacio h1) (by decide +kernel) h2

/-- **The reload of May raises**: June still uses its supplier. -/
theorem recarga_compartida :
    Vigente motorConcreto 2024 5 compraMayo tiendaCompartida ∧
    (Prog.run (exec motorConcreto)
      (loadChilecompraSlice motorConcreto 2024 5 0 (.csv compraMayo)) tiendaCompartida).1 =
      .error (.foreignKey .empresa) ∧
    ¬ RecargaIgual motorConcreto 2024 5 compraMayo tiendaCompartida := by
  have herr : (Prog.run (exec motorConcreto)
      (loadChilecompraSlice motorConcreto 2024 5 0 (.csv compraMayo)) tiendaCompartida).1 =
      .error (.foreignKey .empresa) := by decide +kernel
  refine ⟨tiendaCompartida_vigente, herr, ?_⟩
  rintro ⟨c, t, h, -⟩
  rw [h] at herr
  cases herr

theorem recarga_iff_mayo :
    RecargaIgual motorConcreto 2024 5 compraMayo (trasCarga 2024 5 compraMayo .empty) := by
  have h1 : Prog.run (exec motorConcreto)
      (loadChilecompraSlice motorConcreto 2024 5 0 (.csv compraMayo)) .empty =
      (.ok (.ok ⟨1, 1, 1, 0, "chilecompra_oc_2024-05"⟩), trasCarga 2024 5 compraMayo .empty) :=
    Prod.ext (by decide +kernel) rfl
  refine (recarga_iff (.carga .vacio h1)).mpr ⟨by decide +kernel, by decide +kernel,
    by decide +kernel, ?_, ?_, ?_⟩
  · decide +kernel
  · decide +kernel
  · decide +kernel

end Fractura
