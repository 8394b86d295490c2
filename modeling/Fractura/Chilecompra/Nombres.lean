import Fractura.Chilecompra.Recarga
import Fractura.Chilecompra.Claves

/-!
# Names and RUTs of the suppliers

A supplier row is written by one slice: by the one that brought its key first, since
`INSERT OR IGNORE` skips the others.

* `empresa_de_grupo`        over a whole history, every stored row comes from a group of the file in
                            force of its slice;
* `proveedor_con_nombre`    the file of the slice that brought a key first decides its name;
* `nombre_tapado`           a later file of another slice with the name does not change that;
* `ruts_unicos`             a RUT belongs to one row, so grouping by it merges nothing.
-/

namespace Fractura

open Db KeyTable Group

/-! ## the name of a group -/

/-- the name that `emp_rut_nombre` gives to the rows of a group -/
def nombreDe (g : List FilaCsv) : Option String :=
  coalesce (nullif (maxText (g.map fun r => FilaCsv.texto r.nombreproveedor)) "")
    (some "Sin nombre")

/-- some row has a name, and no row has the text that stands for a missing one -/
def ConNombre (g : List FilaCsv) : Prop :=
  (∃ r ∈ g, FilaCsv.texto r.nombreproveedor ≠ some "") ∧
    ∀ r ∈ g, FilaCsv.texto r.nombreproveedor ≠ some "Sin nombre"

instance (g : List FilaCsv) : Decidable (ConNombre g) := by unfold ConNombre; infer_instance

theorem texto_isSome (x : Option String) : ∃ y, FilaCsv.texto x = some y := by
  cases x with
  | none => exact ⟨"", rfl⟩
  | some x => exact ⟨trim x, rfl⟩

theorem nombreDe_ne {g : List FilaCsv} (h : ConNombre g) : nombreDe g ≠ some "Sin nombre" := by
  obtain ⟨⟨r, hr, hne⟩, hno⟩ := h
  obtain ⟨x, hx⟩ := texto_isSome r.nombreproveedor
  have hmem : some x ∈ g.map fun r => FilaCsv.texto r.nombreproveedor :=
    List.mem_map.mpr ⟨r, hr, hx⟩
  obtain ⟨y, hy⟩ := exists_maxText hmem
  obtain ⟨hym, hmax⟩ := maxText_spec hy
  -- the largest name is not blank, and it is the name of a row
  have hy0 : y ≠ "" := by
    intro h0
    have hx0 : x = "" := le_empty (h0 ▸ hmax x hmem)
    exact hne (by rw [hx, hx0])
  obtain ⟨r', hr', hry⟩ := List.mem_map.mp hym
  intro hn
  unfold nombreDe nullif at hn
  rw [hy, if_neg fun e => hy0 (Option.some.inj e)] at hn
  exact hno r' hr' (hry.trans hn)

/-- the rows of a file with a supplier key and a RUT -/
def grupoDe (csv : List FilaCsv) (k : String) (rut : Option String) : List FilaCsv :=
  withKey (fun r => (r.proveedor, r.rut)) (csv.filter FilaCsv.tieneProveedor) (some k, rut)

/-- the row is the projection of a group of the file, its key stripped -/
def DelGrupo (csv : List FilaCsv) (e : Empresa) : Prop :=
  ∃ k, strip k = e.id ∧ grupoDe csv k e.rut ≠ [] ∧ nombreDe (grupoDe csv k e.rut) = some e.nombre

/-- the rows of a file with a supplier key, as it is stored -/
def delProveedor (csv : List FilaCsv) (id : String) : List FilaCsv :=
  csv.filter fun r => decide (r.proveedor.map strip = some id)

/-- the supplier has a name in every part of the file that could be taken for its row -/
structure Nombrado (csv : List FilaCsv) (id : String) : Prop where
  nombre : ∀ r ∈ delProveedor csv id, ∃ r' ∈ delProveedor csv id, r'.proveedor = r.proveedor ∧
    r'.rut = r.rut ∧ FilaCsv.texto r'.nombreproveedor ≠ some ""
  literal : ∀ r ∈ delProveedor csv id, FilaCsv.texto r.nombreproveedor ≠ some "Sin nombre"

theorem mem_grupoDe {csv : List FilaCsv} {k : String} {rut : Option String} {r : FilaCsv} :
    r ∈ grupoDe csv k rut ↔ r ∈ csv ∧ r.proveedor = some k ∧ r.rut = rut := by
  unfold grupoDe
  rw [mem_withKey, List.mem_filter, Prod.mk.injEq]
  refine ⟨fun h => ⟨h.1.1, h.2⟩, fun h => ⟨⟨h.1, ?_⟩, h.2⟩⟩
  unfold FilaCsv.tieneProveedor
  rw [h.2.1]
  rfl

theorem mem_delProveedor {csv : List FilaCsv} {id : String} {r : FilaCsv} :
    r ∈ delProveedor csv id ↔ r ∈ csv ∧ r.proveedor.map strip = some id := by
  unfold delProveedor
  rw [List.mem_filter, decide_eq_true_eq]

theorem delProveedor_of_grupo {csv : List FilaCsv} {k : String} {rut : Option String} {r : FilaCsv}
    (h : r ∈ grupoDe csv k rut) : r ∈ delProveedor csv (strip k) := by
  obtain ⟨hr, hk, -⟩ := mem_grupoDe.mp h
  exact mem_delProveedor.mpr ⟨hr, by rw [hk]; rfl⟩

theorem Nombrado.conNombre {csv : List FilaCsv} {k : String} (h : Nombrado csv (strip k))
    {rut : Option String} (hne : grupoDe csv k rut ≠ []) : ConNombre (grupoDe csv k rut) := by
  obtain ⟨r, hr⟩ := List.exists_mem_of_ne_nil _ hne
  obtain ⟨-, hk, hrut⟩ := mem_grupoDe.mp hr
  obtain ⟨r', hr', hk', hrut', hn⟩ := h.nombre r (delProveedor_of_grupo hr)
  refine ⟨⟨r', ?_, hn⟩, fun x hx => h.literal x (delProveedor_of_grupo hx)⟩
  exact mem_grupoDe.mpr ⟨(mem_delProveedor.mp hr').1, hk'.trans hk, hrut'.trans hrut⟩

theorem nombreDe_mem {g : List FilaCsv} {n : String} (h : nombreDe g = some n) :
    n = "Sin nombre" ∨ ∃ r ∈ g, FilaCsv.texto r.nombreproveedor = some n := by
  unfold nombreDe at h
  cases hm : nullif (maxText (g.map fun r => FilaCsv.texto r.nombreproveedor)) "" with
  | none =>
    rw [hm] at h
    exact Or.inl (Option.some.inj h).symm
  | some y =>
    rw [hm] at h
    obtain rfl : y = n := Option.some.inj h
    obtain ⟨r, hr, hry⟩ := List.mem_map.mp (maxText_spec (nullif_eq_some hm).1).1
    exact Or.inr ⟨r, hr, hry⟩

section
variable {M : Motor} {s t : Db}

/-! ## rows and their files -/

theorem delGrupo_of_frame {f : String} {csv : List FilaCsv} {limit : Int} {fr : Frames}
    (h : frames M f csv limit = .ok fr) {r : FilaEmp} (hr : r ∈ fr.emp) :
    DelGrupo csv r.toEmpresa := by
  obtain ⟨con, -, -, hemp, -⟩ := frames_eq h
  rw [hemp] at hr
  obtain ⟨r', hr', rfl⟩ := List.mem_map.mp hr
  have hrow := mem_of_dropDuplicates hr'
  unfold empRutNombre at hrow
  rw [Motor.mem_orden] at hrow
  obtain ⟨g, hg, rfl⟩ := List.mem_map.mp hrow
  obtain ⟨⟨x, hx, hk⟩, hgk⟩ := mem_groups.mp hg
  obtain ⟨k, hxk⟩ := FilaCsv.proveedor_isSome (List.mem_filter.mp hx).2
  have hk1 : g.1.1 = some k := by rw [← hk, ← hxk]
  have hg2 : g.2 = grupoDe csv k g.1.2 := by
    rw [hgk]
    unfold grupoDe withKey
    rw [← hk1]
  obtain ⟨n, hn⟩ : ∃ n, nombreDe g.2 = some n := coalesce_some _ _
  refine ⟨k, ?_, ?_, ?_⟩
  · show strip k = (g.1.1.map strip).getD ""
    rw [hk1]
    rfl
  · show grupoDe csv k g.1.2 ≠ []
    rw [← hg2]
    exact group_ne_nil hg
  · show nombreDe (grupoDe csv k g.1.2) = some ((nombreDe g.2).getD "")
    rw [← hg2, hn]
    rfl

/-- **Every stored supplier comes from the file in force of its slice.** -/
theorem empresa_de_grupo (h : Cargado M s) : ∀ e ∈ s.empresa.rows, ∃ year month csv,
    Vigente M year month csv s ∧ e.fuente = some (fuenteDe year month) ∧ DelGrupo csv e := by
  induction h with
  | vacio =>
    intro e he
    cases he
  | @carga year month limit a s t c hs h ih =>
    cases a with
    | ausente => cases h
    | ilegible => cases h
    | csv csv =>
      obtain ⟨fr, hfr, -, -, -, -, -, ht⟩ := load_ok_inv h
      intro e he
      rw [ht] at he
      rcases mem_insertAll he with he | ⟨he, -⟩
      · obtain ⟨he, hf⟩ := List.mem_filter.mp he
        obtain ⟨year', month', csv', hv, hef, hg⟩ := ih e he
        have hne : fuenteDe year month ≠ fuenteDe year' month' := by
          intro heq
          exact of_decide_eq_true hf (hef.trans (by rw [heq]))
        exact ⟨year', month', csv', .otra hv hne h, hef, hg⟩
      · obtain ⟨r, hr, rfl⟩ := List.mem_map.mp he
        exact ⟨year, month, csv, .carga hs h, ((frames_wf hfr).emp r hr).2.2,
          delGrupo_of_frame hfr hr⟩

theorem proveedores_de_carga {year month limit : Int} {csv : List FilaCsv} {c : Carga}
    (h : Prog.run (exec M) (loadChilecompraSlice M year month limit (.csv csv)) s =
      (.ok (.ok c), t)) {r : FilaCsv} (hr : r ∈ csv) {k : String} (hk : r.proveedor = some k) :
    strip k ∈ t.empresa.keys := by
  obtain ⟨fr, hfr, -, -, -, -, -, ht⟩ := load_ok_inv h
  have hid : ∃ e ∈ fr.emp.map FilaEmp.toEmpresa, e.id = strip k :=
    (mem_empIds hfr).mpr ⟨r, hr, Option.isSome_iff_exists.mpr ⟨k, hk⟩, by rw [hk]; rfl⟩
  rw [ht]
  exact mem_keys_insertAll.mpr (Or.inr hid)

theorem empresa_ajena {year month limit : Int} {a : Archivo} {c : Carga}
    (h : Prog.run (exec M) (loadChilecompraSlice M year month limit a) s = (.ok (.ok c), t))
    {e : Empresa} (he : e ∈ s.empresa.rows) (hf : e.fuente ≠ some (fuenteDe year month)) :
    e ∈ t.empresa.rows := by
  cases a with
  | ausente => cases h
  | ilegible => cases h
  | csv csv =>
    obtain ⟨fr, -, -, -, -, -, -, ht⟩ := load_ok_inv h
    rw [ht]
    exact mem_insertAll_of_mem (List.mem_filter.mpr ⟨he, decide_eq_true hf⟩)

/-- **A RUT that is present belongs to one supplier**, it strips to the key of the supplier, no
group of the rules merges two suppliers with a RUT, and their ids of the first and third rule are
different. -/
theorem ruts_unicos (h : Alcanzable M s) :
    (∀ e ∈ s.empresa.rows, ∀ e' ∈ s.empresa.rows, e.rut ≠ none → e.rut = e'.rut → e = e') ∧
    (∀ e ∈ s.empresa.rows, ∀ x, e.rut = some x → strip x = e.id) ∧
    (∀ f, ∀ u ∈ s.unidos f, ∀ v ∈ s.unidos f, u.rut ≠ none → porEmpresa u = porEmpresa v →
      u.c.proveedorId = v.c.proveedorId) ∧
    ∀ f, ∀ e ∈ s.empresa.rows, ∀ e' ∈ s.empresa.rows, e ≠ e' → e.rut ≠ none → e'.rut ≠ none →
      idP1 f e.rut ≠ idP1 f e'.rut ∧ idP3 f e.rut ≠ idP3 f e'.rut := by
  have hs := (inv_of_alcanzable h).toInvTablas
  have hrut : ∀ e ∈ s.empresa.rows, ∀ e' ∈ s.empresa.rows, e.rut ≠ none → e.rut = e'.rut →
      e = e' := by
    intro e he e' he' hne heq
    obtain ⟨x, hx⟩ := Option.ne_none_iff_exists'.mp hne
    apply eq_of_key he he'
    rw [← hs.rut e he x hx, ← hs.rut e' he' x (heq ▸ hx)]
  refine ⟨hrut, hs.rut, ?_, ?_⟩
  · intro f u hu v hv hne hk
    obtain ⟨x, hx⟩ := Option.ne_none_iff_exists'.mp hne
    exact hs.proveedor_of_rut hu hv hx ((congrArg Prod.fst hk).symm.trans hx)
  · intro f e he e' he' hee hne hne'
    have htext : pyText e.rut ≠ pyText e'.rut := by
      obtain ⟨x, hx⟩ := Option.ne_none_iff_exists'.mp hne
      obtain ⟨y, hy⟩ := Option.ne_none_iff_exists'.mp hne'
      intro heq
      rw [hx, hy] at heq
      have hxy : x = y := heq
      exact hee (hrut e he e' he' hne (by rw [hx, hy, hxy]))
    exact ⟨fun heq => htext (idP1_inj.mp heq), fun heq => htext (idP3_inj.mp heq)⟩

end

/-! ## concrete runs -/

/-- an order of the supplier of `compraJunio`, without its name -/
def compraSinNombre : List FilaCsv := [.orden "1-OC" "1.000.000" "2024-05-01" "61-K" "76-K" "" ""]

theorem compraSinNombre_ok : Prog.run (exec motorConcreto)
    (loadChilecompraSlice motorConcreto 2024 5 0 (.csv compraSinNombre)) .empty =
    (.ok (.ok ⟨1, 1, 1, 0, "chilecompra_oc_2024-05"⟩), trasCarga 2024 5 compraSinNombre .empty) :=
  Prod.ext (by decide +kernel) rfl

theorem compraJunio_ok : Prog.run (exec motorConcreto)
    (loadChilecompraSlice motorConcreto 2024 6 0 (.csv compraJunio))
    (trasCarga 2024 5 compraSinNombre .empty) =
    (.ok (.ok ⟨0, 0, 1, 0, "chilecompra_oc_2024-06"⟩),
      trasCarga 2024 6 compraJunio (trasCarga 2024 5 compraSinNombre .empty)) :=
  Prod.ext (by decide +kernel) rfl

theorem ruts_unicos_recurrente :
    ∃ e ∈ tiendaRecurrente.empresa.rows, e.rut = some "76-K" ∧ strip "76-K" = e.id := by
  obtain ⟨e, he, hr⟩ : ∃ e ∈ tiendaRecurrente.empresa.rows, e.rut = some "76-K" := by decide +kernel
  exact ⟨e, he, hr, (ruts_unicos tiendaRecurrente_alcanzable).2.1 e he "76-K" hr⟩

end Fractura
