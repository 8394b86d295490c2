import Fractura.Sql

/-!
# `load_chilecompra_slice`: from the CSV to the three frames

`FilaCsv` is a row of the CSV, its columns read as text.  `frames` builds what the loader later
inserts: `org_df`, `emp_df` and `con_df`, with the same queries, the same `strip` of the keys in
pandas, the orphan branches and the final filter on the parents.

* `conFilas`   the rows that `WHERE` and `QUALIFY` keep, cut by `LIMIT`;
* `conDf`      their projection; it raises when the amount of a kept row cannot be cast;
* `orgBase`, `empBase`   the frames before the orphan branches.

Main results: a kept row always finds its stripped keys in the frames, so the orphan branches are
never taken (`orgDf_eq`, `empDf_eq`) and `frames_eq` computes the frames without them; every row
of the frames has its key, its name and, for contracts, its two parents in the frames, and a RUT
of `emp_df` strips to the key of its row (`frames_wf`).
-/

namespace Fractura

open Group Db

/-- a row of the CSV file (`normalize_names=true`), NULL for an empty field -/
structure FilaCsv where
  id : Option String
  montototaloc : Option String
  fechacreacion : Option String
  estratodirecto : Option String
  estado : Option String
  rutunidadcompra : Option String
  rutsucursal : Option String
  codigoproveedor : Option String
  organismopublico : Option String
  codigoorganismopublico : Option String
  nombreproveedor : Option String
  actividadproveedor : Option String
  regionproveedor : Option String
  deriving DecidableEq

namespace FilaCsv

/-- `TRIM(COALESCE(x, ''))` -/
def texto (x : Option String) : Option String := trimN (coalesce x (some ""))

/-- `COALESCE(NULLIF(TRIM(rutsucursal), ''), TRIM(codigoproveedor))` -/
def proveedor (r : FilaCsv) : Option String :=
  coalesce (nullif (trimN r.rutsucursal) "") (trimN r.codigoproveedor)

/-- `NULLIF(TRIM(COALESCE(rutsucursal,'')), '')` -/
def rut (r : FilaCsv) : Option String := nullif (texto r.rutsucursal) ""

/-- `TRIM(rutunidadcompra)` -/
def organismo (r : FilaCsv) : Option String := trimN r.rutunidadcompra

/-- `TRIM(COALESCE(rutunidadcompra, '')) != ''` -/
def tieneOrganismo (r : FilaCsv) : Bool := decide (texto r.rutunidadcompra ≠ some "")

/-- `COALESCE(NULLIF(TRIM(rutsucursal), ''), TRIM(codigoproveedor)) IS NOT NULL` -/
def tieneProveedor (r : FilaCsv) : Bool := r.proveedor.isSome

/-- the `WHERE` of the query of `con_df` -/
def valida (r : FilaCsv) : Bool :=
  decide (texto r.id ≠ some "") && r.tieneOrganismo && r.tieneProveedor

/-- `REPLACE(REPLACE(TRIM(COALESCE(montototaloc,'')), '.',''), ',', '.')` -/
def montoTexto (r : FilaCsv) : String :=
  String.ofList (((trim (r.montototaloc.getD "")).toList.filter fun c => decide (c ≠ '.')).map
    fun c => if c = ',' then '.' else c)

end FilaCsv

section
variable (M : Motor)

/-! ## `con_df` -/

/-- `TRY_CAST(... AS DOUBLE)::BIGINT`, NULL when the text is not a number -/
def monto (r : FilaCsv) : Option Int := (M.tryCastDouble r.montoTexto).bind toBigint

/-- the second cast raises -/
def montoFalla (r : FilaCsv) : Bool :=
  (M.tryCastDouble r.montoTexto).any fun d => (toBigint d).isNone

/-- `PARTITION BY TRIM(id) ORDER BY fechacreacion DESC NULLS LAST`, row number 1 -/
def primera (g : List FilaCsv) : Option FilaCsv :=
  firstBy (fun a b => descNullsLast a.fechacreacion b.fechacreacion) g

/-- the rows of the query of `con_df` without its `LIMIT` -/
def conTodas (csv : List FilaCsv) : List FilaCsv :=
  M.orden ((groups (fun r => trimN r.id) (M.orden (csv.filter FilaCsv.valida))).filterMap
    fun g => primera g.2)

/-- the rows of the query of `con_df` -/
def conFilas (csv : List FilaCsv) (limit : Int) : List FilaCsv :=
  if 0 < limit then (conTodas M csv).take limit.toNat else conTodas M csv

/-- an amount in a VARCHAR column; a missing one is `pd.NA` in `.values.tolist()` and is bound as
NULL, and it does not change the type of the others: the column is a nullable `Int64` -/
def montoVarchar (monto : Option Int) : Option String := monto.map fun n => toString n

def filaCon (fuente : String) (r : FilaCsv) : FilaCon where
  id := (trimN r.id).map fun s => "cc_" ++ s
  ocId := trimN r.id
  monto := montoVarchar (monto M r)
  fecha := (r.fechacreacion.bind M.tryCastDate).map M.bindTimestamp
  esTratoDirecto := some (decide ((FilaCsv.texto r.estratodirecto).map M.sqlLower = some "si"))
  estado := FilaCsv.texto r.estado
  organismoId := r.organismo
  proveedorId := r.proveedor
  fuente := some fuente
  tipo := some "OC"

def conDf (fuente : String) (csv : List FilaCsv) (limit : Int) : Except Error (List FilaCon) :=
  let rows := conFilas M csv limit
  if rows.any (montoFalla M) then .error .conversion
  else .ok (rows.map (filaCon M fuente))

/-! ## `org_df` -/

/-- `rut_nombre` -/
def rutNombre (csv : List FilaCsv) : List (Option String × Option String) :=
  M.orden ((groups FilaCsv.organismo (csv.filter FilaCsv.tieneOrganismo)).map fun g =>
    (g.1, coalesce (nullif (maxText (g.2.map fun r => FilaCsv.texto r.organismopublico)) "")
      (some "Sin nombre")))

/-- `rut_codigo` -/
def rutCodigo (csv : List FilaCsv) : List (Option String × Option String) :=
  M.orden ((groups FilaCsv.organismo (csv.filter FilaCsv.tieneOrganismo)).map fun g =>
    (g.1, maxText (g.2.map fun r => nullif (FilaCsv.texto r.codigoorganismopublico) "")))

/-- the codes that a left merge gives to a key -/
def codigos (rc : List (Option String × Option String)) (rut : Option String) :
    List (Option String) :=
  match rc.filter fun p => decide (p.1 = rut) with
  | [] => [none]
  | ps => ps.map Prod.snd

/-- `org_df` before its orphans -/
def orgBase (fuente : String) (csv : List FilaCsv) : List FilaOrg :=
  (rutNombre M csv).flatMap fun p => (codigos (rutCodigo M csv) p.1).map fun codigo =>
    ⟨p.1.map strip, p.2, coalesce codigo (some ""), some "NA", some fuente⟩

/-- the keys that `con_df` needs and the base frame does not have -/
def huerfanos (needed known : List (Option String)) : List (Option String) :=
  (needed.dedup).filter fun k => decide (k ∉ known)

def neededOrg (con : List FilaCon) : List (Option String) :=
  (con.filterMap FilaCon.organismoId).map fun k => some (strip k)

def orgDf (fuente : String) (csv : List FilaCsv) (con : List FilaCon) : List FilaOrg :=
  let base := orgBase M fuente csv
  match huerfanos (neededOrg con) (base.map FilaOrg.rut) with
  | [] => base
  | hs => dropDuplicates FilaOrg.rut
      (base ++ (M.orden hs).map fun k => ⟨k, some "Sin nombre", some "", some "NA", some fuente⟩)

/-! ## `emp_df` -/

/-- `emp_rut_nombre` -/
def empRutNombre (fuente : String) (csv : List FilaCsv) : List FilaEmp :=
  M.orden ((groups (fun r => (r.proveedor, r.rut)) (csv.filter FilaCsv.tieneProveedor)).map
    fun g =>
      { id := g.1.1
        nombre := coalesce (nullif (maxText (g.2.map fun r => FilaCsv.texto r.nombreproveedor)) "")
          (some "Sin nombre")
        rut := g.1.2
        actividad := maxText (g.2.map fun r => nullif (FilaCsv.texto r.actividadproveedor) "")
        region := maxText (g.2.map fun r => nullif (FilaCsv.texto r.regionproveedor) "")
        fuente := some fuente })

/-- `emp_df` before its orphans -/
def empBase (fuente : String) (csv : List FilaCsv) : List FilaEmp :=
  (dropDuplicates FilaEmp.id (empRutNombre M fuente csv)).map fun r =>
    { r with id := r.id.map strip }

def neededProv (con : List FilaCon) : List (Option String) :=
  (con.filterMap FilaCon.proveedorId).map fun k => some (strip k)

def empDf (fuente : String) (csv : List FilaCsv) (con : List FilaCon) : List FilaEmp :=
  let base := empBase M fuente csv
  match huerfanos (neededProv con) (base.map FilaEmp.id) with
  | [] => base
  | hs => dropDuplicates FilaEmp.id
      (base ++ (M.orden hs).map fun k => ⟨k, some "Sin nombre", none, none, none, some fuente⟩)

/-! ## the three frames -/

structure Frames where
  org : List FilaOrg
  emp : List FilaEmp
  con : List FilaCon
  warnDescartados : Nat

/-- `con_df['organismo_id'].isin(final_org) & con_df['proveedor_id'].isin(final_emp)` -/
def conPadres (org : List FilaOrg) (emp : List FilaEmp) (c : FilaCon) : Bool :=
  decide (c.organismoId ∈ org.map FilaOrg.rut) && decide (c.proveedorId ∈ emp.map FilaEmp.id)

/-- a key of `con_df` is in neither final set -/
def hayFaltantes (org : List FilaOrg) (emp : List FilaEmp) (con : List FilaCon) : Bool :=
  con.any fun c => (c.organismoId.isSome && decide (c.organismoId ∉ org.map FilaOrg.rut)) ||
    (c.proveedorId.isSome && decide (c.proveedorId ∉ emp.map FilaEmp.id))

def frames (fuente : String) (csv : List FilaCsv) (limit : Int) : Except Error Frames :=
  match conDf M fuente csv limit with
  | .error e => .error e
  | .ok con =>
    let org := orgDf M fuente csv con
    let emp := empDf M fuente csv con
    if hayFaltantes org emp con then
      let resto := con.filter (conPadres org emp)
      .ok ⟨org, emp, resto, con.length - resto.length⟩
    else .ok ⟨org, emp, con, 0⟩

end

/-! ## the rows of the CSV -/

theorem texto_of_some (x : String) : FilaCsv.texto (some x) = some (trim x) := rfl
theorem texto_of_none : FilaCsv.texto none = some "" := rfl

namespace FilaCsv

theorem organismo_isSome {r : FilaCsv} (h : r.tieneOrganismo = true) :
    ∃ k, r.organismo = some k := by
  cases hr : r.rutunidadcompra with
  | none => simp [tieneOrganismo, hr, texto_of_none] at h
  | some x => exact ⟨trim x, by simp [organismo, hr, trimN]⟩

theorem proveedor_isSome {r : FilaCsv} (h : r.tieneProveedor = true) :
    ∃ k, r.proveedor = some k :=
  Option.isSome_iff_exists.mp h

theorem id_isSome {r : FilaCsv} (h : r.valida = true) : ∃ k, trimN r.id = some k := by
  cases hr : r.id with
  | none => simp [valida, hr, texto_of_none] at h
  | some x => exact ⟨trim x, rfl⟩

theorem valida_organismo {r : FilaCsv} (h : r.valida = true) : r.tieneOrganismo = true := by
  simp only [valida, Bool.and_eq_true] at h
  exact h.1.2

theorem valida_proveedor {r : FilaCsv} (h : r.valida = true) : r.tieneProveedor = true := by
  simp only [valida, Bool.and_eq_true] at h
  exact h.2

/-- **A supplier with a RUT is keyed by it.** -/
theorem proveedor_of_rut {r : FilaCsv} {x : String} (h : r.rut = some x) :
    r.proveedor = some x := by
  obtain ⟨h1, h2⟩ := nullif_eq_some h
  cases hr : r.rutsucursal with
  | none =>
    rw [hr, texto_of_none] at h1
    exact absurd (Option.some.inj h1).symm h2
  | some y =>
    rw [hr, texto_of_some] at h1
    have hn : nullif (some (trim y)) "" = some x := by
      unfold nullif
      rw [h1, if_neg]
      exact fun e => h2 (Option.some.inj e)
    simp only [proveedor, hr, trimN, Option.map_some, hn, coalesce]

end FilaCsv

section
variable {M : Motor}

/-! ## the kept rows -/

theorem mem_conTodas {csv : List FilaCsv} {r : FilaCsv} (h : r ∈ conTodas M csv) :
    r ∈ csv ∧ r.valida = true := by
  unfold conTodas at h
  rw [Motor.mem_orden] at h
  obtain ⟨g, hg, hr⟩ := List.mem_filterMap.mp h
  have h1 := (of_mem_group hg (mem_of_firstBy hr)).1
  rw [Motor.mem_orden] at h1
  exact List.mem_filter.mp h1

theorem exists_ultima {csv : List FilaCsv} {r : FilaCsv} (hr : r ∈ csv) (hv : r.valida = true) :
    ∃ r' ∈ conTodas M csv, trimN r'.id = trimN r.id ∧
      ∀ x ∈ csv, x.valida = true → trimN x.id = trimN r.id →
        descNullsLast r'.fechacreacion x.fechacreacion := by
  let g := withKey (fun r => trimN r.id) (M.orden (csv.filter FilaCsv.valida)) (trimN r.id)
  have hg : (trimN r.id, g) ∈ groups (fun r => trimN r.id) (M.orden (csv.filter FilaCsv.valida)) :=
    mem_groups.mpr ⟨⟨r, M.mem_orden.mpr (List.mem_filter.mpr ⟨hr, hv⟩), rfl⟩, rfl⟩
  obtain ⟨r', hr'⟩ := exists_firstBy
    (r := fun a b : FilaCsv => descNullsLast a.fechacreacion b.fechacreacion) (group_ne_nil hg)
  refine ⟨r', ?_, (of_mem_group hg (mem_of_firstBy hr')).2, ?_⟩
  · unfold conTodas
    rw [Motor.mem_orden]
    exact List.mem_filterMap.mpr ⟨_, hg, hr'⟩
  · intro x hx hxv hxk
    refine firstBy_descNullsLast hr' x (mem_withKey.mpr ⟨?_, hxk⟩)
    exact M.mem_orden.mpr (List.mem_filter.mpr ⟨hx, hxv⟩)

theorem exists_conTodas {csv : List FilaCsv} {r : FilaCsv} (hr : r ∈ csv) (hv : r.valida = true) :
    ∃ r' ∈ conTodas M csv, trimN r'.id = trimN r.id := by
  obtain ⟨r', h, hid, -⟩ := exists_ultima (M := M) hr hv
  exact ⟨r', h, hid⟩

theorem nodup_conTodas (csv : List FilaCsv) :
    ((conTodas M csv).map fun r => trimN r.id).Nodup := by
  unfold conTodas
  exact ((M.orden_perm _).map _).nodup_iff.mpr nodup_firstBy_groups

theorem conFilas_sublist (csv : List FilaCsv) (limit : Int) :
    (conFilas M csv limit).Sublist (conTodas M csv) := by
  unfold conFilas
  split
  · exact List.take_sublist _ _
  · exact List.Sublist.refl _

theorem mem_conFilas {csv : List FilaCsv} {limit : Int} {r : FilaCsv}
    (h : r ∈ conFilas M csv limit) : r ∈ csv ∧ r.valida = true :=
  mem_conTodas ((conFilas_sublist csv limit).subset h)

theorem conDf_ok {fuente : String} {csv : List FilaCsv} {limit : Int} {con : List FilaCon}
    (h : conDf M fuente csv limit = .ok con) :
    con = (conFilas M csv limit).map (filaCon M fuente) := by
  unfold conDf at h
  dsimp only at h
  split at h
  · cases h
  · exact (Except.ok.inj h).symm

theorem mem_conDf {fuente : String} {csv : List FilaCsv} {limit : Int} {con : List FilaCon}
    (h : conDf M fuente csv limit = .ok con) {c : FilaCon} (hc : c ∈ con) :
    ∃ r ∈ conFilas M csv limit, c = filaCon M fuente r := by
  rw [conDf_ok h] at hc
  obtain ⟨r, hr, rfl⟩ := List.mem_map.mp hc
  exact ⟨r, hr, rfl⟩

/-! ## the keys of the base frames -/

theorem mem_rutNombre {csv : List FilaCsv} {k : Option String} :
    (∃ n, (k, n) ∈ rutNombre M csv) ↔ ∃ r ∈ csv, r.tieneOrganismo = true ∧ r.organismo = k := by
  unfold rutNombre
  simp only [Motor.mem_orden, List.mem_map, Prod.exists, Prod.mk.injEq]
  refine ⟨fun h => ?_, fun h => ?_⟩
  · obtain ⟨n, k', g, hg, rfl, rfl⟩ := h
    obtain ⟨⟨r, hr, hk⟩, -⟩ := mem_groups.mp hg
    obtain ⟨h1, h2⟩ := List.mem_filter.mp hr
    exact ⟨r, h1, h2, hk⟩
  · obtain ⟨r, hr, ht, rfl⟩ := h
    exact ⟨_, _, _, mem_groups.mpr ⟨⟨r, List.mem_filter.mpr ⟨hr, ht⟩, rfl⟩, rfl⟩, rfl, rfl⟩

theorem nombre_rutNombre {csv : List FilaCsv} {p : Option String × Option String}
    (h : p ∈ rutNombre M csv) : ∃ n, p.2 = some n := by
  unfold rutNombre at h
  rw [Motor.mem_orden] at h
  obtain ⟨g, -, rfl⟩ := List.mem_map.mp h
  exact coalesce_some _ _

theorem codigos_ne_nil (rc : List (Option String × Option String)) (rut : Option String) :
    codigos rc rut ≠ [] := by
  unfold codigos
  split
  · simp
  · rename_i hne
    intro h
    exact hne (List.map_eq_nil_iff.mp h)

theorem mem_orgBase {fuente : String} {csv : List FilaCsv} {o : FilaOrg}
    (h : o ∈ orgBase M fuente csv) :
    ∃ r ∈ csv, r.tieneOrganismo = true ∧ o.rut = r.organismo.map strip ∧ (∃ n, o.nombre = some n) ∧
      o.fuente = some fuente := by
  obtain ⟨p, hp, ho⟩ := List.mem_flatMap.mp h
  obtain ⟨codigo, -, rfl⟩ := List.mem_map.mp ho
  obtain ⟨r, hr, ht, hk⟩ := mem_rutNombre.mp ⟨p.2, hp⟩
  exact ⟨r, hr, ht, by rw [hk], nombre_rutNombre hp, rfl⟩

theorem exists_orgBase (fuente : String) {csv : List FilaCsv} {r : FilaCsv} (hr : r ∈ csv)
    (ht : r.tieneOrganismo = true) :
    r.organismo.map strip ∈ (orgBase M fuente csv).map FilaOrg.rut := by
  obtain ⟨n, hp⟩ := mem_rutNombre.mpr ⟨r, hr, ht, rfl⟩
  obtain ⟨codigo, hc⟩ := List.exists_mem_of_ne_nil _ (codigos_ne_nil (rutCodigo M csv) r.organismo)
  exact List.mem_map.mpr ⟨_, List.mem_flatMap.mpr ⟨_, hp, List.mem_map.mpr ⟨codigo, hc, rfl⟩⟩, rfl⟩

theorem mem_empRutNombre {fuente : String} {csv : List FilaCsv} {e : FilaEmp}
    (h : e ∈ empRutNombre M fuente csv) :
    ∃ r ∈ csv, r.tieneProveedor = true ∧ e.id = r.proveedor ∧ e.rut = r.rut ∧
      (∃ n, e.nombre = some n) ∧ e.fuente = some fuente := by
  unfold empRutNombre at h
  rw [Motor.mem_orden] at h
  obtain ⟨g, hg, rfl⟩ := List.mem_map.mp h
  obtain ⟨⟨r, hr, hk⟩, -⟩ := mem_groups.mp hg
  obtain ⟨h1, h2⟩ := List.mem_filter.mp hr
  exact ⟨r, h1, h2, by rw [← hk], by rw [← hk], coalesce_some _ _, rfl⟩

theorem exists_empRutNombre (fuente : String) {csv : List FilaCsv} {r : FilaCsv} (hr : r ∈ csv)
    (ht : r.tieneProveedor = true) : ∃ e ∈ empRutNombre M fuente csv, e.id = r.proveedor := by
  have hg : ((r.proveedor, r.rut), (csv.filter FilaCsv.tieneProveedor).filter
      fun x => decide ((x.proveedor, x.rut) = (r.proveedor, r.rut)))
      ∈ groups (fun r => (r.proveedor, r.rut)) (csv.filter FilaCsv.tieneProveedor) :=
    mem_groups.mpr ⟨⟨r, List.mem_filter.mpr ⟨hr, ht⟩, rfl⟩, rfl⟩
  unfold empRutNombre
  exact ⟨_, M.mem_orden.mpr (List.mem_map.mpr ⟨_, hg, rfl⟩), rfl⟩

theorem mem_empBase {fuente : String} {csv : List FilaCsv} {e : FilaEmp}
    (h : e ∈ empBase M fuente csv) :
    ∃ r ∈ csv, r.tieneProveedor = true ∧ e.id = r.proveedor.map strip ∧ e.rut = r.rut ∧
      (∃ n, e.nombre = some n) ∧ e.fuente = some fuente := by
  obtain ⟨e', he', rfl⟩ := List.mem_map.mp h
  obtain ⟨r, hr, ht, hid, hrut, hn, hf⟩ := mem_empRutNombre (mem_of_dropDuplicates he')
  exact ⟨r, hr, ht, by rw [hid], hrut, hn, hf⟩

theorem exists_empBase (fuente : String) {csv : List FilaCsv} {r : FilaCsv} (hr : r ∈ csv)
    (ht : r.tieneProveedor = true) :
    r.proveedor.map strip ∈ (empBase M fuente csv).map FilaEmp.id := by
  obtain ⟨e, he, hid⟩ := exists_empRutNombre (M := M) fuente hr ht
  obtain ⟨e', he', hid'⟩ := exists_dropDuplicates FilaEmp.id he
  refine List.mem_map.mpr ⟨{ e' with id := e'.id.map strip }, List.mem_map.mpr ⟨e', he', rfl⟩, ?_⟩
  show e'.id.map strip = _
  rw [hid', hid]

/-! ## the orphan branches are never taken -/

/-- the needed keys come from rows of the file, whose stripped keys are known -/
theorem huerfanos_nil {fuente : String} {csv : List FilaCsv} {limit : Int} {con : List FilaCon}
    (h : conDf M fuente csv limit = .ok con) {fk : FilaCon → Option String}
    {clave : FilaCsv → Option String} (hfk : ∀ r, fk (filaCon M fuente r) = clave r)
    {known : List (Option String)}
    (hknown : ∀ r ∈ csv, r.valida = true → (clave r).map strip ∈ known) :
    huerfanos ((con.filterMap fk).map fun k => some (strip k)) known = [] := by
  unfold huerfanos
  rw [List.filter_eq_nil_iff]
  intro k hk
  obtain ⟨x, hx, rfl⟩ := List.mem_map.mp (List.mem_dedup.mp hk)
  obtain ⟨c, hc, hcx⟩ := List.mem_filterMap.mp hx
  obtain ⟨r, hr, rfl⟩ := mem_conDf h hc
  obtain ⟨h1, h2⟩ := mem_conFilas hr
  have hm := hknown r h1 h2
  rw [← hfk r, hcx] at hm
  exact fun hno => of_decide_eq_true hno hm

theorem huerfanos_org {fuente : String} {csv : List FilaCsv} {limit : Int} {con : List FilaCon}
    (h : conDf M fuente csv limit = .ok con) :
    huerfanos (neededOrg con) ((orgBase M fuente csv).map FilaOrg.rut) = [] :=
  huerfanos_nil h (fun _ => rfl) fun _ hr hv =>
    exists_orgBase fuente hr (FilaCsv.valida_organismo hv)

theorem huerfanos_prov {fuente : String} {csv : List FilaCsv} {limit : Int} {con : List FilaCon}
    (h : conDf M fuente csv limit = .ok con) :
    huerfanos (neededProv con) ((empBase M fuente csv).map FilaEmp.id) = [] :=
  huerfanos_nil h (fun _ => rfl) fun _ hr hv =>
    exists_empBase fuente hr (FilaCsv.valida_proveedor hv)

theorem orgDf_eq {fuente : String} {csv : List FilaCsv} {limit : Int} {con : List FilaCon}
    (h : conDf M fuente csv limit = .ok con) : orgDf M fuente csv con = orgBase M fuente csv := by
  unfold orgDf
  simp only [huerfanos_org h]

theorem empDf_eq {fuente : String} {csv : List FilaCsv} {limit : Int} {con : List FilaCon}
    (h : conDf M fuente csv limit = .ok con) : empDf M fuente csv con = empBase M fuente csv := by
  unfold empDf
  simp only [huerfanos_prov h]

theorem conPadres_of_completo {fuente : String} {csv : List FilaCsv} {limit : Int}
    {con : List FilaCon} (h : conDf M fuente csv limit = .ok con) {org : List FilaOrg}
    {emp : List FilaEmp} (hf : hayFaltantes org emp con = false) :
    con.filter (conPadres org emp) = con := by
  rw [List.filter_eq_self]
  intro c hc
  obtain ⟨r, hr, rfl⟩ := mem_conDf h hc
  obtain ⟨-, hv⟩ := mem_conFilas hr
  obtain ⟨k, hk⟩ := FilaCsv.organismo_isSome (FilaCsv.valida_organismo hv)
  obtain ⟨k', hk'⟩ := FilaCsv.proveedor_isSome (FilaCsv.valida_proveedor hv)
  have hno := List.any_eq_false.mp hf _ hc
  have ho : (filaCon M fuente r).organismoId = some k := hk
  have hp : (filaCon M fuente r).proveedorId = some k' := hk'
  simp only [ho, hp, Option.isSome_some, Bool.true_and, Bool.or_eq_true, decide_eq_true_eq,
    not_or, not_not] at hno
  simp only [conPadres, ho, hp, Bool.and_eq_true, decide_eq_true_eq]
  exact hno

/-- **The frames**: base frames, and the kept contracts whose two keys are in them. -/
theorem frames_eq {fuente : String} {csv : List FilaCsv} {limit : Int} {fr : Frames}
    (h : frames M fuente csv limit = .ok fr) :
    ∃ con, conDf M fuente csv limit = .ok con ∧ fr.org = orgBase M fuente csv ∧
      fr.emp = empBase M fuente csv ∧ fr.con = con.filter (conPadres fr.org fr.emp) ∧
      fr.warnDescartados = con.length - fr.con.length := by
  unfold frames at h
  cases hc : conDf M fuente csv limit with
  | error e => rw [hc] at h; cases h
  | ok con =>
    rw [hc] at h
    simp only [orgDf_eq hc, empDf_eq hc] at h
    refine ⟨con, rfl, ?_⟩
    split at h
    · cases h
      exact ⟨rfl, rfl, rfl, rfl⟩
    · rename_i hf
      have hf' := Bool.eq_false_iff.mpr hf
      cases h
      exact ⟨rfl, rfl, (conPadres_of_completo hc hf').symm, by simp⟩

theorem frames_error {fuente : String} {csv : List FilaCsv} {limit : Int} {e : Error}
    (h : frames M fuente csv limit = .error e) : e = .conversion := by
  unfold frames at h
  cases hc : conDf M fuente csv limit with
  | error e' =>
    rw [hc] at h
    cases h
    unfold conDf at hc
    dsimp only at hc
    split at hc
    · cases hc; rfl
    · cases hc
  | ok con =>
    rw [hc] at h
    dsimp only at h
    split at h <;> cases h

/-! ## the rows of the frames -/

/-- what the inserts need: keys and names are present, the rows carry the slice, a RUT strips to
the key of its row and the parents of a contract are in the frames -/
structure Frames.Wf (fuente : String) (fr : Frames) : Prop where
  org : ∀ o ∈ fr.org, (∃ k, o.rut = some k) ∧ (∃ n, o.nombre = some n) ∧ o.fuente = some fuente
  emp : ∀ e ∈ fr.emp, (∃ k, e.id = some k ∧ ∀ x, e.rut = some x → strip x = k) ∧
    (∃ n, e.nombre = some n) ∧ e.fuente = some fuente
  con : ∀ c ∈ fr.con, (∃ k, c.id = some k) ∧ c.fuente = some fuente ∧
    (∃ k, c.organismoId = some k ∧ some k ∈ fr.org.map FilaOrg.rut) ∧
    (∃ k, c.proveedorId = some k ∧ some k ∈ fr.emp.map FilaEmp.id)

theorem frames_wf {fuente : String} {csv : List FilaCsv} {limit : Int} {fr : Frames}
    (h : frames M fuente csv limit = .ok fr) : fr.Wf fuente := by
  obtain ⟨con, hcon, horg, hemp, hfil, -⟩ := frames_eq h
  refine ⟨?_, ?_, ?_⟩
  · intro o ho
    rw [horg] at ho
    obtain ⟨r, -, ht, hrut, hn, hf⟩ := mem_orgBase ho
    obtain ⟨k, hk⟩ := FilaCsv.organismo_isSome ht
    exact ⟨⟨strip k, by rw [hrut, hk]; rfl⟩, hn, hf⟩
  · intro e he
    rw [hemp] at he
    obtain ⟨r, -, ht, hid, hrut, hn, hf⟩ := mem_empBase he
    obtain ⟨k, hk⟩ := FilaCsv.proveedor_isSome ht
    refine ⟨⟨strip k, by rw [hid, hk]; rfl, ?_⟩, hn, hf⟩
    intro x hx
    have hp := FilaCsv.proveedor_of_rut (hrut ▸ hx)
    rw [hk] at hp
    rw [Option.some.inj hp]
  · intro c hc
    rw [hfil] at hc
    obtain ⟨hc1, hc2⟩ := List.mem_filter.mp hc
    obtain ⟨r, hr, rfl⟩ := mem_conDf hcon hc1
    obtain ⟨-, hv⟩ := mem_conFilas hr
    obtain ⟨i, hi⟩ := FilaCsv.id_isSome hv
    obtain ⟨k, hk⟩ := FilaCsv.organismo_isSome (FilaCsv.valida_organismo hv)
    obtain ⟨k', hk'⟩ := FilaCsv.proveedor_isSome (FilaCsv.valida_proveedor hv)
    simp only [conPadres, Bool.and_eq_true, decide_eq_true_eq] at hc2
    refine ⟨⟨"cc_" ++ i, by simp [filaCon, hi]⟩, rfl, ⟨k, hk, ?_⟩, ⟨k', hk', ?_⟩⟩
    · rw [← hk]; exact hc2.1
    · rw [← hk']; exact hc2.2

/-! ## the keys of the frames, read off the file -/

/-- both keys of the row occur, stripped, among those of the file: the final filter keeps it -/
def FilaCsv.Admitida (csv : List FilaCsv) (r : FilaCsv) : Prop :=
  (∃ x ∈ csv, x.tieneOrganismo = true ∧ x.organismo.map strip = r.organismo) ∧
    ∃ x ∈ csv, x.tieneProveedor = true ∧ x.proveedor.map strip = r.proveedor

instance (csv : List FilaCsv) (r : FilaCsv) : Decidable (r.Admitida csv) := by
  unfold FilaCsv.Admitida; infer_instance

theorem conDf_isOk {fuente : String} {csv : List FilaCsv} {limit : Int} :
    (∃ con, conDf M fuente csv limit = .ok con) ↔
      ∀ r ∈ conFilas M csv limit, montoFalla M r = false := by
  unfold conDf
  dsimp only
  split
  · rename_i hany
    obtain ⟨r, hr, hf⟩ := List.any_eq_true.mp hany
    refine ⟨fun h => ?_, fun h => ?_⟩
    · obtain ⟨con, h⟩ := h
      cases h
    · rw [h r hr] at hf
      cases hf
  · rename_i hany
    refine ⟨fun _ r hr => ?_, fun _ => ⟨_, rfl⟩⟩
    exact Bool.eq_false_iff.mpr fun hf => hany (List.any_eq_true.mpr ⟨r, hr, hf⟩)

theorem frames_isOk {fuente : String} {csv : List FilaCsv} {limit : Int} :
    (∃ fr, frames M fuente csv limit = .ok fr) ↔
      ∀ r ∈ conFilas M csv limit, montoFalla M r = false := by
  rw [← @conDf_isOk M fuente]
  refine ⟨fun h => ?_, fun h => ?_⟩
  · obtain ⟨fr, h⟩ := h
    obtain ⟨con, h, -⟩ := frames_eq h
    exact ⟨con, h⟩
  · obtain ⟨con, h⟩ := h
    unfold frames
    rw [h]
    dsimp only
    split
    · exact ⟨_, rfl⟩
    · exact ⟨_, rfl⟩

section
variable {fuente : String} {csv : List FilaCsv} {limit : Int} {fr : Frames}

theorem mem_orgKeys (h : frames M fuente csv limit = .ok fr) {k : Option String} :
    k ∈ fr.org.map FilaOrg.rut ↔
      ∃ r ∈ csv, r.tieneOrganismo = true ∧ r.organismo.map strip = k := by
  obtain ⟨con, -, horg, -⟩ := frames_eq h
  rw [horg]
  refine ⟨fun hk => ?_, fun h => ?_⟩
  · obtain ⟨o, ho, rfl⟩ := List.mem_map.mp hk
    obtain ⟨r, hr, ht, hrut, -⟩ := mem_orgBase ho
    exact ⟨r, hr, ht, hrut.symm⟩
  · obtain ⟨r, hr, ht, rfl⟩ := h
    exact exists_orgBase fuente hr ht

theorem mem_empKeys (h : frames M fuente csv limit = .ok fr) {k : Option String} :
    k ∈ fr.emp.map FilaEmp.id ↔
      ∃ r ∈ csv, r.tieneProveedor = true ∧ r.proveedor.map strip = k := by
  obtain ⟨con, -, -, hemp, -⟩ := frames_eq h
  rw [hemp]
  refine ⟨fun hk => ?_, fun h => ?_⟩
  · obtain ⟨e, he, rfl⟩ := List.mem_map.mp hk
    obtain ⟨r, hr, ht, hid, -⟩ := mem_empBase he
    exact ⟨r, hr, ht, hid.symm⟩
  · obtain ⟨r, hr, ht, rfl⟩ := h
    exact exists_empBase fuente hr ht

theorem conPadres_filaCon (h : frames M fuente csv limit = .ok fr) (r : FilaCsv) :
    conPadres fr.org fr.emp (filaCon M fuente r) = decide (r.Admitida csv) := by
  rw [Bool.eq_iff_iff]
  show (decide (r.organismo ∈ fr.org.map FilaOrg.rut) &&
    decide (r.proveedor ∈ fr.emp.map FilaEmp.id)) = true ↔ _
  rw [Bool.and_eq_true, decide_eq_true_eq, decide_eq_true_eq, decide_eq_true_eq, mem_orgKeys h,
    mem_empKeys h]
  rfl

/-- **The purchase orders of the frames** are those of the kept and admitted rows. -/
theorem mem_conKeys (hfr : frames M fuente csv limit = .ok fr) {k : Option String} :
    k ∈ fr.con.map FilaCon.id ↔ ∃ r ∈ conFilas M csv limit, r.Admitida csv ∧
      (trimN r.id).map (fun s => "cc_" ++ s) = k := by
  obtain ⟨con, hcon, -, -, hfil, -⟩ := frames_eq hfr
  rw [hfil, conDf_ok hcon]
  simp only [List.mem_map, List.mem_filter]
  refine ⟨fun h => ?_, fun h => ?_⟩
  · obtain ⟨c, ⟨⟨r, hr, rfl⟩, hc⟩, rfl⟩ := h
    rw [conPadres_filaCon hfr] at hc
    exact ⟨r, hr, of_decide_eq_true hc, rfl⟩
  · obtain ⟨r, hr, ha, rfl⟩ := h
    refine ⟨_, ⟨⟨r, hr, rfl⟩, ?_⟩, rfl⟩
    rw [conPadres_filaCon hfr]
    exact decide_eq_true ha

end

end

end Fractura
