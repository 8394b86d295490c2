import Fractura.Invariante
import Fractura.Chilecompra.Recarga
import Fractura.Routers

/-!
# `routers/graph.py`: the graph of the purchases

A call reads the links of some contracts (`enlacesDe`), and then one node for each id that occurs in
them: an organism, else a supplier, else a contract (`filaNodo`); an id without text gives none
(`mem_nodosDe`).

* `grafo_cerrado_iff`    the endpoints of the links are nodes of the right type exactly when no
                         supplier key and no contract id of the links is empty or the key of another
                         table;
* `enfocable_iff`        a node can be the centre of a call exactly when it has a contract in the
                         role in which the call looks it up (`Enfocable`).

Both rest on what the loads keep: names, order ids and organism keys are never empty (`ConTextos`).
-/

namespace Fractura

open Db KeyTable Group

/-! ## what the nodes show is never empty -/

structure ConTextos (s : Db) : Prop where
  organismo : ∀ o ∈ s.organismo.rows, o.nombre ≠ ""
  empresa : ∀ e ∈ s.empresa.rows, e.nombre ≠ ""
  contrato : ∀ c ∈ s.contrato.rows, c.id ≠ "" ∧ c.organismoId ≠ some "" ∧
    ∃ x, c.ocId = some x ∧ x ≠ ""

/-- an insert of a load whose texts are not empty -/
inductive DeTextos : Sentencia → Prop where
  | query (q : Consulta) : DeTextos (.query q)
  | deleteContrato (f : String) : DeTextos (.dml (.deleteContrato f))
  | deleteAlerta (f : String) : DeTextos (.dml (.deleteAlerta f))
  | deleteEmpresa (f : String) : DeTextos (.dml (.deleteEmpresa f))
  | deleteOrganismo (f : String) : DeTextos (.dml (.deleteOrganismo f))
  | insertOrganismo (r : FilaOrg) (h : r.toOrganismo.nombre ≠ "") :
      DeTextos (.dml (.insertOrganismo r))
  | insertEmpresa (r : FilaEmp) (h : r.toEmpresa.nombre ≠ "") : DeTextos (.dml (.insertEmpresa r))
  | insertContrato (r : FilaCon) (h : r.toContrato.id ≠ "") (h' : r.organismoId ≠ some "")
      (h'' : ∃ x, r.ocId = some x ∧ x ≠ "") : DeTextos (.dml (.insertContrato r))

section
variable {M : Motor} {f : String} {csv : List FilaCsv} {limit : Int} {fr : Frames}

theorem nombre_ne_empty (x : Option String) :
    ∃ n, coalesce (nullif x "") (some "Sin nombre") = some n ∧ n ≠ "" := by
  cases hx : nullif x "" with
  | none => exact ⟨"Sin nombre", rfl, by decide⟩
  | some n => exact ⟨n, rfl, (nullif_eq_some hx).2⟩

theorem org_con_texto (h : frames M f csv limit = .ok fr) {o : FilaOrg} (ho : o ∈ fr.org) :
    o.toOrganismo.nombre ≠ "" := by
  obtain ⟨con, -, horg, -⟩ := frames_eq h
  rw [horg] at ho
  obtain ⟨p, hp, ho⟩ := List.mem_flatMap.mp ho
  obtain ⟨codigo, -, rfl⟩ := List.mem_map.mp ho
  unfold rutNombre at hp
  rw [Motor.mem_orden] at hp
  obtain ⟨g, -, rfl⟩ := List.mem_map.mp hp
  obtain ⟨n, hn, hne⟩ :=
    nombre_ne_empty (maxText (g.2.map fun r => FilaCsv.texto r.organismopublico))
  show (coalesce (nullif (maxText _) "") (some "Sin nombre")).getD "" ≠ ""
  rw [hn]
  exact hne

theorem emp_con_texto (h : frames M f csv limit = .ok fr) {e : FilaEmp} (he : e ∈ fr.emp) :
    e.toEmpresa.nombre ≠ "" := by
  obtain ⟨con, -, -, hemp, -⟩ := frames_eq h
  rw [hemp] at he
  obtain ⟨r, hr, rfl⟩ := List.mem_map.mp he
  have hrow := mem_of_dropDuplicates hr
  unfold empRutNombre at hrow
  rw [Motor.mem_orden] at hrow
  obtain ⟨g, -, rfl⟩ := List.mem_map.mp hrow
  obtain ⟨n, hn, hne⟩ :=
    nombre_ne_empty (maxText (g.2.map fun r => FilaCsv.texto r.nombreproveedor))
  show (coalesce (nullif (maxText _) "") (some "Sin nombre")).getD "" ≠ ""
  rw [hn]
  exact hne

theorem con_con_texto (h : frames M f csv limit = .ok fr) {c : FilaCon} (hc : c ∈ fr.con) :
    c.toContrato.id ≠ "" ∧ c.organismoId ≠ some "" ∧ ∃ x, c.ocId = some x ∧ x ≠ "" := by
  obtain ⟨con, hcon, -, -, hfil, -⟩ := frames_eq h
  rw [hfil] at hc
  obtain ⟨r, hr, b, rfl⟩ := mem_conDf hcon (List.mem_of_mem_filter hc)
  have hv := (mem_conFilas hr).2
  simp only [FilaCsv.valida, FilaCsv.tieneOrganismo, Bool.and_eq_true, decide_eq_true_eq] at hv
  obtain ⟨⟨hid, horg⟩, -⟩ := hv
  cases hi : r.id with
  | none => exact absurd (by rw [hi]; rfl) hid
  | some i =>
    refine ⟨?_, ?_, trim i, ?_, ?_⟩
    · show ((trimN r.id).map fun s => "cc_" ++ s).getD "" ≠ ""
      rw [hi]
      intro hn
      have hl := congrArg String.length hn
      change ("cc_" ++ trim i).length = 0 at hl
      rw [String.length_append] at hl
      have h3 : "cc_".length = 3 := rfl
      omega
    · intro ho
      apply horg
      cases hu : r.rutunidadcompra with
      | none => rfl
      | some u =>
        have ho' : trimN r.rutunidadcompra = some "" := ho
        rw [hu] at ho'
        exact ho'
    · show trimN r.id = some (trim i)
      rw [hi]
      rfl
    · intro h0
      exact hid (by rw [hi, texto_of_some, h0])

theorem load_deTextos (M : Motor) (year month limit : Int) (a : Archivo) :
    (loadChilecompraSlice M year month limit a).All DeTextos :=
  load_all fun _ _ _ h => guardar_all (fun q _ => .query q) (.deleteContrato _)
    (.deleteAlerta _) (.deleteEmpresa _) (.deleteOrganismo _)
    (fun o ho => .insertOrganismo o (org_con_texto h ho))
    (fun e he => .insertEmpresa e (emp_con_texto h he))
    (fun c hc => .insertContrato c (con_con_texto h hc).1 (con_con_texto h hc).2.1
      (con_con_texto h hc).2.2)

theorem ConTextos.exec {q : Sentencia} (hq : DeCarga f q) (hq' : DeTextos q) {s t : Db}
    {x : Resp q} (hs : ConTextos s) (h : exec M q s = .ok (x, t)) : ConTextos t := by
  have hap := exec_aporta hq h
  refine ⟨?_, ?_, ?_⟩
  · intro o ho
    rcases hap.organismo o ho with ho | ⟨r, k, rfl, -, rfl⟩
    · exact hs.organismo o ho
    · cases hq' with
      | insertOrganismo r h => exact h
  · intro e he
    rcases hap.empresa e he with he | ⟨r, k, rfl, -, rfl⟩
    · exact hs.empresa e he
    · cases hq' with
      | insertEmpresa r h => exact h
  · intro c hc
    rcases hap.contrato c hc with hc | ⟨r, k, rfl, -, rfl⟩
    · exact hs.contrato c hc
    · cases hq' with
      | insertContrato r h h' h'' => exact ⟨h, h', h''⟩

theorem conTextos_of_alcanzable {s : Db} (h : Alcanzable M s) : ConTextos s := by
  refine h.keeps ?_ ?_ ?_
  · refine ⟨?_, ?_, ?_⟩ <;> exact fun x hx => absurd hx (List.not_mem_nil)
  · intro s t ho he hc hs
    exact ⟨ho ▸ hs.organismo, he ▸ hs.empresa, hc ▸ hs.contrato⟩
  · intro year month limit a s hs
    exact Prog.run_keeps (exec M) (fun q s x t hq hs h => hs.exec hq.1 hq.2 h)
      ((load_deCarga M year month limit a).and (load_deTextos M year month limit a)) hs

end

/-! ## nodes -/

def nodoOrg (o : Organismo) : FilaNodo := ⟨o.rut, some o.nombre, "Organismo"⟩
def nodoEmp (e : Empresa) : FilaNodo := ⟨e.id, some e.nombre, "Empresa"⟩
def nodoCon (c : Contrato) : FilaNodo := ⟨c.id, c.ocId, "Contrato"⟩

/-- the row that an id gives: an organism, else a supplier, else a contract -/
def filaNodo (s : Db) (x : String) : Option FilaNodo :=
  ((s.organismo.find x).map nodoOrg).or
    (((s.empresa.find x).map nodoEmp).or ((s.contrato.find x).map nodoCon))

def graphNode (r : FilaNodo) : GraphNode := ⟨r.id, r.nombre.getD "", r.tipo⟩

/-- the nodes of some ids -/
def nodosDe (M : Motor) (s : Db) (ids : List (Option String)) : List GraphNode :=
  vistos (M.orden ((s.organismo.rows.filter fun o => decide (some o.rut ∈ ids)).map nodoOrg) ++
    M.orden ((s.empresa.rows.filter fun e => decide (some e.id ∈ ids)).map nodoEmp) ++
    M.orden ((s.contrato.rows.filter fun c => decide (some c.id ∈ ids)).map nodoCon))

section
variable {M : Motor} {s : Db} {ids : List (Option String)}

/-- what the loop with `seen` considers -/
def conIdYNombre (r : FilaNodo) : Bool := decide (r.id ≠ "") && conTexto r.nombre

theorem reads_rama {ρ : Type} {key : ρ → String} (ids : List (Option String))
    (t : KeyTable ρ String key) (fila : ρ → FilaNodo) (hid : ∀ x, (fila x).id = key x)
    (hn : ∀ x ∈ t.rows, conTexto (fila x).nombre = true) :
    Reads FilaNodo.id (fun x => x ≠ "" ∧ some x ∈ ids) (fun x => (t.find x).map fila)
      ((M.orden ((t.rows.filter fun x => decide (some (key x) ∈ ids)).map fila)).filter
        conIdYNombre) := by
  intro r
  have hmem {r : FilaNodo} : r ∈ (M.orden ((t.rows.filter fun x =>
      decide (some (key x) ∈ ids)).map fila)).filter conIdYNombre ↔
      (r.id ≠ "" ∧ some r.id ∈ ids) ∧ (t.find r.id).map fila = some r := by
    rw [List.mem_filter, Motor.mem_orden, List.mem_map]
    simp only [List.mem_filter, decide_eq_true_eq, conIdYNombre, Bool.and_eq_true,
      Option.map_eq_some_iff]
    refine ⟨fun h => ?_, fun h => ?_⟩
    · obtain ⟨⟨x, ⟨hx, hm⟩, rfl⟩, h0, -⟩ := h
      rw [hid] at h0 ⊢
      exact ⟨⟨h0, hm⟩, x, find_eq_some.mpr ⟨hx, rfl⟩, rfl⟩
    · obtain ⟨⟨h0, hm⟩, x, hx, rfl⟩ := h
      rw [hid] at h0 hm hx
      obtain ⟨hx, -⟩ := find_eq_some.mp hx
      exact ⟨⟨x, ⟨hx, hm⟩, rfl⟩, by rw [hid]; exact h0, hn x hx⟩
  rw [mem_dropDuplicates_of_inj, hmem]
  intro x hx y hy hk
  have h1 := (hmem.mp hx).2
  have h2 := (hmem.mp hy).2
  rw [hk, h2] at h1
  exact (Option.some.inj h1).symm

theorem id_of_find {ρ : Type} {key : ρ → String} {t : KeyTable ρ String key} {fila : ρ → FilaNodo}
    (hid : ∀ x, (fila x).id = key x) (x : String) (r : FilaNodo)
    (h : (t.find x).map fila = some r) : r.id = x := by
  obtain ⟨y, hy, rfl⟩ := Option.map_eq_some_iff.mp h
  rw [hid, (find_eq_some.mp hy).2]

theorem id_of_filaNodo {x : String} {r : FilaNodo} (h : filaNodo s x = some r) : r.id = x := by
  unfold filaNodo at h
  rcases Option.or_eq_some_iff.mp h with h | ⟨-, h⟩
  · exact id_of_find (fun _ => rfl) x r h
  · rcases Option.or_eq_some_iff.mp h with h | ⟨-, h⟩
    · exact id_of_find (fun _ => rfl) x r h
    · exact id_of_find (fun _ => rfl) x r h

/-- **The nodes of some ids.** -/
theorem mem_nodosDe (hs : ConTextos s) {n : GraphNode} : n ∈ nodosDe M s ids ↔
    n.id ≠ "" ∧ some n.id ∈ ids ∧ (filaNodo s n.id).map graphNode = some n := by
  have hO := reads_rama (M := M) ids s.organismo nodoOrg (fun _ => rfl) fun o ho => by
    have hne := hs.organismo o ho
    simp [conTexto, nodoOrg, hne]
  have hE := reads_rama (M := M) ids s.empresa nodoEmp (fun _ => rfl) fun e he => by
    have hne := hs.empresa e he
    simp [conTexto, nodoEmp, hne]
  have hC := reads_rama (M := M) ids s.contrato nodoCon (fun _ => rfl) fun c hc => by
    obtain ⟨-, -, x, hx, hne⟩ := hs.contrato c hc
    simp [conTexto, nodoCon, hx, hne]
  have hall := hO.append (id_of_find fun _ => rfl) (hE.append (id_of_find fun _ => rfl) hC)
  have hn : n ∈ nodosDe M s ids ↔ ∃ r, ((r.id ≠ "" ∧ some r.id ∈ ids) ∧ filaNodo s r.id = some r) ∧
      graphNode r = n := by
    unfold nodosDe vistos
    rw [List.mem_map, List.filter_append, List.filter_append, List.append_assoc]
    exact exists_congr fun r => and_congr_left' (hall r)
  rw [hn]
  refine ⟨fun h => ?_, fun h => ?_⟩
  · obtain ⟨r, ⟨⟨h0, hm⟩, hr⟩, rfl⟩ := h
    refine ⟨h0, hm, ?_⟩
    show (filaNodo s r.id).map graphNode = _
    rw [hr]
    rfl
  · obtain ⟨h0, hm, hr⟩ := h
    obtain ⟨r, hr, hrn⟩ := Option.map_eq_some_iff.mp hr
    have hid := id_of_filaNodo hr
    exact ⟨r, ⟨⟨hid ▸ h0, hid ▸ hm⟩, hid ▸ hr⟩, hrn⟩

theorem nodup_nodosDe : ((nodosDe M s ids).map GraphNode.id).Nodup := by
  unfold nodosDe vistos
  rw [List.map_map]
  exact nodup_dropDuplicates FilaNodo.id _

end

/-! ## links -/

/-- the `WHERE` of the link query; `none` is the node that is not found -/
def donde (s : Db) (nodeId fuente : Option String) : Option (Contrato → Bool) :=
  if conTexto nodeId then
    if nodeId.getD "" ∈ s.organismo.keys then
      some fun c => decide (c.organismoId = some (nodeId.getD ""))
    else if nodeId.getD "" ∈ s.empresa.keys then
      some fun c => decide (c.proveedorId = some (nodeId.getD ""))
    else none
  else if conTexto fuente then some fun c => decide (c.fuente = some (fuente.getD ""))
  else some fun _ => true

/-- the contracts that a call selects, as the columns of its links -/
def enlacesDe (M : Motor) (s : Db) (p : Contrato → Bool) (limit : Nat) : List FilaEnlace :=
  (M.orden ((s.contrato.rows.filter p).map enlace).dedup).take limit

/-- the response of a call that found its node -/
def grafoDe (M : Motor) (s : Db) (links : List FilaEnlace) : Graph :=
  ⟨nodosDe M s (idsDe links), links.map graphLink⟩

section
variable {M : Motor} {s : Db}

theorem nodosDe_nil : nodosDe M s [] = [] := by
  have h {α β : Type} (l : List α) (g : α → β) (key : α → String) :
      M.orden ((l.filter fun x => decide (some (key x) ∈ ([] : List (Option String)))).map g) =
        [] := by
    have hnil : (l.filter fun x => decide (some (key x) ∈ ([] : List (Option String)))) = [] :=
      List.filter_eq_nil_iff.mpr fun x _ => by simp
    rw [hnil]
    exact List.perm_nil.mp (M.orden_perm [])
  unfold nodosDe
  rw [h, h, h]
  rfl

theorem run_conNodos (links : List FilaEnlace) :
    Prog.run (exec M) (conNodos links) s = (.ok (grafoDe M s links), s) := by
  have hnodes : Prog.run (exec M) (fetchNodesBatch (idsDe links)) s =
      (.ok (nodosDe M s (idsDe links)), s) := by
    unfold fetchNodesBatch
    split
    · rename_i hnil
      rw [hnil, nodosDe_nil]
      rfl
    · exact Prog.run_bind_ok _ (run_consulta (q := .nodos (idsDe links)) rfl)
  exact Prog.run_bind_ok _ hnodes

theorem fetchone_ne_nil {ρ : Type} {key : ρ → String} (t : KeyTable ρ String key) (x : String) :
    ((t.rows.filter fun r => decide (key r = x)).map key).take 1 ≠ [] ↔ x ∈ t.keys := by
  rw [ne_eq, List.take_eq_nil_iff, mem_keys]
  simp only [one_ne_zero, false_or, List.map_eq_nil_iff, List.filter_eq_nil_iff,
    decide_eq_true_eq, not_forall, not_not, exists_prop]

/-- **A call to the graph**: the links of the selected contracts and the nodes of their ids, or
404. -/
theorem run_graphChilecompra (nodeId : Option String) (limit : Nat) (fuente : Option String) :
    Prog.run (exec M) (graphChilecompra nodeId limit fuente) s =
      (match donde s nodeId fuente with
        | some p => .ok (grafoDe M s (enlacesDe M s p limit))
        | none => .error (.http 404 "Nodo no encontrado"), s) := by
  unfold graphChilecompra donde
  by_cases hid : conTexto nodeId = true
  · rw [if_pos hid, if_pos hid]
    simp only [Prog.bind_eq]
    rw [Prog.run_bind_ok _ (run_consulta (q := .organismoPorRut (nodeId.getD "")) rfl),
      Prog.run_bind_ok _ (run_consulta (q := .empresaPorId (nodeId.getD "")) rfl)]
    have horg : leer (.organismoPorRut (nodeId.getD "")) ((s.organismo.rows.filter fun o =>
        decide (o.rut = nodeId.getD "")).map Organismo.rut) ≠ [] ↔ _ :=
      fetchone_ne_nil s.organismo (nodeId.getD "")
    have hemp : leer (.empresaPorId (nodeId.getD "")) ((s.empresa.rows.filter fun e =>
        decide (e.id = nodeId.getD "")).map Empresa.id) ≠ [] ↔ _ :=
      fetchone_ne_nil s.empresa (nodeId.getD "")
    by_cases ho : nodeId.getD "" ∈ s.organismo.keys
    · rw [if_pos ho, if_pos (horg.mpr ho)]
      exact (Prog.run_bind_ok _ (run_consulta (q := .enlacesOrganismo _ limit) rfl)).trans
        (run_conNodos _)
    · rw [if_neg ho, if_neg fun h => ho (horg.mp h)]
      by_cases he : nodeId.getD "" ∈ s.empresa.keys
      · rw [if_pos he, if_pos (hemp.mpr he)]
        exact (Prog.run_bind_ok _ (run_consulta (q := .enlacesEmpresa _ limit) rfl)).trans
          (run_conNodos _)
      · rw [if_neg he, if_neg fun h => he (hemp.mp h)]
        rfl
  · rw [if_neg hid, if_neg hid]
    unfold graphGeneral
    by_cases hf : conTexto fuente = true
    · rw [if_pos hf, if_pos hf]
      exact (Prog.run_bind_ok _ (run_consulta (q := .enlacesFuente _ limit) rfl)).trans
        (run_conNodos _)
    · rw [if_neg hf, if_neg hf]
      have hlinks : (M.orden (s.contrato.rows.map enlace).dedup).take limit =
          enlacesDe M s (fun _ => true) limit := by
        unfold enlacesDe
        rw [List.filter_true]
      refine (Prog.run_bind_ok _ (run_consulta (q := .enlaces limit) rfl)).trans ?_
      show Prog.run (exec M) (conNodos ((M.orden (s.contrato.rows.map enlace).dedup).take limit)) s
        = _
      rw [hlinks]
      exact run_conNodos _

end

/-! ## the graph is closed -/

/-- ids are unique, the endpoints of the links are nodes of their type, and the contracts behind the
links have their nodes -/
structure Cerrado (links : List FilaEnlace) (g : Graph) : Prop where
  unicos : (g.nodes.map GraphNode.id).Nodup
  origenes : ∀ l ∈ g.links, ∃ n ∈ g.nodes, l.source = some n.id ∧ n.tipo = "Organismo"
  destinos : ∀ l ∈ g.links, ∃ n ∈ g.nodes, l.target = some n.id ∧ n.tipo = "Empresa"
  contratos : ∀ l ∈ links, ∃ n ∈ g.nodes, n.id = l.id ∧ n.tipo = "Contrato"

/-- no supplier key is empty, and no supplier key and no contract id is a key of another table -/
def SinCruces (s : Db) (links : List FilaEnlace) : Prop :=
  ∀ l ∈ links, (∀ p ∈ l.proveedorId, p ≠ "" ∧ p ∉ s.organismo.keys) ∧
    l.id ∉ s.organismo.keys ∧ l.id ∉ s.empresa.keys

instance (s : Db) (links : List FilaEnlace) : Decidable (SinCruces s links) := by
  unfold SinCruces; infer_instance

section
variable {M : Motor} {s : Db} {x : String}

/-- **The type of a node**: an id that several tables have goes to the first one. -/
theorem tipo_filaNodo (s : Db) (x : String) : (filaNodo s x).map FilaNodo.tipo =
    if x ∈ s.organismo.keys then some "Organismo" else if x ∈ s.empresa.keys then some "Empresa"
      else if x ∈ s.contrato.keys then some "Contrato" else none := by
  unfold filaNodo
  by_cases ho : x ∈ s.organismo.keys
  · obtain ⟨o, hf⟩ := exists_find ho
    rw [if_pos ho, hf]
    rfl
  rw [if_neg ho, find_eq_none.mpr ho]
  by_cases he : x ∈ s.empresa.keys
  · obtain ⟨e, hf⟩ := exists_find he
    rw [if_pos he, hf]
    rfl
  rw [if_neg he, find_eq_none.mpr he]
  by_cases hc : x ∈ s.contrato.keys
  · obtain ⟨c, hf⟩ := exists_find hc
    rw [if_pos hc, hf]
    rfl
  · rw [if_neg hc, find_eq_none.mpr hc]
    rfl

theorem exists_nodo (hs : ConTextos s) {ids : List (Option String)} {tipo : String} :
    (∃ n ∈ nodosDe M s ids, n.id = x ∧ n.tipo = tipo) ↔
      x ≠ "" ∧ some x ∈ ids ∧ (filaNodo s x).map FilaNodo.tipo = some tipo := by
  refine ⟨fun h => ?_, fun h => ?_⟩
  · obtain ⟨n, hn, rfl, rfl⟩ := h
    obtain ⟨h0, hm, hr⟩ := (mem_nodosDe hs).mp hn
    obtain ⟨r, hr, hrn⟩ := Option.map_eq_some_iff.mp hr
    refine ⟨h0, hm, ?_⟩
    rw [hr]
    exact congrArg (fun n : GraphNode => some n.tipo) hrn
  · obtain ⟨h0, hm, htipo⟩ := h
    obtain ⟨r, hr, rfl⟩ := Option.map_eq_some_iff.mp htipo
    have hid := id_of_filaNodo hr
    refine ⟨graphNode r, (mem_nodosDe hs).mpr ⟨?_, ?_, ?_⟩, hid, rfl⟩
    · exact fun h => h0 (hid.symm.trans h)
    · show some r.id ∈ ids
      rw [hid]
      exact hm
    · show (filaNodo s r.id).map graphNode = _
      rw [hid, hr]
      rfl

theorem mem_enlacesDe {p : Contrato → Bool} {limit : Nat} {l : FilaEnlace}
    (h : l ∈ enlacesDe M s p limit) : ∃ c ∈ s.contrato.rows, p c = true ∧ enlace c = l := by
  have hl := List.mem_of_mem_take h
  rw [Motor.mem_orden, List.mem_dedup] at hl
  obtain ⟨c, hc, rfl⟩ := List.mem_map.mp hl
  obtain ⟨hc, hp⟩ := List.mem_filter.mp hc
  exact ⟨c, hc, hp, rfl⟩

theorem mem_idsDe {links : List FilaEnlace} {k : Option String} :
    k ∈ idsDe links ↔ ∃ l ∈ links, k = l.organismoId ∨ k = l.proveedorId ∨ k = some l.id := by
  unfold idsDe
  simp only [List.mem_dedup, List.mem_flatMap, List.mem_cons, List.not_mem_nil, or_false]

section
variable {links : List FilaEnlace} {c : Contrato} (hs : ConTextos s) (hc : c ∈ s.contrato.rows)
  (hl : enlace c ∈ links)
include hs hc hl

theorem exists_nodo_organismo {o : String} (ho : c.organismoId = some o) :
    ∃ n ∈ nodosDe M s (idsDe links), n.id = o ∧ n.tipo = "Organismo" := by
  have hk := s.fkOrg c hc o ho
  have h0 : o ≠ "" := fun h0 => (hs.contrato c hc).2.1 (h0 ▸ ho)
  have htipo : (filaNodo s o).map FilaNodo.tipo = some "Organismo" :=
    (tipo_filaNodo s o).trans (if_pos hk)
  exact (exists_nodo hs).mpr ⟨h0, mem_idsDe.mpr ⟨_, hl, Or.inl ho.symm⟩, htipo⟩

theorem nodo_empresa_iff {p : String} (hp : c.proveedorId = some p) :
    (∃ n ∈ nodosDe M s (idsDe links), n.id = p ∧ n.tipo = "Empresa") ↔
      p ≠ "" ∧ p ∉ s.organismo.keys := by
  have hk := s.fkEmp c hc p hp
  have hm : some p ∈ idsDe links := mem_idsDe.mpr ⟨_, hl, Or.inr (Or.inl hp.symm)⟩
  rw [exists_nodo hs, tipo_filaNodo]
  simp only [hm, hk, if_true, true_and]
  by_cases ho : p ∈ s.organismo.keys <;> simp [ho]

theorem nodo_contrato_iff :
    (∃ n ∈ nodosDe M s (idsDe links), n.id = c.id ∧ n.tipo = "Contrato") ↔
      c.id ∉ s.organismo.keys ∧ c.id ∉ s.empresa.keys := by
  have hk : c.id ∈ s.contrato.keys := key_mem hc
  have h0 : c.id ≠ "" := (hs.contrato c hc).1
  have hm : some c.id ∈ idsDe links := mem_idsDe.mpr ⟨_, hl, Or.inr (Or.inr rfl)⟩
  rw [exists_nodo hs, tipo_filaNodo]
  simp only [h0, hm, hk, if_true, true_and, ne_eq, not_false_eq_true]
  by_cases ho : c.id ∈ s.organismo.keys <;> by_cases he : c.id ∈ s.empresa.keys <;> simp [ho, he]

end

/-- **The graph of some links is closed exactly when their ids do not cross.** -/
theorem cerrado_iff (h : Alcanzable M s) {links : List FilaEnlace}
    (hl : ∀ l ∈ links, ∃ c ∈ s.contrato.rows, enlace c = l) :
    Cerrado links (grafoDe M s links) ↔ SinCruces s links := by
  have hs := conTextos_of_alcanzable h
  have hinv := (inv_of_alcanzable h).toInvTablas
  refine ⟨fun hcer l hlm => ?_, fun hsin => ⟨nodup_nodosDe, fun g hg => ?_, fun g hg => ?_,
    fun l hlm => ?_⟩⟩
  · obtain ⟨c, hc, rfl⟩ := hl l hlm
    refine ⟨fun p hp => ?_, (nodo_contrato_iff hs hc hlm).mp (hcer.contratos _ hlm)⟩
    obtain ⟨n, hn, hk, ht⟩ := hcer.destinos (graphLink (enlace c)) (List.mem_map_of_mem hlm)
    have hid : n.id = p := Option.some.inj (hk.symm.trans hp)
    exact (nodo_empresa_iff hs hc hlm hp).mp ⟨n, hn, hid, ht⟩
  · obtain ⟨l, hlm, rfl⟩ := List.mem_map.mp hg
    obtain ⟨c, hc, rfl⟩ := hl l hlm
    obtain ⟨o, ho⟩ := (hinv.padres c hc).1
    obtain ⟨n, hn, hid, ht⟩ := exists_nodo_organismo (M := M) hs hc hlm ho
    exact ⟨n, hn, ho.trans (congrArg some hid.symm), ht⟩
  · obtain ⟨l, hlm, rfl⟩ := List.mem_map.mp hg
    obtain ⟨c, hc, rfl⟩ := hl l hlm
    obtain ⟨p, hp⟩ := (hinv.padres c hc).2
    obtain ⟨n, hn, hid, ht⟩ := (nodo_empresa_iff (M := M) hs hc hlm hp).mpr ((hsin _ hlm).1 p hp)
    exact ⟨n, hn, hp.trans (congrArg some hid.symm), ht⟩
  · obtain ⟨c, hc, rfl⟩ := hl l hlm
    exact (nodo_contrato_iff hs hc hlm).mpr (hsin _ hlm).2

/-- **The returned graph is closed and well typed exactly when the ids of the selected contracts do
not cross.** -/
theorem grafo_cerrado_iff (h : Alcanzable M s) {nodeId fuente : Option String} {limit : Nat}
    {g : Graph} {u : Db}
    (hg : Prog.run (exec M) (graphChilecompra nodeId limit fuente) s = (.ok g, u)) :
    ∃ p, donde s nodeId fuente = some p ∧ g.links = (enlacesDe M s p limit).map graphLink ∧
      (Cerrado (enlacesDe M s p limit) g ↔ SinCruces s (enlacesDe M s p limit)) := by
  rw [run_graphChilecompra] at hg
  cases hp : donde s nodeId fuente with
  | none =>
    rw [hp] at hg
    cases hg
  | some p =>
    rw [hp] at hg
    cases hg
    refine ⟨p, rfl, rfl, cerrado_iff h fun l hl => ?_⟩
    obtain ⟨c, hc, -, he⟩ := mem_enlacesDe hl
    exact ⟨c, hc, he⟩

end

/-! ## the centre of a call -/

/-- the id has a contract in the role in which a call looks it up: an organism as the buyer, any
other id as the supplier -/
def Enfocable (s : Db) (x : String) : Prop :=
  x ≠ "" ∧ ((∃ c ∈ s.contrato.rows, c.organismoId = some x) ∨
    (x ∉ s.organismo.keys ∧ ∃ c ∈ s.contrato.rows, c.proveedorId = some x))

instance (s : Db) (x : String) : Decidable (Enfocable s x) := by unfold Enfocable; infer_instance

section
variable {M : Motor} {s : Db}

theorem enlacesDe_ne_nil {p : Contrato → Bool} {limit : Nat} (hl : 0 < limit) {c : Contrato}
    (hc : c ∈ s.contrato.rows) (hp : p c = true) : enlacesDe M s p limit ≠ [] := by
  have hm : enlace c ∈ M.orden ((s.contrato.rows.filter p).map enlace).dedup :=
    M.mem_orden.mpr (List.mem_dedup.mpr (List.mem_map_of_mem (List.mem_filter.mpr ⟨hc, hp⟩)))
  unfold enlacesDe
  rw [ne_eq, List.take_eq_nil_iff, not_or]
  exact ⟨hl.ne', List.ne_nil_of_mem hm⟩

theorem mem_ids_iff {limit : Nat} (hl : 0 < limit) (x : String) (col : Contrato → Option String)
    {p : Contrato → Bool} (hp : ∀ c, p c = decide (col c = some x))
    (hcol : ∀ c, col c = c.organismoId ∨ col c = c.proveedorId) :
    some x ∈ idsDe (enlacesDe M s p limit) ↔ ∃ c ∈ s.contrato.rows, col c = some x := by
  refine ⟨fun h => ?_, fun h => ?_⟩
  · obtain ⟨l, hl, -⟩ := mem_idsDe.mp h
    obtain ⟨c, hc, hpc, -⟩ := mem_enlacesDe hl
    exact ⟨c, hc, of_decide_eq_true (hp c ▸ hpc)⟩
  · obtain ⟨c, hc, hx⟩ := h
    obtain ⟨l, hlm⟩ := List.exists_mem_of_ne_nil _
      (enlacesDe_ne_nil (M := M) hl hc ((hp c).trans (decide_eq_true hx)))
    obtain ⟨c', hc', hpc, rfl⟩ := mem_enlacesDe hlm
    have hx' : col c' = some x := of_decide_eq_true (hp c' ▸ hpc)
    refine mem_idsDe.mpr ⟨_, hlm, ?_⟩
    rcases hcol c' with hco | hco
    · exact Or.inl (hx'.symm.trans hco)
    · exact Or.inr (Or.inl (hx'.symm.trans hco))

/-- **A node is in the graph of its own id exactly when the id can be focused.** -/
theorem centro_iff (hs : ConTextos s) {limit : Nat} (hl : 0 < limit) (fuente : Option String)
    {n : GraphNode} (hn : (filaNodo s n.id).map graphNode = some n) :
    (∃ g u, Prog.run (exec M) (graphChilecompra (some n.id) limit fuente) s = (.ok g, u) ∧
      n ∈ g.nodes) ↔ Enfocable s n.id := by
  have hrun : (∃ g u, Prog.run (exec M) (graphChilecompra (some n.id) limit fuente) s =
      (.ok g, u) ∧ n ∈ g.nodes) ↔ ∃ p, donde s (some n.id) fuente = some p ∧
        n.id ≠ "" ∧ some n.id ∈ idsDe (enlacesDe M s p limit) := by
    rw [run_graphChilecompra]
    cases hp : donde s (some n.id) fuente with
    | none => simp
    | some p =>
      have hmem : n ∈ (grafoDe M s (enlacesDe M s p limit)).nodes ↔
          n.id ≠ "" ∧ some n.id ∈ idsDe (enlacesDe M s p limit) := by
        refine (mem_nodosDe hs).trans ?_
        simp only [hn, and_true]
      simp [hmem]
  rw [hrun]
  unfold donde
  by_cases h0 : n.id = ""
  · simp [Enfocable, h0]
  have hid : conTexto (some n.id) = true := by simp [conTexto, h0]
  rw [if_pos hid]
  by_cases ho : n.id ∈ s.organismo.keys
  · have hm := mem_ids_iff (M := M) (s := s) hl n.id Contrato.organismoId
      (p := fun c => decide (c.organismoId = some n.id)) (fun _ => rfl) fun _ => Or.inl rfl
    simp [Enfocable, h0, ho, hm]
  · have hno : ¬ ∃ c ∈ s.contrato.rows, c.organismoId = some n.id := by
      rintro ⟨c, hc, hk⟩
      exact ho (s.fkOrg c hc _ hk)
    by_cases he : n.id ∈ s.empresa.keys
    · have hm := mem_ids_iff (M := M) (s := s) hl n.id Contrato.proveedorId
        (p := fun c => decide (c.proveedorId = some n.id)) (fun _ => rfl) fun _ => Or.inr rfl
      simp [Enfocable, h0, ho, he, hm, hno]
    · have hnp : ¬ ∃ c ∈ s.contrato.rows, c.proveedorId = some n.id := by
        rintro ⟨c, hc, hk⟩
        exact he (s.fkEmp c hc _ hk)
      simp [Enfocable, ho, he, hno, hnp]

theorem nodo_de_grafo (hs : ConTextos s) {nodeId fuente : Option String} {limit : Nat} {g : Graph}
    {u : Db} (hg : Prog.run (exec M) (graphChilecompra nodeId limit fuente) s = (.ok g, u))
    {n : GraphNode} (hn : n ∈ g.nodes) : (filaNodo s n.id).map graphNode = some n := by
  rw [run_graphChilecompra] at hg
  cases hp : donde s nodeId fuente with
  | none =>
    rw [hp] at hg
    cases hg
  | some p =>
    rw [hp] at hg
    cases hg
    exact ((mem_nodosDe hs).mp hn).2.2

/-- **Which nodes can be focused**: of the stored organisms and suppliers, and of the nodes that any
call returns. -/
theorem enfocable_iff (h : Alcanzable M s) {limit : Nat} (hl : 0 < limit)
    (fuente : Option String) :
    (∀ x, x ∈ s.organismo.keys ∨ x ∈ s.empresa.keys →
      ((∃ g u, Prog.run (exec M) (graphChilecompra (some x) limit fuente) s = (.ok g, u) ∧
        ∃ n ∈ g.nodes, n.id = x) ↔ Enfocable s x)) ∧
    ∀ nodeId limit' fuente' g' u', Prog.run (exec M) (graphChilecompra nodeId limit' fuente') s =
      (.ok g', u') → ∀ n ∈ g'.nodes,
      ((∃ g u, Prog.run (exec M) (graphChilecompra (some n.id) limit fuente) s = (.ok g, u) ∧
        n ∈ g.nodes) ↔ Enfocable s n.id) := by
  have hs := conTextos_of_alcanzable h
  refine ⟨fun x hx => ?_, fun nodeId limit' fuente' g' u' hg n hn => ?_⟩
  · have hsome : ∃ τ, (filaNodo s x).map FilaNodo.tipo = some τ := by
      rw [tipo_filaNodo]
      by_cases ho : x ∈ s.organismo.keys
      · exact ⟨_, if_pos ho⟩
      · exact ⟨_, (if_neg ho).trans (if_pos (hx.resolve_left ho))⟩
    obtain ⟨τ, hτ⟩ := hsome
    obtain ⟨r, hr, -⟩ := Option.map_eq_some_iff.mp hτ
    obtain rfl : r.id = x := id_of_filaNodo hr
    have hn : (filaNodo s (graphNode r).id).map graphNode = some (graphNode r) := by
      show (filaNodo s r.id).map graphNode = _
      rw [hr]
      rfl
    refine Iff.trans ?_ (centro_iff (M := M) hs hl fuente hn)
    refine exists_congr fun g => exists_congr fun u => and_congr_right fun hg => ?_
    refine ⟨fun hm => ?_, fun hm => ⟨graphNode r, hm, rfl⟩⟩
    obtain ⟨n, hnm, hid⟩ := hm
    have hnr := nodo_de_grafo hs hg hnm
    rw [hid] at hnr
    exact Option.some.inj (hnr.symm.trans hn) ▸ hnm
  · exact centro_iff hs hl fuente (nodo_de_grafo hs hg hn)

end

/-! ## concrete runs -/

/-- two orders: the public body `61-K` buys from `76-K`, and sells to `62-K` -/
def compraCruzada : List FilaCsv :=
  [.orden "1-OC" "1.000.000" "2024-05-01" "61-K" "76-K" "" "Acme",
    .orden "2-OC" "1.000.000" "2024-05-02" "62-K" "61-K" "" "Hospital"]

def tiendaCruzada : Db := trasCarga 2024 5 compraCruzada .empty

theorem tiendaCruzada_alcanzable : Alcanzable motorConcreto tiendaCruzada :=
  .paso (.cargar 2024 5 0 (.csv compraCruzada)) .vacio

/-- the graph that a call returns there -/
def grafoCruzado (nodeId : Option String) : Except Error Graph :=
  (Prog.run (exec motorConcreto) (graphChilecompra nodeId 500 none) tiendaCruzada).1

/-- **A supplier that is also an organism** is a node of one type only, and the link that ends in it
ends in an organism. -/
theorem grafo_cruzado :
    Alcanzable motorConcreto tiendaCruzada ∧
    ∃ g, grafoCruzado none = .ok g ∧
      (∃ l ∈ g.links, l = ⟨some "62-K", some "61-K"⟩) ∧
      (g.nodes.filter fun n => decide (n.id = "61-K")).map GraphNode.tipo = ["Organismo"] ∧
      ¬ Cerrado (enlacesDe motorConcreto tiendaCruzada (fun _ => true) 500) g := by
  refine ⟨tiendaCruzada_alcanzable, grafoDe motorConcreto tiendaCruzada
    (enlacesDe motorConcreto tiendaCruzada (fun _ => true) 500), by decide +kernel,
    by decide +kernel, by decide +kernel, fun h => ?_⟩
  have hno : ¬ ∀ l ∈ (grafoDe motorConcreto tiendaCruzada
      (enlacesDe motorConcreto tiendaCruzada (fun _ => true) 500)).links,
      ∃ n ∈ (grafoDe motorConcreto tiendaCruzada
        (enlacesDe motorConcreto tiendaCruzada (fun _ => true) 500)).nodes,
        l.target = some n.id ∧ n.tipo = "Empresa" := by decide +kernel
  exact hno h.destinos

theorem grafo_cerrado_mayo :
    ∃ g, (Prog.run (exec motorConcreto) (graphChilecompra none 500 none)
        (trasCarga 2024 5 compraMayo .empty)).1 = .ok g ∧
      Cerrado (enlacesDe motorConcreto (trasCarga 2024 5 compraMayo .empty) (fun _ => true) 500)
        g := by
  have hrun := run_graphChilecompra (M := motorConcreto) (s := trasCarga 2024 5 compraMayo .empty)
    none 500 none
  obtain ⟨p, hp, -, hc⟩ := grafo_cerrado_iff (.paso (.cargar 2024 5 0 (.csv compraMayo)) .vacio)
    hrun
  cases hp
  exact ⟨_, congrArg Prod.fst hrun, hc.mpr (by decide +kernel)⟩

/-- **A contract node cannot be focused**: the graph shows it, and asks for it in vain. -/
theorem contrato_sin_foco :
    Alcanzable motorConcreto tiendaCruzada ∧
    (∃ g, grafoCruzado none = .ok g ∧ ⟨"cc_1-OC", "1-OC", "Contrato"⟩ ∈ g.nodes) ∧
    grafoCruzado (some "cc_1-OC") = .error (.http 404 "Nodo no encontrado") ∧
    ¬ Enfocable tiendaCruzada "cc_1-OC" :=
  ⟨tiendaCruzada_alcanzable, ⟨grafoDe motorConcreto tiendaCruzada
    (enlacesDe motorConcreto tiendaCruzada (fun _ => true) 500), by decide +kernel,
    by decide +kernel⟩, by decide +kernel, by decide +kernel⟩

theorem enfocable_cruzada :
    ∃ g u, Prog.run (exec motorConcreto) (graphChilecompra (some "76-K") 500 none) tiendaCruzada =
      (.ok g, u) ∧ ∃ n ∈ g.nodes, n.id = "76-K" :=
  ((enfocable_iff tiendaCruzada_alcanzable (by decide) none).1 "76-K" (by decide +kernel)).mpr
    (by decide +kernel)

end Fractura
