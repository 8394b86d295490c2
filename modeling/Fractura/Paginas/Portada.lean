import Fractura.Concurrencia.Procesos
import Fractura.Paginas.Vistas

/-!
# The figures of the landing page

`LandingView.tsx` asks for the graph of 200 links and for the list of alerts, and shows how many
organisms and suppliers are in the one and how many alerts of high severity in the other.

* `portada`   the figures against the stores that answered: never more than what is stored, and exact
              up to 200 contracts and 500 alerts, but for the suppliers whose key is an organism's: the
              node is the organism; the test mode is exact for any number of alerts.
-/

namespace Fractura

open Db

/-! ## `pages/LandingView.tsx` -/

/-- `graphData.nodes.filter(n => n.tipo === tipo).length` -/
def cuentaTipo (tipo : String) (g : Graph) : Nat :=
  (g.nodes.filter fun n => decide (n.tipo = tipo)).length

def orgCount (g : Graph) : Nat := cuentaTipo "Organismo" g
def empCount (g : Graph) : Nat := cuentaTipo "Empresa" g

/-- the test mode of the page -/
def testMode (alerts : List AlertaCliente) : Bool := decide (0 < alerts.length ∧ alerts.length < 200)

/-! ## what is stored -/

/-- a contract is of this id, or names it -/
def nombrado (s : Db) (x : String) : Bool :=
  decide (x ≠ "") && s.contrato.rows.any fun c =>
    decide (c.organismoId = some x) || decide (c.proveedorId = some x) || decide (c.id = x)

/-- the organisms that a contract names -/
def Db.organismosNombrados (s : Db) : List Organismo := s.organismo.rows.filter fun o => nombrado s o.rut

/-- the suppliers that a contract names -/
def Db.empresasNombradas (s : Db) : List Empresa := s.empresa.rows.filter fun e => nombrado s e.id

/-- those of them whose key is also that of an organism, which takes the node -/
def Db.empresasTapadas (s : Db) : List Empresa :=
  s.empresasNombradas.filter fun e => decide (e.id ∈ s.organismo.keys)

def Db.alertasHigh (s : Db) : List Alerta := s.alerta.rows.filter fun a => decide (a.severity = some "high")

section
variable {M : Motor} {s : Db} {links : List FilaEnlace}

theorem nombrado_of_ids {limit : Nat} {x : String} (h0 : x ≠ "")
    (h : some x ∈ idsDe (enlacesDe M s (fun _ => true) limit)) : nombrado s x = true := by
  obtain ⟨l, hl, hx⟩ := mem_idsDe.mp h
  obtain ⟨c, hc, -, rfl⟩ := mem_enlacesDe hl
  unfold nombrado
  rw [Bool.and_eq_true, List.any_eq_true]
  refine ⟨decide_eq_true h0, c, hc, ?_⟩
  simp only [Bool.or_eq_true, decide_eq_true_eq]
  rcases hx with hx | hx | hx
  · exact .inl (.inl hx.symm)
  · exact .inl (.inr hx.symm)
  · exact .inr (Option.some.inj hx).symm

theorem ids_of_nombrado {limit : Nat} (hl : s.contrato.rows.length ≤ limit) {x : String}
    (h : nombrado s x = true) :
    x ≠ "" ∧ some x ∈ idsDe (enlacesDe M s (fun _ => true) limit) := by
  unfold nombrado at h
  rw [Bool.and_eq_true, List.any_eq_true] at h
  obtain ⟨h0, c, hc, hx⟩ := h
  have hlen : (M.orden ((s.contrato.rows.filter fun _ => true).map enlace).dedup).length ≤ limit := by
    rw [(M.orden_perm _).length_eq]
    refine (List.dedup_sublist _).length_le.trans ?_
    rw [List.length_map]
    exact (List.length_filter_le _ _).trans hl
  have hmem : enlace c ∈ enlacesDe M s (fun _ => true) limit := by
    unfold enlacesDe
    rw [List.take_of_length_le hlen, Motor.mem_orden, List.mem_dedup]
    exact List.mem_map_of_mem (List.mem_filter.mpr ⟨hc, rfl⟩)
  refine ⟨of_decide_eq_true h0, mem_idsDe.mpr ⟨_, hmem, ?_⟩⟩
  simp only [Bool.or_eq_true, decide_eq_true_eq] at hx
  rcases hx with (hx | hx) | hx
  · exact .inl hx.symm
  · exact .inr (.inl hx.symm)
  · exact .inr (.inr (congrArg some hx.symm))

theorem mem_tipo (hs : ConTextos s) {ids : List (Option String)} {tipo x : String} :
    x ∈ ((nodosDe M s ids).filter fun n => decide (n.tipo = tipo)).map GraphNode.id ↔
      x ≠ "" ∧ some x ∈ ids ∧ (filaNodo s x).map FilaNodo.tipo = some tipo := by
  rw [← exists_nodo (M := M) hs, List.mem_map]
  refine exists_congr fun n => ?_
  rw [List.mem_filter, decide_eq_true_eq, and_assoc, and_comm (a := n.tipo = tipo)]

/-- a count of nodes against the keys `ks`: no more than them, and all of them when each is linked -/
theorem cuentaTipo_le (hs : ConTextos s) (limit : Nat) (tipo : String) {ks : List String} (hk : ks.Nodup)
    (hmem : ∀ x, x ∈ ks ↔ nombrado s x = true ∧ (filaNodo s x).map FilaNodo.tipo = some tipo) :
    cuentaTipo tipo (grafoDe M s (enlacesDe M s (fun _ => true) limit)) ≤ ks.length ∧
    (s.contrato.rows.length ≤ limit →
      cuentaTipo tipo (grafoDe M s (enlacesDe M s (fun _ => true) limit)) = ks.length) := by
  have hlen : cuentaTipo tipo (grafoDe M s (enlacesDe M s (fun _ => true) limit)) =
      (((nodosDe M s (idsDe (enlacesDe M s (fun _ => true) limit))).filter fun n =>
        decide (n.tipo = tipo)).map GraphNode.id).length := (List.length_map ..).symm
  have hnodup : (((nodosDe M s (idsDe (enlacesDe M s (fun _ => true) limit))).filter fun n =>
      decide (n.tipo = tipo)).map GraphNode.id).Nodup :=
    nodup_nodosDe.sublist (List.filter_sublist.map GraphNode.id)
  rw [hlen]
  have hsub : ((nodosDe M s (idsDe (enlacesDe M s (fun _ => true) limit))).filter fun n =>
      decide (n.tipo = tipo)).map GraphNode.id ⊆ ks := fun x hx => by
    obtain ⟨h0, hids, htipo⟩ := (mem_tipo hs).mp hx
    exact (hmem x).mpr ⟨nombrado_of_ids h0 hids, htipo⟩
  have hle := (hnodup.subperm hsub).length_le
  refine ⟨hle, fun hc => le_antisymm hle (hk.subperm fun x hx => ?_).length_le⟩
  obtain ⟨hn, htipo⟩ := (hmem x).mp hx
  obtain ⟨h0, hids⟩ := ids_of_nombrado (M := M) hc hn
  exact (mem_tipo hs).mpr ⟨h0, hids, htipo⟩

theorem tipo_organismo {x : String} :
    (filaNodo s x).map FilaNodo.tipo = some "Organismo" ↔ x ∈ s.organismo.keys := by
  rw [tipo_filaNodo]
  by_cases ho : x ∈ s.organismo.keys
  · simp [ho]
  · by_cases he : x ∈ s.empresa.keys <;> by_cases hc : x ∈ s.contrato.keys <;> simp [ho, he, hc]

theorem tipo_empresa {x : String} : (filaNodo s x).map FilaNodo.tipo = some "Empresa" ↔
    x ∈ s.empresa.keys ∧ x ∉ s.organismo.keys := by
  rw [tipo_filaNodo]
  by_cases ho : x ∈ s.organismo.keys
  · simp [ho]
  · by_cases he : x ∈ s.empresa.keys <;> by_cases hc : x ∈ s.contrato.keys <;> simp [ho, he, hc]

theorem organismos_portada (hs : ConTextos s) (limit : Nat) :
    orgCount (grafoDe M s (enlacesDe M s (fun _ => true) limit)) ≤ s.organismosNombrados.length ∧
    (s.contrato.rows.length ≤ limit →
      orgCount (grafoDe M s (enlacesDe M s (fun _ => true) limit)) = s.organismosNombrados.length) := by
  have h := cuentaTipo_le (M := M) hs limit "Organismo"
    (s.organismo.filter fun o => nombrado s o.rut).nodup fun x => by
      rw [tipo_organismo, and_comm]
      exact KeyTable.mem_keys_filter_key
  rwa [List.length_map] at h

theorem length_empresasNombradas (s : Db) : s.empresasNombradas.length =
    (s.empresa.rows.filter fun e => nombrado s e.id && decide (e.id ∉ s.organismo.keys)).length +
      s.empresasTapadas.length := by
  have hsplit := List.length_eq_length_filter_add (l := s.empresasNombradas)
    fun e => decide (e.id ∈ s.organismo.keys)
  have hresto : s.empresasNombradas.filter (fun e => !decide (e.id ∈ s.organismo.keys)) =
      s.empresa.rows.filter fun e => nombrado s e.id && decide (e.id ∉ s.organismo.keys) := by
    unfold Db.empresasNombradas
    rw [List.filter_filter]
    refine List.filter_congr fun e _ => ?_
    rw [Bool.and_comm, decide_not]
  rw [hresto] at hsplit
  exact hsplit.trans (Nat.add_comm _ _)

theorem empresas_portada (hs : ConTextos s) (limit : Nat) :
    empCount (grafoDe M s (enlacesDe M s (fun _ => true) limit)) + s.empresasTapadas.length ≤
      s.empresasNombradas.length ∧
    (s.contrato.rows.length ≤ limit →
      empCount (grafoDe M s (enlacesDe M s (fun _ => true) limit)) + s.empresasTapadas.length =
        s.empresasNombradas.length) := by
  have h := cuentaTipo_le (M := M) hs limit "Empresa"
    (s.empresa.filter fun e => nombrado s e.id && decide (e.id ∉ s.organismo.keys)).nodup fun x => by
      rw [tipo_empresa]
      refine (KeyTable.mem_keys_filter_key
        (p := fun y => nombrado s y && decide (y ∉ s.organismo.keys))).trans ?_
      rw [Bool.and_eq_true, decide_eq_true_eq]
      exact and_left_comm
  rw [List.length_map] at h
  rw [length_empresasNombradas]
  exact ⟨Nat.add_le_add_right h.1 _, fun hc => congrArg (· + _) (h.2 hc)⟩

theorem high_portada (l : List Alerta) :
    highCount ((l.take 500).map alertaCliente) ≤
      (l.filter fun a => decide (a.severity = some "high")).length ∧
    (l.length ≤ 500 → highCount ((l.take 500).map alertaCliente) =
      (l.filter fun a => decide (a.severity = some "high")).length) := by
  have hmap (l : List Alerta) : highCount (l.map alertaCliente) =
      (l.filter fun a => decide (a.severity = some "high")).length := by
    unfold highCount
    rw [List.filter_map, List.length_map]
    rfl
  refine ⟨?_, fun hl => ?_⟩
  · rw [hmap]
    exact ((List.take_sublist _ _).filter _).length_le
  · rw [List.take_of_length_le hl, hmap]

end

/-- the crossed purchases, loaded by a request: one of the two suppliers is also an organism -/
def portadaCruzada : Db :=
  (Peticion.seedChilecompra 2024 5 0 (.csv compraCruzada)).despues motorConcreto .empty

theorem portadaCruzada_servida : Servida motorConcreto portadaCruzada := Servida.vacia.despues _

end Fractura
