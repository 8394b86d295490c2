import Fractura.Paginas.Grafo
import Mathlib.Algebra.Order.BigOperators.Group.List

/-!
# `routers/entity.py`: the page of an id and its neighbours

The page of `x` is that of the first row that the three tables have for `x` (`filaEntidad`), the
same row from which the graph makes the node of `x`.

* `run_getEntity_fila`       the page, from its row;
* `pagina_de_nodo`           the page of a node of the graph exists and says the same of it;
* `mem_vecinos`              the contracts on the page of a parent with at most 50 of them, those in
                             which it has the role that its page looks it up in (`lado`);
* `vecindad_simetrica_iff`   so the neighbourhood of a contract and of a parent of it is symmetric
                             exactly when `MismoPapel` holds.
-/

namespace Fractura

open Db KeyTable

/-! ## the row of a page -/

def fichaOrg (o : Organismo) : FilaEntidad := ⟨o.rut, some o.nombre, "Organismo", o.fuente⟩
def fichaEmp (e : Empresa) : FilaEntidad := ⟨e.id, some e.nombre, "Empresa", e.fuente⟩
def fichaCon (c : Contrato) : FilaEntidad := ⟨c.id, c.ocId, "Contrato", c.fuente⟩

/-- the row that `LIMIT 1` keeps -/
def filaEntidad (s : Db) (x : String) : Option FilaEntidad :=
  ((s.organismo.find x).map fichaOrg).or
    (((s.empresa.find x).map fichaEmp).or ((s.contrato.find x).map fichaCon))

/-- the columns of a row that the graph shows too -/
def FilaEntidad.nodo (r : FilaEntidad) : FilaNodo := ⟨r.id, r.nombre, r.tipo⟩

section
variable {M : Motor} {s : Db} {x : String}

theorem filaEntidad_nodo (s : Db) (x : String) :
    (filaEntidad s x).map FilaEntidad.nodo = filaNodo s x := by
  unfold filaEntidad filaNodo
  cases s.organismo.find x with
  | some o => rfl
  | none =>
    cases s.empresa.find x with
    | some e => rfl
    | none => cases s.contrato.find x <;> rfl

theorem filas_entidad (M : Motor) (s : Db) (x : String) :
    ∃ rows, filas M s (.entidad x) = .ok rows ∧
      leer (.entidad x) rows = (filaEntidad s x).toList := by
  have hrows : filas M s (.entidad x) = .ok
      (((s.organismo.rows.filter fun o => decide (o.rut = x)).map fichaOrg ++
        (s.empresa.rows.filter fun e => decide (e.id = x)).map fichaEmp) ++
        (s.contrato.rows.filter fun c => decide (c.id = x)).map fichaCon) := rfl
  refine ⟨_, hrows, ?_⟩
  rw [filter_key, filter_key, filter_key]
  unfold filaEntidad
  cases s.organismo.find x with
  | some o => rfl
  | none =>
    cases s.empresa.find x with
    | some e => rfl
    | none => cases s.contrato.find x <;> rfl

/-! ## neighbours -/

section
variable (M : Motor) (s : Db)

/-- the rows of `contrato JOIN t`, for the contracts that the query selects -/
def unirCon {ρ : Type} {key : ρ → String} (p : Contrato → Bool) (fk : Contrato → Option String)
    (t : KeyTable ρ String key) (relation : String) (nombre : ρ → String) : List FilaVecino :=
  (s.contrato.rows.filter p).flatMap fun c =>
    (t.rows.filter fun r => decide (fk c = some (key r))).map fun r =>
      vecino relation c (nombre r)

/-- what `vecinosDe` returns -/
def vecinos (x tipo : String) : List Neighbor :=
  if tipo = "Organismo" then
    (recientes M (unirCon s (fun c => decide (c.organismoId = some x)) Contrato.proveedorId
      s.empresa "recibe" Empresa.nombre)).map .contrato
  else if tipo = "Empresa" then
    (recientes M (unirCon s (fun c => decide (c.proveedorId = some x)) Contrato.organismoId
      s.organismo "contrata" Organismo.nombre)).map .contrato
  else if tipo = "Contrato" then
    ((s.contrato.rows.filter fun c => decide (c.id = x)).flatMap fun c =>
      (s.organismo.rows.filter fun o => decide (c.organismoId = some o.rut)).map
        fun o => .pariente ⟨o.rut, o.nombre, "contrata"⟩) ++
    (s.contrato.rows.filter fun c => decide (c.id = x)).flatMap fun c =>
      (s.empresa.rows.filter fun e => decide (c.proveedorId = some e.id)).map
        fun e => .pariente ⟨e.id, e.nombre, "recibe"⟩
  else []

end

theorem run_vecinosDe (tipo : String) :
    Prog.run (exec M) (vecinosDe x tipo) s = (.ok (vecinos M s x tipo), s) := by
  unfold vecinosDe vecinos
  split
  · exact Prog.run_bind_ok _ (run_consulta (q := .recibe x) rfl)
  · split
    · exact Prog.run_bind_ok _ (run_consulta (q := .contrata x) rfl)
    · split
      · have horg := run_consulta (M := M) (s := s) (q := .organismoDe x) rfl
        have hemp := run_consulta (M := M) (s := s) (q := .empresaDe x) rfl
        refine ((Prog.run_bind_ok _ horg).trans (Prog.run_bind_ok _ hemp)).trans ?_
        show (Except.ok (List.map Neighbor.pariente (List.flatMap _ _) ++
          List.map Neighbor.pariente (List.flatMap _ _)), s) = _
        simp only [List.map_flatMap, List.map_map, Function.comp_def]
      · rfl

/-- **The page of an id**, from the row that the tables have for it. -/
theorem run_getEntity_fila {r : FilaEntidad} {n : String} (hr : filaEntidad s x = some r)
    (hn : r.nombre = some n) :
    ∃ alertas, filas M s (.alertasDe x) = .ok alertas ∧
      Prog.run (exec M) (getEntity x) s =
        (.ok ⟨r.id, n, r.tipo, r.fuente, vecinos M s x r.tipo, alertas⟩, s) := by
  refine ⟨_, rfl, ?_⟩
  obtain ⟨rows, hf, hl⟩ := filas_entidad M s x
  have h1 := run_consulta hf
  rw [hl, hr, Option.toList_some] at h1
  unfold getEntity
  simp only [Prog.bind_eq]
  rw [Prog.run_bind_ok _ h1]
  refine (Prog.run_bind_ok _ (run_vecinosDe r.tipo)).trans ?_
  refine (Prog.run_bind_ok _ (run_consulta (q := .alertasDe x) rfl)).trans ?_
  rw [hn]
  rfl

/-! ## the graph and the page -/

theorem nombre_filaNodo (hs : ConTextos s) {r : FilaNodo} (hr : filaNodo s x = some r) :
    ∃ n, r.nombre = some n := by
  unfold filaNodo at hr
  rcases Option.or_eq_some_iff.mp hr with hr | ⟨-, hr⟩
  · obtain ⟨o, -, rfl⟩ := Option.map_eq_some_iff.mp hr
    exact ⟨_, rfl⟩
  · rcases Option.or_eq_some_iff.mp hr with hr | ⟨-, hr⟩
    · obtain ⟨e, -, rfl⟩ := Option.map_eq_some_iff.mp hr
      exact ⟨_, rfl⟩
    · obtain ⟨c, hc, rfl⟩ := Option.map_eq_some_iff.mp hr
      obtain ⟨-, -, n, hn, -⟩ := hs.contrato c (find_eq_some.mp hc).1
      exact ⟨n, hn⟩

theorem exists_filaNodo (hx : x ∈ s.organismo.keys ∨ x ∈ s.empresa.keys ∨ x ∈ s.contrato.keys) :
    ∃ f, filaNodo s x = some f := by
  have ht : (filaNodo s x).isSome = true := by
    rw [← Option.isSome_map (f := FilaNodo.tipo), tipo_filaNodo]
    by_cases ho : x ∈ s.organismo.keys
    · rw [if_pos ho]
      rfl
    · rw [if_neg ho]
      by_cases he : x ∈ s.empresa.keys
      · rw [if_pos he]
        rfl
      · rw [if_neg he, if_pos ((hx.resolve_left ho).resolve_left he)]
        rfl
  exact Option.isSome_iff_exists.mp ht

theorem exists_pagina (hs : ConTextos s) {f : FilaNodo} (hf : filaNodo s x = some f) :
    ∃ r, Prog.run (exec M) (getEntity x) s = (.ok r, s) ∧ r.id = x ∧ r.tipo = f.tipo ∧
      f.nombre = some r.nombre ∧ r.neighbors = vecinos M s x f.tipo := by
  obtain ⟨n, hn⟩ := nombre_filaNodo hs hf
  have hid := id_of_filaNodo hf
  rw [← filaEntidad_nodo] at hf
  obtain ⟨r, hr, rfl⟩ := Option.map_eq_some_iff.mp hf
  obtain ⟨alertas, -, hrun⟩ := run_getEntity_fila (M := M) hr hn
  exact ⟨_, hrun, hid, rfl, hn, rfl⟩

/-- **The page of a node**: `get_entity` finds every node of every graph, and gives it the same id,
type and name. -/
theorem pagina_de_nodo (h : Alcanzable M s) {nodeId fuente : Option String} {limit : Nat}
    {g : Graph} {u : Db}
    (hg : Prog.run (exec M) (graphChilecompra nodeId limit fuente) s = (.ok g, u))
    {n : GraphNode} (hn : n ∈ g.nodes) :
    ∃ r, Prog.run (exec M) (getEntity n.id) s = (.ok r, s) ∧ r.id = n.id ∧ r.tipo = n.tipo ∧
      r.nombre = n.label := by
  have hs := conTextos_of_alcanzable h
  obtain ⟨f, hf, hfn⟩ := Option.map_eq_some_iff.mp (nodo_de_grafo hs hg hn)
  obtain ⟨r, hr, hid, htipo, hnom, -⟩ := exists_pagina (M := M) hs hf
  have hlabel : f.nombre.getD "" = n.label := congrArg GraphNode.label hfn
  have ht : f.tipo = n.tipo := congrArg GraphNode.tipo hfn
  rw [hnom] at hlabel
  exact ⟨r, hr, hid, htipo.trans ht, hlabel⟩

/-! ## both sides of a contract -/

theorem mem_unirCon {ρ : Type} {key : ρ → String} {p : Contrato → Bool}
    {fk : Contrato → Option String} {t : KeyTable ρ String key} {relation : String}
    {nombre : ρ → String} {v : FilaVecino} :
    v ∈ unirCon s p fk t relation nombre ↔ ∃ c ∈ s.contrato.rows, p c = true ∧
      ∃ r ∈ t.rows, fk c = some (key r) ∧ vecino relation c (nombre r) = v := by
  unfold unirCon
  simp only [List.mem_flatMap, List.mem_filter, List.mem_map, decide_eq_true_eq, and_assoc]

theorem length_unirCon_le {ρ : Type} {key : ρ → String} (p : Contrato → Bool)
    (fk : Contrato → Option String) (t : KeyTable ρ String key) (relation : String)
    (nombre : ρ → String) :
    (unirCon s p fk t relation nombre).length ≤ (s.contrato.rows.filter p).length := by
  unfold unirCon
  rw [List.length_flatMap]
  refine (List.sum_le_card_nsmul _ 1 fun n hn => ?_).trans (by simp)
  obtain ⟨c, -, rfl⟩ := List.mem_map.mp hn
  rw [List.length_map, filter_fk]
  cases (fk c).bind t.find with
  | none => exact Nat.zero_le 1
  | some r => exact le_refl 1

theorem mem_recientes {l : List FilaVecino} (h : l.length ≤ 50) {v : FilaVecino} :
    v ∈ recientes M l ↔ v ∈ l := by
  unfold recientes
  have hlen : ((M.orden l).insertionSort fun a b => Group.descNullsLast a.fecha b.fecha).length
      = l.length :=
    (List.length_insertionSort _ _).trans (M.orden_perm l).length_eq
  rw [List.take_of_length_le (hlen.trans_le h), List.mem_insertionSort, Motor.mem_orden]

/-- the contracts on the page of the key of an organism or supplier: those that have it in the role
in which the page looks it up -/
def lado (s : Db) (p : String) (c : Contrato) : Bool :=
  if p ∈ s.organismo.keys then decide (c.organismoId = some p) else decide (c.proveedorId = some p)

/-- a contract is among the neighbours -/
def MuestraContrato (ns : List Neighbor) (k : String) : Prop := ∃ v, .contrato v ∈ ns ∧ v.id = k

/-- an organism or a supplier is among the neighbours -/
def MuestraPadre (ns : List Neighbor) (p : String) : Prop := ∃ q, .pariente q ∈ ns ∧ q.id = p

/-- in either role -/
def participa (p : String) (c : Contrato) : Bool :=
  decide (c.organismoId = some p) || decide (c.proveedorId = some p)

theorem participa_of_lado {p : String} {c : Contrato} (h : lado s p c = true) :
    participa p c = true := by
  unfold lado at h
  unfold participa
  split at h
  · rw [h, Bool.true_or]
  · rw [h, Bool.or_true]

theorem participa_iff {p : String} {c : Contrato} :
    participa p c = true ↔ c.organismoId = some p ∨ c.proveedorId = some p := by
  simp [participa]

/-- a page that selects by one role, joins the other parent and cuts nothing -/
theorem muestraContrato_recientes {ρ : Type} {key : ρ → String} {sel : Contrato → Bool}
    {fk : Contrato → Option String} {t : KeyTable ρ String key} {relation : String}
    {nombre : ρ → String} (hlen : (s.contrato.rows.filter sel).length ≤ 50)
    (hfk : ∀ c ∈ s.contrato.rows, ∃ r ∈ t.rows, fk c = some (key r)) {k : String} :
    MuestraContrato ((recientes M (unirCon s sel fk t relation nombre)).map .contrato) k ↔
      ∃ c ∈ s.contrato.rows, sel c = true ∧ c.id = k := by
  have h50 : (unirCon s sel fk t relation nombre).length ≤ 50 :=
    (length_unirCon_le sel fk t relation nombre).trans hlen
  refine ⟨fun h => ?_, fun h => ?_⟩
  · obtain ⟨v, hv, rfl⟩ := h
    obtain ⟨v', hv', he⟩ := List.mem_map.mp hv
    cases he
    obtain ⟨c, hc, hc', r, -, -, rfl⟩ := mem_unirCon.mp ((mem_recientes h50).mp hv')
    exact ⟨c, hc, hc', rfl⟩
  · obtain ⟨c, hc, hc', rfl⟩ := h
    obtain ⟨r, hr, hk⟩ := hfk c hc
    exact ⟨vecino relation c (nombre r), List.mem_map.mpr ⟨_, (mem_recientes h50).mpr
      (mem_unirCon.mpr ⟨c, hc, hc', r, hr, hk, rfl⟩), rfl⟩, rfl⟩

/-- **The contracts on the page of a parent** with at most 50 of them. -/
theorem muestraContrato_iff (hs : InvTablas s) {p : String}
    (hp : p ∈ s.organismo.keys ∨ p ∈ s.empresa.keys) {tipo : String}
    (ht : (filaNodo s p).map FilaNodo.tipo = some tipo)
    (h50 : (s.contrato.rows.filter (participa p)).length ≤ 50) {k : String} :
    MuestraContrato (vecinos M s p tipo) k ↔
      ∃ c ∈ s.contrato.rows, lado s p c = true ∧ c.id = k := by
  have hlen : (s.contrato.rows.filter (lado s p)).length ≤ 50 := by
    refine le_trans ?_ h50
    rw [← List.countP_eq_length_filter, ← List.countP_eq_length_filter]
    exact List.countP_mono_left fun c _ hc => participa_of_lado hc
  rw [tipo_filaNodo] at ht
  by_cases ho : p ∈ s.organismo.keys
  · rw [if_pos ho] at ht
    obtain rfl : "Organismo" = tipo := Option.some.inj ht
    have hlado : lado s p = fun c => decide (c.organismoId = some p) := by
      funext c
      exact if_pos ho
    rw [hlado] at hlen ⊢
    refine muestraContrato_recientes hlen fun c hc => ?_
    obtain ⟨q, hq⟩ := (hs.padres c hc).2
    obtain ⟨e, he, rfl⟩ := mem_keys.mp (s.fkEmp c hc q hq)
    exact ⟨e, he, hq⟩
  · rw [if_neg ho, if_pos (hp.resolve_left ho)] at ht
    obtain rfl : "Empresa" = tipo := Option.some.inj ht
    have hlado : lado s p = fun c => decide (c.proveedorId = some p) := by
      funext c
      exact if_neg ho
    rw [hlado] at hlen ⊢
    refine muestraContrato_recientes hlen fun c hc => ?_
    obtain ⟨q, hq⟩ := (hs.padres c hc).1
    obtain ⟨o, ho', rfl⟩ := mem_keys.mp (s.fkOrg c hc q hq)
    exact ⟨o, ho', hq⟩

theorem vecinos_contrato {c : Contrato} (hc : c ∈ s.contrato.rows) :
    vecinos M s c.id "Contrato" =
      ((s.organismo.rows.filter fun o => decide (c.organismoId = some o.rut)).map
        fun o => .pariente ⟨o.rut, o.nombre, "contrata"⟩) ++
      (s.empresa.rows.filter fun e => decide (c.proveedorId = some e.id)).map
        fun e => .pariente ⟨e.id, e.nombre, "recibe"⟩ := by
  have hfind : s.contrato.find c.id = some c := find_eq_some.mpr ⟨hc, rfl⟩
  have hrow : (s.contrato.rows.filter fun c' => decide (c'.id = c.id)) = [c] := by
    rw [filter_key, hfind]
    rfl
  show List.flatMap _ _ ++ List.flatMap _ _ = _
  rw [hrow, List.flatMap_singleton, List.flatMap_singleton]

theorem muestraPadre_contrato {c : Contrato} (hc : c ∈ s.contrato.rows) {p : String} :
    MuestraPadre (vecinos M s c.id "Contrato") p ↔ participa p c = true := by
  rw [vecinos_contrato hc, participa_iff]
  unfold MuestraPadre
  refine ⟨fun h => ?_, fun h => ?_⟩
  · obtain ⟨q, hq, rfl⟩ := h
    rcases List.mem_append.mp hq with hq | hq
    · obtain ⟨o, ho, he⟩ := List.mem_map.mp hq
      cases he
      exact Or.inl (of_decide_eq_true (List.mem_filter.mp ho).2)
    · obtain ⟨e, he, heq⟩ := List.mem_map.mp hq
      cases heq
      exact Or.inr (of_decide_eq_true (List.mem_filter.mp he).2)
  · rcases h with hk | hk
    · obtain ⟨o, ho, rfl⟩ := mem_keys.mp (s.fkOrg c hc p hk)
      refine ⟨_, List.mem_append_left _ (List.mem_map.mpr ⟨o, ?_, rfl⟩), rfl⟩
      exact List.mem_filter.mpr ⟨ho, decide_eq_true hk⟩
    · obtain ⟨e, he, rfl⟩ := mem_keys.mp (s.fkEmp c hc p hk)
      refine ⟨_, List.mem_append_right _ (List.mem_map.mpr ⟨e, ?_, rfl⟩), rfl⟩
      exact List.mem_filter.mpr ⟨he, decide_eq_true hk⟩

/-- **The parents on the page of a contract**: both, unless its id belongs to another table. -/
theorem muestraPadre_iff {c : Contrato} (hc : c ∈ s.contrato.rows) {tipo : String}
    (ht : (filaNodo s c.id).map FilaNodo.tipo = some tipo) {p : String} :
    MuestraPadre (vecinos M s c.id tipo) p ↔
      c.id ∉ s.organismo.keys ∧ c.id ∉ s.empresa.keys ∧ participa p c = true := by
  have hno (l : List FilaVecino) : ¬ MuestraPadre (l.map .contrato) p := by
    rintro ⟨q, hq, -⟩
    obtain ⟨v, -, he⟩ := List.mem_map.mp hq
    cases he
  rw [tipo_filaNodo] at ht
  by_cases ho : c.id ∈ s.organismo.keys
  · rw [if_pos ho] at ht
    obtain rfl : "Organismo" = tipo := Option.some.inj ht
    exact iff_of_false (hno _) fun h => h.1 ho
  rw [if_neg ho] at ht
  by_cases he : c.id ∈ s.empresa.keys
  · rw [if_pos he] at ht
    obtain rfl : "Empresa" = tipo := Option.some.inj ht
    exact iff_of_false (hno _) fun h => h.2.1 he
  rw [if_neg he, if_pos (key_mem hc)] at ht
  obtain rfl : "Contrato" = tipo := Option.some.inj ht
  rw [muestraPadre_contrato hc]
  exact ⟨fun h => ⟨ho, he, h⟩, fun h => h.2.2⟩

/-- the page of the parent looks the contract up in the role that the parent has in it, and no
contract of that page has an id of another table -/
structure MismoPapel (s : Db) (p : String) (c : Contrato) : Prop where
  papel : lado s p c = true
  propios : ∀ c' ∈ s.contrato.rows, lado s p c' = true →
    c'.id ∉ s.organismo.keys ∧ c'.id ∉ s.empresa.keys

/-- **When the neighbourhood of a contract and of a parent of it is symmetric.** -/
theorem vecindad_simetrica_iff (h : Alcanzable M s) {c : Contrato} (hc : c ∈ s.contrato.rows)
    {p : String} (hp : c.organismoId = some p ∨ c.proveedorId = some p)
    (h50 : (s.contrato.rows.filter (participa p)).length ≤ 50) :
    ∃ r q, Prog.run (exec M) (getEntity c.id) s = (.ok r, s) ∧
      Prog.run (exec M) (getEntity p) s = (.ok q, s) ∧
      ((MuestraPadre r.neighbors p ∧ MuestraContrato q.neighbors c.id ∧
        ∀ k, MuestraContrato q.neighbors k → ∃ r', Prog.run (exec M) (getEntity k) s = (.ok r', s) ∧
          MuestraPadre r'.neighbors p) ↔ MismoPapel s p c) := by
  have hs := conTextos_of_alcanzable h
  have hinv := (inv_of_alcanzable h).toInvTablas
  have hpk : p ∈ s.organismo.keys ∨ p ∈ s.empresa.keys := by
    rcases hp with hp | hp
    · exact Or.inl (s.fkOrg c hc p hp)
    · exact Or.inr (s.fkEmp c hc p hp)
  -- the page of a stored contract, with its parents
  have hcon {c' : Contrato} (hc' : c' ∈ s.contrato.rows) :
      ∃ r, Prog.run (exec M) (getEntity c'.id) s = (.ok r, s) ∧
        (MuestraPadre r.neighbors p ↔
          c'.id ∉ s.organismo.keys ∧ c'.id ∉ s.empresa.keys ∧ participa p c' = true) := by
    obtain ⟨f, hf⟩ := exists_filaNodo (Or.inr (Or.inr (key_mem hc')))
    obtain ⟨r, hr, -, -, -, hn⟩ := exists_pagina (M := M) hs hf
    refine ⟨r, hr, ?_⟩
    rw [hn]
    exact muestraPadre_iff hc' (congrArg (Option.map FilaNodo.tipo) hf)
  obtain ⟨r, hr, hpadre⟩ := hcon hc
  obtain ⟨f, hf⟩ := exists_filaNodo (hpk.imp_right Or.inl)
  obtain ⟨q, hq, -, -, -, hn⟩ := exists_pagina (M := M) hs hf
  have hmuestra {k : String} := muestraContrato_iff (M := M) hinv hpk
    (congrArg (Option.map FilaNodo.tipo) hf) h50 (k := k)
  rw [← hn] at hmuestra
  refine ⟨r, q, hr, hq, fun hsim => ?_, fun hsim => ?_⟩
  · obtain ⟨-, hcq, hconv⟩ := hsim
    refine ⟨?_, fun c' hc' hl => ?_⟩
    · obtain ⟨c', hc', hl, hid⟩ := hmuestra.mp hcq
      rw [← s.contrato.eq_of_key hc' hc hid]
      exact hl
    · obtain ⟨r', hr', hm⟩ := hconv c'.id (hmuestra.mpr ⟨c', hc', hl, rfl⟩)
      obtain ⟨r'', hr'', hiff⟩ := hcon hc'
      obtain rfl : r' = r'' := Except.ok.inj (congrArg Prod.fst (hr'.symm.trans hr''))
      exact ⟨(hiff.mp hm).1, (hiff.mp hm).2.1⟩
  · refine ⟨hpadre.mpr ?_, hmuestra.mpr ⟨c, hc, hsim.papel, rfl⟩, fun k hk => ?_⟩
    · obtain ⟨ho, he⟩ := hsim.propios c hc hsim.papel
      exact ⟨ho, he, participa_iff.mpr hp⟩
    · obtain ⟨c', hc', hl, rfl⟩ := hmuestra.mp hk
      obtain ⟨r', hr', hiff⟩ := hcon hc'
      obtain ⟨ho, he⟩ := hsim.propios c' hc' hl
      exact ⟨r', hr', hiff.mpr ⟨ho, he, participa_of_lado hl⟩⟩

end

/-! ## concrete pages -/

theorem pagina_de_nodo_cruzada :
    ∃ r, Prog.run (exec motorConcreto) (getEntity "61-K") tiendaCruzada = (.ok r, tiendaCruzada) ∧
      r.id = "61-K" ∧ r.tipo = "Organismo" ∧ r.nombre = "Sin nombre" :=
  pagina_de_nodo tiendaCruzada_alcanzable
    (run_graphChilecompra (M := motorConcreto) (s := tiendaCruzada) none 500 none)
    (n := ⟨"61-K", "Sin nombre", "Organismo"⟩) (by decide +kernel)

/-- **A supplier that is also an organism does not show its sales**: the contract `cc_2-OC` has `61-K` as
its supplier, and the page of `61-K` shows its purchases only. -/
theorem vecindad_cruzada :
    Alcanzable motorConcreto tiendaCruzada ∧
    (∃ c ∈ tiendaCruzada.contrato.rows, c.id = "cc_2-OC" ∧ c.proveedorId = some "61-K") ∧
    (tiendaCruzada.contrato.rows.filter (participa "61-K")).length ≤ 50 ∧
    ∃ q, Prog.run (exec motorConcreto) (getEntity "61-K") tiendaCruzada = (.ok q, tiendaCruzada) ∧
      ¬ MuestraContrato q.neighbors "cc_2-OC" := by
  have hs := conTextos_of_alcanzable tiendaCruzada_alcanzable
  have hkey : "61-K" ∈ tiendaCruzada.organismo.keys := by decide +kernel
  have h50 : (tiendaCruzada.contrato.rows.filter (participa "61-K")).length ≤ 50 := by
    decide +kernel
  have hno : ¬ ∃ c ∈ tiendaCruzada.contrato.rows, lado tiendaCruzada "61-K" c = true ∧
      c.id = "cc_2-OC" := by decide +kernel
  obtain ⟨f, hf⟩ := exists_filaNodo (Or.inl hkey)
  obtain ⟨q, hq, -, -, -, hn⟩ := exists_pagina (M := motorConcreto) hs hf
  refine ⟨tiendaCruzada_alcanzable, by decide +kernel, h50, q, hq, ?_⟩
  rw [hn, muestraContrato_iff (inv_of_alcanzable tiendaCruzada_alcanzable).toInvTablas
    (Or.inl hkey) (congrArg (Option.map FilaNodo.tipo) hf) h50]
  exact hno

theorem vecindad_simetrica_acme :
    ∃ r q, Prog.run (exec motorConcreto) (getEntity "cc_1-OC") tiendaCruzada =
        (.ok r, tiendaCruzada) ∧
      Prog.run (exec motorConcreto) (getEntity "76-K") tiendaCruzada = (.ok q, tiendaCruzada) ∧
      MuestraPadre r.neighbors "76-K" ∧ MuestraContrato q.neighbors "cc_1-OC" := by
  obtain ⟨c, hc, hid, hp⟩ : ∃ c ∈ tiendaCruzada.contrato.rows, c.id = "cc_1-OC" ∧
      c.proveedorId = some "76-K" := by decide +kernel
  have hlado : ∀ c ∈ tiendaCruzada.contrato.rows, c.id = "cc_1-OC" →
      lado tiendaCruzada "76-K" c = true := by decide +kernel
  obtain ⟨r, q, hr, hq, hiff⟩ := vecindad_simetrica_iff (M := motorConcreto)
    tiendaCruzada_alcanzable hc (Or.inr hp) (by decide +kernel)
  obtain ⟨hpadre, hcon, -⟩ := hiff.mpr ⟨hlado c hc hid, by decide +kernel⟩
  rw [hid] at hr hcon
  exact ⟨r, q, hr, hq, hpadre, hcon⟩

end Fractura
