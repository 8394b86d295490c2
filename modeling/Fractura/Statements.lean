import Fractura.Sql

/-!
# What a statement changes

One inversion lemma for each statement: when it succeeds, which table it changes and how
(`deleteEmpresa_ok`, `insertContrato_ok`, `insertAlerta_ok`, ...), everything else being equal;
and for the inserts of the loader when they succeed (`insertOrganismo_eq`, `insertContrato_eq`).

`unidos_congr`: the join that the detection queries read depends on the contracts of the slice and
on what their supplier keys read.
-/

namespace Fractura

open Db

/-! ## frame rows as table rows -/

def Db.FilaOrg.toOrganismo (r : FilaOrg) : Organismo :=
  ⟨r.rut.getD "", r.nombre.getD "", r.codigo, r.region, r.fuente⟩

def Db.FilaEmp.toEmpresa (r : FilaEmp) : Empresa :=
  ⟨r.id.getD "", r.nombre.getD "", r.rut, r.actividad, r.region, r.fuente⟩

def Db.FilaCon.toContrato (r : FilaCon) : Contrato :=
  ⟨r.id.getD "", r.ocId, r.monto, r.fecha, r.esTratoDirecto, r.estado, r.organismoId,
    r.proveedorId, r.fuente, r.tipo⟩

namespace Db

variable {s t : Db}

theorem deleteEmpresa_ok {f : String} (h : s.deleteEmpresa f = .ok t) :
    ¬ s.EmpresaEnUso f ∧ t.toTablas =
      { s.toTablas with empresa := s.empresa.filter fun e => decide (e.fuente ≠ some f) } := by
  unfold deleteEmpresa at h
  split at h
  · cases h
  · rename_i hn
    cases h
    exact ⟨hn, rfl⟩

theorem deleteOrganismo_ok {f : String} (h : s.deleteOrganismo f = .ok t) :
    ¬ s.OrganismoEnUso f ∧ t.toTablas =
      { s.toTablas with organismo := s.organismo.filter fun o => decide (o.fuente ≠ some f) } := by
  unfold deleteOrganismo at h
  split at h
  · cases h
  · rename_i hn
    cases h
    exact ⟨hn, rfl⟩

theorem insertOrganismo_eq {r : FilaOrg} {k n : String} (hk : r.rut = some k)
    (hn : r.nombre = some n) : s.insertOrganismo r = .ok (s.addOrganismo r.toOrganismo) := by
  unfold insertOrganismo FilaOrg.toOrganismo
  rw [hk, hn]
  rfl

theorem insertEmpresa_eq {r : FilaEmp} {k n : String} (hk : r.id = some k)
    (hn : r.nombre = some n) : s.insertEmpresa r = .ok (s.addEmpresa r.toEmpresa) := by
  unfold insertEmpresa FilaEmp.toEmpresa
  rw [hk, hn]
  rfl

theorem insertOrganismo_ok {r : FilaOrg} (h : s.insertOrganismo r = .ok t) :
    (∃ k, r.rut = some k) ∧ t = s.addOrganismo r.toOrganismo := by
  cases hk : r.rut with
  | none => simp [insertOrganismo, hk] at h
  | some k =>
    cases hn : r.nombre with
    | none => simp [insertOrganismo, hk, hn] at h
    | some n =>
      rw [insertOrganismo_eq hk hn] at h
      exact ⟨⟨k, rfl⟩, (Except.ok.inj h).symm⟩

theorem insertEmpresa_ok {r : FilaEmp} (h : s.insertEmpresa r = .ok t) :
    (∃ k, r.id = some k) ∧ t = s.addEmpresa r.toEmpresa := by
  cases hk : r.id with
  | none => simp [insertEmpresa, hk] at h
  | some k =>
    cases hn : r.nombre with
    | none => simp [insertEmpresa, hk, hn] at h
    | some n =>
      rw [insertEmpresa_eq hk hn] at h
      exact ⟨⟨k, rfl⟩, (Except.ok.inj h).symm⟩

theorem insertContrato_ok {r : FilaCon} (h : s.insertContrato r = .ok t) :
    (∃ k, r.id = some k) ∧ t.toTablas =
      { s.toTablas with contrato := s.contrato.insertOrIgnore r.toContrato } := by
  cases hk : r.id with
  | none => simp [insertContrato, hk] at h
  | some k =>
    have hid : r.toContrato = ⟨k, r.ocId, r.monto, r.fecha, r.esTratoDirecto, r.estado,
        r.organismoId, r.proveedorId, r.fuente, r.tipo⟩ := by
      simp [FilaCon.toContrato, hk]
    simp only [insertContrato, hk, ← hid] at h
    refine ⟨⟨k, rfl⟩, ?_⟩
    split at h
    · rename_i hm
      cases h
      have hm' : r.toContrato.id ∈ s.contrato.keys := by rw [hid]; exact hm
      rw [KeyTable.insertOrIgnore_of_mem hm']
    · split at h
      · cases h
        rfl
      · cases h

theorem insertContrato_eq {r : FilaCon} {k : String} (hk : r.id = some k)
    (hp : s.Parents r.toContrato) : ∃ t, s.insertContrato r = .ok t := by
  have hid : r.toContrato = ⟨k, r.ocId, r.monto, r.fecha, r.esTratoDirecto, r.estado,
      r.organismoId, r.proveedorId, r.fuente, r.tipo⟩ := by
    simp [FilaCon.toContrato, hk]
  simp only [insertContrato, hk, ← hid]
  split
  · exact ⟨s, rfl⟩
  · exact ⟨_, rfl⟩

theorem insertAlerta_ok {a : Alerta} (h : s.insertAlerta a = .ok t) :
    ∃ hid : a.id ∉ s.alerta.keys, t.toTablas =
      { s.toTablas with alerta := s.alerta.push (a.stamp s.reloj) hid, reloj := s.reloj + 1 } := by
  unfold insertAlerta at h
  split at h
  · cases h
  · rename_i hn
    cases h
    exact ⟨hn, rfl⟩

theorem insertAlerta_error {a : Alerta} {e : Error} (h : s.insertAlerta a = .error e) :
    a.id ∈ s.alerta.keys ∧ e = .primaryKey .alerta := by
  unfold insertAlerta at h
  split at h
  · rename_i hm
    cases h
    exact ⟨hm, rfl⟩
  · cases h

theorem insertCaso_ok {r : FilaCaso} {n : Int} (h : s.insertCaso r n = .ok t) :
    t.toTablas = { s.toTablas with caso := t.caso } := by
  unfold insertCaso at h
  split at h
  · cases h
  · split at h
    · cases h
    · dsimp only at h
      split at h
      · cases h
      · cases h
        rfl

theorem insertEntidad_ok {e : Entidad} (h : s.insertEntidad e = .ok t) :
    t.toTablas = { s.toTablas with entidad := t.entidad } := by
  unfold insertEntidad at h
  split at h
  · cases h
  · cases h
    rfl

/-! ## the join of the detection queries -/

/-- the contracts of a slice -/
def contratosDe (s : Db) (f : String) : List Contrato :=
  s.contrato.rows.filter fun c => decide (c.fuente = some f)

theorem mem_contratosDe {f : String} {c : Contrato} :
    c ∈ s.contratosDe f ↔ c ∈ s.contrato.rows ∧ c.fuente = some f := by
  simp [contratosDe]

theorem contratosDe_congr {s t : Db} (h : t.contrato = s.contrato) (f : String) :
    t.contratosDe f = s.contratosDe f := by
  unfold contratosDe
  rw [h]

/-- the joined rows of one contract -/
def unidoDe (s : Db) (c : Contrato) : List Unido :=
  match c.proveedorId with
  | none => []
  | some k =>
    (((s.empresa.find k).toList).filter fun e => decide (e.nombre ≠ "Sin nombre")).map
      fun e => ⟨c, e.rut, e.nombre⟩

theorem unidos_eq (s : Db) (f : String) : s.unidos f = (s.contratosDe f).flatMap s.unidoDe := by
  show (s.contratosDe f).flatMap _ = _
  congr 1
  funext c
  unfold unidoDe
  cases hc : c.proveedorId with
  | none => simp
  | some k =>
    have hfil : (s.empresa.rows.filter fun e =>
        decide (some k = some e.id) && decide (e.nombre ≠ "Sin nombre"))
        = (s.empresa.find k).toList.filter fun e => decide (e.nombre ≠ "Sin nombre") := by
      rw [← KeyTable.filter_key, List.filter_filter]
      apply List.filter_congr
      intro e _
      by_cases hk : e.id = k
      · simp [hk]
      · have hk' : ¬ k = e.id := fun h => hk h.symm
        simp [hk, hk']
    rw [hfil]

theorem mem_unidos {f : String} {u : Unido} :
    u ∈ s.unidos f ↔ u.c ∈ s.contratosDe f ∧ ∃ e ∈ s.empresa.rows, u.c.proveedorId = some e.id ∧
      e.nombre ≠ "Sin nombre" ∧ u.rut = e.rut ∧ u.nombre = e.nombre := by
  unfold unidos
  simp only [List.mem_flatMap, List.mem_map, List.mem_filter, Bool.and_eq_true, decide_eq_true_eq]
  refine ⟨fun h => ?_, fun h => ?_⟩
  · obtain ⟨c, hc, e, ⟨he, hk, hn⟩, rfl⟩ := h
    exact ⟨mem_contratosDe.mpr hc, e, he, hk, hn, rfl, rfl⟩
  · obtain ⟨hc, e, he, hk, hn, hr, hn'⟩ := h
    refine ⟨u.c, mem_contratosDe.mp hc, e, ⟨he, hk, hn⟩, ?_⟩
    rw [← hr, ← hn']

/-- the columns of a supplier that the join reads -/
def leida (e : Empresa) : Option String × String := (e.rut, e.nombre)

theorem unidoDe_congr {c : Contrato}
    (h : ∀ k, c.proveedorId = some k → (t.empresa.find k).map leida = (s.empresa.find k).map leida) :
    t.unidoDe c = s.unidoDe c := by
  unfold unidoDe
  cases hk : c.proveedorId with
  | none => rfl
  | some k =>
    have he := h k hk
    dsimp only
    cases ht : t.empresa.find k with
    | none =>
      cases hs : s.empresa.find k with
      | none => rfl
      | some e' => rw [ht, hs] at he; cases he
    | some e =>
      cases hs : s.empresa.find k with
      | none => rw [ht, hs] at he; cases he
      | some e' =>
        rw [ht, hs] at he
        obtain ⟨hr, hn⟩ := Prod.mk.inj (Option.some.inj he)
        by_cases h0 : e'.nombre = "Sin nombre"
        · simp [hn, h0]
        · simp [hr, hn, h0]

/-- **The join reads the contracts of the slice, and the RUT and the name of their suppliers.** -/
theorem unidos_congr {f : String} (hc : t.contratosDe f = s.contratosDe f)
    (he : ∀ c ∈ s.contratosDe f, ∀ k, c.proveedorId = some k →
      (t.empresa.find k).map leida = (s.empresa.find k).map leida) :
    t.unidos f = s.unidos f := by
  rw [unidos_eq, unidos_eq, hc]
  apply List.flatMap_congr
  intro c hcm
  exact unidoDe_congr (he c hcm)

theorem unidos_congr_tablas {f : String} (hc : t.contrato = s.contrato)
    (he : t.empresa = s.empresa) : t.unidos f = s.unidos f := by
  unfold unidos
  rw [hc, he]

end Db

/-! ## executing -/

section
variable {M : Motor} {s t : Db}

@[simp] theorem filas_p1 (f : String) (c1 : Nat) :
    filas M s (.p1 f c1) = .ok (p1De M c1 (s.unidos f)) := rfl

@[simp] theorem filas_p2 (f : String) (c2 : Nat) (m2 : Int) :
    filas M s (.p2 f c2 m2) = .ok (p2De M c2 m2 (s.unidos f)) := rfl

@[simp] theorem filas_p3 (f : String) (o3 : Nat) :
    filas M s (.p3 f o3) = .ok (p3De M o3 (s.unidos f)) := rfl

theorem exec_query_ok {q : Consulta} {x : Resp (.query q)} (h : exec M (.query q) s = .ok (x, t)) :
    t = s ∧ ∃ rows, filas M s q = .ok rows ∧ x = leer q rows := by
  unfold exec at h
  cases hf : filas M s q with
  | error e => simp only [hf] at h; cases h
  | ok rows =>
    simp only [hf] at h
    cases h
    exact ⟨rfl, rows, rfl, rfl⟩

theorem exec_query {q : Consulta} {rows : List q.forma.fila} (h : filas M s q = .ok rows) :
    exec M (.query q) s = .ok (leer q rows, s) := by
  simp only [exec, h]

theorem exec_query_error {q : Consulta} {e : Error} :
    exec M (.query q) s = .error e ↔ filas M s q = .error e := by
  refine ⟨fun h => ?_, fun h => ?_⟩
  · unfold exec at h
    cases hf : filas M s q with
    | error e' =>
      simp only [hf] at h
      cases h
      rfl
    | ok rows =>
      simp only [hf] at h
      cases h
  · simp only [exec, h]

theorem exec_dml_ok {d : Dml} {x : Resp (.dml d)} (h : exec M (.dml d) s = .ok (x, t)) :
    d.exec s = .ok t := by
  unfold exec at h
  cases hd : d.exec s with
  | error e => simp only [hd] at h; cases h
  | ok s' => simp only [hd] at h; cases h; rfl

theorem exec_dml {d : Dml} (h : d.exec s = .ok t) : exec M (.dml d) s = .ok ((), t) := by
  simp only [exec, h]

theorem exec_dml_error {d : Dml} {e : Error} (h : d.exec s = .error e) :
    exec M (.dml d) s = .error e := by
  simp only [exec, h]

/-! ## running one statement -/

theorem run_consulta {q : Consulta} {rows : List q.forma.fila} (h : filas M s q = .ok rows) :
    Prog.run (exec M) (consulta q) s = (.ok (leer q rows), s) := by
  rw [consulta, Prog.stmt, Prog.run_call_ok _ (exec_query h)]
  rfl

theorem run_consulta_error {q : Consulta} {e : Error} (h : filas M s q = .error e) :
    Prog.run (exec M) (consulta q) s = (.error e, s) := by
  have hx : exec M (.query q) s = .error e := by simp only [exec, h]
  rw [consulta, Prog.stmt, Prog.run_call_error _ hx]

theorem run_ejecutar {d : Dml} (h : d.exec s = .ok t) :
    Prog.run (exec M) (ejecutar d) s = (.ok (), t) := by
  rw [ejecutar, Prog.stmt, Prog.run_call_ok _ (exec_dml h)]
  rfl

theorem run_ejecutar_error {d : Dml} {e : Error} (h : d.exec s = .error e) :
    Prog.run (exec M) (ejecutar d) s = (.error e, s) := by
  rw [ejecutar, Prog.stmt, Prog.run_call_error _ (exec_dml_error h)]

end

end Fractura
