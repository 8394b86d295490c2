import Fractura.Lib.KeyTable
import Fractura.Motor

/-!
# The DuckDB store: schema and the statements that change it

The tables of `_init_schema_duckdb` (`db.py`), with the primary keys carried by `KeyTable` and the
two foreign keys of `contrato` carried by `Db`: a store that breaks them cannot be built.  Columns
that may be NULL are options; `reloj` is the engine's clock, read by `DEFAULT CURRENT_TIMESTAMP`.

A statement either succeeds or raises and then has no effect (`Except Error Db`).  Those that can
fail on a well-typed row are

* `deleteEmpresa`, `deleteOrganismo`   a `contrato` row still references a row to delete;
* `insertOrganismo`, `insertEmpresa`, `insertContrato`   a NULL in a key or NOT NULL column, and
                                        for `contrato` a missing parent (`OR IGNORE` only skips a
                                        row whose primary key is taken);
* `insertAlerta`, `insertCaso`, `insertEntidad`   a primary key already in use;
* `insertCaso`                          also a year outside INTEGER or an amount outside HUGEINT.
-/

namespace Fractura

inductive TableName where
  | organismo | empresa | contrato | alerta | caso | entidad
  deriving DecidableEq

inductive Error where
  /-- the ZIP or its CSV cannot be read, or the query does not bind -/
  | readError
  /-- a value out of the range of its target type, or of every type that a parameter can have -/
  | conversion
  /-- `executemany` with an empty list of parameters -/
  | emptyBatch
  | foreignKey (t : TableName)
  | primaryKey (t : TableName)
  | notNull (t : TableName)
  /-- Python `ValueError` of `int` -/
  | valueError
  /-- a fetched row has not the shape that the code unpacks -/
  | badRow
  /-- `LIMIT` of a negative number -/
  | negativeLimit
  /-- a response that does not validate -/
  | validation
  | http (status : Nat) (detail : String)
  deriving DecidableEq

/-! ## rows -/

/-- the comparison of keys that may be NULL, one instance for all membership tests -/
instance instLawfulBEqClave : LawfulBEq (Option String) := inferInstance

structure Organismo where
  rut : String
  nombre : String
  codigo : Option String
  region : Option String
  fuente : Option String
  deriving DecidableEq

structure Empresa where
  id : String
  nombre : String
  rut : Option String
  actividad : Option String
  region : Option String
  fuente : Option String
  deriving DecidableEq

structure Contrato where
  id : String
  ocId : Option String
  monto : Option String
  fecha : Option String
  esTratoDirecto : Option Bool
  estado : Option String
  organismoId : Option String
  proveedorId : Option String
  fuente : Option String
  tipo : Option String
  deriving DecidableEq

structure Alerta where
  id : String
  tipo : Option String
  mensaje : Option String
  monto : Option String
  fecha : Option String
  organismoId : Option String
  proveedorId : Option String
  severity : Option String
  patron : Option String
  fuente : Option String
  casoId : Option String
  createdAt : Option Nat
  deriving DecidableEq

structure Caso where
  id : String
  nombre : String
  monto : Option String
  ano : Option Int
  anoInicio : Option Int
  anoFin : Option Int
  sector : Option String
  partido : Option String
  comuna : Option String
  posicion : Option String
  actual : Option String
  delitos : Option String
  estado : Option String
  sentence : Option String
  condemna : Option String
  conclusion : Option String
  fuente1 : Option String
  fuente2 : Option String
  fuente3 : Option String
  fuente4 : Option String
  fuente5 : Option String
  fuente : Option String
  deriving DecidableEq

structure Entidad where
  id : String
  nombre : String
  tipo : Option String
  source : Option String
  deriving DecidableEq

/-- an alert without the moment of its insertion -/
def Alerta.sinHora (a : Alerta) : Alerta := { a with createdAt := none }

/-- an alert as the engine stores it at the moment `t` -/
def Alerta.stamp (a : Alerta) (t : Nat) : Alerta := { a with createdAt := some t }

@[simp] theorem Alerta.stamp_id (a : Alerta) (t : Nat) : (a.stamp t).id = a.id := rfl
@[simp] theorem Alerta.stamp_fuente (a : Alerta) (t : Nat) : (a.stamp t).fuente = a.fuente := rfl
@[simp] theorem Alerta.sinHora_stamp (a : Alerta) (t : Nat) :
    (a.stamp t).sinHora = a.sinHora := rfl

/-- two lists with the same members -/
def MismasFilas {ρ : Type} (l l' : List ρ) : Prop := (∀ x ∈ l, x ∈ l') ∧ ∀ x ∈ l', x ∈ l

instance {ρ : Type} [DecidableEq ρ] (l l' : List ρ) : Decidable (MismasFilas l l') := by
  unfold MismasFilas; infer_instance

/-! ## the store -/

/-- the tables and the clock -/
structure Tablas where
  organismo : KeyTable Organismo String Organismo.rut
  empresa : KeyTable Empresa String Empresa.id
  contrato : KeyTable Contrato String Contrato.id
  alerta : KeyTable Alerta String Alerta.id
  caso : KeyTable Caso String Caso.id
  entidad : KeyTable Entidad String Entidad.id
  reloj : Nat

/-- the tables, with the foreign keys of `contrato` -/
structure Db extends Tablas where
  fkOrg : ∀ c ∈ contrato.rows, ∀ k, c.organismoId = some k → k ∈ organismo.keys
  fkEmp : ∀ c ∈ contrato.rows, ∀ k, c.proveedorId = some k → k ∈ empresa.keys

namespace Db

/-- the empty schema -/
def empty : Db where
  organismo := .empty
  empresa := .empty
  contrato := .empty
  alerta := .empty
  caso := .empty
  entidad := .empty
  reloj := 0
  fkOrg := by intro c hc; cases hc
  fkEmp := by intro c hc; cases hc

/-! ## deletions -/

/-- `DELETE FROM contrato WHERE fuente = ?` -/
def deleteContrato (s : Db) (f : String) : Db :=
  { s with
    contrato := s.contrato.filter fun c => decide (c.fuente ≠ some f)
    fkOrg := fun c hc => s.fkOrg c (List.mem_of_mem_filter hc)
    fkEmp := fun c hc => s.fkEmp c (List.mem_of_mem_filter hc) }

/-- `DELETE FROM alerta WHERE fuente = ?` -/
def deleteAlerta (s : Db) (f : String) : Db :=
  { s with alerta := s.alerta.filter fun a => decide (a.fuente ≠ some f) }

/-- `DELETE FROM alerta WHERE fuente = ? AND patron IS NOT NULL` -/
def deleteAlertaPatron (s : Db) (f : String) : Db :=
  { s with alerta := s.alerta.filter fun a => decide (¬ (a.fuente = some f ∧ a.patron ≠ none)) }

/-- a `contrato` row references an `empresa` row of the slice -/
def EmpresaEnUso (s : Db) (f : String) : Prop :=
  ∃ e ∈ s.empresa.rows, e.fuente = some f ∧ ∃ c ∈ s.contrato.rows, c.proveedorId = some e.id

/-- a `contrato` row references an `organismo` row of the slice -/
def OrganismoEnUso (s : Db) (f : String) : Prop :=
  ∃ o ∈ s.organismo.rows, o.fuente = some f ∧ ∃ c ∈ s.contrato.rows, c.organismoId = some o.rut

instance (s : Db) (f : String) : Decidable (s.EmpresaEnUso f) := by
  unfold EmpresaEnUso; infer_instance

instance (s : Db) (f : String) : Decidable (s.OrganismoEnUso f) := by
  unfold OrganismoEnUso; infer_instance

/-- `DELETE FROM empresa WHERE fuente = ?` -/
def deleteEmpresa (s : Db) (f : String) : Except Error Db :=
  if h : s.EmpresaEnUso f then .error (.foreignKey .empresa)
  else .ok { s with
    empresa := s.empresa.filter fun e => decide (e.fuente ≠ some f)
    fkEmp := by
      intro c hc k hk
      obtain ⟨e, he, rfl⟩ := KeyTable.mem_keys.mp (s.fkEmp c hc k hk)
      refine KeyTable.mem_keys_filter.mpr ⟨e, he, rfl, ?_⟩
      exact decide_eq_true fun hf => h ⟨e, he, hf, c, hc, hk⟩ }

/-- `DELETE FROM organismo WHERE fuente = ?` -/
def deleteOrganismo (s : Db) (f : String) : Except Error Db :=
  if h : s.OrganismoEnUso f then .error (.foreignKey .organismo)
  else .ok { s with
    organismo := s.organismo.filter fun o => decide (o.fuente ≠ some f)
    fkOrg := by
      intro c hc k hk
      obtain ⟨o, ho, rfl⟩ := KeyTable.mem_keys.mp (s.fkOrg c hc k hk)
      refine KeyTable.mem_keys_filter.mpr ⟨o, ho, rfl, ?_⟩
      exact decide_eq_true fun hf => h ⟨o, ho, hf, c, hc, hk⟩ }

/-! ## insertions -/

/-- a row of the frame `org_df`, as it is bound to the `INSERT` -/
structure FilaOrg where
  rut : Option String
  nombre : Option String
  codigo : Option String
  region : Option String
  fuente : Option String
  deriving DecidableEq

/-- a row of the frame `emp_df` -/
structure FilaEmp where
  id : Option String
  nombre : Option String
  rut : Option String
  actividad : Option String
  region : Option String
  fuente : Option String
  deriving DecidableEq

/-- a row of the frame `con_df` -/
structure FilaCon where
  id : Option String
  ocId : Option String
  monto : Option String
  fecha : Option String
  esTratoDirecto : Option Bool
  estado : Option String
  organismoId : Option String
  proveedorId : Option String
  fuente : Option String
  tipo : Option String
  deriving DecidableEq

def addOrganismo (s : Db) (o : Organismo) : Db :=
  { s with
    organismo := s.organismo.insertOrIgnore o
    fkOrg := fun c hc k hk => KeyTable.mem_keys_insertOrIgnore.mpr (Or.inl (s.fkOrg c hc k hk)) }

def addEmpresa (s : Db) (e : Empresa) : Db :=
  { s with
    empresa := s.empresa.insertOrIgnore e
    fkEmp := fun c hc k hk => KeyTable.mem_keys_insertOrIgnore.mpr (Or.inl (s.fkEmp c hc k hk)) }

/-- `INSERT OR IGNORE INTO organismo(rut, nombre, codigo, region, fuente)` -/
def insertOrganismo (s : Db) (r : FilaOrg) : Except Error Db :=
  match r.rut, r.nombre with
  | some rut, some nombre => .ok (s.addOrganismo ⟨rut, nombre, r.codigo, r.region, r.fuente⟩)
  | _, _ => .error (.notNull .organismo)

/-- `INSERT OR IGNORE INTO empresa(id, nombre, rut, actividad, region, fuente)` -/
def insertEmpresa (s : Db) (r : FilaEmp) : Except Error Db :=
  match r.id, r.nombre with
  | some id, some nombre =>
    .ok (s.addEmpresa ⟨id, nombre, r.rut, r.actividad, r.region, r.fuente⟩)
  | _, _ => .error (.notNull .empresa)

/-- both parents of a contract are stored -/
def Parents (s : Db) (c : Contrato) : Prop :=
  (∀ k ∈ c.organismoId, k ∈ s.organismo.keys) ∧ ∀ k ∈ c.proveedorId, k ∈ s.empresa.keys

instance (s : Db) (c : Contrato) : Decidable (s.Parents c) := by
  unfold Parents; infer_instance

def addContrato (s : Db) (c : Contrato) (h : s.Parents c) : Db :=
  { s with
    contrato := s.contrato.insertOrIgnore c
    fkOrg := by
      intro x hx k hk
      rcases KeyTable.mem_insertOrIgnore.mp hx with hx | ⟨rfl, -⟩
      · exact s.fkOrg x hx k hk
      · exact h.1 k hk
    fkEmp := by
      intro x hx k hk
      rcases KeyTable.mem_insertOrIgnore.mp hx with hx | ⟨rfl, -⟩
      · exact s.fkEmp x hx k hk
      · exact h.2 k hk }

/-- `INSERT OR IGNORE INTO contrato(...)`: a row whose key is taken is skipped before its foreign
keys are checked -/
def insertContrato (s : Db) (r : FilaCon) : Except Error Db :=
  match r.id with
  | none => .error (.notNull .contrato)
  | some id =>
    let c : Contrato := ⟨id, r.ocId, r.monto, r.fecha, r.esTratoDirecto, r.estado, r.organismoId,
      r.proveedorId, r.fuente, r.tipo⟩
    if c.id ∈ s.contrato.keys then .ok s
    else if h : s.Parents c then .ok (s.addContrato c h)
    else .error (.foreignKey .contrato)

/-- `INSERT INTO alerta(...)`: `created_at` takes its default -/
def insertAlerta (s : Db) (a : Alerta) : Except Error Db :=
  if h : a.id ∈ s.alerta.keys then .error (.primaryKey .alerta)
  else .ok { s with alerta := s.alerta.push (a.stamp s.reloj) h, reloj := s.reloj + 1 }

/-- a value of an INTEGER column -/
def int32 (n : Option Int) : Bool := n.all fun n => decide (-2^31 ≤ n ∧ n < 2^31)

/-- a Python integer is bound as a HUGEINT, also for a VARCHAR column -/
def int128 (n : Int) : Bool := decide (-2^127 ≤ n ∧ n < 2^127)

/-- a row of the list `rows` of `load_corrupcion_chile`, as it is bound to the `INSERT` -/
structure FilaCaso where
  id : String
  nombre : Option String
  monto : Option String
  ano : Option Int
  anoInicio : Option Int
  anoFin : Option Int
  sector : Option String
  partido : Option String
  comuna : Option String
  posicion : Option String
  actual : Option String
  delitos : Option String
  estado : Option String
  sentence : Option String
  condemna : Option String
  conclusion : Option String
  fuente1 : Option String
  fuente2 : Option String
  fuente3 : Option String
  fuente4 : Option String
  fuente5 : Option String
  fuente : Option String
  deriving DecidableEq

/-- `INSERT INTO caso(...)`, with the amount already an integer -/
def insertCaso (s : Db) (r : FilaCaso) (monto : Int) : Except Error Db :=
  if ¬ (int128 monto ∧ int32 r.ano ∧ int32 r.anoInicio ∧ int32 r.anoFin) then .error .conversion
  else match r.nombre with
    | none => .error (.notNull .caso)
    | some nombre =>
      let c : Caso := ⟨r.id, nombre, some (toString monto), r.ano, r.anoInicio, r.anoFin, r.sector,
        r.partido, r.comuna, r.posicion, r.actual, r.delitos, r.estado, r.sentence, r.condemna,
        r.conclusion, r.fuente1, r.fuente2, r.fuente3, r.fuente4, r.fuente5, r.fuente⟩
      if h : c.id ∈ s.caso.keys then .error (.primaryKey .caso)
      else .ok { s with caso := s.caso.push c h }

/-- `INSERT INTO entidad(id, nombre, tipo, source)` -/
def insertEntidad (s : Db) (e : Entidad) : Except Error Db :=
  if h : e.id ∈ s.entidad.keys then .error (.primaryKey .entidad)
  else .ok { s with entidad := s.entidad.push e h }

end Db

end Fractura
