import Fractura.Lib.Group
import Fractura.Lib.Prog
import Fractura.Db

/-!
# The SQL statements of the backend

`Consulta` lists the queries of the loaders and of the routers, with their parameters; `filas`
computes their rows at a store.  `Dml` lists the statements that change the store.  A statement is
one of the two (`Sentencia`) and `exec` executes it: a query leaves the store as it is, a failing
statement has no effect.

`Forma` names the row types, so that a result can be stored without its query (the connection
keeps the pending result of whatever was executed last).  `Consulta.una` says which queries the
source reads with `fetchone`.

The three detection queries are functions of the join of `contrato` and `empresa` alone
(`Db.unidos`): `p1De`, `p2De`, `p3De`.
-/

namespace Fractura

open Group

/-! ## row types -/

/-- a row of `contrato c JOIN empresa e`, with the columns that the detection queries read -/
structure Unido where
  c : Contrato
  rut : Option String
  nombre : String
  deriving DecidableEq

structure FilaP1 where
  empresaRut : Option String
  empresaNombre : String
  totalContratos : Nat
  totalOrganismos : Nat
  montoAcumulado : Option Int
  deriving DecidableEq

structure FilaP2 where
  organismoId : Option String
  proveedorId : Option String
  empresaNombre : String
  empresaRut : Option String
  contratosEnVentana : Nat
  montoAcumulado : Option Int
  desde : Option Int
  hasta : Option Int
  deriving DecidableEq

structure FilaP3 where
  empresaRut : Option String
  empresaNombre : String
  totalOrganismos : Nat
  montoTotal : Option Int
  deriving DecidableEq

structure FilaEntidad where
  id : String
  nombre : Option String
  tipo : String
  fuente : Option String
  deriving DecidableEq

/-- a contract seen from one of its parents, with the name of the other parent -/
structure FilaVecino where
  id : String
  ocId : Option String
  monto : Option String
  fecha : Option String
  esTd : Option Bool
  tipo : Option String
  relation : String
  nombre : String
  deriving DecidableEq

/-- a parent seen from a contract -/
structure FilaPariente where
  id : String
  nombre : String
  relation : String
  deriving DecidableEq

structure FilaEnlace where
  organismoId : Option String
  proveedorId : Option String
  id : String
  deriving DecidableEq

structure FilaNodo where
  id : String
  nombre : Option String
  tipo : String
  deriving DecidableEq

inductive Forma where
  | num | texto | p1 | p2 | p3 | caso | alerta | entidad | vecino | pariente | enlace | nodo
  deriving DecidableEq

@[reducible] def Forma.fila : Forma → Type
  | num => Nat
  | texto => String
  | p1 => FilaP1
  | p2 => FilaP2
  | p3 => FilaP3
  | caso => Caso
  | alerta => Alerta
  | entidad => FilaEntidad
  | vecino => FilaVecino
  | pariente => FilaPariente
  | enlace => FilaEnlace
  | nodo => FilaNodo

/-! ## queries -/

inductive Consulta where
  /-- `SELECT COUNT(*) FROM organismo WHERE fuente=?`, and the same for the other two tables -/
  | countOrganismo (f : String)
  | countEmpresa (f : String)
  | countContrato (f : String)
  /-- `SELECT DISTINCT fuente FROM contrato WHERE fuente LIKE 'chilecompra_%'` -/
  | fuentes
  | p1 (f : String) (c1 : Nat)
  | p2 (f : String) (c2 : Nat) (m2 : Int)
  | p3 (f : String) (o3 : Nat)
  /-- the cases with a conclusion, a state or an offence -/
  | casos
  | alertaPorId (id : String)
  | alertas500
  | alertasChile (patron fuente : Option String) (limit : Int)
  | entidad (id : String)
  | recibe (organismoId : String)
  | contrata (proveedorId : String)
  | organismoDe (contratoId : String)
  | empresaDe (contratoId : String)
  | alertasDe (id : String)
  | organismoPorRut (rut : String)
  | empresaPorId (id : String)
  | enlacesOrganismo (rut : String) (limit : Nat)
  | enlacesEmpresa (id : String) (limit : Nat)
  | enlacesFuente (f : String) (limit : Nat)
  | enlaces (limit : Nat)
  | nodos (ids : List (Option String))
  deriving DecidableEq

@[reducible] def Consulta.forma : Consulta → Forma
  | countOrganismo _ | countEmpresa _ | countContrato _ => .num
  | fuentes | organismoPorRut _ | empresaPorId _ => .texto
  | p1 _ _ => .p1
  | p2 _ _ _ => .p2
  | p3 _ _ => .p3
  | casos => .caso
  | alertaPorId _ | alertas500 | alertasChile _ _ _ | alertasDe _ => .alerta
  | entidad _ => .entidad
  | recibe _ | contrata _ => .vecino
  | organismoDe _ | empresaDe _ => .pariente
  | enlacesOrganismo _ _ | enlacesEmpresa _ _ | enlacesFuente _ _ | enlaces _ => .enlace
  | nodos _ => .nodo

/-- the queries that the source reads with `fetchone` -/
def Consulta.una : Consulta → Bool
  | countOrganismo _ | countEmpresa _ | countContrato _ => true
  | alertaPorId _ | entidad _ | organismoPorRut _ | empresaPorId _ => true
  | _ => false

namespace Db

/-- `contrato c JOIN empresa e ON c.proveedor_id = e.id WHERE c.fuente = ? AND e.nombre !=
'Sin nombre'` -/
def unidos (s : Db) (f : String) : List Unido :=
  (s.contrato.rows.filter fun c => decide (c.fuente = some f)).flatMap fun c =>
    (s.empresa.rows.filter fun e =>
      decide (c.proveedorId = some e.id) && decide (e.nombre ≠ "Sin nombre")).map fun e =>
      ⟨c, e.rut, e.nombre⟩

end Db

section
variable (M : Motor)

/-- `TRY_CAST(c.monto AS BIGINT)` -/
def montoDe (c : Contrato) : Option Int := c.monto.bind M.tryCastBigint

/-- `TRY_CAST(c.fecha AS DATE)` -/
def diaDe (c : Contrato) : Option Int := c.fecha.bind M.tryCastDate

/-- `SUM` of a nullable column: NULL when there is nothing to add -/
def suma (l : List (Option Int)) : Option Int :=
  match l.filterMap id with
  | [] => none
  | ms => some ms.sum

/-- `SUM(TRY_CAST(c.monto AS BIGINT))` -/
def sumaMontos (g : List Unido) : Option Int := suma (g.map fun u => montoDe M u.c)

/-- `COUNT(DISTINCT c.organismo_id)` -/
def organismosDe (g : List Unido) : Nat := countDistinct (g.map fun u => u.c.organismoId)

/-- `GROUP BY e.rut, e.nombre` -/
def porEmpresa (u : Unido) : Option String × String := (u.rut, u.nombre)

/-- `GROUP BY c.organismo_id, c.proveedor_id, e.nombre, e.rut` -/
def porPar (u : Unido) : Option String × Option String × String × Option String :=
  (u.c.organismoId, u.c.proveedorId, u.nombre, u.rut)

def filaP1 (g : (Option String × String) × List Unido) : FilaP1 :=
  ⟨g.1.1, g.1.2, g.2.length, organismosDe g.2, sumaMontos M g.2⟩

/-- `HAVING COUNT(c.id) > c1 AND COUNT(DISTINCT c.organismo_id) = 1` -/
def havingP1 (c1 : Nat) (g : List Unido) : Bool :=
  decide (c1 < g.length) && decide (organismosDe g = 1)

def filaP2 (g : (Option String × Option String × String × Option String) × List Unido) : FilaP2 :=
  ⟨g.1.1, g.1.2.1, g.1.2.2.1, g.1.2.2.2, g.2.length, sumaMontos M g.2,
    (g.2.filterMap fun u => diaDe M u.c).min?, (g.2.filterMap fun u => diaDe M u.c).max?⟩

/-- `MAX(fecha) - MIN(fecha) <= n`, false when there is no readable date -/
def spanLe (n : Int) (dias : List Int) : Bool :=
  match dias.min?, dias.max? with
  | some a, some b => decide (b - a ≤ n)
  | _, _ => false

def P2_THRESHOLD_DAYS : Int := 30

/-- `HAVING COUNT(c.id) >= c2 AND SUM(...) > m2 AND MAX - MIN <= P2_THRESHOLD_DAYS` -/
def havingP2 (c2 : Nat) (m2 : Int) (g : List Unido) : Bool :=
  decide (c2 ≤ g.length) && (sumaMontos M g).any (fun x => decide (m2 < x)) &&
    spanLe P2_THRESHOLD_DAYS (g.filterMap fun u => diaDe M u.c)

def filaP3 (g : (Option String × String) × List Unido) : FilaP3 :=
  ⟨g.1.1, g.1.2, organismosDe g.2, sumaMontos M g.2⟩

/-- `HAVING COUNT(DISTINCT c.organismo_id) >= o3` -/
def havingP3 (o3 : Nat) (g : List Unido) : Bool := decide (o3 ≤ organismosDe g)

/-- the rows of `p1_df`, from the joined rows -/
def p1De (c1 : Nat) (us : List Unido) : List FilaP1 :=
  sortDesc (fun r => (r.totalContratos : Int))
    (M.orden (((groups porEmpresa us).filter fun g => havingP1 c1 g.2).map (filaP1 M)))

/-- the rows of `p2_df`, from the joined rows: those with `c.fecha IS NOT NULL` -/
def p2De (c2 : Nat) (m2 : Int) (us : List Unido) : List FilaP2 :=
  sortDesc (fun r => r.montoAcumulado.getD 0)
    (M.orden (((groups porPar (us.filter fun u => u.c.fecha.isSome)).filter
      fun g => havingP2 M c2 m2 g.2).map (filaP2 M)))

/-- the rows of `p3_df`, from the joined rows -/
def p3De (o3 : Nat) (us : List Unido) : List FilaP3 :=
  sortDesc (fun r => (r.totalOrganismos : Int))
    (M.orden (((groups porEmpresa us).filter fun g => havingP3 o3 g.2).map (filaP3 M)))

/-- `ORDER BY created_at DESC` -/
def porHora (l : List Alerta) : List Alerta :=
  (M.orden l).insertionSort fun a b => descNullsLast a.createdAt b.createdAt

/-- `ORDER BY c.fecha DESC LIMIT 50` -/
def recientes (l : List FilaVecino) : List FilaVecino :=
  ((M.orden l).insertionSort fun a b => descNullsLast a.fecha b.fecha).take 50

def vecino (relation : String) (c : Contrato) (nombre : String) : FilaVecino :=
  ⟨c.id, c.ocId, c.monto, c.fecha, c.esTratoDirecto, c.tipo, relation, nombre⟩

def enlace (c : Contrato) : FilaEnlace := ⟨c.organismoId, c.proveedorId, c.id⟩

/-- an optional equality filter: absent or empty means no filter -/
def filtro (p : Option String) (x : Option String) : Bool :=
  match p with
  | none => true
  | some t => t = "" || x = some t

/-- a text that is neither NULL nor empty -/
def conTexto (x : Option String) : Bool := decide (x ≠ none ∧ x ≠ some "")

/-- **The rows of a query at a store.** -/
def filas (s : Db) : (q : Consulta) → Except Error (List q.forma.fila)
  | .countOrganismo f => .ok [(s.organismo.rows.filter fun o => decide (o.fuente = some f)).length]
  | .countEmpresa f => .ok [(s.empresa.rows.filter fun e => decide (e.fuente = some f)).length]
  | .countContrato f => .ok [(s.contrato.rows.filter fun c => decide (c.fuente = some f)).length]
  | .fuentes =>
    .ok (M.orden ((s.contrato.rows.filterMap Contrato.fuente).filter
      fun f => Text.like "chilecompra_%" f).dedup)
  | .p1 f c1 => .ok (p1De M c1 (s.unidos f))
  | .p2 f c2 m2 => .ok (p2De M c2 m2 (s.unidos f))
  | .p3 f o3 => .ok (p3De M o3 (s.unidos f))
  | .casos =>
    .ok (M.orden (s.caso.rows.filter fun c =>
      conTexto c.conclusion || conTexto c.estado || conTexto c.delitos))
  | .alertaPorId id => .ok (s.alerta.rows.filter fun a => decide (a.id = id))
  | .alertas500 => .ok ((porHora M s.alerta.rows).take 500)
  | .alertasChile patron fuente limit =>
    if limit < 0 then .error .negativeLimit
    else .ok ((porHora M (s.alerta.rows.filter fun a =>
      decide (a.patron ≠ none) && filtro patron a.patron && filtro fuente a.fuente)).take
        limit.toNat)
  | .entidad id =>
    .ok (((s.organismo.rows.filter fun o => decide (o.rut = id)).map
          fun o => (⟨o.rut, some o.nombre, "Organismo", o.fuente⟩ : FilaEntidad)) ++
      ((s.empresa.rows.filter fun e => decide (e.id = id)).map
          fun e => ⟨e.id, some e.nombre, "Empresa", e.fuente⟩) ++
      ((s.contrato.rows.filter fun c => decide (c.id = id)).map
          fun c => ⟨c.id, c.ocId, "Contrato", c.fuente⟩))
  | .recibe o =>
    .ok (recientes M ((s.contrato.rows.filter fun c => decide (c.organismoId = some o)).flatMap
      fun c => (s.empresa.rows.filter fun e => decide (c.proveedorId = some e.id)).map
        fun e => vecino "recibe" c e.nombre))
  | .contrata p =>
    .ok (recientes M ((s.contrato.rows.filter fun c => decide (c.proveedorId = some p)).flatMap
      fun c => (s.organismo.rows.filter fun o => decide (c.organismoId = some o.rut)).map
        fun o => vecino "contrata" c o.nombre))
  | .organismoDe k =>
    .ok ((s.contrato.rows.filter fun c => decide (c.id = k)).flatMap fun c =>
      (s.organismo.rows.filter fun o => decide (c.organismoId = some o.rut)).map
        fun o => ⟨o.rut, o.nombre, "contrata"⟩)
  | .empresaDe k =>
    .ok ((s.contrato.rows.filter fun c => decide (c.id = k)).flatMap fun c =>
      (s.empresa.rows.filter fun e => decide (c.proveedorId = some e.id)).map
        fun e => ⟨e.id, e.nombre, "recibe"⟩)
  | .alertasDe id =>
    .ok ((porHora M (s.alerta.rows.filter fun a =>
      decide (a.organismoId = some id) || decide (a.proveedorId = some id) ||
        (Text.like "p3_%" a.id && decide (Text.splitPart a.id '_' 2 = id)))).take 100)
  | .organismoPorRut rut =>
    .ok ((s.organismo.rows.filter fun o => decide (o.rut = rut)).map Organismo.rut)
  | .empresaPorId id => .ok ((s.empresa.rows.filter fun e => decide (e.id = id)).map Empresa.id)
  | .enlacesOrganismo rut limit =>
    .ok ((M.orden ((s.contrato.rows.filter fun c => decide (c.organismoId = some rut)).map
      enlace).dedup).take limit)
  | .enlacesEmpresa id limit =>
    .ok ((M.orden ((s.contrato.rows.filter fun c => decide (c.proveedorId = some id)).map
      enlace).dedup).take limit)
  | .enlacesFuente f limit =>
    .ok ((M.orden ((s.contrato.rows.filter fun c => decide (c.fuente = some f)).map
      enlace).dedup).take limit)
  | .enlaces limit => .ok ((M.orden (s.contrato.rows.map enlace).dedup).take limit)
  | .nodos ids =>
    .ok (M.orden ((s.organismo.rows.filter fun o => decide (some o.rut ∈ ids)).map
          fun o => (⟨o.rut, some o.nombre, "Organismo"⟩ : FilaNodo)) ++
      M.orden ((s.empresa.rows.filter fun e => decide (some e.id ∈ ids)).map
          fun e => ⟨e.id, some e.nombre, "Empresa"⟩) ++
      M.orden ((s.contrato.rows.filter fun c => decide (some c.id ∈ ids)).map
          fun c => ⟨c.id, c.ocId, "Contrato"⟩))

/-! ## statements -/

inductive Dml where
  | deleteContrato (f : String)
  | deleteAlerta (f : String)
  | deleteEmpresa (f : String)
  | deleteOrganismo (f : String)
  | deleteAlertaPatron (f : String)
  | insertOrganismo (r : Db.FilaOrg)
  | insertEmpresa (r : Db.FilaEmp)
  | insertContrato (r : Db.FilaCon)
  | insertAlerta (a : Alerta)
  | insertCaso (r : Db.FilaCaso) (monto : Int)
  | insertEntidad (e : Entidad)

def Dml.exec (s : Db) : Dml → Except Error Db
  | deleteContrato f => .ok (s.deleteContrato f)
  | deleteAlerta f => .ok (s.deleteAlerta f)
  | deleteEmpresa f => s.deleteEmpresa f
  | deleteOrganismo f => s.deleteOrganismo f
  | deleteAlertaPatron f => .ok (s.deleteAlertaPatron f)
  | insertOrganismo r => s.insertOrganismo r
  | insertEmpresa r => s.insertEmpresa r
  | insertContrato r => s.insertContrato r
  | insertAlerta a => s.insertAlerta a
  | insertCaso r monto => s.insertCaso r monto
  | insertEntidad e => s.insertEntidad e

inductive Sentencia where
  | query (q : Consulta)
  | dml (d : Dml)

@[reducible] def Resp : Sentencia → Type
  | .query q => List q.forma.fila
  | .dml _ => Unit

/-- the rows that the code fetches: `fetchone` takes the first one -/
def leer (q : Consulta) (rows : List q.forma.fila) : List q.forma.fila :=
  if q.una then rows.take 1 else rows

def exec : (q : Sentencia) → Db → Except Error (Resp q × Db)
  | .query q, s =>
    match filas M s q with
    | .ok rows => .ok (leer q rows, s)
    | .error e => .error e
  | .dml d, s =>
    match d.exec s with
    | .ok s' => .ok ((), s')
    | .error e => .error e

/-- a program of the backend -/
abbrev Prg (α : Type) : Type := Prog Sentencia Resp Error α

/-- `db.execute(...)` and its fetch -/
def consulta (q : Consulta) : Prg (List q.forma.fila) := Prog.stmt (Sentencia.query q)

/-- `db.execute(...)` of a statement without rows -/
def ejecutar (d : Dml) : Prg Unit := Prog.stmt (Sentencia.dml d)

end

end Fractura
