import Fractura.Chilecompra.Detect
import Fractura.Corrupcion

/-!
# The request handlers

The synchronous handlers of `routers/`: each one is a program on the connection that `get_db`
returns.  An uncaught error becomes the HTTP status 500 with its text, an `HTTPException` keeps its
status (`statusOf`).  Handlers that receive a limit get one that passed the validation of `Query`.
-/

namespace Fractura

/-- the HTTP status of a raised error -/
def statusOf : Error → Nat
  | .http status _ => status
  | _ => 500

/-! ## responses -/

inductive Neighbor where
  /-- a contract, seen from its organism or from its supplier -/
  | contrato (v : FilaVecino)
  /-- the organism or the supplier of a contract -/
  | pariente (p : FilaPariente)
  deriving DecidableEq

structure EntityResponse where
  id : String
  nombre : String
  tipo : String
  source : Option String
  neighbors : List Neighbor
  alertas : List Alerta
  deriving DecidableEq

structure GraphNode where
  id : String
  label : String
  tipo : String
  deriving DecidableEq

structure GraphLink where
  source : Option String
  target : Option String
  deriving DecidableEq

structure Graph where
  nodes : List GraphNode
  links : List GraphLink
  deriving DecidableEq

inductive Respuesta where
  | alerta (a : Alerta)
  | alertas (l : List Alerta)
  | alertasChile (l : List Alerta) (count : Nat)
  | entidad (e : EntityResponse)
  | grafo (g : Graph)
  | deteccion (r : List (String × ResultadoFuente))
  deriving DecidableEq

/-! ## `routers/alerts.py`, `routers/chilecompra.py` -/

def getAlertById (alertId : String) : Prg Alerta := do
  let row ← consulta (.alertaPorId alertId)
  match row with
  | [] => .raise (.http 404 "Alerta no encontrada")
  | a :: _ => return a

def getAlerts : Prg (List Alerta) := consulta .alertas500

def alertsChilecompra (patron fuente : Option String) (limit : Int) : Prg (List Alerta × Nat) := do
  let rows ← consulta (.alertasChile patron fuente limit)
  return (rows, rows.length)

/-! ## `routers/entity.py` -/

def vecinosDe (entityId tipo : String) : Prg (List Neighbor) :=
  if tipo = "Organismo" then do
    let rel ← consulta (.recibe entityId)
    return rel.map .contrato
  else if tipo = "Empresa" then do
    let rel ← consulta (.contrata entityId)
    return rel.map .contrato
  else if tipo = "Contrato" then do
    let orgRel ← consulta (.organismoDe entityId)
    let empRel ← consulta (.empresaDe entityId)
    return orgRel.map .pariente ++ empRel.map .pariente
  else .ret []

def getEntity (entityId : String) : Prg EntityResponse := do
  let row ← consulta (.entidad entityId)
  match row with
  | [] => .raise (.http 404 "Entity not found")
  | r :: _ => do
    let neighbors ← vecinosDe entityId r.tipo
    let alertas ← consulta (.alertasDe entityId)
    match r.nombre with
    | none => .raise .validation
    | some nombre => return ⟨r.id, nombre, r.tipo, r.fuente, neighbors, alertas⟩

/-! ## `routers/graph.py` -/

/-- the loop with `seen`: the first row of each id, rows without id or name left out -/
def vistos (rows : List FilaNodo) : List GraphNode :=
  (Group.dropDuplicates FilaNodo.id (rows.filter fun r => decide (r.id ≠ "") &&
    conTexto r.nombre)).map fun r => ⟨r.id, r.nombre.getD "", r.tipo⟩

/-- `_fetch_nodes_batch(db, node_ids)` -/
def fetchNodesBatch (nodeIds : List (Option String)) : Prg (List GraphNode) :=
  if nodeIds = [] then .ret []
  else do
    let rows ← consulta (.nodos nodeIds)
    return vistos rows

/-- the set of the ids of some links -/
def idsDe (links : List FilaEnlace) : List (Option String) :=
  (links.flatMap fun l => [l.organismoId, l.proveedorId, some l.id]).dedup

def graphLink (l : FilaEnlace) : GraphLink := ⟨l.organismoId, l.proveedorId⟩

/-- nodes and links from the rows of the link query -/
def conNodos (links : List FilaEnlace) : Prg Graph := do
  let nodes ← fetchNodesBatch (idsDe links)
  return ⟨nodes, links.map graphLink⟩

/-- `node_id` is absent or empty -/
def graphGeneral (limit : Nat) (fuente : Option String) : Prg Graph :=
  if conTexto fuente then do
    let contracts ← consulta (.enlacesFuente (fuente.getD "") limit)
    conNodos contracts
  else do
    let contracts ← consulta (.enlaces limit)
    conNodos contracts

def graphChilecompra (nodeId : Option String) (limit : Nat) (fuente : Option String) :
    Prg Graph :=
  if conTexto nodeId then do
    let id := nodeId.getD ""
    let orgMatch ← consulta (.organismoPorRut id)
    let empMatch ← consulta (.empresaPorId id)
    if orgMatch ≠ [] then do
      let links ← consulta (.enlacesOrganismo id limit)
      conNodos links
    else if empMatch ≠ [] then do
      let links ← consulta (.enlacesEmpresa id limit)
      conNodos links
    else .raise (.http 404 "Nodo no encontrado")
  else graphGeneral limit fuente

/-! ## the requests -/

inductive Request where
  | getAlerts
  | getAlertById (alertId : String)
  | getEntity (entityId : String)
  | graphChilecompra (nodeId : Option String) (limit : Nat) (fuente : Option String)
  | alertsChilecompra (patron fuente : Option String) (limit : Int)
  | detectChilecompra (fuente : Option String)

/-- the program that serves a request -/
def handler (M : Motor) : Request → Prg Respuesta
  | .getAlerts => do return .alertas (← getAlerts)
  | .getAlertById id => do return .alerta (← getAlertById id)
  | .getEntity id => do return .entidad (← getEntity id)
  | .graphChilecompra nodeId limit fuente => do
    return .grafo (← graphChilecompra nodeId limit fuente)
  | .alertsChilecompra patron fuente limit => do
    let (rows, count) ← alertsChilecompra patron fuente limit
    return .alertasChile rows count
  | .detectChilecompra fuente => do return .deteccion (← runDetection M fuente)

end Fractura
