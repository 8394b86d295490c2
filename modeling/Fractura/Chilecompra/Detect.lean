import Fractura.Chilecompra.Load

/-!
# `run_detection`: the three rules

For each slice the old alerts of the rules are deleted, then each rule runs its query and inserts
one alert per row.  The ids are texts: `p1_{rut}_{f}`, `p2_{organismo}_{proveedor}_{f}`,
`p3_{rut}_{f}`, a NULL formatted as `None`.  The amount goes through `float64` (`montoVal`).
-/

namespace Fractura

def P1_THRESHOLD_COUNT : Nat := 3
def P1_THRESHOLD_COUNT_TEST : Nat := 2
def P2_THRESHOLD_COUNT : Nat := 3
def P2_THRESHOLD_COUNT_TEST : Nat := 2
def P2_THRESHOLD_MONTO : Int := 10000000
def P2_THRESHOLD_MONTO_TEST : Int := 500000
def P3_THRESHOLD_ORGS : Nat := 3
def P3_THRESHOLD_ORGS_TEST : Nat := 3
def TEST_MODE_THRESHOLD : Nat := 0

structure Umbrales where
  isTest : Bool
  c1 : Nat
  c2 : Nat
  m2 : Int
  o3 : Nat

def umbrales (totalContratos : Nat) : Umbrales :=
  let t := decide (totalContratos < TEST_MODE_THRESHOLD)
  { isTest := t
    c1 := if t then P1_THRESHOLD_COUNT_TEST else P1_THRESHOLD_COUNT
    c2 := if t then P2_THRESHOLD_COUNT_TEST else P2_THRESHOLD_COUNT
    m2 := if t then P2_THRESHOLD_MONTO_TEST else P2_THRESHOLD_MONTO
    o3 := if t then P3_THRESHOLD_ORGS_TEST else P3_THRESHOLD_ORGS }

/-- an f-string field: `None` for NULL -/
def pyText (x : Option String) : String := x.getD "None"

section
variable (M : Motor)

/-- `row['monto...'] if row['monto...'] is not None else 0`: the column is `float64`, a NULL sum
is NaN there, and NaN is not `None` -/
def montoVal : Option Int → Double
  | some n => M.hugeintToDouble n
  | none => .nan

/-- `str(row['desde']) if row['desde'] else 'N/A'`: a missing date would be `NaT`, which is true -/
def fechaStr : Option Int → String
  | some d => M.strTimestamp d
  | none => "NaT"

def idP1 (f : String) (rut : Option String) : String := "p1_" ++ pyText rut ++ "_" ++ f
def idP2 (f : String) (organismo proveedor : Option String) : String :=
  "p2_" ++ pyText organismo ++ "_" ++ pyText proveedor ++ "_" ++ f
def idP3 (f : String) (rut : Option String) : String := "p3_" ++ pyText rut ++ "_" ++ f

/-- the columns that an alert of a rule shares with the others -/
def alertaRegla (f id tipo mensaje severity : String) (monto : Double)
    (organismo proveedor : Option String) : Alerta where
  id := id
  tipo := some tipo
  mensaje := some mensaje
  monto := M.bindDouble monto
  fecha := none
  organismoId := organismo
  proveedorId := proveedor
  severity := some severity
  patron := some tipo
  fuente := some f
  casoId := none
  createdAt := none

def alertaP1 (f : String) (r : FilaP1) : Alerta :=
  alertaRegla M f (idP1 f r.empresaRut) "recurrente"
    ("Proveedor '" ++ r.empresaNombre ++ "' con " ++ toString r.totalContratos ++ " contratos en " ++
      toString r.totalOrganismos ++ " organismo (monto total: " ++
      M.formatComma (montoVal M r.montoAcumulado) ++ ")")
    "medium" (montoVal M r.montoAcumulado) none none

def alertaP2 (f : String) (r : FilaP2) : Alerta :=
  alertaRegla M f (idP2 f r.organismoId r.proveedorId) "fraccionamiento"
    ("Fraccionamiento: '" ++ r.empresaNombre ++ "' con " ++ toString r.contratosEnVentana ++
      " contratos en " ++ fechaStr M r.desde ++ " a " ++ fechaStr M r.hasta ++ " (monto total: " ++
      M.formatComma (montoVal M r.montoAcumulado) ++ ")")
    "high" (montoVal M r.montoAcumulado) r.organismoId r.proveedorId

def alertaP3 (f : String) (r : FilaP3) : Alerta :=
  alertaRegla M f (idP3 f r.empresaRut) "multi-org"
    ("Empresa '" ++ r.empresaNombre ++ "' presente en " ++ toString r.totalOrganismos ++
      " organismos (monto total: " ++ M.formatComma (montoVal M r.montoTotal) ++ ")")
    "medium" (montoVal M r.montoTotal) none none

structure ResultadoFuente where
  testMode : Bool
  p1Recurrente : Nat
  p2Fraccionamiento : Nat
  p3MultiOrg : Nat
  alertsInserted : Nat
  deriving DecidableEq

def insertarAlertas (l : List Alerta) : Prg Unit :=
  Prog.each l fun a => ejecutar (.insertAlerta a)

/-- the body of the loop over the slices -/
def detectar (f : String) : Prg ResultadoFuente := do
  let total ← unico (← consulta (.countContrato f))
  let u := umbrales total
  ejecutar (.deleteAlertaPatron f)
  let p1 ← consulta (.p1 f u.c1)
  insertarAlertas (p1.map (alertaP1 M f))
  let p2 ← consulta (.p2 f u.c2 u.m2)
  insertarAlertas (p2.map (alertaP2 M f))
  let p3 ← consulta (.p3 f u.o3)
  insertarAlertas (p3.map (alertaP3 M f))
  return ⟨u.isTest, p1.length, p2.length, p3.length, p1.length + p2.length + p3.length⟩

/-- the loop over the slices, with `results_by_fuente` -/
def detectarTodas : List String → Prg (List (String × ResultadoFuente))
  | [] => .ret []
  | f :: fs => do
    let r ← detectar M f
    let rs ← detectarTodas fs
    return (f, r) :: rs

def runDetection : Option String → Prg (List (String × ResultadoFuente))
  | none => do
    let fuentes ← consulta .fuentes
    detectarTodas M fuentes
  | some f => detectarTodas M [f]

end

end Fractura
