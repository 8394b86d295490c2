import Fractura.Chilecompra.Frames

/-!
# `load_chilecompra_slice`: the program

The reading of the ZIP and the frames touch nothing in the store (`frames`); then come four
`DELETE`s of the slice, three `executemany` and three counts, each statement on its own.
-/

namespace Fractura

/-- `f"{n:02d}"` -/
def pad2 (n : Int) : String := if 0 ≤ n ∧ n < 10 then "0" ++ toString n else toString n

/-- `f"chilecompra_oc_{year}-{month:02d}"` -/
def fuenteDe (year month : Int) : String :=
  "chilecompra_oc_" ++ (toString year ++ "-" ++ pad2 month)

/-- `_zip_path(year, month)` -/
def zipPath (M : Motor) (year month : Int) : String :=
  M.dataRoot ++ "/ordenes_compra/" ++ toString year ++ "/oc_" ++ toString year ++ "_" ++
    pad2 month ++ ".zip"

/-- what is found under `_zip_path`: nothing, a ZIP that cannot be read as a CSV with the columns
that the queries name, or the rows of its CSV -/
inductive Archivo where
  | ausente
  | ilegible
  | csv (filas : List FilaCsv)

structure Carga where
  organismos : Nat
  empresas : Nat
  contratos : Nat
  warnContratosDescartados : Nat
  fuente : String
  deriving DecidableEq

/-- the dictionary that the loader returns -/
inductive ResultadoCarga where
  | error (mensaje : String)
  | ok (c : Carga)
  deriving DecidableEq

/-- `db.executemany`: an empty list of parameters is rejected -/
def executemany {β : Type} (l : List β) (f : β → Dml) : Prg Unit :=
  if l.isEmpty then .raise .emptyBatch else Prog.each l fun x => ejecutar (f x)

/-- `.fetchone()[0]` -/
def unico {α : Type} : List α → Prg α
  | x :: _ => .ret x
  | [] => .raise .badRow

/-- the statements on the store, from the first `DELETE` on -/
def guardar (fuente : String) (fr : Frames) : Prg Carga := do
  ejecutar (.deleteContrato fuente)
  ejecutar (.deleteAlerta fuente)
  ejecutar (.deleteEmpresa fuente)
  ejecutar (.deleteOrganismo fuente)
  executemany fr.org .insertOrganismo
  executemany fr.emp .insertEmpresa
  executemany fr.con .insertContrato
  let organismos ← unico (← consulta (.countOrganismo fuente))
  let empresas ← unico (← consulta (.countEmpresa fuente))
  let contratos ← unico (← consulta (.countContrato fuente))
  return ⟨organismos, empresas, contratos, fr.warnDescartados, fuente⟩

def loadChilecompraSlice (M : Motor) (year month limit : Int) : Archivo → Prg ResultadoCarga
  | .ausente => .ret (.error ("Archivo no encontrado: " ++ zipPath M year month))
  | .ilegible => .raise .readError
  | .csv filas =>
    match frames M (fuenteDe year month) filas limit with
    | .error e => .raise e
    | .ok fr => do
      let c ← guardar (fuenteDe year month) fr
      return .ok c

/-! ## files for concrete runs -/

/-- a row of a file by the columns that decide what is stored; the empty text is NULL -/
def FilaCsv.orden (id monto fecha organismo rut codigo nombre : String) : FilaCsv :=
  let campo (s : String) : Option String := if s = "" then none else some s
  { id := campo id
    montototaloc := campo monto
    fechacreacion := campo fecha
    estratodirecto := some "No"
    estado := some "Aceptada"
    rutunidadcompra := campo organismo
    rutsucursal := campo rut
    codigoproveedor := campo codigo
    organismopublico := none
    codigoorganismopublico := none
    nombreproveedor := campo nombre
    actividadproveedor := none
    regionproveedor := none }

/-- the store that a load leaves, by the engine of the concrete runs -/
def trasCarga (year month : Int) (csv : List FilaCsv) (s : Db) : Db :=
  (Prog.run (exec motorConcreto)
    (loadChilecompraSlice motorConcreto year month 0 (.csv csv)) s).2

end Fractura
