import Fractura.Chilecompra.Load

/-!
# `loaders/corrupcion.py`: the documented cases and their alerts

`load_corrupcion_chile` re-keys every row of the CSV (`FilaCaso`), then inserts the cases and, in a
second loop, the parties it finds under the CSV's column names in the RE-KEYED row
(`FilaCaso.get`).  `run_detection_corrupcion` flags a case by keywords in the joined text of three
fields.
-/

namespace Fractura

open Db

/-- a row of `csv.DictReader`: column names with their values; with a repeated name the last one
counts -/
abbrev FilaDict : Type := List (String × Option String)

def FilaDict.get (r : FilaDict) (k : String) : Option String :=
  ((r.filter fun p => decide (p.1 = k)).getLast?).bind Prod.snd

/-- `_n(s)` -/
def limpio (s : Option String) : Option String :=
  match s with
  | none => none
  | some s => if strip s = "" then none else some (strip s)

/-- `f"{n:03d}"` of a positive number -/
def pad3 (n : Nat) : String :=
  if n < 10 then "00" ++ toString n else if n < 100 then "0" ++ toString n else toString n

section
variable (M : Motor)

/-- the digits of a Python integer, single underscores between them allowed; `listo` says that the
last character was a digit -/
def pyDigits (acc : Nat) (listo : Bool) : List Char → Option Nat
  | [] => if listo then some acc else none
  | c :: cs =>
    match M.decimal c with
    | some d => pyDigits (acc * 10 + d) true cs
    | none => if c = '_' ∧ listo = true then pyDigits acc false cs else none

/-- Python `int(s)`; `none` is `ValueError`, also beyond the limit of 4300 digits -/
def pyInt (s : String) : Option Int :=
  let body := (strip s).toList
  let digits := match body with
    | '+' :: cs => cs
    | '-' :: cs => cs
    | cs => cs
  if 4300 < (digits.filter fun c => decide (c ≠ '_')).length then none
  else (pyDigits M 0 false digits).map fun n => if body.head? = some '-' then -(n : Int) else n

/-- `_slug(text)` -/
def slug (text : String) : String :=
  String.ofList (((strip (M.pyLower text)).toList.map fun c =>
    if M.isalnum c || c = '_' then c else '_').take 80)

/-! ## loading -/

/-- an integer column: `None` when it is blank or `int` rejects it -/
def entero (s : Option String) : Option Int := (limpio s).bind (pyInt M)

/-- the dictionary that the loader builds from the `i`-th row of the CSV -/
def filaCaso (i : Nat) (r : FilaDict) : FilaCaso where
  id := "caso_" ++ pad3 (i + 1)
  nombre := limpio (r.get "Caso")
  monto := limpio (r.get "Monto")
  ano := entero M (r.get "Año")
  anoInicio := entero M (r.get "Año inicio")
  anoFin := entero M (r.get "Año fin")
  sector := limpio (r.get "Sector")
  partido := limpio (r.get "Partido")
  comuna := limpio (r.get "Comuna")
  posicion := limpio (r.get "Posición")
  actual := limpio (r.get "Actual")
  delitos := limpio (r.get "Delitos")
  estado := limpio (r.get "Estado")
  sentence := limpio (r.get "Sentencia")
  condemna := limpio (r.get "Condena")
  conclusion := limpio (r.get "Conclusión")
  fuente1 := limpio (r.get "Fuente1")
  fuente2 := limpio (r.get "Fuente2")
  fuente3 := limpio (r.get "Fuente3")
  fuente4 := limpio (r.get "Fuente4")
  fuente5 := limpio (r.get "Fuente5")
  fuente := some "corrupcion_chile"

/-- the text entries of that dictionary -/
def campos (r : FilaCaso) : FilaDict :=
  [("id", some r.id), ("nombre", r.nombre), ("monto", r.monto), ("sector", r.sector),
    ("partido", r.partido), ("comuna", r.comuna), ("posicion", r.posicion), ("actual", r.actual),
    ("delitos", r.delitos), ("estado", r.estado), ("sentence", r.sentence),
    ("condemna", r.condemna), ("conclusion", r.conclusion), ("fuente1", r.fuente1),
    ("fuente2", r.fuente2), ("fuente3", r.fuente3), ("fuente4", r.fuente4),
    ("fuente5", r.fuente5), ("fuente", r.fuente)]

/-- `int(monto_raw.replace('.', '').replace(',', '').strip() or 0)` -/
def montoInt (r : FilaCaso) : Option Int :=
  let t := strip (String.ofList (((r.monto.getD "0").toList.filter fun c =>
    decide (c ≠ '.')).filter fun c => decide (c ≠ ',')))
  if t = "" then some 0 else pyInt M t

def PARTES : List String := ["Beneficiado", "Perjudicado", "Responsable"]

/-- the entities of a case: `_n(r.get(field))` for the three columns -/
def entidadesDe (r : FilaCaso) : List Entidad :=
  PARTES.filterMap fun field => (limpio ((campos r).get field)).map fun name =>
    ⟨slug M name ++ "_" ++ r.id, name, some field, some ("corrupcion_chile:" ++ r.id)⟩

def insertarCaso (r : FilaCaso) : Prg Unit :=
  match montoInt M r with
  | none => .raise .valueError
  | some n => ejecutar (.insertCaso r n)

/-- the counts of cases and entities; `none` stands for a file that cannot be opened or decoded -/
def loadCorrupcionChile : Option (List FilaDict) → Prg (Nat × Nat)
  | none => .raise .readError
  | some csv => do
    let rows := csv.mapIdx (filaCaso M)
    Prog.each rows (insertarCaso M)
    let entidades := rows.flatMap (entidadesDe M)
    Prog.each entidades fun e => ejecutar (.insertEntidad e)
    return (rows.length, entidades.length)

/-! ## detection -/

def KEYWORDS_ALTA : List String := ["impunidad", "fraude", "malversación", "cohecho", "soborno"]
def KEYWORDS_MEDIA : List String :=
  ["desvío", "abandono de deberes", "irregularidades", "investigación"]

/-- Python `k in s` -/
def contiene (k s : String) : Bool := s.toList.tails.any fun t => k.toList.isPrefixOf t

/-- `' '.join(filter(None, [str(conclusion), str(estado), str(delitos)])).lower()` -/
def combined (c : Caso) : String :=
  M.pyLower (" ".intercalate
    ([pyStr c.conclusion, pyStr c.estado, pyStr c.delitos].filter fun s => decide (s ≠ "")))
where
  pyStr (x : Option String) : String := x.getD "None"

def severityDe (c : Caso) : Option String :=
  if KEYWORDS_ALTA.any fun k => contiene k (combined M c) then some "high"
  else if KEYWORDS_MEDIA.any fun k => contiene k (combined M c) then some "medium"
  else none

def alertaCaso (c : Caso) (severity : String) : Alerta where
  id := "alert_" ++ c.id ++ "_cc"
  tipo := some "conclusion_flag"
  mensaje := some ("[" ++ c.conclusion.getD "None" ++ "] " ++ c.nombre)
  monto := c.monto
  fecha := none
  organismoId := none
  proveedorId := none
  severity := some severity
  patron := none
  fuente := some "corrupcion_chile"
  casoId := some c.id
  createdAt := none

/-- the alerts that the loop inserts, in its order -/
def alertasCasos (casos : List Caso) : List Alerta :=
  casos.filterMap fun c => (severityDe M c).map (alertaCaso c)

def runDetectionCorrupcion : Prg (List Alerta) := do
  let casos ← consulta .casos
  let alertas := alertasCasos M casos
  Prog.each alertas fun a => ejecutar (.insertAlerta a)
  return alertas

end

end Fractura
