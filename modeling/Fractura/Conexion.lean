import Fractura.Lib.Connection
import Fractura.Routers
import Fractura.Invariante

/-!
# The one connection of `get_db`

`get_db` returns the same connection to every request, and `execute` leaves its result on it.
`driver M` is that connection: `execute` replaces the pending rows, `fetchone` and `fetchall`
(`tomar`) read whatever rows are pending.

* `driver_exec`      a statement that is fetched at once is the atomic `exec` of the other modules;
* `lectura_propia`   handlers read their own rows in every run in which nobody executes or fetches
                     between an `execute` and its fetch;
* `lectura_ajena`    without that, a request is answered with the alert that another one asked for.
-/

namespace Fractura

open Connection

instance (fm : Forma) : DecidableEq fm.fila :=
  match fm with
  | .num => inferInstanceAs (DecidableEq Nat)
  | .texto => inferInstanceAs (DecidableEq String)
  | .p1 => inferInstanceAs (DecidableEq FilaP1)
  | .p2 => inferInstanceAs (DecidableEq FilaP2)
  | .p3 => inferInstanceAs (DecidableEq FilaP3)
  | .caso => inferInstanceAs (DecidableEq Caso)
  | .alerta => inferInstanceAs (DecidableEq Alerta)
  | .entidad => inferInstanceAs (DecidableEq FilaEntidad)
  | .vecino => inferInstanceAs (DecidableEq FilaVecino)
  | .pariente => inferInstanceAs (DecidableEq FilaPariente)
  | .enlace => inferInstanceAs (DecidableEq FilaEnlace)
  | .nodo => inferInstanceAs (DecidableEq FilaNodo)

instance (q : Sentencia) : DecidableEq (Resp q) :=
  match q with
  | .query q => inferInstanceAs (DecidableEq (List q.forma.fila))
  | .dml _ => inferInstanceAs (DecidableEq Unit)

/-- the rows that are still to be fetched, of some query -/
abbrev Pendiente : Type := Option ((fm : Forma) × List fm.fila)

/-- the rows that a statement inserted or deleted -/
def cambiadas (s t : Db) : Nat :=
  let n (s : Db) := s.organismo.rows.length + s.empresa.rows.length + s.contrato.rows.length +
    s.alerta.rows.length + s.caso.rows.length + s.entidad.rows.length
  (n s - n t) + (n t - n s)

/-- `fetchone` takes the first pending row, `fetchall` and `df` take all; rows of another shape
than the code unpacks raise -/
def tomar : (q : Sentencia) → Pendiente → Except Error (Resp q) × Pendiente
  | .query _, none => (.error .badRow, none)
  | .query q, some ⟨fm, rows⟩ =>
    let resto : Pendiente := some ⟨fm, if q.una then rows.drop 1 else []⟩
    if h : fm = q.forma then (.ok (leer q (h ▸ rows)), resto) else (.error .badRow, resto)
  | .dml _, p => (.ok (), p)

def driver (M : Motor) : Driver Sentencia Resp Error Pendiente Db where
  execute
    | .query q, s =>
      match filas M s q with
      | .ok rows => .ok (some ⟨q.forma, rows⟩, s)
      | .error e => .error e
    | .dml d, s =>
      match d.exec s with
      | .ok t => .ok (some ⟨.num, [cambiadas s t]⟩, t)
      | .error e => .error e
  take := tomar
  fetched
    | .query _ => true
    | .dml _ => false
  lost := none

variable {M : Motor}

/-- **An `execute` and its fetch, with nothing between them, are the atomic statement.** -/
theorem driver_exec (q : Sentencia) (s : Db) :
    (match (driver M).execute q s with
      | .ok (p, t) => (tomar q p).1.map fun r => (r, t)
      | .error e => .error e) = exec M q s := by
  cases q with
  | query q =>
    unfold driver exec
    dsimp only
    cases filas M s q with
    | error e => rfl
    | ok rows =>
      have htake : (tomar (.query q) (some ⟨q.forma, rows⟩)).1 = .ok (leer q rows) := by
        unfold tomar
        dsimp only
        rw [dif_pos rfl]
      dsimp only
      rw [htake]
      rfl
  | dml d =>
    unfold driver exec
    dsimp only
    cases d.exec s with
    | error e => rfl
    | ok t => rfl

/-- the pool of the requests `reqs`, before their first statement -/
def atendidas (M : Motor) {ι : Type} (reqs : ι → Request) (p : Pendiente) (s : Db) :
    Pool ι Sentencia Resp Error Respuesta Pendiente Db :=
  start (fun i => handler M (reqs i)) p s

/-- **Each handler reads its own rows**, in every run of any number of requests in which, while a
handler has a fetch to do, no other one moves. -/
theorem lectura_propia {ι : Type} [DecidableEq ι] (reqs : ι → Request) (p : Pendiente) (s : Db)
    (w : List ι) (h : Exclusive (driver M) w (atendidas M reqs p s)) :
    ∀ ev ∈ (run (driver M) w (atendidas M reqs p s)).2, ev.got = ev.own :=
  run_own (start_own _ p s) h

/-! ## two requests for an alert -/

/-- four orders of one supplier to one organism, on three days: two alerts -/
def comprasDobles : List FilaCsv :=
  ["1-OC", "2-OC", "3-OC", "4-OC"].map fun id => .orden id "4.000.000" "2024-05-02" "61-K" "76-K" "" "Acme"

def tiendaDoble : Db :=
  Op.despues motorConcreto (trasCarga 2024 5 comprasDobles .empty) (.detectar none)

def pideAlerta : Bool → Request
  | true => .getAlertById "p1_76-K_chilecompra_oc_2024-05"
  | false => .getAlertById "p2_61-K_76-K_chilecompra_oc_2024-05"

theorem lectura_propia_doble :
    (run (driver motorConcreto) [true, true, false, false]
      (atendidas motorConcreto pideAlerta none tiendaDoble)).2.length = 2 ∧
    ∀ ev ∈ (run (driver motorConcreto) [true, true, false, false]
      (atendidas motorConcreto pideAlerta none tiendaDoble)).2, ev.got = ev.own := by
  exact ⟨by decide +kernel, lectura_propia pideAlerta none tiendaDoble _ (by decide +kernel)⟩

/-- **Both execute, then both fetch**: the first request is answered with the alert of the second. -/
theorem lectura_ajena :
    (∃ ev ∈ (run (driver motorConcreto) [true, false, true, false]
      (atendidas motorConcreto pideAlerta none tiendaDoble)).2, ev.got ≠ ev.own) ∧
    ∃ a ∈ tiendaDoble.alerta.rows, a.id = "p2_61-K_76-K_chilecompra_oc_2024-05" ∧
      ((run (driver motorConcreto) [true, false, true, false]
        (atendidas motorConcreto pideAlerta none tiendaDoble)).1.threads true).result =
        some (.alerta a) :=
  ⟨by decide +kernel, by decide +kernel⟩

end Fractura
