import Fractura.Lib.Machine
import Fractura.Lib.Requests
import Fractura.Paginas.Alertas

/-!
# `hooks/useGraph.ts`, `pages/NodeView.tsx`, `hooks/useAlerts.ts`: the answer that is shown

The three of them fetch in an effect and set what they show when the answer arrives.  `useGraph` and
`NodeView` keep a flag for each fetch, which the cleanup of its effect sets (`hook`); `useAlerts` has
none.  A run is a sequence of renders, effects and completions, in any order.

* `solo_la_ultima`       with the flags, only the latest request is ever shown;
* `muestra_ultima_iff`   without them the latest request is shown exactly when no other answer that
                         arrives after its issue makes a difference (`UltimaManda`).
-/

namespace Fractura

open Requests

/-- how a fetch ends: with a response, or with an error, which may have a `message` -/
abbrev Resultado (χ : Type) : Type := Except (Option String) χ

/-- the state that a hook shows -/
structure Pantalla (δ : Type) where
  data : δ
  loading : Bool
  error : Option String

namespace Pantalla
variable {χ δ : Type} (escribe : χ → δ) (mensaje : Option String → String)

/-- `setLoading(true); setError(null)` -/
def pidiendo (v : Pantalla δ) : Pantalla δ := { v with loading := true, error := none }

/-- the setters that a completion calls -/
def con (v : Pantalla δ) : Resultado χ → Pantalla δ
  | .ok res => { v with data := escribe res, loading := false }
  | .error e => { v with error := some (mensaje e), loading := false }

/-- the response, without an error, or the error -/
def Muestra (v : Pantalla δ) : Resultado χ → Prop
  | .ok res => v.error = none ∧ v.data = escribe res
  | .error e => v.error = some (mensaje e)

variable {v : Pantalla δ} {x : Resultado χ}

@[simp] theorem pidiendo_loading : v.pidiendo.loading = true := rfl

@[simp] theorem pidiendo_error : v.pidiendo.error = none := rfl

@[simp] theorem con_loading : (v.con escribe mensaje x).loading = false := by
  cases x <;> rfl

theorem muestra_con (h : v.error = none) : (v.con escribe mensaje x).Muestra escribe mensaje x := by
  cases x with
  | ok res => exact ⟨h, rfl⟩
  | error e => rfl

end Pantalla

/-! ## an effect with a cleanup -/

/-- a render with its options, the effect of the latest one, an answer -/
inductive Evento (ο χ : Type) where
  | cambio (opts : ο)
  | efecto
  | completa (i : Nat) (res : Resultado χ)

/-- `cancelled i` is the flag of the `i`-th fetch, `limpieza` the fetch whose flag the cleanup of the
last effect sets -/
structure Estado (ο ρ χ : Type) where
  opts : ο
  porCorrer : Bool
  pantalla : Pantalla (Option χ)
  peticiones : Log ρ (Resultado χ)
  cancelled : Nat → Bool
  limpieza : Option Nat

section
variable {ο ρ χ : Type} (peticion : ο → Option ρ) (mensaje : Option String → String)

/-- `return () => { cancelled = true }` -/
def Estado.limpiar (s : Estado ο ρ χ) : Estado ο ρ χ :=
  match s.limpieza with
  | none => s
  | some i => { s with cancelled := Function.update s.cancelled i true, limpieza := none }

/-- a fetch with a flag of its own -/
def Estado.pedir (s : Estado ο ρ χ) (q : ρ) : Estado ο ρ χ :=
  { s with
    pantalla := s.pantalla.pidiendo
    peticiones := issue s.peticiones q
    cancelled := Function.update s.cancelled s.peticiones.length false
    limpieza := some s.peticiones.length }

/-- the effect, after the cleanup of the one before it; where there is nothing to ask for it returns
early, without a cleanup -/
def Estado.correr (s : Estado ο ρ χ) : Estado ο ρ χ :=
  match peticion s.opts with
  | none => { s.limpiar with porCorrer := false }
  | some q => { s.limpiar.pedir q with porCorrer := false }

/-- the handlers of an answer do nothing once their flag is set -/
def Estado.llega (s : Estado ο ρ χ) (i : Nat) (res : Resultado χ) (l : Log ρ (Resultado χ)) :
    Estado ο ρ χ :=
  { s with
    peticiones := l
    pantalla := if s.cancelled i then s.pantalla else s.pantalla.con some mensaje res }

/-- a step of the component; React runs the effect of a render whose options differ from the ones
before, and the first one twice in `StrictMode` -/
def paso [DecidableEq ο] : Evento ο χ → Estado ο ρ χ → Option (Estado ο ρ χ)
  | .cambio o, s => some { s with opts := o, porCorrer := s.porCorrer || decide (o ≠ s.opts) }
  | .efecto, s => some (s.correr peticion)
  | .completa i res, s => (complete s.peticiones i res).map fun l => s.llega mensaje i res l

/-- the component from its first render on -/
def hook [DecidableEq ο] (opts : ο) : Machine (Evento ο χ) (Estado ο ρ χ) where
  init := ⟨opts, true, ⟨none, true, none⟩, [], fun _ => false, none⟩
  step := paso peticion mensaje

/-- **Only the latest request is shown**: no answer to an earlier one changes what the page shows once
the effect of the latest render has run, and what it shows at rest is the outcome of the latest
request, which is then the one of the options. -/
structure SoloLaUltima [DecidableEq ο] (s : Estado ο ρ χ) : Prop where
  tardias : s.porCorrer = false → ∀ i, i + 1 < s.peticiones.length ∨ peticion s.opts = none →
    ∀ res t, paso peticion mensaje (.completa i res) s = some t → t.pantalla = s.pantalla
  enReposo : s.pantalla.loading = false → ∃ p res, latest s.peticiones = some p ∧
    p.outcome = some res ∧ s.pantalla.Muestra some mensaje res
  corriente : s.porCorrer = false → ∀ q, peticion s.opts = some q →
    ∃ p, latest s.peticiones = some p ∧ p.params = q

/-- the flag of the latest request is the only one that can be down, and then the next cleanup
raises it -/
structure Guarda (s : Estado ο ρ χ) : Prop where
  ultima : ∀ i, s.limpieza = some i → i + 1 = s.peticiones.length
  bajada : ∀ i < s.peticiones.length, s.cancelled i = false → s.limpieza = some i
  sinError : s.pantalla.loading = true → s.pantalla.error = none
  enReposo : s.pantalla.loading = false → ∃ p res, latest s.peticiones = some p ∧
    p.outcome = some res ∧ s.pantalla.Muestra some mensaje res
  corriente : s.porCorrer = false → match peticion s.opts with
    | none => s.limpieza = none
    | some q => ∃ p, latest s.peticiones = some p ∧ p.params = q

variable {peticion mensaje} {s t : Estado ο ρ χ}

theorem Guarda.cancelled_of_ne (h : Guarda peticion mensaje s) {i : Nat}
    (hi : i < s.peticiones.length) (hne : s.limpieza ≠ some i) : s.cancelled i = true := by
  by_contra hc
  exact hne (h.bajada i hi (Bool.eq_false_iff.mpr hc))

theorem Guarda.cancelled_limpiar (h : Guarda peticion mensaje s) {i : Nat}
    (hi : i < s.peticiones.length) : s.limpiar.cancelled i = true := by
  unfold Estado.limpiar
  cases hl : s.limpieza with
  | none => exact h.cancelled_of_ne hi (by simp [hl])
  | some j =>
    show Function.update s.cancelled j true i = true
    by_cases hij : i = j
    · rw [hij, Function.update_self]
    · rw [Function.update_of_ne hij]
      refine h.cancelled_of_ne hi fun hlim => ?_
      rw [hl] at hlim
      exact hij (Option.some.inj hlim).symm

@[simp] theorem limpiar_opts : s.limpiar.opts = s.opts := by
  unfold Estado.limpiar; split <;> rfl

@[simp] theorem limpiar_pantalla : s.limpiar.pantalla = s.pantalla := by
  unfold Estado.limpiar; split <;> rfl

@[simp] theorem limpiar_peticiones : s.limpiar.peticiones = s.peticiones := by
  unfold Estado.limpiar; split <;> rfl

@[simp] theorem limpiar_limpieza : s.limpiar.limpieza = none := by
  unfold Estado.limpiar; split <;> first | assumption | rfl

theorem guarda_init [DecidableEq ο] (opts : ο) :
    Guarda peticion mensaje (hook (χ := χ) peticion mensaje opts).init where
  ultima _ h := nomatch h
  bajada _ h := absurd h (Nat.not_lt_zero _)
  sinError _ := rfl
  enReposo h := nomatch h
  corriente h := nomatch h

theorem Guarda.correr (h : Guarda peticion mensaje s) :
    Guarda peticion mensaje (s.correr peticion) := by
  unfold Estado.correr
  cases hq : peticion s.opts with
  | none =>
    -- nothing is asked for: the flags are all up and the page stays as it is
    refine ⟨fun i hi => ?_, fun i hi hc => ?_, ?_, ?_, fun _ => ?_⟩
    · rw [limpiar_limpieza] at hi
      cases hi
    · rw [limpiar_peticiones] at hi
      rw [h.cancelled_limpiar hi] at hc
      cases hc
    · rw [limpiar_pantalla]
      exact h.sinError
    · rw [limpiar_pantalla, limpiar_peticiones]
      exact h.enReposo
    · rw [limpiar_opts, hq]
      exact limpiar_limpieza
  | some q =>
    refine ⟨fun i hi => ?_, fun i hi hc => ?_, fun _ => rfl, fun hl => ?_, fun _ => ?_⟩
    · obtain rfl := Option.some.inj hi
      exact length_issue.symm
    · have hlen : i < s.limpiar.peticiones.length + 1 := length_issue ▸ hi
      by_cases hn : i = s.limpiar.peticiones.length
      · exact congrArg some hn.symm
      · -- an earlier request: its flag is up
        have hup : s.limpiar.cancelled i = true :=
          h.cancelled_limpiar (by rw [limpiar_peticiones] at hlen hn; omega)
        have hc : Function.update s.limpiar.cancelled s.limpiar.peticiones.length false i = false := hc
        rw [Function.update_of_ne hn, hup] at hc
        cases hc
    · cases hl
    · show match peticion s.limpiar.opts with
        | none => _
        | some q' => ∃ p, latest (issue s.limpiar.peticiones q) = some p ∧ p.params = q'
      rw [limpiar_opts, hq, latest_issue]
      exact ⟨_, rfl, rfl⟩

theorem params_latest {l l' : Log ρ (Resultado χ)} {i : Nat} {res : Resultado χ} {q : ρ}
    (hl : complete l i res = some l') (h : ∃ p, latest l = some p ∧ p.params = q) :
    ∃ p, latest l' = some p ∧ p.params = q := by
  obtain ⟨p, hp, hpq⟩ := h
  by_cases hi : i + 1 = l.length
  · obtain ⟨q', hold, hnew⟩ := latest_complete_last hl hi
    obtain rfl := Option.some.inj (hp.symm.trans hold)
    exact ⟨_, hnew, hpq⟩
  · exact ⟨p, by rw [latest_complete_earlier hl hi, hp], hpq⟩

theorem Guarda.cargando (h : Guarda peticion mensaje s) {q : ρ}
    (hq : latest s.peticiones = some ⟨q, none⟩) : s.pantalla.loading = true := by
  cases hl : s.pantalla.loading with
  | true => rfl
  | false =>
    obtain ⟨p, r, hp, hpr, -⟩ := h.enReposo hl
    obtain rfl := Option.some.inj (hp.symm.trans hq)
    cases hpr

theorem Guarda.corriente_complete (h : Guarda peticion mensaje s) {i : Nat} {res : Resultado χ}
    {l : Log ρ (Resultado χ)} (hl : complete s.peticiones i res = some l)
    (hp : s.porCorrer = false) : match peticion s.opts with
      | none => s.limpieza = none
      | some q => ∃ p, latest l = some p ∧ p.params = q := by
  have hc := h.corriente hp
  cases hq : peticion s.opts with
  | none => rwa [hq] at hc
  | some q =>
    rw [hq] at hc
    exact params_latest hl hc

theorem Guarda.llega (h : Guarda peticion mensaje s) {i : Nat} {res : Resultado χ}
    {l : Log ρ (Resultado χ)} (hl : complete s.peticiones i res = some l) :
    Guarda peticion mensaje (s.llega mensaje i res l) := by
  have hlen := length_complete hl
  cases hc : s.cancelled i with
  | true =>
    -- the page stays as it is, and at rest the latest request had its outcome before
    have hv : (s.llega mensaje i res l).pantalla = s.pantalla := if_pos hc
    refine ⟨fun j hj => (h.ultima j hj).trans hlen.symm, fun j hj => h.bajada j (hlen ▸ hj), ?_, ?_,
      h.corriente_complete hl⟩
    · rw [hv]
      exact h.sinError
    · rw [hv]
      intro hr
      obtain ⟨p, r, hp, hpr, hm⟩ := h.enReposo hr
      have hne : i + 1 ≠ s.peticiones.length := fun hi => by
        obtain ⟨q, hold, -⟩ := latest_complete_last hl hi
        rw [h.cargando hold] at hr
        cases hr
      exact ⟨p, r, (latest_complete_earlier hl hne).trans hp, hpr, hm⟩
  | false =>
    -- it is the answer to the latest request
    have hv : (s.llega mensaje i res l).pantalla = s.pantalla.con some mensaje res :=
      if_neg (by simp [hc])
    have hi := h.ultima i (h.bajada i (lt_length_of_complete hl) hc)
    obtain ⟨q, hold, hnew⟩ := latest_complete_last hl hi
    refine ⟨fun j hj => (h.ultima j hj).trans hlen.symm, fun j hj => h.bajada j (hlen ▸ hj), ?_, ?_,
      h.corriente_complete hl⟩
    · rw [hv, Pantalla.con_loading]
      exact fun hr => nomatch hr
    · rw [hv]
      exact fun _ => ⟨_, res, hnew, rfl, Pantalla.muestra_con _ _ (h.sinError (h.cargando hold))⟩

/-- **A step keeps the guard.** -/
theorem Guarda.paso [DecidableEq ο] {e : Evento ο χ} (h : Guarda peticion mensaje s)
    (ht : paso peticion mensaje e s = some t) : Guarda peticion mensaje t := by
  cases e with
  | cambio o =>
    obtain rfl := Option.some.inj ht
    refine ⟨h.ultima, h.bajada, h.sinError, h.enReposo, fun hp => ?_⟩
    obtain ⟨hp, ho⟩ := Bool.or_eq_false_iff.mp hp
    have ho : o = s.opts := by simpa using ho
    rw [ho]
    exact h.corriente hp
  | efecto =>
    obtain rfl := Option.some.inj ht
    exact h.correr
  | completa i res =>
    obtain ⟨l, hl, rfl⟩ := Option.map_eq_some_iff.mp ht
    exact h.llega hl

/-- **The guard at work.** -/
theorem Guarda.soloLaUltima [DecidableEq ο] (h : Guarda peticion mensaje s) :
    SoloLaUltima peticion mensaje s where
  tardias hp i hi res t ht := by
    obtain ⟨l, hl, rfl⟩ := Option.map_eq_some_iff.mp ht
    have hup : s.cancelled i = true := by
      refine h.cancelled_of_ne (lt_length_of_complete hl) fun hlim => ?_
      rcases hi with hi | hnone
      · have := h.ultima i hlim
        omega
      · have hc := h.corriente hp
        rw [hnone] at hc
        rw [hc] at hlim
        cases hlim
    exact if_pos hup
  enReposo := h.enReposo
  corriente hp q hq := by
    have hc := h.corriente hp
    rwa [hq] at hc

theorem soloLaUltima_hook [DecidableEq ο] {opts : ο} {es : List (Evento ο χ)}
    (hs : (hook peticion mensaje opts).after es = some s) : SoloLaUltima peticion mensaje s :=
  Guarda.soloLaUltima <| Machine.keeps (I := fun _ s => Guarda peticion mensaje s)
    (guarda_init opts) (fun _ _ _ _ h ht => h.paso ht) hs

end

/-! ## `useGraph` and `NodeView` -/

section
variable {ν : Type} [OfNat ν 200] [DecidableEq ν]

/-- the options of a render; `ν` are the numbers of JavaScript -/
structure UseGraphOptions (ν : Type) where
  nodeId : Option String
  limit : Option ν
  fuente : Option String
  deriving DecidableEq

/-- a parameter that is absent or empty is not set -/
def parametro (nombre : String) (valor : Option String) : List (String × (ν ⊕ String)) :=
  ((valor.filter fun v => decide (v ≠ "")).map fun v => (nombre, .inr v)).toList

/-- the path and the parameters of a request -/
structure Llamada (ν : Type) where
  path : String
  params : List (String × (ν ⊕ String))

def fetchGraph (nodeId : Option String) (limit : ν) (fuente : Option String) : Llamada ν :=
  ⟨"/graph/chilecompra",
    ("limit", .inl limit) :: (parametro "node_id" nodeId ++ parametro "fuente" fuente)⟩

/-- what the effect of `useGraph` asks for -/
def pideGrafo (opts : UseGraphOptions ν) : Option (Llamada ν) :=
  some (fetchGraph opts.nodeId (opts.limit.getD 200) opts.fuente)

/-- `e.message ?? 'Error cargando grafo'` -/
def errorGrafo (message : Option String) : String := message.getD "Error cargando grafo"

def useGraph (opts : UseGraphOptions ν) :
    Machine (Evento (UseGraphOptions ν) Graph) (Estado (UseGraphOptions ν) (Llamada ν) Graph) :=
  hook pideGrafo errorGrafo opts

/-- what the effect of `NodeView` asks for: `if (!nodeId) return`, `fetchEntity(nodeId)` -/
def pideEntidad (nodeId : Option String) : Option String := nodeId.filter fun n => decide (n ≠ "")

def errorEntidad (_message : Option String) : String := "Nodo no encontrado"

def nodeView (nodeId : Option String) :
    Machine (Evento (Option String) EntityResponse) (Estado (Option String) String EntityResponse) :=
  hook pideEntidad errorEntidad nodeId

/-- **The graph and the page of a node show the latest request only.** -/
theorem solo_la_ultima :
    (∀ (opts : UseGraphOptions ν) es s, (useGraph opts).after es = some s →
      SoloLaUltima pideGrafo errorGrafo s) ∧
    ∀ nodeId es s, (nodeView nodeId).after es = some s → SoloLaUltima pideEntidad errorEntidad s :=
  ⟨fun _ _ _ hs => soloLaUltima_hook hs, fun _ _ _ hs => soloLaUltima_hook hs⟩

end

/-- two nodes are looked at in turn, and the answer to the first request arrives last, as an error -/
def dosNodos : List (Evento (UseGraphOptions Nat) Graph) :=
  [.completa 0 (.error none), .completa 1 (.ok ⟨[], []⟩), .efecto, .cambio ⟨some "76", none, none⟩,
    .efecto]

theorem solo_la_ultima_dosNodos :
    ∃ s, (useGraph ⟨some "61", none, none⟩).after dosNodos = some s ∧
      SoloLaUltima pideGrafo errorGrafo s ∧ s.pantalla = ⟨some ⟨[], []⟩, false, none⟩ :=
  ⟨_, rfl, solo_la_ultima.1 ⟨some "61", none, none⟩ dosNodos _ rfl, rfl⟩

/-! ## `useAlerts` -/

structure UseAlertsOptions (ν : Type) where
  patron : Option String
  limit : Option ν
  fuente : Option String
  deriving DecidableEq

/-- a render, the effect of the latest one, a call of the `refetch` that a render with these options
returned, an answer -/
inductive EventoAlertas (ν : Type) where
  | cambio (opts : UseAlertsOptions ν)
  | efecto
  | refetch (opts : UseAlertsOptions ν)
  | completa (i : Nat) (res : Resultado AlertsResponse)

structure EstadoAlertas (ν : Type) where
  opts : UseAlertsOptions ν
  pantalla : Pantalla (List AlertaCliente)
  peticiones : Log (UseAlertsOptions ν) (Resultado AlertsResponse)

/-- `e.message ?? 'Error desconocido'` -/
def errorAlertas (message : Option String) : String := message.getD "Error desconocido"

section
variable {ν : Type}

/-- up to the `await` -/
def EstadoAlertas.fetch_ (s : EstadoAlertas ν) (opts : UseAlertsOptions ν) : EstadoAlertas ν :=
  { s with pantalla := s.pantalla.pidiendo, peticiones := issue s.peticiones opts }

/-- after it -/
def EstadoAlertas.llega (s : EstadoAlertas ν) (res : Resultado AlertsResponse)
    (l : Log (UseAlertsOptions ν) (Resultado AlertsResponse)) : EstadoAlertas ν :=
  { s with pantalla := s.pantalla.con AlertsResponse.alertas errorAlertas res, peticiones := l }

def useAlerts (opts : UseAlertsOptions ν) : Machine (EventoAlertas ν) (EstadoAlertas ν) where
  init := ⟨opts, ⟨[], true, none⟩, []⟩
  step
    | .cambio o, s => some { s with opts := o }
    | .efecto, s => some (s.fetch_ s.opts)
    | .refetch o, s => some (s.fetch_ o)
    | .completa i res, s => (complete s.peticiones i res).map fun l => s.llega res l

/-- the list shows the latest request -/
structure MuestraUltima (s : EstadoAlertas ν) : Prop where
  cargando : ∀ p, latest s.peticiones = some p → p.outcome = none → s.pantalla.loading = true
  alFinal : AllDone s.peticiones → ∀ p res, latest s.peticiones = some p → p.outcome = some res →
    s.pantalla.loading = false ∧ s.pantalla.Muestra AlertsResponse.alertas errorAlertas res

/-- the answers that arrived after the latest request was issued, the last one first -/
def desde : List (EventoAlertas ν) → List (Resultado AlertsResponse)
  | .completa _ res :: es => res :: desde es
  | .cambio _ :: es => desde es
  | _ => []

def exito : Resultado AlertsResponse → Option AlertsResponse
  | .ok res => some res
  | .error _ => none

def fallo : Resultado AlertsResponse → Option (Option String)
  | .ok _ => none
  | .error e => some e

/-- among the answers `xs` that arrived after its issue, the one to the latest request decides: while
it is pending there are none, after a response of it nothing has failed and the last response has the
same alerts, and after an error of it the last error has the same text -/
structure UltimaManda (l : Log (UseAlertsOptions ν) (Resultado AlertsResponse))
    (xs : List (Resultado AlertsResponse)) : Prop where
  pendiente : ∀ p, latest l = some p → p.outcome = none → xs = []
  respuesta : AllDone l → ∀ p res, latest l = some p → p.outcome = some (.ok res) →
    xs.findSome? fallo = none ∧ (xs.findSome? exito).map AlertsResponse.alertas = some res.alertas
  error : AllDone l → ∀ p e, latest l = some p → p.outcome = some (.error e) →
    (xs.findSome? fallo).map errorAlertas = some (errorAlertas e)

/-- what the list shows after the history `es` -/
structure Tras (es : List (EventoAlertas ν)) (s : EstadoAlertas ν) : Prop where
  loading : s.pantalla.loading = (desde es).isEmpty
  error : s.pantalla.error = ((desde es).findSome? fallo).map errorAlertas
  data : ∀ res, (desde es).findSome? exito = some res → s.pantalla.data = res.alertas
  llegada : ∀ p res, latest s.peticiones = some p → p.outcome = some res → res ∈ desde es

variable {es : List (EventoAlertas ν)} {s t : EstadoAlertas ν}

theorem Tras.fetch_ (opts : UseAlertsOptions ν) {e : EventoAlertas ν} (he : desde (e :: es) = []) :
    Tras (e :: es) (s.fetch_ opts) := by
  refine ⟨?_, ?_, fun res h => ?_, fun p res hp hres => ?_⟩
  · rw [he]
    rfl
  · rw [he]
    rfl
  · rw [he] at h
    cases h
  · obtain rfl := Option.some.inj (latest_issue.symm.trans hp)
    cases hres

/-- **An answer**, whichever request it belongs to. -/
theorem Tras.llega (h : Tras es s) {i : Nat} {res : Resultado AlertsResponse}
    {l : Log (UseAlertsOptions ν) (Resultado AlertsResponse)}
    (hl : complete s.peticiones i res = some l) : Tras (.completa i res :: es) (s.llega res l) := by
  have hllegada : ∀ p r, latest l = some p → p.outcome = some r → r ∈ res :: desde es := by
    intro p r hp hr
    by_cases hi : i + 1 = s.peticiones.length
    · obtain ⟨q, -, hnew⟩ := latest_complete_last hl hi
      obtain rfl := Option.some.inj (hnew.symm.trans hp)
      obtain rfl := Option.some.inj hr
      exact List.mem_cons_self
    · rw [latest_complete_earlier hl hi] at hp
      exact List.mem_cons_of_mem _ (h.llegada p r hp hr)
  cases res with
  | ok r =>
    refine ⟨rfl, h.error, fun r' hr' => ?_, hllegada⟩
    obtain rfl := Option.some.inj hr'
    rfl
  | error e => exact ⟨rfl, rfl, h.data, hllegada⟩

theorem tras_init (opts : UseAlertsOptions ν) : Tras [] (useAlerts opts).init where
  loading := rfl
  error := rfl
  data _ h := nomatch h
  llegada _ _ h := nomatch (show none = some _ from h)

theorem tras_of_after {opts : UseAlertsOptions ν} (hs : (useAlerts opts).after es = some s) :
    Tras es s := by
  refine Machine.keeps (I := Tras) (tras_init opts) (fun e es s t h ht => ?_) hs
  cases e with
  | cambio o =>
    obtain rfl := Option.some.inj ht
    exact ⟨h.loading, h.error, h.data, h.llegada⟩
  | efecto =>
    obtain rfl := Option.some.inj ht
    exact Tras.fetch_ s.opts rfl
  | refetch o =>
    obtain rfl := Option.some.inj ht
    exact Tras.fetch_ o rfl
  | completa i res =>
    obtain ⟨l, hl, rfl⟩ := Option.map_eq_some_iff.mp ht
    exact h.llega hl

theorem exists_exito {xs : List (Resultado AlertsResponse)} {res : AlertsResponse}
    (h : .ok res ∈ xs) : ∃ r, xs.findSome? exito = some r :=
  Option.isSome_iff_exists.mp (List.findSome?_isSome_iff.mpr ⟨_, h, rfl⟩)

/-- **The list shows the latest request exactly when its answer decides** among those that arrived
after its issue, at every state of every run. -/
theorem muestra_ultima_iff {opts : UseAlertsOptions ν} (hs : (useAlerts opts).after es = some s) :
    MuestraUltima s ↔ UltimaManda s.peticiones (desde es) := by
  have h := tras_of_after hs
  constructor
  · intro hm
    refine ⟨fun p hp hnone => ?_, fun hall p res hp hres => ?_, fun hall p e hp he => ?_⟩
    · have hload := hm.cargando p hp hnone
      rw [h.loading] at hload
      exact List.isEmpty_iff.mp hload
    · obtain ⟨-, herror, hdata⟩ := hm.alFinal hall p _ hp hres
      obtain ⟨r, hr⟩ := exists_exito (h.llegada p _ hp hres)
      rw [h.error, Option.map_eq_none_iff] at herror
      refine ⟨herror, ?_⟩
      rw [hr, Option.map_some, ← h.data r hr, hdata]
    · obtain ⟨-, herror⟩ := hm.alFinal hall p _ hp he
      rw [← h.error]
      exact herror
  · intro hc
    refine ⟨fun p hp hnone => ?_, fun hall p res hp hres => ⟨?_, ?_⟩⟩
    · rw [h.loading, hc.pendiente p hp hnone]
      rfl
    · rw [h.loading, List.isEmpty_eq_false_iff]
      exact List.ne_nil_of_mem (h.llegada p res hp hres)
    · cases res with
      | ok res =>
        obtain ⟨hfallo, hexito⟩ := hc.respuesta hall p res hp hres
        obtain ⟨r, hr, hlast⟩ := Option.map_eq_some_iff.mp hexito
        exact ⟨by rw [h.error, hfallo]; rfl, (h.data r hr).trans hlast⟩
      | error e =>
        show s.pantalla.error = some (errorAlertas e)
        rw [h.error]
        exact hc.error hall p e hp hres

end

/-- a request and its answer -/
def unaPeticion : List (EventoAlertas Nat) := [.completa 0 (.ok ⟨[], 0⟩), .efecto]

theorem muestra_ultima_una :
    ∃ s, (useAlerts ⟨none, none, none⟩).after unaPeticion = some s ∧ MuestraUltima s := by
  refine ⟨_, rfl, (muestra_ultima_iff
    (show (useAlerts ⟨none, none, none⟩).after unaPeticion = some _ from rfl)).mpr ⟨?_, ?_, ?_⟩⟩
  · intro p hp hnone
    obtain rfl := Option.some.inj hp
    cases hnone
  · intro _ p res hp hres
    obtain rfl := Option.some.inj hp
    obtain rfl := Except.ok.inj (Option.some.inj hres)
    exact ⟨rfl, rfl⟩
  · intro _ p e hp he
    obtain rfl := Option.some.inj hp
    cases he

/-- the limit is raised before the first answer, which arrives last and is an error -/
def errorTardio : List (EventoAlertas Nat) :=
  [.completa 0 (.error (some "HTTP 502: Bad Gateway")), .completa 1 (.ok ⟨[], 0⟩), .efecto,
    .cambio ⟨none, some 200, none⟩, .efecto]

/-- the error of a request that no option asks for any more stays over the latest response -/
theorem ultima_perdida :
    ¬ ∀ (opts : UseAlertsOptions Nat) es s, (useAlerts opts).after es = some s → MuestraUltima s := by
  intro h
  have hm := h ⟨none, some 100, none⟩ errorTardio _ rfl
  obtain ⟨-, herror, -⟩ := hm.alFinal (by decide) _ (.ok ⟨[], 0⟩) rfl rfl
  cases herror

end Fractura
