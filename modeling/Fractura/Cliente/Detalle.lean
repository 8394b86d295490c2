import Fractura.Cliente.Mostrado

/-!
# `pages/DetailView.tsx` while it is used

The page fetches the alerts when it is mounted (`StrictMode` mounts it twice in development).  From
then on answers arrive, `?node=` changes, the list is searched and filtered, rows are clicked and the
sheet of an alert is opened and closed, in any order; the effect of `[initialNodeId, alerts.length]`
runs some time after one of the two has changed.

* `detalle_en_uso`   what holds of the page at every state of every run.
-/

namespace Fractura

open Db Percent

/-! ## the request -/

/-- the URL of `fetchAlerts` -/
def urlAlerts (params : AlertsParams) : List Char :=
  target "/alerts".toList (query enFormulario (queryParams params))

/-- whatever its parameters are, the request is for the list without parameters -/
theorem entrega_fetchAlerts (f : Marco) (params : AlertsParams) :
    f.entrega .get (urlAlerts params) = .request .getAlerts := by
  have happ : Router.app .get "/alerts".toList = .handle .getAlerts none := by decide
  have hurl : urlPath "/alerts".toList = "/alerts".toList := by decide
  by_cases hps : queryParams params = []
  · have hscope : f.scope "/alerts".toList = ⟨"/alerts", []⟩ := by
      have hpath := scope_componente "" f "/alerts".toList (by decide) (by decide)
      simpa [encodeURIComponent, encode] using hpath
    unfold urlAlerts target Marco.entrega
    rw [hps, if_pos (show query enFormulario [] = [] from rfl), hurl, hscope]
    dsimp only
    rw [happ]
    rfl
  · unfold urlAlerts
    rw [entrega_query f "/alerts".toList _ hurl (by decide) (by decide) hps, happ]
    rfl

/-- the response as `fetchAlerts` returns it -/
def leeAlertas : Respuesta → Option AlertsResponse
  | .alertas l => some ⟨l.map alertaCliente, l.length⟩
  | _ => none

/-! ## the page -/

structure EstadoDetalle where
  initialNodeId : Option String
  alerts : List AlertaCliente
  loading : Bool
  fetchError : Bool
  selectedAlert : Option AlertaCliente
  alertDetailModal : Option AlertaCliente
  searchQuery : String
  patronFilter : String
  /-- what the effect of the node depends on, at its last run -/
  deps : Option (Option String × Nat)
  /-- the fetches without an answer -/
  enVuelo : Nat

/-- a new `?node=`, its effect, a mount, an answer, the search field, the pattern field, a click on the
row of this number, the button under the table, the sheet closed -/
inductive EventoDetalle where
  | navega (nodeId : Option String)
  | efecto
  | monta
  | responde (res : Resultado AlertsResponse)
  | busca (text : String)
  | filtra (patron : String)
  | clic (i : Nat)
  | verDetalle
  | cierra

namespace EstadoDetalle
variable (lower : String → String) (s : EstadoDetalle)

/-- the rows of the table -/
def filas : List AlertaCliente :=
  if s.loading || s.fetchError then [] else filtrados lower s.alerts s.searchQuery s.patronFilter

/-- `selectedAlert?.id === alert.id` -/
def isSelected (a : AlertaCliente) : Bool :=
  decide (s.selectedAlert.map (fun b => b.alerta.id) = some a.alerta.id)

/-- `if (match) setSelectedAlert(match)` -/
def correr : EstadoDetalle :=
  { s with
    deps := some (s.initialNodeId, s.alerts.length)
    selectedAlert := (alertaDeNodo s.alerts s.initialNodeId).or s.selectedAlert }

/-- `then` and `catch` of the fetch -/
def llega : Resultado AlertsResponse → EstadoDetalle
  | .ok d => { s with alerts := d.alertas, loading := false, fetchError := false, enVuelo := s.enVuelo - 1 }
  | .error _ => { s with loading := false, fetchError := true, enVuelo := s.enVuelo - 1 }

/-- the `onClick` of a row -/
def clic (a : AlertaCliente) : EstadoDetalle :=
  if s.isSelected a then { s with selectedAlert := none }
  else { s with selectedAlert := some a, alertDetailModal := some a }

/-- the alert is marked, or its sheet is open -/
def Muestra (a : AlertaCliente) : Prop := s.selectedAlert = some a ∨ s.alertDetailModal = some a

end EstadoDetalle

def pasoDetalle (lower : String → String) : EventoDetalle → EstadoDetalle → Option EstadoDetalle
  | .navega nodeId, s => some { s with initialNodeId := nodeId }
  | .efecto, s => if s.deps = some (s.initialNodeId, s.alerts.length) then none else some s.correr
  | .monta, s => some { s with enVuelo := s.enVuelo + 1 }
  | .responde res, s => if s.enVuelo = 0 then none else some (s.llega res)
  | .busca text, s => some { s with searchQuery := text }
  | .filtra patron, s => if patron ∈ PATRON_OPTIONS then some { s with patronFilter := patron } else none
  | .clic i, s => (s.filas lower)[i]?.map s.clic
  | .verDetalle, s => s.selectedAlert.map fun a => { s with alertDetailModal := some a }
  | .cierra, s => s.alertDetailModal.map fun _ => { s with alertDetailModal := none }

def detailView (lower : String → String) (nodeId : Option String) :
    Machine EventoDetalle EstadoDetalle where
  init := ⟨nodeId, [], true, false, none, none, "", "todas", none, 0⟩
  step := pasoDetalle lower

/-- an answer that arrives is one of the server (`Contesta`) -/
def DelServidor (M : Motor) (f : Marco) (e : EventoDetalle) (_ : EstadoDetalle) : Prop :=
  ∀ res, e = .responde res → Contesta M f leeAlertas (urlAlerts ⟨none, some 500, none⟩) res

section
variable {M : Motor} {f : Marco} {lower : String → String} {nodeId : Option String}
  {es : List EventoDetalle} {s t : EstadoDetalle}

/-- the list of the page is one that was fetched from some store -/
def EsLista (M : Motor) (l : List AlertaCliente) : Prop :=
  ∃ u n, Servida M u ∧
    Prog.run (exec M) (fetchAlerts ⟨none, some 500, none⟩) u = (.ok ⟨l, n⟩, u)

/-- the alert names a node that the path has had -/
def DeNodo (nodeId : Option String) (es : List EventoDetalle) (a : AlertaCliente) : Prop :=
  ∃ x, (nodeId = some x ∨ .navega (some x) ∈ es) ∧
    (a.alerta.organismoId = some x ∨ a.alerta.proveedorId = some x)

/-- what every event keeps -/
structure InvDetalle (M : Motor) (nodeId : Option String) (es : List EventoDetalle)
    (s : EstadoDetalle) : Prop where
  lista : EsLista M s.alerts
  nodo : nodeId = s.initialNodeId ∨ .navega s.initialNodeId ∈ es
  muestra : ∀ a, s.Muestra a → ∃ u, Servida M u ∧ a.alerta ∈ u.alerta.rows
  sinClic : (∀ i, .clic i ∉ es) → ∀ a, s.Muestra a →
    a.alerta.patron = some "fraccionamiento" ∧ DeNodo nodeId es a

/-! ### lists -/

theorem esLista_nil : EsLista M [] := by
  have hnil : porHora M (Db.empty).alerta.rows = [] := List.perm_nil.mp (perm_porHora _)
  refine ⟨.empty, 0, .vacia, ?_⟩
  rw [run_fetchAlerts, hnil]
  rfl

theorem esLista_contesta {params : AlertsParams} {r : AlertsResponse}
    (h : Contesta M f leeAlertas (urlAlerts params) (.ok r)) : EsLista M r.alertas := by
  obtain ⟨u, y, hu, hrun, hlee⟩ := contesta_request (entrega_fetchAlerts f params) h
  obtain ⟨l, hl, rfl⟩ := run_wrap (p := getAlerts) (g := .alertas) hrun
  obtain rfl := Option.some.inj hlee
  exact ⟨u, _, hu, Prog.run_bind_ok _ hl⟩

theorem EsLista.guardada {l : List AlertaCliente} (h : EsLista M l) {a : AlertaCliente} (ha : a ∈ l) :
    ∃ u, Servida M u ∧ a.alerta ∈ u.alerta.rows := by
  obtain ⟨u, n, hu, hrun⟩ := h
  exact ⟨u, hu, (fetchAlerts_guardadas hrun ha).1⟩

theorem EsLista.nodup {l : List AlertaCliente} (h : EsLista M l) :
    (l.map fun a => a.alerta.id).Nodup := by
  obtain ⟨u, n, -, hrun⟩ := h
  rw [run_fetchAlerts] at hrun
  have hl := congrArg AlertsResponse.alertas (Except.ok.inj (Prod.mk.inj hrun).1)
  dsimp only at hl
  have hkeys : ((porHora M u.alerta.rows).map Alerta.id).Nodup :=
    ((perm_porHora (M := M) u.alerta.rows).map Alerta.id).nodup_iff.mpr u.alerta.nodup
  rw [← hl, List.map_map]
  exact hkeys.sublist ((List.take_sublist _ _).map _)

theorem EsLista.deNodo {l : List AlertaCliente} (h : EsLista M l) {x : Option String}
    {a : AlertaCliente} (ha : alertaDeNodo l x = some a) :
    a ∈ l ∧ a.alerta.patron = some "fraccionamiento" ∧
      ∃ y, x = some y ∧ (a.alerta.organismoId = some y ∨ a.alerta.proveedorId = some y) := by
  obtain ⟨u, n, hu, hrun⟩ := h
  exact nodo_de_lista hu hrun ha

theorem mem_alerts_of_filas {a : AlertaCliente} (h : a ∈ s.filas lower) : a ∈ s.alerts := by
  unfold EstadoDetalle.filas at h
  split at h
  · cases h
  · exact List.mem_of_mem_filter h

/-! ### one event -/

theorem DeNodo.cons {a : AlertaCliente} (h : DeNodo nodeId es a) (e : EventoDetalle) :
    DeNodo nodeId (e :: es) a := by
  obtain ⟨x, hx, ha⟩ := h
  exact ⟨x, hx.imp id (List.mem_cons_of_mem e), ha⟩

/-- an event after which nothing more is marked or open -/
theorem InvDetalle.igual (h : InvDetalle M nodeId es s) (e : EventoDetalle) (hl : EsLista M t.alerts)
    (hn : nodeId = t.initialNodeId ∨ .navega t.initialNodeId ∈ e :: es)
    (hm : ∀ a, t.Muestra a → s.Muestra a) : InvDetalle M nodeId (e :: es) t where
  lista := hl
  nodo := hn
  muestra a ha := h.muestra a (hm a ha)
  sinClic hno a ha := by
    obtain ⟨hp, hx⟩ := h.sinClic (fun i hi => hno i (List.mem_cons_of_mem e hi)) a (hm a ha)
    exact ⟨hp, hx.cons e⟩

theorem InvDetalle.correr (h : InvDetalle M nodeId es s) :
    InvDetalle M nodeId (.efecto :: es) s.correr := by
  have hn : nodeId = s.initialNodeId ∨ .navega s.initialNodeId ∈ EventoDetalle.efecto :: es :=
    h.nodo.imp id (List.mem_cons_of_mem _)
  cases hd : alertaDeNodo s.alerts s.initialNodeId with
  | none =>
    refine h.igual _ h.lista hn fun a ha => ?_
    unfold EstadoDetalle.Muestra EstadoDetalle.correr at ha
    rwa [hd] at ha
  | some b =>
    obtain ⟨hb, hpatron, y, hy, hnames⟩ := h.lista.deNodo hd
    have hcases (a : AlertaCliente) (ha : s.correr.Muestra a) : a = b ∨ s.Muestra a := by
      unfold EstadoDetalle.Muestra EstadoDetalle.correr at ha
      rw [hd] at ha
      exact ha.imp (fun hs => (Option.some.inj hs).symm) .inr
    refine ⟨h.lista, hn, fun a ha => ?_, fun hno a ha => ?_⟩
    · rcases hcases a ha with rfl | hs
      · exact h.lista.guardada hb
      · exact h.muestra a hs
    · rcases hcases a ha with rfl | hs
      · rw [hy] at hn
        exact ⟨hpatron, y, hn.imp id id, hnames⟩
      · obtain ⟨hp, hx⟩ := h.sinClic (fun i hi => hno i (List.mem_cons_of_mem _ hi)) a hs
        exact ⟨hp, hx.cons _⟩

theorem InvDetalle.clic (h : InvDetalle M nodeId es s) {i : Nat} {b : AlertaCliente}
    (hb : b ∈ s.alerts) : InvDetalle M nodeId (.clic i :: es) (s.clic b) := by
  have hn : nodeId = s.initialNodeId ∨ .navega s.initialNodeId ∈ EventoDetalle.clic i :: es :=
    h.nodo.imp id (List.mem_cons_of_mem _)
  unfold EstadoDetalle.clic
  split
  · refine h.igual _ h.lista hn fun a ha => ?_
    rcases ha with ha | ha
    · cases ha
    · exact .inr ha
  · refine ⟨h.lista, hn, fun a ha => ?_, fun hno => absurd List.mem_cons_self (hno i)⟩
    have hab : b = a := ha.elim Option.some.inj Option.some.inj
    subst hab
    exact h.lista.guardada hb

theorem InvDetalle.paso {e : EventoDetalle} (h : InvDetalle M nodeId es s) (he : DelServidor M f e s)
    (ht : pasoDetalle lower e s = some t) : InvDetalle M nodeId (e :: es) t := by
  have hn : nodeId = s.initialNodeId ∨ .navega s.initialNodeId ∈ e :: es :=
    h.nodo.imp id (List.mem_cons_of_mem e)
  cases e with
  | navega x =>
    obtain rfl := Option.some.inj ht
    exact h.igual _ h.lista (.inr List.mem_cons_self) fun a ha => ha
  | efecto =>
    obtain ⟨-, hs⟩ := Option.ite_none_left_eq_some.mp ht
    obtain rfl := Option.some.inj hs
    exact h.correr
  | monta =>
    obtain rfl := Option.some.inj ht
    exact h.igual _ h.lista hn fun a ha => ha
  | responde res =>
    obtain ⟨-, hs⟩ := Option.ite_none_left_eq_some.mp ht
    obtain rfl := Option.some.inj hs
    cases res with
    | ok r => exact h.igual _ (esLista_contesta (he _ rfl)) hn fun a ha => ha
    | error m => exact h.igual _ h.lista hn fun a ha => ha
  | busca text =>
    obtain rfl := Option.some.inj ht
    exact h.igual _ h.lista hn fun a ha => ha
  | filtra patron =>
    obtain ⟨-, hs⟩ := Option.ite_none_right_eq_some.mp ht
    obtain rfl := Option.some.inj hs
    exact h.igual _ h.lista hn fun a ha => ha
  | clic i =>
    obtain ⟨b, hb, rfl⟩ := Option.map_eq_some_iff.mp ht
    exact h.clic (mem_alerts_of_filas (List.mem_of_getElem? hb))
  | verDetalle =>
    obtain ⟨b, hb, rfl⟩ := Option.map_eq_some_iff.mp ht
    refine h.igual _ h.lista hn fun a ha => ?_
    rcases ha with ha | ha
    · exact .inl ha
    · exact .inl (hb.trans ha)
  | cierra =>
    obtain ⟨b, -, rfl⟩ := Option.map_eq_some_iff.mp ht
    refine h.igual _ h.lista hn fun a ha => ?_
    rcases ha with ha | ha
    · exact .inl ha
    · cases ha

/-! ### every run -/

theorem invDetalle_de_corrida (hs : (detailView lower nodeId).after es = some s)
    (hC : (detailView lower nodeId).Steps (DelServidor M f) es) : InvDetalle M nodeId es s := by
  refine Machine.keeps_of_steps ⟨esLista_nil, .inl rfl, fun a ha => ?_, fun _ a ha => ?_⟩
    (fun e es s t h he ht => h.paso he ht) hC hs
  · exact ha.elim (fun h => nomatch h) fun h => nomatch h
  · exact ha.elim (fun h => nomatch h) fun h => nomatch h

theorem EsLista.una_marcada (h : EsLista M s.alerts) {i j : Nat} {a b : AlertaCliente}
    (hi : (s.filas lower)[i]? = some a) (hj : (s.filas lower)[j]? = some b)
    (ha : s.isSelected a = true) (hb : s.isSelected b = true) : i = j := by
  have hsub : ((s.filas lower).map fun a => a.alerta.id).Nodup := by
    refine h.nodup.sublist (List.Sublist.map _ ?_)
    unfold EstadoDetalle.filas
    split
    · exact List.nil_sublist _
    · exact List.filter_sublist
  have hid : some a.alerta.id = some b.alerta.id :=
    (of_decide_eq_true ha).symm.trans (of_decide_eq_true hb)
  have hlt : i < ((s.filas lower).map fun a => a.alerta.id).length := by
    rw [List.length_map]
    exact (List.getElem?_eq_some_iff.mp hi).1
  refine (List.getElem?_inj hlt hsub).mp ?_
  rw [List.getElem?_map, List.getElem?_map, hi, hj]
  exact hid

/-- **The detail page in use**, when every answer comes from the server: the list is one that was
fetched from some store, the patterns share it out whatever is searched, at most one row is marked,
what is marked or open was stored, and as long as no row was clicked it is an alert of the second rule
that names a node which the path has had. -/
theorem detalle_en_uso (hs : (detailView lower nodeId).after es = some s)
    (hC : (detailView lower nodeId).Steps (DelServidor M f) es) :
    EsLista M s.alerts ∧
    (PATRON_OPTIONS.tail.flatMap (filtrados lower s.alerts s.searchQuery)).Perm
      (filtrados lower s.alerts s.searchQuery "todas") ∧
    (∀ (i j : Nat) (a b : AlertaCliente), (s.filas lower)[i]? = some a →
      (s.filas lower)[j]? = some b → s.isSelected a = true → s.isSelected b = true → i = j) ∧
    (∀ a, s.Muestra a → ∃ u, Servida M u ∧ a.alerta ∈ u.alerta.rows) ∧
    ((∀ i, .clic i ∉ es) → ∀ a, s.Muestra a →
      a.alerta.patron = some "fraccionamiento" ∧ DeNodo nodeId es a) := by
  have h := invDetalle_de_corrida hs hC
  obtain ⟨u, n, hu, hrun⟩ := h.lista
  exact ⟨h.lista, reparten_de_lista hu hrun s.searchQuery,
    fun _ _ _ _ hi hj ha hb => h.lista.una_marcada hi hj ha hb, h.muestra, h.sinClic⟩

end

/-! ## a concrete visit -/

/-- the page of `?node=61`: the answer arrives and the effect runs -/
theorem detalle_en_uso_nodo : ∃ es s a, (detailView id (some "61-K")).after es = some s ∧
    s.selectedAlert = some a ∧ a.alerta.patron = some "fraccionamiento" ∧ DeNodo (some "61-K") es a := by
  have hu := tiendaFraccionada_servida
  obtain ⟨l, hrun, hsome⟩ : ∃ l,
      Prog.run (exec motorConcreto) getAlerts tiendaFraccionada = (.ok l, tiendaFraccionada) ∧
        (alertaDeNodo (l.map alertaCliente) (some "61-K")).isSome = true :=
    ⟨_, run_consulta (q := .alertas500) rfl, by decide +kernel⟩
  have hC : (detailView id (some "61-K")).Steps (DelServidor motorConcreto marcoConcreto)
      [.efecto, .responde (.ok ⟨l.map alertaCliente, l.length⟩), .monta] := by
    refine ⟨⟨⟨trivial, ?_⟩, ?_⟩, ?_⟩ <;> intro s hs res he
    · cases he
    · cases he
      exact .responde (entrega_fetchAlerts marcoConcreto _) hu (Prog.run_bind_ok _ hrun) rfl
    · cases he
  obtain ⟨a, ha⟩ := Option.isSome_iff_exists.mp hsome
  have hs : (detailView id (some "61-K")).after
      [.efecto, .responde (.ok ⟨l.map alertaCliente, l.length⟩), .monta] = some _ := rfl
  have hsel : (alertaDeNodo (l.map alertaCliente) (some "61-K")).or none = some a := by
    rw [ha]
    rfl
  obtain ⟨-, -, -, -, hsin⟩ := detalle_en_uso hs hC
  obtain ⟨hp, hx⟩ := hsin (by simp) a (.inl hsel)
  exact ⟨_, _, a, hs, hsel, hp, hx⟩

end Fractura
