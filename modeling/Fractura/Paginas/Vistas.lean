import Fractura.Concurrencia.Procesos

/-!
# `pages/DetailView.tsx`: the list under its filters

The page fetches the alerts once, and shows those that match the search text and the chosen pattern
(`filtrados`).  At every store that concurrent requests and crashes leave:

* `vistas_reparten`   the four patterns share out what the page shows without a pattern, each alert to
                      one of them, whatever is searched;
* `altas_de_vista`    the alerts that the page counts as high are those of the second rule and the high
                      ones of the cases, and the alert that `?node=` opens is one of the second rule.
-/

namespace Fractura

open Db Group

/-! ## the page -/

def PATRON_OPTIONS : List String := ["todas", "multi-org", "fraccionamiento", "recurrente", "sin_patron"]

section
variable (toLowerCase : String → String)

/-- `(text?.toLowerCase() ?? '').includes(searchQuery.toLowerCase())` -/
def incluye (searchQuery : String) (text : Option String) : Bool :=
  contiene (toLowerCase searchQuery) ((text.map toLowerCase).getD "")

def matchSearch (searchQuery : String) (a : AlertaCliente) : Bool :=
  decide (searchQuery = "") || incluye toLowerCase searchQuery a.alerta.mensaje ||
    incluye toLowerCase searchQuery (some a.alerta.id)

def matchPatron (patronFilter : String) (a : AlertaCliente) : Bool :=
  decide (patronFilter = "todas") ||
    if patronFilter = "sin_patron" then decide (a.alerta.patron = none)
    else decide (a.alerta.patron = some patronFilter)

/-- `filtered` -/
def filtrados (alerts : List AlertaCliente) (searchQuery patronFilter : String) :
    List AlertaCliente :=
  alerts.filter fun a => matchSearch toLowerCase searchQuery a && matchPatron patronFilter a

end

def highCount (alerts : List AlertaCliente) : Nat :=
  (alerts.filter fun a => decide (a.severidad = some "high")).length

/-- the alert that the page selects for `initialNodeId`, when there is one -/
def alertaDeNodo (alerts : List AlertaCliente) (initialNodeId : Option String) :
    Option AlertaCliente :=
  if conTexto initialNodeId then
    alerts.find? fun a => decide (a.alerta.organismoId = initialNodeId) ||
      decide (a.alerta.proveedorId = initialNodeId)
  else none

/-! ## what the alerts of a store are -/

section
variable {M : Motor} {s : Db} {lower : String → String}

theorem fetchAlerts_guardadas {params : AlertsParams} {r : AlertsResponse}
    (h : Prog.run (exec M) (fetchAlerts params) s = (.ok r, s)) {a : AlertaCliente}
    (ha : a ∈ r.alertas) : a.alerta ∈ s.alerta.rows ∧ a.severidad = a.alerta.severity := by
  rw [run_fetchAlerts] at h
  obtain rfl := Except.ok.inj (congrArg Prod.fst h)
  obtain ⟨b, hb, rfl⟩ := List.mem_map.mp ha
  have hb' := List.mem_of_mem_take hb
  unfold porHora at hb'
  rw [List.mem_insertionSort, M.mem_orden] at hb'
  exact ⟨hb', rfl⟩

theorem clases_servidas (h : Servida M s) {a : Alerta} (ha : a ∈ s.alerta.rows) :
    (a.patron = some "recurrente" ∧ a.severity = some "medium" ∧ a.organismoId = none ∧
      a.proveedorId = none) ∨
    (a.patron = some "fraccionamiento" ∧ a.severity = some "high") ∨
    (a.patron = some "multi-org" ∧ a.severity = some "medium" ∧ a.organismoId = none ∧
      a.proveedorId = none) ∨
    (a.patron = none ∧ a.organismoId = none ∧ a.proveedorId = none) := by
  by_cases hp : a.patron = none
  · obtain ⟨c, -, sev, n, -, rfl⟩ := h.inv.deCaso a (List.mem_filter.mpr ⟨ha, decide_eq_true hp⟩)
    exact Or.inr (Or.inr (Or.inr ⟨rfl, rfl, rfl⟩))
  · obtain ⟨f, b, n, hb, rfl⟩ := h.inv.regla a ha hp
    cases hb with
    | p1 r => exact Or.inl ⟨rfl, rfl, rfl, rfl⟩
    | p2 r => exact Or.inr (Or.inl ⟨rfl, rfl⟩)
    | p3 r => exact Or.inr (Or.inr (Or.inl ⟨rfl, rfl, rfl, rfl⟩))

/-- the pattern that an option stands for -/
def patronDe (option : String) : Option String := if option = "sin_patron" then none else some option

/-- under an option other than the first one the page shows a class of what it shows under that -/
theorem filtrados_eq (l : List AlertaCliente) (q : String) {o : String} (ho : o ≠ "todas") :
    filtrados lower l q o = withKey (fun a : AlertaCliente => a.alerta.patron)
      (filtrados lower l q "todas") (patronDe o) := by
  unfold filtrados withKey
  rw [List.filter_filter]
  refine List.filter_congr fun a _ => ?_
  unfold matchPatron patronDe
  by_cases hs : o = "sin_patron"
  · subst hs
    simp [Bool.and_comm]
  · simp [ho, hs, Bool.and_comm]

theorem clases_de_lista (h : Servida M s) {params : AlertsParams} {r : AlertsResponse}
    (hr : Prog.run (exec M) (fetchAlerts params) s = (.ok r, s)) {a : AlertaCliente}
    (ha : a ∈ r.alertas) :
    (a.alerta.patron = some "fraccionamiento" ∧ a.severidad = some "high") ∨
    (a.alerta.organismoId = none ∧ a.alerta.proveedorId = none ∧
      (a.alerta.patron = none ∨ a.severidad = some "medium" ∧
        (a.alerta.patron = some "recurrente" ∨ a.alerta.patron = some "multi-org"))) := by
  obtain ⟨hm, hsev⟩ := fetchAlerts_guardadas hr ha
  rw [hsev]
  rcases clases_servidas h hm with ⟨hp, hs, ho, hv⟩ | ⟨hp, hs⟩ | ⟨hp, hs, ho, hv⟩ | ⟨hp, ho, hv⟩
  · exact Or.inr ⟨ho, hv, Or.inr ⟨hs, Or.inl hp⟩⟩
  · exact Or.inl ⟨hp, hs⟩
  · exact Or.inr ⟨ho, hv, Or.inr ⟨hs, Or.inr hp⟩⟩
  · exact Or.inr ⟨ho, hv, Or.inl hp⟩

theorem reparten_de_lista (h : Servida M s) {params : AlertsParams} {r : AlertsResponse}
    (hr : Prog.run (exec M) (fetchAlerts params) s = (.ok r, s)) (q : String) :
    (PATRON_OPTIONS.tail.flatMap (filtrados lower r.alertas q)).Perm
      (filtrados lower r.alertas q "todas") := by
  have hopt : PATRON_OPTIONS.tail.flatMap (filtrados lower r.alertas q) =
      (PATRON_OPTIONS.tail.map patronDe).flatMap (withKey (fun a : AlertaCliente => a.alerta.patron)
        (filtrados lower r.alertas q "todas")) := by
    rw [List.flatMap_map]
    refine List.flatMap_congr fun o ho => filtrados_eq r.alertas q fun e => ?_
    subst e
    exact absurd ho (by decide)
  rw [hopt]
  refine perm_flatMap_withKey (by decide) fun a ha => ?_
  rcases clases_de_lista h hr (List.mem_of_mem_filter ha) with
    ⟨hp, -⟩ | ⟨-, -, hp | ⟨-, hp | hp⟩⟩ <;> rw [hp] <;> decide

/-- **The patterns share out the alerts**: whatever is searched, each alert that the page shows
without a pattern is shown under exactly one of the four others. -/
theorem vistas_reparten (h : Servida M s) (params : AlertsParams) (q : String) :
    ∃ r, Prog.run (exec M) (fetchAlerts params) s = (.ok r, s) ∧
      (PATRON_OPTIONS.tail.flatMap (filtrados lower r.alertas q)).Perm
        (filtrados lower r.alertas q "todas") :=
  ⟨_, run_fetchAlerts params, reparten_de_lista h (run_fetchAlerts params) q⟩

theorem nodo_de_lista (h : Servida M s) {params : AlertsParams} {r : AlertsResponse}
    (hr : Prog.run (exec M) (fetchAlerts params) s = (.ok r, s)) {nodeId : Option String}
    {a : AlertaCliente} (ha : alertaDeNodo r.alertas nodeId = some a) :
    a ∈ r.alertas ∧ a.alerta.patron = some "fraccionamiento" ∧
      ∃ x, nodeId = some x ∧ (a.alerta.organismoId = some x ∨ a.alerta.proveedorId = some x) := by
  unfold alertaDeNodo at ha
  split at ha
  · rename_i hid
    have hmem := List.mem_of_find?_eq_some ha
    have hmatch := List.find?_some ha
    cases nodeId with
    | none => cases hid
    | some x =>
      have hnames : a.alerta.organismoId = some x ∨ a.alerta.proveedorId = some x := by
        simpa using hmatch
      refine ⟨hmem, ?_, x, rfl, hnames⟩
      rcases clases_de_lista h hr hmem with ⟨hp, -⟩ | ⟨ho, hv, -⟩
      · exact hp
      · rw [ho, hv] at hnames
        simp at hnames
  · cases ha

/-- **What the page counts as high** are the alerts of the second rule and the high ones of the cases;
the alert that it opens for a node is one of the second rule, whatever the node. -/
theorem altas_de_vista (h : Servida M s) (params : AlertsParams) (nodeId : Option String) :
    ∃ r, Prog.run (exec M) (fetchAlerts params) s = (.ok r, s) ∧
      highCount r.alertas =
        (filtrados lower r.alertas "" "fraccionamiento").length +
          highCount (filtrados lower r.alertas "" "sin_patron") ∧
      ∀ a, alertaDeNodo r.alertas nodeId = some a → a.alerta.patron = some "fraccionamiento" := by
  obtain ⟨r, hr⟩ : ∃ r, Prog.run (exec M) (fetchAlerts params) s = (.ok r, s) :=
    ⟨_, run_fetchAlerts params⟩
  have hall := fun a (ha : a ∈ r.alertas) => clases_de_lista h hr ha
  refine ⟨r, hr, ?_, fun a ha => (nodo_de_lista h hr ha).2.1⟩
  have hsearch (a : AlertaCliente) : matchSearch lower "" a = true := by simp [matchSearch]
  have hsplit := (List.filter_append_perm (matchPatron "fraccionamiento")
    (r.alertas.filter fun a => decide (a.severidad = some "high"))).length_eq
  rw [List.length_append, List.filter_filter, List.filter_filter] at hsplit
  unfold highCount filtrados
  rw [← hsplit, List.filter_filter]
  congr 2
  · refine List.filter_congr fun a ha => ?_
    rcases hall a ha with ⟨hp, hs⟩ | ⟨-, -, hp | ⟨hs, hp | hp⟩⟩ <;>
      simp [matchPatron, *]
  · refine List.filter_congr fun a ha => ?_
    rcases hall a ha with ⟨hp, hs⟩ | ⟨-, -, hp | ⟨hs, hp | hp⟩⟩ <;>
      simp [matchPatron, *]

end

/-! ## a concrete page -/

/-- a slice loaded and searched, one request after the other -/
def tiendaVista : Db :=
  (Peticion.de (.detectChilecompra none)).despues motorConcreto
    ((Peticion.seedChilecompra 2024 5 0 (.csv comprasRecurrentes)).despues motorConcreto .empty)

theorem tiendaVista_servida : Servida motorConcreto tiendaVista := (Servida.vacia.despues _).despues _

theorem vistas_reparten_recurrente : tiendaVista.alerta.rows.length = 1 ∧
    ∃ r, Prog.run (exec motorConcreto) (fetchAlerts ⟨none, none, none⟩) tiendaVista =
      (.ok r, tiendaVista) ∧ (PATRON_OPTIONS.tail.flatMap (filtrados id r.alertas "76-K")).Perm
        (filtrados id r.alertas "76-K" "todas") :=
  ⟨by decide +kernel, vistas_reparten tiendaVista_servida ⟨none, none, none⟩ "76-K"⟩

/-- a slice with one pair of the second rule, loaded and searched -/
def tiendaFraccionada : Db :=
  (Peticion.de (.detectChilecompra none)).despues motorConcreto
    ((Peticion.seedChilecompra 2024 5 0 (.csv comprasPartidas)).despues motorConcreto .empty)

theorem tiendaFraccionada_servida : Servida motorConcreto tiendaFraccionada :=
  (Servida.vacia.despues _).despues _

/-- one high alert, which the page opens for the organism that it is about -/
theorem altas_de_vista_fraccionada :
    ∃ r a, Prog.run (exec motorConcreto) (fetchAlerts ⟨none, none, none⟩) tiendaFraccionada =
      (.ok r, tiendaFraccionada) ∧ highCount r.alertas = 1 ∧
      highCount r.alertas = (filtrados id r.alertas "" "fraccionamiento").length +
        highCount (filtrados id r.alertas "" "sin_patron") ∧
      alertaDeNodo r.alertas (some "61-K") = some a ∧ a.alerta.patron = some "fraccionamiento" := by
  obtain ⟨r, hr, hhigh, hnodo⟩ := @altas_de_vista motorConcreto tiendaFraccionada id
    tiendaFraccionada_servida ⟨none, none, none⟩ (some "61-K")
  -- the list that the call returned is the one that is computed
  obtain ⟨r', hr', huna, hsome⟩ : ∃ r', Prog.run (exec motorConcreto) (fetchAlerts ⟨none, none, none⟩)
      tiendaFraccionada = (.ok r', tiendaFraccionada) ∧ highCount r'.alertas = 1 ∧
        (alertaDeNodo r'.alertas (some "61-K")).isSome = true :=
    ⟨_, run_fetchAlerts _, by decide +kernel⟩
  obtain rfl : r = r' := by
    rw [hr] at hr'
    cases hr'
    rfl
  obtain ⟨a, ha⟩ := Option.isSome_iff_exists.mp hsome
  exact ⟨r, a, hr, huna, hhigh, ha, hnodo a ha⟩

end Fractura
