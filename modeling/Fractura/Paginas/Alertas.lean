import Fractura.Lib.Cut
import Fractura.Paginas.Entidad
import Fractura.Paginas.Filtros

/-!
# The list of alerts

`fetchAlerts` (`frontend/src/api/alerts.ts`) puts its parameters into the query string of
`GET /alerts`; the handler reads none of them and returns the 500 latest alerts.  The list should be
the alerts that satisfy the parameters (`Filtrada`), which is what `GET /alerts/chilecompra` returns
for a pattern.  `filtrada_iff`: it is, in whatever order the engine puts ties, exactly when nothing is
there to filter or to cut (`NadaQueFiltrar`).
-/

namespace Fractura

open Db Group

/-! ## `api/alerts.ts` -/

structure AlertsParams where
  patron : Option String
  limit : Option Nat
  fuente : Option String

/-- an alert as the client shows it: the fields of the response and `severidad` -/
structure AlertaCliente where
  alerta : Alerta
  severidad : Option String

structure AlertsResponse where
  alertas : List AlertaCliente
  count : Nat

/-- `URLSearchParams`: a parameter that is absent, empty or zero is not set -/
def queryParams (params : AlertsParams) : List (String × String) :=
  ((params.patron.filter fun p => decide (p ≠ "")).map fun p => ("patron", p)).toList ++
    ((params.limit.filter fun n => decide (n ≠ 0)).map fun n => ("limit", toString n)).toList ++
    ((params.fuente.filter fun f => decide (f ≠ "")).map fun f => ("fuente", f)).toList

/-- `GET /alerts?...`: `get_alerts` declares no parameter, and what the query string holds besides is
not read -/
def pedirAlerts (_query : List (String × String)) : Prg (List Alerta) := getAlerts

/-- `severidad: a.severidad ?? a.severity ?? null`: the rows of the response have no `severidad` -/
def alertaCliente (a : Alerta) : AlertaCliente := ⟨a, a.severity⟩

def fetchAlerts (params : AlertsParams) : Prg AlertsResponse := do
  let raw ← pedirAlerts (queryParams params)
  return ⟨raw.map alertaCliente, raw.length⟩

/-! ## what the list should be -/

/-- the limit of a request, 500 when it gives none -/
def AlertsParams.limite (params : AlertsParams) : Nat := params.limit.getD 500

/-- the alert satisfies every filter that is given -/
def AlertsParams.cumple (params : AlertsParams) (a : Alerta) : Bool :=
  filtro params.patron a.patron && filtro params.fuente a.fuente

/-- the same alerts up to ties: the moments are the same ones in the same order, and so are the alerts
of each, but for the moment at which the lists end, whose alerts the limit may divide -/
structure SalvoEmpates (l l' : List Alerta) : Prop where
  momentos : l.map Alerta.createdAt = l'.map Alerta.createdAt
  enOtra : ∀ a ∈ l, a ∈ l' ∨ (l.map Alerta.createdAt).getLast? = some a.createdAt
  deOtra : ∀ a ∈ l', a ∈ l ∨ (l.map Alerta.createdAt).getLast? = some a.createdAt

/-- the list of a request is the filtered one -/
structure Filtrada (M : Motor) (s : Db) (params : AlertsParams) (l : List AlertaCliente) : Prop where
  enTabla : ∀ x ∈ l, x.alerta ∈ s.alerta.rows ∧ x.severidad = x.alerta.severity
  distintas : (l.map AlertaCliente.alerta).Nodup
  cumplen : ∀ x ∈ l, params.cumple x.alerta = true
  orden : l.Pairwise fun x y => descNullsLast x.alerta.createdAt y.alerta.createdAt
  cuantas : l.length = min params.limite (s.alerta.rows.filter params.cumple).length
  /-- for a pattern it is the list of `GET /alerts/chilecompra`, asked with the limit 500 when there is
  none: the default of that handler is 50 -/
  chilecompra : conTexto params.patron = true → ∃ rows,
    Prog.run (exec M) (alertsChilecompra params.patron params.fuente params.limite) s =
      (.ok (rows, rows.length), s) ∧ SalvoEmpates (l.map AlertaCliente.alerta) rows

/-- every alert with fewer than 500 later ones satisfies the filters, and the limit is not below the
500 or the number of alerts -/
def NadaQueFiltrar (s : Db) (params : AlertsParams) : Prop :=
  (∀ a ∈ s.alerta.rows, (s.alerta.rows.filter fun b =>
      decide (¬ descNullsLast a.createdAt b.createdAt)).length < 500 → params.cumple a = true) ∧
    min 500 s.alerta.rows.length ≤ params.limite

instance (s : Db) (params : AlertsParams) : Decidable (NadaQueFiltrar s params) := by
  unfold NadaQueFiltrar; infer_instance

section
variable {M : Motor} {s : Db} {params : AlertsParams}

theorem run_fetchAlerts (params : AlertsParams) :
    Prog.run (exec M) (fetchAlerts params) s =
      (.ok ⟨((porHora M s.alerta.rows).take 500).map alertaCliente,
        ((porHora M s.alerta.rows).take 500).length⟩, s) :=
  Prog.run_bind_ok _ (run_consulta (q := .alertas500) rfl)

theorem run_alertsChilecompra (patron fuente : Option String) (limit : Nat) :
    ∃ rows, Prog.run (exec M) (alertsChilecompra patron fuente limit) s =
        (.ok (rows, rows.length), s) ∧
      rows = (porHora M (s.alerta.rows.filter fun a => decide (a.patron ≠ none) &&
        filtro patron a.patron && filtro fuente a.fuente)).take limit := by
  have hq : filas M s (.alertasChile patron fuente limit) =
      .ok ((porHora M (s.alerta.rows.filter fun a => decide (a.patron ≠ none) &&
        filtro patron a.patron && filtro fuente a.fuente)).take limit) := by
    have hpos : ¬ (limit : Int) < 0 := by omega
    exact @if_neg _ _ hpos _ (Except.error Error.negativeLimit) _
  exact ⟨_, Prog.run_bind_ok _ (run_consulta hq), rfl⟩

theorem filter_cumple (hp : conTexto params.patron = true) :
    (s.alerta.rows.filter fun a => decide (a.patron ≠ none) && filtro params.patron a.patron &&
      filtro params.fuente a.fuente) = s.alerta.rows.filter params.cumple := by
  refine List.filter_congr fun a _ => ?_
  unfold AlertsParams.cumple
  cases hpat : params.patron with
  | none =>
    rw [hpat] at hp
    cases hp
  | some t =>
    rw [hpat] at hp
    have ht : t ≠ "" := by simpa [conTexto] using hp
    cases a.patron <;> simp [filtro, ht]

theorem pairwise_orden (l : List Alerta) :
    (porHora M l).Pairwise fun a b => descNullsLast a.createdAt b.createdAt :=
  pairwise_descNullsLast Alerta.createdAt (M.orden l)

theorem exists_en_lista {a : Alerta} (ha : a ∈ s.alerta.rows)
    (h : (s.alerta.rows.filter fun b =>
      decide (¬ descNullsLast a.createdAt b.createdAt)).length < 500) :
    ∃ k, a ∈ (porHora (M.desde k) s.alerta.rows).take 500 := by
  obtain ⟨k, l', hk⟩ := Cut.exists_rotate_cons ha
  refine ⟨k, ?_⟩
  show a ∈ List.take 500 (List.insertionSort _ (List.rotate _ k))
  rw [hk]
  refine Cut.mem_take_of_few (lt_of_le_of_lt ?_ h)
  rw [← ((List.rotate_perm s.alerta.rows k).filter _).length_eq, hk]
  exact ((List.sublist_cons_self a l').filter _).length_le

theorem few_of_en_lista {a : Alerta} (ha : a ∈ (porHora M s.alerta.rows).take 500) :
    (s.alerta.rows.filter fun b =>
      decide (¬ descNullsLast a.createdAt b.createdAt)).length < 500 := by
  rw [← ((perm_porHora (M := M) s.alerta.rows).filter _).length_eq]
  exact Cut.few_of_mem_take (pairwise_orden _) ((descNullsLast_total _ _).elim id id) ha

theorem length_en_lista (M : Motor) (s : Db) :
    ((porHora M s.alerta.rows).take 500).length = min 500 s.alerta.rows.length := by
  rw [List.length_take, (perm_porHora _).length_eq]

theorem exists_fetchAlerts {P : List AlertaCliente → Prop} :
    (∃ r, Prog.run (exec M) (fetchAlerts params) s = (.ok r, s) ∧
      r.count = r.alertas.length ∧ P r.alertas) ↔
    P (((porHora M s.alerta.rows).take 500).map alertaCliente) := by
  have hrun := run_fetchAlerts (M := M) (s := s) params
  constructor
  · rintro ⟨r, hr, -, hP⟩
    obtain rfl := Except.ok.inj (congrArg Prod.fst (hr.symm.trans hrun))
    exact hP
  · exact fun hP => ⟨_, hrun, (List.length_map _).symm, hP⟩

theorem map_alertaCliente (l : List Alerta) :
    (l.map alertaCliente).map AlertaCliente.alerta = l := by
  rw [List.map_map]
  exact List.map_id' _

/-- the list holds `min 500 n` alerts; where all of them satisfy the filters, so many are filtered -/
theorem cuantas_of_cumplen (hlim : params.limite ≤ 500)
    (hcorte : min 500 s.alerta.rows.length ≤ params.limite)
    (hall : ∀ a ∈ (porHora M s.alerta.rows).take 500, params.cumple a = true) :
    min 500 s.alerta.rows.length =
      min params.limite (s.alerta.rows.filter params.cumple).length := by
  have h1 : ((porHora M s.alerta.rows).take 500).length ≤
      (s.alerta.rows.filter params.cumple).length := by
    rw [← ((perm_porHora (M := M) s.alerta.rows).filter _).length_eq,
      ← List.filter_eq_self.mpr hall]
    exact ((List.take_sublist _ _).filter _).length_le
  have h2 : (s.alerta.rows.filter params.cumple).length ≤ s.alerta.rows.length :=
    List.length_filter_le _ _
  rw [length_en_lista] at h1
  omega

theorem take_limite (hlim : params.limite ≤ 500)
    (hcorte : min 500 s.alerta.rows.length ≤ params.limite) :
    (porHora M s.alerta.rows).take 500 = (porHora M s.alerta.rows).take params.limite := by
  have hn : (porHora M s.alerta.rows).length = s.alerta.rows.length := (perm_porHora _).length_eq
  rcases Nat.lt_or_ge s.alerta.rows.length 500 with hlt | hge
  · rw [List.take_of_length_le (by omega), List.take_of_length_le (by omega)]
  · congr 1
    omega

/-- two queries that order their ties in their own way, the second one with the filters -/
theorem salvoEmpates_take {t t' : List Alerta} {p : Alerta → Bool} {n : Nat}
    (ht : t.Pairwise fun a b => descNullsLast a.createdAt b.createdAt)
    (ht' : t'.Pairwise fun a b => descNullsLast a.createdAt b.createdAt)
    (hperm : t'.Perm (t.filter p)) (hp : ∀ a ∈ t.take n, p a = true) :
    SalvoEmpates (t.take n) (t'.take n) := by
  have hanti : ∀ a b : Option Nat, descNullsLast a b → descNullsLast b a → a = b :=
    fun a b => descNullsLast_antisymm
  have hrefl : ∀ a : Option Nat, descNullsLast a a :=
    fun a => (descNullsLast_total a a).elim id id
  have hkeys := Cut.map_take_of_filter hanti ht ht' hperm hp
  refine ⟨hkeys.symm, fun a ha => ?_, fun a ha => ?_⟩
  · have ha' : a ∈ t' :=
      hperm.mem_iff.mpr (List.mem_filter.mpr ⟨List.mem_of_mem_take ha, hp a ha⟩)
    exact or_iff_not_imp_left.mpr (Cut.eq_key_last hrefl hanti ht' hkeys ha ha')
  · have ha' : a ∈ t := (List.mem_filter.mp (hperm.mem_iff.mp (List.mem_of_mem_take ha))).1
    rw [← hkeys]
    exact or_iff_not_imp_left.mpr (Cut.eq_key_last hrefl hanti ht hkeys.symm ha ha')

theorem filtrada_of_nadaQueFiltrar (M : Motor) (hlim : params.limite ≤ 500)
    (h : NadaQueFiltrar s params) :
    Filtrada M s params (((porHora M s.alerta.rows).take 500).map alertaCliente) := by
  obtain ⟨hcum, hcorte⟩ := h
  have hmem : ∀ a ∈ (porHora M s.alerta.rows).take 500, a ∈ s.alerta.rows := fun a ha =>
    (perm_porHora (M := M) _).mem_iff.mp (List.mem_of_mem_take ha)
  have hall : ∀ a ∈ (porHora M s.alerta.rows).take 500, params.cumple a = true := fun a ha =>
    hcum a (hmem a ha) (few_of_en_lista ha)
  have hnd : ((porHora M s.alerta.rows).take 500).Nodup :=
    ((perm_porHora (M := M) _).nodup_iff.mpr (List.Nodup.of_map _ s.alerta.nodup)).sublist
      (List.take_sublist _ _)
  have hcut := take_limite (M := M) hlim hcorte
  refine ⟨?_, ?_, ?_, ?_, ?_, fun hp => ?_⟩
  · rw [List.forall_mem_map]
    exact fun a ha => ⟨hmem a ha, rfl⟩
  · rwa [map_alertaCliente]
  · rwa [List.forall_mem_map]
  · exact List.pairwise_map.mpr ((pairwise_orden _).sublist (List.take_sublist _ _))
  · rw [List.length_map, length_en_lista, cuantas_of_cumplen hlim hcorte hall]
  · obtain ⟨rows, hrun, hrows⟩ := run_alertsChilecompra (M := M) (s := s) params.patron
      params.fuente params.limite
    refine ⟨rows, hrun, ?_⟩
    rw [filter_cumple hp] at hrows
    rw [map_alertaCliente, hrows, hcut]
    rw [hcut] at hall
    exact salvoEmpates_take (pairwise_orden _) (pairwise_orden _)
      ((perm_porHora _).trans ((perm_porHora _).symm.filter _)) hall

/-- **When the list of alerts is the filtered one.** -/
theorem filtrada_iff (s : Db) {params : AlertsParams} (hlim : params.limite ≤ 500) :
    (∀ M : Motor, ∃ r, Prog.run (exec M) (fetchAlerts params) s = (.ok r, s) ∧
      r.count = r.alertas.length ∧
      Filtrada M s params r.alertas) ↔ NadaQueFiltrar s params := by
  constructor
  · refine fun h => ⟨fun a ha hfew => ?_, ?_⟩
    · -- some order of the engine puts `a` in the list
      obtain ⟨k, hk⟩ := exists_en_lista (M := motorConcreto) ha hfew
      exact (exists_fetchAlerts.mp (h (motorConcreto.desde k))).cumplen _ (List.mem_map_of_mem hk)
    · have hc := (exists_fetchAlerts.mp (h motorConcreto)).cuantas
      rw [List.length_map, length_en_lista] at hc
      omega
  · exact fun h M => exists_fetchAlerts.mpr (filtrada_of_nadaQueFiltrar M hlim h)

end

/-! ## concrete requests -/

theorem filtrada_recurrente :
    ∃ r, Prog.run (exec motorConcreto) (fetchAlerts ⟨some "recurrente", none, none⟩)
        tiendaRecurrente = (.ok r, tiendaRecurrente) ∧ r.count = r.alertas.length ∧
      Filtrada motorConcreto tiendaRecurrente ⟨some "recurrente", none, none⟩ r.alertas :=
  (filtrada_iff tiendaRecurrente (by decide)).mpr
    (by decide +kernel) motorConcreto

/-- **The request of one pattern gets the alerts of another.** -/
theorem filtro_ignorado :
    ∃ r, Prog.run (exec motorConcreto) (fetchAlerts ⟨some "multi-org", none, none⟩)
        tiendaRecurrente = (.ok r, tiendaRecurrente) ∧
      ¬ Filtrada motorConcreto tiendaRecurrente ⟨some "multi-org", none, none⟩ r.alertas := by
  refine ⟨_, run_fetchAlerts _, fun h => ?_⟩
  have hlen : ((porHora motorConcreto tiendaRecurrente.alerta.rows).take 500).length = 1 := by
    decide +kernel
  have hninguna : (tiendaRecurrente.alerta.rows.filter
      (AlertsParams.cumple ⟨some "multi-org", none, none⟩)).length = 0 := by decide +kernel
  have hc := h.cuantas
  rw [List.length_map, hlen, hninguna] at hc
  exact absurd hc (by decide)

end Fractura
