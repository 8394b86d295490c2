import Fractura.Lib.Cut
import Fractura.Lib.Latest
import Fractura.Paginas.Vecinos

/-!
# The filters of the graph

A call to the graph may give a node, a `fuente` and a limit.  The contracts behind its links should
satisfy all of them (`cumple`), and be as many as the limit allows (`Honra`).  `filtros_iff`: they do,
in whatever order the engine returns the rows, exactly when `FiltrosJuntos` holds, a condition on the
contracts of the node.
-/

namespace Fractura

open Db KeyTable

/-! ## the order of the rows -/

/-- an engine that returns the rows that ask for no order from the `k`-th one on -/
def Motor.desde (M : Motor) (k : Nat) : Motor :=
  { M with
    orden := fun l => l.rotate k
    orden_perm := fun l => List.rotate_perm l k }

/-! ## what a call should select -/

/-- the contract has the node as its buyer or as its supplier, and is of the `fuente`; a parameter
that is absent or empty is no filter -/
def cumple (nodeId fuente : Option String) (c : Contrato) : Bool :=
  (!conTexto nodeId || participa (nodeId.getD "") c) && filtro fuente c.fuente

/-- the rows of the link query honour the filters -/
structure Honra (s : Db) (nodeId fuente : Option String) (limit : Nat) (links : List FilaEnlace) :
    Prop where
  cumplen : ∀ l ∈ links, ∃ c ∈ s.contrato.rows, enlace c = l ∧ cumple nodeId fuente c = true
  cuantos : links.length = min limit (s.contrato.rows.filter (cumple nodeId fuente)).length
  distintos : (links.map FilaEnlace.id).Nodup

/-- when a node is given: every contract in which it has the role that the call looks it up in is of
the `fuente`, and there is no other contract of the `fuente` that it takes part in, or the first ones
fill the limit -/
def FiltrosJuntos (s : Db) (nodeId fuente : Option String) (limit : Nat) : Prop :=
  ∀ x ∈ nodeId, x ≠ "" →
    (∀ c ∈ s.contrato.rows, lado s x c = true → filtro fuente c.fuente = true) ∧
    ((∀ c ∈ s.contrato.rows, participa x c = true → filtro fuente c.fuente = true →
        lado s x c = true) ∨
      limit ≤ (s.contrato.rows.filter (lado s x)).length)

section
variable {M : Motor} {s : Db} {nodeId fuente : Option String} {limit : Nat}

theorem donde_sin_nodo (h : conTexto nodeId = false) :
    donde s nodeId fuente = some (cumple nodeId fuente) := by
  have hno : ¬ conTexto nodeId = true := fun hc => absurd (h.symm.trans hc) (by decide)
  unfold donde cumple
  rw [if_neg hno, h]
  cases fuente with
  | none => rfl
  | some f =>
    by_cases hf : f = ""
    · subst hf
      rfl
    · have hc : conTexto (some f) = true := by simp [conTexto, hf]
      rw [if_pos hc]
      simp [filtro, hf]

theorem donde_nodo {x : String} (hx : x ≠ "") (hk : x ∈ s.organismo.keys ∨ x ∈ s.empresa.keys) :
    donde s (some x) fuente = some (lado s x) := by
  have hc : conTexto (some x) = true := by simp [conTexto, hx]
  have hlado : lado s x = if x ∈ s.organismo.keys then fun c => decide (c.organismoId = some x)
      else fun c => decide (c.proveedorId = some x) := by
    funext c
    unfold lado
    split <;> rfl
  unfold donde
  rw [if_pos hc, Option.getD_some, hlado]
  by_cases ho : x ∈ s.organismo.keys
  · rw [if_pos ho, if_pos ho]
  · rw [if_neg ho, if_neg ho, if_pos (hk.resolve_left ho)]

theorem nodup_enlaces (p : Contrato → Bool) :
    (((s.contrato.rows.filter p).map enlace).map FilaEnlace.id).Nodup := by
  rw [List.map_map]
  exact s.contrato.nodup.sublist (List.filter_sublist.map _)

theorem enlacesDe_eq (p : Contrato → Bool) :
    enlacesDe M s p limit = (M.orden ((s.contrato.rows.filter p).map enlace)).take limit := by
  unfold enlacesDe
  rw [List.dedup_eq_self.mpr (List.Nodup.of_map _ (nodup_enlaces p))]

theorem length_enlacesDe (p : Contrato → Bool) :
    (enlacesDe M s p limit).length = min limit (s.contrato.rows.filter p).length := by
  rw [enlacesDe_eq, List.length_take, (M.orden_perm _).length_eq, List.length_map]

theorem exists_enlacesDe {p : Contrato → Bool} (hl : 0 < limit) {c : Contrato}
    (hc : c ∈ s.contrato.rows) (hp : p c = true) :
    ∃ k, enlace c ∈ enlacesDe (M.desde k) s p limit := by
  have hm : enlace c ∈ (s.contrato.rows.filter p).map enlace :=
    List.mem_map_of_mem (List.mem_filter.mpr ⟨hc, hp⟩)
  obtain ⟨k, l', hk⟩ := Cut.exists_rotate_cons hm
  refine ⟨k, ?_⟩
  rw [enlacesDe_eq]
  show enlace c ∈ List.take limit (List.rotate _ k)
  obtain ⟨n, rfl⟩ : ∃ n, limit = n + 1 := ⟨limit - 1, by omega⟩
  rw [hk, List.take_succ_cons]
  exact List.mem_cons_self

/-- **A query that selects by `p` honours the filters**, in every order of its rows, exactly when what
it selects satisfies them and either it selects all of it or enough to fill the limit. -/
theorem honra_iff {p : Contrato → Bool} (hl : 0 < limit) :
    (∀ M : Motor, Honra s nodeId fuente limit (enlacesDe M s p limit)) ↔
      (∀ c ∈ s.contrato.rows, p c = true → cumple nodeId fuente c = true) ∧
      ((∀ c ∈ s.contrato.rows, cumple nodeId fuente c = true → p c = true) ∨
        limit ≤ (s.contrato.rows.filter p).length) := by
  refine ⟨fun h => ?_, fun h M => ?_⟩
  · have hsub : ∀ c ∈ s.contrato.rows, p c = true → cumple nodeId fuente c = true := by
      intro c hc hp
      obtain ⟨k, hk⟩ := exists_enlacesDe (M := motorConcreto) hl hc hp
      obtain ⟨c', hc', he, hcum⟩ := (h (motorConcreto.desde k)).cumplen _ hk
      rw [← s.contrato.eq_of_key hc' hc (congrArg FilaEnlace.id he)]
      exact hcum
    refine ⟨hsub, ?_⟩
    by_contra hno
    obtain ⟨hno, hlt⟩ := not_or.mp hno
    obtain ⟨c, hc, hcum, hp⟩ : ∃ c ∈ s.contrato.rows, cumple nodeId fuente c = true ∧ ¬ p c = true := by
      by_contra hall
      exact hno fun c hc hcum => by_contra fun hp => hall ⟨c, hc, hcum, hp⟩
    have hless : (s.contrato.rows.filter p).length <
        (s.contrato.rows.filter (cumple nodeId fuente)).length := by
      simpa only [Bool.decide_eq_true] using Latest.length_filter_lt (l := s.contrato.rows)
        (p := fun c => p c = true) (q := fun c => cumple nodeId fuente c = true) hsub hc hcum hp
    have hlen := (h motorConcreto).cuantos
    rw [length_enlacesDe] at hlen
    omega
  · obtain ⟨hsub, hall⟩ := h
    refine ⟨fun l hl => ?_, ?_, ?_⟩
    · obtain ⟨c, hc, hp, he⟩ := mem_enlacesDe hl
      exact ⟨c, hc, he, hsub c hc hp⟩
    · rw [length_enlacesDe]
      rcases hall with hall | hfull
      · have heq : s.contrato.rows.filter p = s.contrato.rows.filter (cumple nodeId fuente) :=
          List.filter_congr fun c hc => Bool.eq_iff_iff.mpr ⟨hsub c hc, hall c hc⟩
        rw [heq]
      · have hle : (s.contrato.rows.filter p).length ≤
            (s.contrato.rows.filter (cumple nodeId fuente)).length := by
          simpa only [Bool.decide_eq_true] using Latest.length_filter_le (l := s.contrato.rows)
            (p := fun c => p c = true) (q := fun c => cumple nodeId fuente c = true) hsub
        omega
    · rw [enlacesDe_eq]
      refine List.Nodup.sublist ((List.take_sublist _ _).map _) ?_
      exact ((M.orden_perm _).map _).nodup_iff.mpr (nodup_enlaces p)

/-- **When the graph honours all its filters together.** -/
theorem filtros_iff (s : Db) {nodeId fuente : Option String} {limit : Nat} (hl : 0 < limit)
    (hnodo : ∀ x ∈ nodeId, x ≠ "" → x ∈ s.organismo.keys ∨ x ∈ s.empresa.keys) :
    (∀ M : Motor, ∃ p g, donde s nodeId fuente = some p ∧
      Prog.run (exec M) (graphChilecompra nodeId limit fuente) s = (.ok g, s) ∧
      g.links = (enlacesDe M s p limit).map graphLink ∧
      Honra s nodeId fuente limit (enlacesDe M s p limit)) ↔
        FiltrosJuntos s nodeId fuente limit := by
  have hdonde : ∃ p, donde s nodeId fuente = some p ∧
      (((∀ c ∈ s.contrato.rows, p c = true → cumple nodeId fuente c = true) ∧
        ((∀ c ∈ s.contrato.rows, cumple nodeId fuente c = true → p c = true) ∨
          limit ≤ (s.contrato.rows.filter p).length)) ↔ FiltrosJuntos s nodeId fuente limit) := by
    by_cases hx : ∃ x ∈ nodeId, x ≠ ""
    · obtain ⟨x, hx, h0⟩ := hx
      obtain rfl : nodeId = some x := hx
      have hcum (c : Contrato) : cumple (some x) fuente c = (participa x c && filtro fuente c.fuente) := by
        simp [cumple, conTexto, h0]
      refine ⟨lado s x, donde_nodo h0 (hnodo x rfl h0), ?_⟩
      unfold FiltrosJuntos
      simp only [Option.mem_some_iff, forall_eq', h0, ne_eq, not_false_eq_true, forall_const, hcum,
        Bool.and_eq_true, and_imp]
      refine and_congr_left' (forall_congr' fun c => forall_congr' fun _ => ?_)
      exact forall_congr' fun hp => and_iff_right (participa_of_lado hp)
    · have hno : conTexto nodeId = false := by
        cases nodeId with
        | none => rfl
        | some x => simpa [conTexto] using hx
      refine ⟨_, donde_sin_nodo hno, iff_of_true ⟨fun c _ hc => hc, Or.inl fun c _ hc => hc⟩ ?_⟩
      exact fun x hxm h0 => absurd ⟨x, hxm, h0⟩ hx
  obtain ⟨p, hp, hiff⟩ := hdonde
  rw [← hiff, ← honra_iff hl]
  refine forall_congr' fun M => ⟨fun h => ?_, fun h => ?_⟩
  · obtain ⟨p', -, hp', -, -, h⟩ := h
    obtain rfl : p = p' := Option.some.inj (hp.symm.trans hp')
    exact h
  · refine ⟨p, grafoDe M s (enlacesDe M s p limit), hp, ?_, rfl, h⟩
    rw [run_graphChilecompra, hp]

end

/-! ## concrete calls -/

/-- May with one supplier, and June with another one -/
def tiendaDosProveedores : Db :=
  trasCarga 2024 6 [.orden "2-OC" "1.000.000" "2024-06-01" "61-K" "77-K" "" "Otra"]
    (trasCarga 2024 5 compraMayo .empty)

/-- a supplier of May without any other role, and the `fuente` of May -/
theorem filtros_acme :
    ∃ p g, donde tiendaDosProveedores (some "76-K") (some "chilecompra_oc_2024-05") = some p ∧
      Prog.run (exec motorConcreto) (graphChilecompra (some "76-K") 200
        (some "chilecompra_oc_2024-05")) tiendaDosProveedores = (.ok g, tiendaDosProveedores) ∧
      g.links = (enlacesDe motorConcreto tiendaDosProveedores p 200).map graphLink ∧
      Honra tiendaDosProveedores (some "76-K") (some "chilecompra_oc_2024-05") 200
        (enlacesDe motorConcreto tiendaDosProveedores p 200) := by
  have hkey : "76-K" ∈ tiendaDosProveedores.empresa.keys := by decide
  have hacme : FiltrosJuntos tiendaDosProveedores (some "76-K") (some "chilecompra_oc_2024-05") 200 := by
    intro x hx _
    obtain rfl : "76-K" = x := Option.some.inj hx
    exact ⟨by decide, Or.inl (by decide)⟩
  exact (filtros_iff tiendaDosProveedores (by decide) fun x hx _ => Option.some.inj hx ▸
    Or.inr hkey).mpr hacme motorConcreto

/-- **A node with a `fuente`**: the call for June returns the purchases of both months. -/
theorem filtros_fuente_perdida :
    Alcanzable motorConcreto tiendaCompartida ∧ "61-K" ∈ tiendaCompartida.organismo.keys ∧
    ∃ p g, donde tiendaCompartida (some "61-K") (some "chilecompra_oc_2024-06") = some p ∧
      Prog.run (exec motorConcreto)
        (graphChilecompra (some "61-K") 200 (some "chilecompra_oc_2024-06")) tiendaCompartida =
          (.ok g, tiendaCompartida) ∧
      g.links = (enlacesDe motorConcreto tiendaCompartida p 200).map graphLink ∧
      ¬ Honra tiendaCompartida (some "61-K") (some "chilecompra_oc_2024-06") 200
        (enlacesDe motorConcreto tiendaCompartida p 200) := by
  have halc : Alcanzable motorConcreto tiendaCompartida :=
    .paso (.cargar 2024 6 0 (.csv compraJunio)) (.paso (.cargar 2024 5 0 (.csv compraMayo)) .vacio)
  have hkey : "61-K" ∈ tiendaCompartida.organismo.keys := by decide +kernel
  have hdonde : donde tiendaCompartida (some "61-K") (some "chilecompra_oc_2024-06") =
      some (lado tiendaCompartida "61-K") := donde_nodo (by decide) (Or.inl hkey)
  refine ⟨halc, hkey, _, grafoDe motorConcreto tiendaCompartida
    (enlacesDe motorConcreto tiendaCompartida (lado tiendaCompartida "61-K") 200), hdonde, ?_, rfl, ?_⟩
  · rw [run_graphChilecompra, hdonde]
  · intro h
    have hdos : (enlacesDe motorConcreto tiendaCompartida (lado tiendaCompartida "61-K") 200).length ≠
        min 200 (tiendaCompartida.contrato.rows.filter
          (cumple (some "61-K") (some "chilecompra_oc_2024-06"))).length := by decide +kernel
    exact hdos h.cuantos

end Fractura
