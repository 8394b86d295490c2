import Fractura.Cliente.Hooks
import Fractura.Http.Viaje

/-!
# What the pages show, and the server

The components of `Hooks` with answers that come from the server: a fetch fails, or it brings what the
handler of its request returns, run alone at one of the stores of the processes.

* `pagina_mostrada`   the page of a node shows, at rest, the page of the node in its path;
* `grafo_mostrado`    the graph shows, at rest, the graph of its options.
-/

namespace Fractura

open Db Requests

/-! ## answers -/

section
variable {χ : Type}

/-- what a fetch of a URL may bring: a failure, or the response of the request that the URL comes to, which
the client reads with `lee`; what a redirected fetch brings is left open.  The handler of the request runs
alone, at one store: a server that mixes the rows of its requests also gives other answers. -/
inductive Contesta (M : Motor) (f : Marco) (lee : Respuesta → Option χ) (url : List Char) :
    Resultado χ → Prop where
  | falla (message : Option String) : Contesta M f lee url (.error message)
  | responde {r : Request} {t : Db} {y : Respuesta} {x : χ} (hr : f.entrega .get url = .request r)
      (ht : Servida M t) (hrun : Prog.run (exec M) (handler M r) t = (.ok y, t)) (hx : lee y = some x) :
      Contesta M f lee url (.ok x)
  | redirige {path : List Char} (hr : f.entrega .get url = .redirect path) (res : Resultado χ) :
      Contesta M f lee url res

def leeEntidad : Respuesta → Option EntityResponse
  | .entidad e => some e
  | _ => none

def leeGrafo : Respuesta → Option Graph
  | .grafo g => some g
  | _ => none

/-- every answer that arrives suits its request -/
def Contestada {ο ρ : Type} (C : ρ → Resultado χ → Prop) (e : Evento ο χ) (s : Estado ο ρ χ) : Prop :=
  ∀ i res, e = .completa i res → ∀ p, s.peticiones[i]? = some p → C p.params res

end

/-! ## any component -/

section
variable {ο ρ χ : Type} [DecidableEq ο] {peticion : ο → Option ρ} {mensaje : Option String → String}
  {C : ρ → Resultado χ → Prop}

theorem suits_paso {e : Evento ο χ} {s t : Estado ο ρ χ} (h : Suits C s.peticiones)
    (he : Contestada C e s) (ht : paso peticion mensaje e s = some t) : Suits C t.peticiones := by
  cases e with
  | cambio o =>
    obtain rfl := Option.some.inj ht
    exact h
  | efecto =>
    obtain rfl := Option.some.inj ht
    unfold Estado.correr
    split
    · show Suits C s.limpiar.peticiones
      rw [limpiar_peticiones]
      exact h
    · rename_i q _
      show Suits C (issue s.limpiar.peticiones q)
      rw [limpiar_peticiones]
      exact h.issue q
  | completa i res =>
    obtain ⟨l, hl, rfl⟩ := Option.map_eq_some_iff.mp ht
    exact h.complete hl fun p hp => he i res rfl p hp

/-- **What a component shows at rest** is an answer to the request of its options. -/
theorem exists_mostrado {opts : ο} {es : List (Evento ο χ)} {s : Estado ο ρ χ}
    (hs : (hook peticion mensaje opts).after es = some s)
    (hC : (hook peticion mensaje opts).Steps (Contestada C) es) (hrun : s.porCorrer = false)
    (hload : s.pantalla.loading = false) (herror : s.pantalla.error = none) {q : ρ}
    (hq : peticion s.opts = some q) : ∃ x, s.pantalla.data = some x ∧ C q (.ok x) := by
  have hsuits : Suits C s.peticiones :=
    Machine.keeps_of_steps (I := fun _ s => Suits C s.peticiones) (fun p hp => absurd hp List.not_mem_nil)
      (fun e _ s t h he ht => suits_paso h he ht) hC hs
  have hultima := soloLaUltima_hook hs
  obtain ⟨p, res, hp, hres, hmuestra⟩ := hultima.enReposo hload
  obtain ⟨p', hp', rfl⟩ := hultima.corriente hrun q hq
  obtain rfl := Option.some.inj (hp.symm.trans hp')
  cases res with
  | ok x => exact ⟨x, hmuestra.2, hsuits.latest hp hres⟩
  | error m =>
    have hsome : s.pantalla.error = some (mensaje m) := hmuestra
    rw [herror] at hsome
    cases hsome

end

/-! ## `NodeView` and `useGraph` -/

section
variable {M : Motor} {f : Marco}

theorem contesta_request {χ : Type} {lee : Respuesta → Option χ} {url : List Char} {x : χ} {r : Request}
    (hr : f.entrega .get url = .request r) (h : Contesta M f lee url (.ok x)) :
    ∃ t y, Servida M t ∧ Prog.run (exec M) (handler M r) t = (.ok y, t) ∧ lee y = some x := by
  cases h with
  | responde hr' ht hrun hx =>
    obtain rfl := Entrega.request.inj (hr.symm.trans hr')
    exact ⟨_, _, ht, hrun, hx⟩
  | redirige hr' =>
    rw [hr] at hr'
    cases hr'

theorem contesta_estado {χ : Type} {lee : Respuesta → Option χ} {url : List Char} {x : χ} {n : ℕ}
    (hr : f.entrega .get url = .estado n) : ¬ Contesta M f lee url (.ok x) := by
  intro h
  cases h with
  | responde hr' => rw [hr] at hr'; cases hr'
  | redirige hr' => rw [hr] at hr'; cases hr'

theorem run_wrap {α : Type} {p : Prg α} {g : α → Respuesta} {y : Respuesta} {t : Db}
    (h : Prog.run (exec M) (p.bind fun a => .ret (g a)) t = (.ok y, t)) :
    ∃ a, Prog.run (exec M) p t = (.ok a, t) ∧ y = g a := by
  obtain ⟨a, u, ha, hret⟩ := Prog.run_bind_inv (exec M) h
  obtain ⟨hy, hu⟩ := Prod.mk.inj hret
  subst hu
  exact ⟨a, ha, (Except.ok.inj hy).symm⟩

theorem contesta_entidad {x : String} {e : EntityResponse} (hb : ¬ ConBarras x.toList)
    (h : Contesta M f leeEntidad (urlEntidad x) (.ok e)) :
    ∃ t, Servida M t ∧ Prog.run (exec M) (getEntity x) t = (.ok e, t) := by
  have hentrega := entrega_fetchEntity f x
  by_cases hx : EnRuta x
  · rw [if_pos hx] at hentrega
    obtain ⟨t, y, ht, hrun, hlee⟩ := contesta_request hentrega h
    obtain ⟨e', he', rfl⟩ := run_wrap (p := getEntity x) (g := .entidad) hrun
    exact ⟨t, ht, Option.some.inj hlee ▸ he'⟩
  · rw [if_neg hx, if_neg hb] at hentrega
    exact absurd h (contesta_estado hentrega)

theorem contesta_grafo {nodeId fuente : Option String} {n : ℕ} {g : Graph}
    (h : Contesta M f leeGrafo (buildUrl (fetchGraph nodeId n fuente)) (.ok g)) :
    (1 ≤ n ∧ n ≤ 500) ∧ ∃ t, Servida M t ∧
      Prog.run (exec M) (graphChilecompra nodeId n fuente) t = (.ok g, t) := by
  have hentrega := entrega_fetchGraph f nodeId fuente n
  by_cases hn : 1 ≤ n ∧ n ≤ 500
  · rw [if_pos hn] at hentrega
    obtain ⟨t, y, ht, hrun, hlee⟩ := contesta_request hentrega h
    rw [handler_filter] at hrun
    obtain ⟨g', hg', rfl⟩ := run_wrap (p := graphChilecompra nodeId n fuente) (g := .grafo) hrun
    exact ⟨hn, t, ht, Option.some.inj hlee ▸ hg'⟩
  · rw [if_neg hn] at hentrega
    exact absurd h (contesta_estado hentrega)

/-- **What the page of a node shows**: when every answer comes from the server, the page at rest and
without an error is that of the node in the path, in whatever order the answers came. -/
theorem pagina_mostrada {nodeId : Option String} {es : List (Evento (Option String) EntityResponse)}
    {s : Estado (Option String) String EntityResponse} (hs : (nodeView nodeId).after es = some s)
    (hC : (nodeView nodeId).Steps
      (Contestada fun x => Contesta M f leeEntidad (urlEntidad x)) es) (hrun : s.porCorrer = false)
    (hload : s.pantalla.loading = false) (herror : s.pantalla.error = none) {x : String} (h0 : x ≠ "")
    (hx : s.opts = some x) (hb : ¬ ConBarras x.toList) :
    ∃ e t, s.pantalla.data = some e ∧ e.id = x ∧ Servida M t ∧
      Prog.run (exec M) (getEntity x) t = (.ok e, t) := by
  have hq : pideEntidad s.opts = some x := by
    rw [hx]
    exact if_pos (decide_eq_true h0)
  obtain ⟨e, he, hcontesta⟩ := exists_mostrado hs hC hrun hload herror hq
  obtain ⟨t, ht, hget⟩ := contesta_entidad hb hcontesta
  exact ⟨e, t, he, (getEntity_ok ht.inv.textos hget).1, ht, hget⟩

/-- **What the graph shows**: when every answer comes from the server, the graph at rest and without an
error is that of the options, in whatever order the answers came. -/
theorem grafo_mostrado {opts : UseGraphOptions ℕ} {es : List (Evento (UseGraphOptions ℕ) Graph)}
    {s : Estado (UseGraphOptions ℕ) (Llamada ℕ) Graph} (hs : (useGraph opts).after es = some s)
    (hC : (useGraph opts).Steps (Contestada fun q => Contesta M f leeGrafo (buildUrl q)) es)
    (hrun : s.porCorrer = false) (hload : s.pantalla.loading = false)
    (herror : s.pantalla.error = none) :
    ∃ g t, s.pantalla.data = some g ∧ Servida M t ∧
      Prog.run (exec M) (graphChilecompra s.opts.nodeId (s.opts.limit.getD 200) s.opts.fuente) t =
        (.ok g, t) := by
  obtain ⟨g, hg, hcontesta⟩ := exists_mostrado hs hC hrun hload herror rfl
  obtain ⟨-, t, ht, hgraph⟩ := contesta_grafo hcontesta
  exact ⟨g, t, hg, ht, hgraph⟩

end

/-! ## a concrete visit -/

/-- a page of one node, then of another; the first answer comes last -/
theorem pagina_mostrada_vista : ∃ es s e, (nodeView (some "76-K")).after es = some s ∧
    s.opts = some "61-K" ∧ s.pantalla.data = some e ∧ e.id = "61-K" := by
  have hpagina {x : String} (hx : x ∈ tiendaVista.organismo.keys ∨ x ∈ tiendaVista.empresa.keys ∨
      x ∈ tiendaVista.contrato.keys) (hid : EnRuta x) :
      ∃ e, Contesta motorConcreto marcoConcreto leeEntidad (urlEntidad x) (.ok e) := by
    obtain ⟨fila, hf⟩ := exists_filaNodo hx
    obtain ⟨e, he, -⟩ := exists_pagina (M := motorConcreto) tiendaVista_servida.inv.textos hf
    exact ⟨e, .responde ((entrega_fetchEntity marcoConcreto x).trans (if_pos hid))
      tiendaVista_servida (Prog.run_bind_ok _ he) rfl⟩
  obtain ⟨e76, h76⟩ := hpagina (x := "76-K") (by decide +kernel) (by decide)
  obtain ⟨e61, h61⟩ := hpagina (x := "61-K") (by decide +kernel) (by decide)
  have hC : (nodeView (some "76-K")).Steps (Contestada fun x =>
      Contesta motorConcreto marcoConcreto leeEntidad (urlEntidad x))
      [.completa 0 (.ok e76), .completa 1 (.ok e61), .efecto, .cambio (some "61-K"), .efecto] := by
    refine ⟨⟨⟨⟨⟨trivial, ?_⟩, ?_⟩, ?_⟩, ?_⟩, ?_⟩ <;> intro s hs i res he p hp
    · cases he
    · cases he
    · cases he
    · cases he
      cases hs
      cases hp
      exact h61
    · cases he
      cases hs
      cases hp
      exact h76
  have hs : (nodeView (some "76-K")).after
      [.completa 0 (.ok e76), .completa 1 (.ok e61), .efecto, .cambio (some "61-K"), .efecto] = some _ := rfl
  obtain ⟨e, t, he, hid, -⟩ := pagina_mostrada hs hC rfl rfl rfl (x := "61-K") (by decide) rfl
    (by decide)
  exact ⟨_, _, e, hs, rfl, he, hid⟩

/-- the options of the landing page -/
def sinOpciones : UseGraphOptions ℕ := ⟨none, none, none⟩

theorem grafo_mostrado_vista : ∃ es s g, (useGraph sinOpciones).after es = some s ∧
    s.pantalla.data = some g ∧ ∃ t, Servida motorConcreto t ∧
      Prog.run (exec motorConcreto) (graphChilecompra none 200 none) t = (.ok g, t) := by
  obtain ⟨g, hg⟩ : ∃ g, Prog.run (exec motorConcreto) (graphChilecompra none 200 none) tiendaVista =
      (.ok g, tiendaVista) := ⟨_, run_graphChilecompra none 200 none⟩
  have hgrafo : Contesta motorConcreto marcoConcreto leeGrafo (buildUrl (fetchGraph none 200 none))
      (.ok g) :=
    .responde ((entrega_fetchGraph marcoConcreto none none 200).trans (if_pos (by decide)))
      tiendaVista_servida (Prog.run_bind_ok _ hg) rfl
  have hC : (useGraph sinOpciones).Steps (Contestada fun q =>
      Contesta motorConcreto marcoConcreto leeGrafo (buildUrl q)) [.completa 0 (.ok g), .efecto] := by
    refine ⟨⟨trivial, ?_⟩, ?_⟩ <;> intro s hs i res he p hp
    · cases he
    · cases he
      cases hs
      cases hp
      exact hgrafo
  have hs : (useGraph sinOpciones).after [.completa 0 (.ok g), .efecto] = some _ := rfl
  obtain ⟨g', t, hg', ht, hrun⟩ := grafo_mostrado hs hC rfl rfl rfl
  exact ⟨_, _, g', hs, hg', t, ht, hrun⟩

end Fractura
