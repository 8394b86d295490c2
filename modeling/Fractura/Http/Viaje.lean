import Fractura.Http.Rutas
import Fractura.Paginas.Vistas

/-!
# Ids and parameters on their way

What of a call of the client reaches the backend, for every id and every parameter.

* `consulta_por_url`   the parameters of `fetchGraph` arrive as they were given;
* `nodos_por_url`      which nodes of a graph have a page, and that it is theirs;
* `alertas_por_url`    which alerts can be fetched one by one.
-/

namespace Fractura

open Db Percent

/-! ## ids in a path -/

section
variable (x : String)

theorem absent_barra : Absent sinReserva '/' := by decide

theorem absent_interrogacion : Absent sinReserva '?' := by decide

theorem decode_componente : decode (encodeURIComponent x) = bytes x.toList := by
  have hpct : sinReserva '%' = false := by decide
  have h := decode_encode hpct x.toList []
  rwa [List.append_nil, show decode [] = [] from rfl, List.append_nil] at h

theorem componente_mem_puntos : encodeURIComponent x ∈ puntos ↔ x = "." := by
  refine ⟨fun h => bytes_inj ?_, ?_⟩
  · have hdec : ∀ s ∈ puntos, decode s = bytes ".".toList := by decide
    rw [← decode_componente, hdec _ h]
  · rintro rfl
    decide

theorem componente_mem_doblesPuntos : encodeURIComponent x ∈ doblesPuntos ↔ x = ".." := by
  refine ⟨fun h => bytes_inj ?_, ?_⟩
  · have hdec : ∀ s ∈ doblesPuntos, decode s = bytes "..".toList := by decide
    rw [← decode_componente, hdec _ h]
  · rintro rfl
    decide

/-- a segment that the browser and the server leave as it is -/
def Segmento (s : List Char) : Prop :=
  '/' ∉ s ∧ s ∉ puntos ∧ s ∉ doblesPuntos ∧ '%' ∉ s ∧ '?' ∉ s

theorem segmento_entity : Segmento "entity".toList := by unfold Segmento; decide

theorem segmento_alerts : Segmento "alerts".toList := by unfold Segmento; decide

/-- the path that arrives for an id: the browser takes `.` and `..` away -/
def caminoDe (pre : List Char) (x : String) : List Char :=
  if x = ".." then ['/'] else if x = "." then pre else pre ++ x.toList

theorem urlPath_componente {s : List Char} (hs : Segmento s) :
    urlPath ('/' :: (s ++ ['/']) ++ encodeURIComponent x) =
      if x = ".." then ['/'] else if x = "." then '/' :: (s ++ ['/'])
      else '/' :: (s ++ ['/']) ++ encodeURIComponent x := by
  obtain ⟨hs, hp, hd, -, -⟩ := hs
  have hsplit : (('/' :: (s ++ ['/']) ++ encodeURIComponent x).drop 1).splitOn '/' =
      [s, encodeURIComponent x] := by
    have hmem : ∀ l ∈ [s, encodeURIComponent x], '/' ∉ l := by
      intro l hl
      rcases List.mem_pair.mp hl with rfl | rfl
      · exact hs
      · exact absent_barra.not_mem_encode _
    rw [← List.splitOn_intercalate '/' hmem (by simp)]
    simp [List.intercalate]
  unfold urlPath
  rw [hsplit, segmentos, if_neg hd, if_neg hp, segmentos]
  simp only [componente_mem_puntos, componente_mem_doblesPuntos]
  split
  · rfl
  · split <;> simp [List.intercalate]

variable (f : Marco)

theorem scope_componente (pre : List Char) (hp : '%' ∉ pre) (hq : '?' ∉ pre) :
    f.scope (pre ++ encodeURIComponent x) = ⟨String.ofList (pre ++ x.toList), []⟩ := by
  have hall : ∀ c ∈ pre ++ encodeURIComponent x, decide (c ≠ '?') = true := by
    intro c hc
    refine decide_eq_true ?_
    rintro rfl
    rcases List.mem_append.mp hc with hc | hc
    · exact hq hc
    · exact absent_interrogacion.not_mem_encode _ hc
  unfold Marco.scope
  rw [List.takeWhile_eq_self_iff.mpr hall, List.dropWhile_eq_nil_iff.mpr hall, decode_append hp,
    decode_componente, ← bytes_append]
  have hutf := utf8_bytes f.replaced (String.ofList (pre ++ x.toList))
  rw [String.toList_ofList] at hutf
  rw [hutf]
  rfl

theorem scope_id {s : List Char} (hs : Segmento s) :
    f.scope (target ('/' :: (s ++ ['/']) ++ encodeURIComponent x) []) =
      ⟨String.ofList (caminoDe ('/' :: (s ++ ['/'])) x), []⟩ := by
  have ⟨_, _, _, hpct, hq⟩ := hs
  unfold target caminoDe
  rw [if_pos rfl, urlPath_componente x hs]
  split
  · exact scope_componente "" f ['/'] (by decide) (by decide)
  · split
    · have h := scope_componente "" f ('/' :: (s ++ ['/'])) (by simp [hpct]) (by simp [hq])
      simpa [encodeURIComponent, encode] using h
    · exact scope_componente x f _ (by simp [hpct]) (by simp [hq])

end

/-! ## the ids that arrive -/

section
variable (f : Marco)

/-- an id that reaches its endpoint -/
def EnRuta (x : String) : Prop := x ≠ "" ∧ x ≠ "." ∧ x ≠ ".." ∧ '/' ∉ x.toList

instance (x : String) : Decidable (EnRuta x) := by unfold EnRuta; infer_instance

theorem entrega_id (x : String) {s : List Char} (hs : Segmento s) :
    f.entrega .get (target ('/' :: (s ++ ['/']) ++ encodeURIComponent x) []) =
      f.responde [] (Router.app .get (caminoDe ('/' :: (s ++ ['/'])) x)) := by
  unfold Marco.entrega
  rw [scope_id x f hs]
  dsimp only
  rw [String.toList_ofList]
  rfl

theorem enRuta_iff {x : String} (hd : x ≠ ".") (hdd : x ≠ "..") :
    EnRuta x ↔ x.toList ≠ [] ∧ '/' ∉ x.toList := by
  unfold EnRuta
  rw [ne_eq x.toList, String.toList_eq_nil_iff]
  exact ⟨fun h => ⟨h.1, h.2.2.2⟩, fun h => ⟨h.1, hd, hdd, h.2⟩⟩

/-- **What comes of `fetchEntity`**, for every id. -/
theorem entrega_fetchEntity (x : String) : f.entrega .get (urlEntidad x) =
    if EnRuta x then .request (.getEntity x)
    else if ConBarras x.toList then .redirect ("/entity/".toList ++ rstrip x.toList)
    else .estado 404 := by
  have hid := entrega_id f x segmento_entity
  rw [show '/' :: ("entity".toList ++ ['/']) = "/entity/".toList from rfl] at hid
  refine hid.trans ?_
  unfold caminoDe
  by_cases hdd : x = ".."
  · subst hdd
    rw [if_pos rfl, show Router.app .get ['/'] = .notFound by decide,
      if_neg (by decide), if_neg (by decide)]
    rfl
  · by_cases hd : x = "."
    · subst hd
      rw [if_neg hdd, if_pos rfl, show Router.app .get "/entity/".toList = .notFound by decide,
        if_neg (by decide), if_neg (by decide)]
      rfl
    · rw [if_neg hdd, if_neg hd, app_entity]
      by_cases h : EnRuta x
      · rw [if_pos h, if_pos ((enRuta_iff hd hdd).mp h), String.ofList_toList]
        rfl
      · rw [if_neg h, if_neg (mt (enRuta_iff hd hdd).mpr h)]
        split <;> rfl

/-- **What comes of `fetchAlertById`**, for every id but the two that the list of a pattern takes. -/
theorem entrega_fetchAlertById {x : String} (hx : x ≠ "chilecompra") (hn : x ≠ "chilecompra\n") :
    f.entrega .get (urlAlerta x) =
      if EnRuta x then .request (.getAlertById x)
      else if ConBarras x.toList then .redirect ("/alerts/".toList ++ rstrip x.toList)
      else if x = "." ∨ rstrip x.toList = [] then .redirect "/alerts".toList
      else .estado 404 := by
  have hid := entrega_id f x segmento_alerts
  rw [show '/' :: ("alerts".toList ++ ['/']) = "/alerts/".toList from rfl] at hid
  refine hid.trans ?_
  unfold caminoDe
  by_cases hdd : x = ".."
  · subst hdd
    rw [if_pos rfl, show Router.app .get ['/'] = .notFound by decide,
      if_neg (by decide), if_neg (by decide), if_neg (by decide)]
    rfl
  · by_cases hd : x = "."
    · subst hd
      rw [if_neg hdd, if_pos rfl,
        show Router.app .get "/alerts/".toList = .redirect "/alerts".toList by decide,
        if_neg (by decide), if_neg (by decide), if_pos (Or.inl rfl)]
      rfl
    · rw [if_neg hdd, if_neg hd,
        app_alerts (mt String.toList_inj.mp hx) (mt String.toList_inj.mp hn)]
      by_cases h : EnRuta x
      · rw [if_pos h, if_pos ((enRuta_iff hd hdd).mp h), String.ofList_toList]
        rfl
      · rw [if_neg h, if_neg (mt (enRuta_iff hd hdd).mpr h)]
        simp only [hd, false_or]
        split
        · rfl
        · split <;> rfl

/-! ## query strings -/

theorem form_enFormulario : Form enFormulario where
  percent := by decide
  plus := by decide
  amp := by decide
  eq := by decide

theorem queryParam_parametro (nodeId fuente : Option String) (n : ℕ) :
    let ps := (fetchGraph nodeId n fuente).params.map fun p => (p.1, p.2.elim toString id)
    queryParam ps "limit" = some (toString n) ∧
      queryParam ps "node_id" = nodeId.filter (fun x => decide (x ≠ "")) ∧
      queryParam ps "fuente" = fuente.filter fun x => decide (x ≠ "") := by
  unfold fetchGraph parametro queryParam
  cases nodeId.filter fun x => decide (x ≠ "") <;>
    cases fuente.filter fun x => decide (x ≠ "") <;>
    refine ⟨rfl, rfl, rfl⟩

theorem entrega_query (path : List Char) (ps : List (String × String)) (hurl : urlPath path = path)
    (hq : '?' ∉ path) (hpct : '%' ∉ path) (hps : ps ≠ []) :
    f.entrega .get (target path (query enFormulario ps)) =
      f.responde ps (Router.app .get path) := by
  have hne : query enFormulario ps ≠ [] := fun h => by
    have hparse := parse_query form_enFormulario f.replaced ps
    rw [h] at hparse
    exact hps hparse.symm
  unfold Marco.entrega Marco.scope target
  rw [if_neg hne, hurl, takeWhile_append_sep hq, dropWhile_append_sep hq]
  dsimp only
  rw [List.drop_one, List.tail_cons, parse_query form_enFormulario]
  have hdec := decode_append hpct []
  rw [List.append_nil, show decode [] = [] from rfl, List.append_nil] at hdec
  have hutf := utf8_bytes f.replaced (String.ofList path)
  rw [String.toList_ofList] at hutf
  rw [hdec, hutf, String.toList_ofList]

/-- **What comes of `fetchGraph`**: a request with the same parameters, when the limit is one of those
that the endpoint takes. -/
theorem entrega_fetchGraph (nodeId fuente : Option String) (n : ℕ) :
    f.entrega .get (buildUrl (fetchGraph nodeId n fuente)) =
      if 1 ≤ n ∧ n ≤ 500 then
        .request (.graphChilecompra (nodeId.filter fun x => decide (x ≠ "")) n
          (fuente.filter fun x => decide (x ≠ "")))
      else .estado 422 := by
  obtain ⟨hlimit, hnode, hfuente⟩ := queryParam_parametro nodeId fuente n
  have happ : Router.app .get "/graph/chilecompra".toList = .handle .graphChilecompra none := by
    decide
  have hentrega := entrega_query f "/graph/chilecompra".toList
    ((fetchGraph nodeId n fuente).params.map fun p => (p.1, p.2.elim toString id))
    (by decide) (by decide) (by decide) (List.cons_ne_nil _ _)
  rw [happ] at hentrega
  refine hentrega.trans ?_
  simp only [Marco.responde, Marco.llama, Marco.limite, Marco.enteroDe]
  rw [hlimit, hnode, hfuente]
  dsimp only
  rw [f.entero_toString]
  by_cases h : 1 ≤ n ∧ n ≤ 500
  · have hin : (some (n : ℤ)).filter (fun n => decide (1 ≤ n ∧ n ≤ 500)) = some (n : ℤ) :=
      if_pos (decide_eq_true (by omega))
    rw [if_pos h, hin]
    rfl
  · have hout : (some (n : ℤ)).filter (fun n => decide (1 ≤ n ∧ n ≤ 500)) = none :=
      if_neg (by rw [decide_eq_true_eq]; omega)
    rw [if_neg h, hout]

/-! ## the calls of the pages -/

variable {M : Motor} {s : Db}

/-- a parameter that is dropped is one that the handler ignores -/
theorem handler_filter (nodeId fuente : Option String) (n : ℕ) :
    handler M (.graphChilecompra (nodeId.filter fun x => decide (x ≠ "")) n
      (fuente.filter fun x => decide (x ≠ ""))) = handler M (.graphChilecompra nodeId n fuente) := by
  have hfiltro (v : Option String) : v.filter (fun x => decide (x ≠ "")) = v ∨
      v = some "" ∧ v.filter (fun x => decide (x ≠ "")) = none := by
    cases v with
    | none => exact .inl rfl
    | some x =>
      by_cases hx : x = ""
      · exact .inr ⟨congrArg some hx, if_neg (by simp [hx])⟩
      · exact .inl (if_pos (by simp [hx]))
  rcases hfiltro nodeId with h | ⟨rfl, h⟩
  · rcases hfiltro fuente with h' | ⟨rfl, h'⟩
    · rw [h, h']
    · rw [h, h']
      rfl
  · rw [h]
    rcases hfiltro fuente with h' | ⟨rfl, h'⟩
    · rw [h']
      rfl
    · rw [h']
      rfl

/-- **The parameters of a graph arrive as they were given**, for every id and every source, or the
limit is refused. -/
theorem consulta_por_url (f : Marco) (nodeId fuente : Option String) (n : ℕ) :
    (1 ≤ n ∧ n ≤ 500 → ∃ r, f.entrega .get (buildUrl (fetchGraph nodeId n fuente)) = .request r ∧
      handler M r = handler M (.graphChilecompra nodeId n fuente)) ∧
    (¬ (1 ≤ n ∧ n ≤ 500) →
      f.entrega .get (buildUrl (fetchGraph nodeId n fuente)) = .estado 422) := by
  rw [entrega_fetchGraph]
  refine ⟨fun h => ⟨_, if_pos h, handler_filter nodeId fuente n⟩, fun h => if_neg h⟩

/-- **The nodes of a graph and their pages**: a node opens its own page when its id has a route; without
one nothing is opened, or the id without the slashes at its end. -/
theorem nodos_por_url (f : Marco) (h : Servida M s) {nodeId fuente : Option String} {n : ℕ} {g : Graph}
    (hg : Prog.run (exec M) (graphChilecompra nodeId n fuente) s = (.ok g, s)) {nodo : GraphNode}
    (hn : nodo ∈ g.nodes) :
    (EnRuta nodo.id → f.entrega .get (urlEntidad nodo.id) = .request (.getEntity nodo.id) ∧
      ∃ e, Prog.run (exec M) (getEntity nodo.id) s = (.ok e, s) ∧ e.id = nodo.id ∧
        e.nombre = nodo.label ∧ e.tipo = nodo.tipo) ∧
    (¬ EnRuta nodo.id → f.entrega .get (urlEntidad nodo.id) =
      if ConBarras nodo.id.toList then .redirect ("/entity/".toList ++ rstrip nodo.id.toList)
      else .estado 404) := by
  rw [entrega_fetchEntity]
  refine ⟨fun hid => ⟨if_pos hid, ?_⟩, fun hid => if_neg hid⟩
  have htextos := h.inv.textos
  obtain ⟨fila, hfila, hnodo⟩ := Option.map_eq_some_iff.mp (nodo_de_grafo htextos hg hn)
  obtain ⟨e, he, hid', htipo, hnombre, -⟩ := exists_pagina (M := M) htextos hfila
  refine ⟨e, he, hid', ?_, ?_⟩
  · rw [← hnodo]
    show e.nombre = fila.nombre.getD ""
    rw [hnombre]
    rfl
  · rw [← hnodo]
    exact htipo

/-! ## the alerts one by one -/

theorem HechaPor.idRegla {g : String} {b : Alerta} (hb : HechaPor M g b) : EsIdRegla g b.id := by
  cases hb with
  | p1 r => exact esIdRegla_p1 g _
  | p2 r => exact esIdRegla_p2 g _ _
  | p3 r => exact esIdRegla_p3 g _

/-- **The ids of stored alerts**: a `p` and at the end the source, or those of the cases. -/
theorem id_alerta (h : Servida M s) {a : Alerta} (ha : a ∈ s.alerta.rows) :
    (a.patron ≠ none ∧ ∃ g, a.fuente = some g ∧ EsIdRegla g a.id) ∨
    (a.patron = none ∧ ∃ x, a.id = "alert_" ++ x ++ "_cc") := by
  by_cases hp : a.patron = none
  · obtain ⟨c, -, sev, n, -, rfl⟩ := h.inv.deCaso a (List.mem_filter.mpr ⟨ha, decide_eq_true hp⟩)
    exact .inr ⟨hp, c.id, rfl⟩
  · obtain ⟨g, b, n, hb, rfl⟩ := h.inv.regla a ha hp
    refine .inl ⟨hp, g, ?_, hb.idRegla⟩
    cases hb <;> rfl

theorem head_id_alerta (h : Servida M s) {a : Alerta} (ha : a ∈ s.alerta.rows) :
    a.id.toList.head? = some 'p' ∨ a.id.toList.head? = some 'a' := by
  rcases id_alerta h ha with ⟨-, g, -, x, hx⟩ | ⟨-, x, hx⟩
  · rw [hx]
    simp only [String.toList_append]
    exact .inl rfl
  · rw [hx]
    simp only [String.toList_append]
    exact .inr rfl

theorem rstrip_ne_nil {v : List Char} {c : Char} (h : v.head? = some c) (hc : c ≠ '/') :
    rstrip v ≠ [] := by
  intro hnil
  cases v with
  | nil => cases h
  | cons d w =>
    cases h
    unfold rstrip at hnil
    rw [List.rdropWhile_eq_nil_iff] at hnil
    exact hc (of_decide_eq_true (hnil c List.mem_cons_self))

theorem not_conBarras_append {x y : String} (hy : y ≠ "") (hb : '/' ∉ y.toList) :
    ¬ ConBarras (x ++ y).toList := by
  refine fun h => h.1 (rstrip_eq_self.mpr ?_)
  rw [String.toList_append, List.getLast?_append_of_ne_nil _ (mt String.toList_eq_nil_iff.mp hy)]
  exact fun hl => hb (List.mem_of_getLast? hl)

/-- **The alerts one by one**: `fetchAlertById` gets every stored alert whose id has no slash; an id with
one reaches no handler, and that of an alert of a slice or of a case is not found. -/
theorem alertas_por_url (f : Marco) (h : Servida M s) {a : Alerta} (ha : a ∈ s.alerta.rows) :
    ('/' ∉ a.id.toList → f.entrega .get (urlAlerta a.id) = .request (.getAlertById a.id) ∧
      Prog.run (exec M) (getAlertById a.id) s = (.ok a, s)) ∧
    ('/' ∈ a.id.toList → f.entrega .get (urlAlerta a.id) =
      if ConBarras a.id.toList then .redirect ("/alerts/".toList ++ rstrip a.id.toList)
      else .estado 404) ∧
    ('/' ∈ a.id.toList → (a.patron = none ∨ ∃ year month, a.fuente = some (fuenteDe year month)) →
      f.entrega .get (urlAlerta a.id) = .estado 404) := by
  have hhead := head_id_alerta h ha
  have hno {x : String} (hx : x.toList.head? ≠ some 'p' ∧ x.toList.head? ≠ some 'a') : a.id ≠ x := by
    rintro rfl
    exact hhead.elim hx.1 hx.2
  have hstrip : rstrip a.id.toList ≠ [] :=
    hhead.elim (rstrip_ne_nil · (by decide)) (rstrip_ne_nil · (by decide))
  have hentrega := entrega_fetchAlertById f (x := a.id) (hno (by decide)) (hno (by decide))
  have hbarra (hb : '/' ∈ a.id.toList) : f.entrega .get (urlAlerta a.id) =
      if ConBarras a.id.toList then .redirect ("/alerts/".toList ++ rstrip a.id.toList)
      else .estado 404 := by
    rw [hentrega, if_neg fun h => h.2.2.2 hb,
      if_neg (not_or.mpr ⟨hno (x := ".") (by decide), hstrip⟩)]
  refine ⟨fun hb => ⟨hentrega.trans (if_pos ⟨hno (by decide), hno (by decide), hno (by decide), hb⟩),
    ?_⟩, hbarra, fun hb hdonde => (hbarra hb).trans (if_neg ?_)⟩
  · rw [run_getAlertById, KeyTable.find_eq_some.mpr ⟨ha, rfl⟩]
  · -- the id ends in the source, or in `_cc`
    rcases id_alerta h ha with ⟨hp, g, hg, x, hx⟩ | ⟨-, x, hx⟩
    · obtain hn | ⟨year, month, hf⟩ := hdonde
      · exact absurd hn hp
      · obtain rfl : g = fuenteDe year month := Option.some.inj (hg.symm.trans hf)
        rw [hx]
        refine not_conBarras_append (fun e => ?_) (slash_not_mem_fuenteDe year month)
        have hlike := like_fuenteDe year month
        rw [e] at hlike
        exact absurd hlike (by decide)
    · rw [hx]
      exact not_conBarras_append (by decide) (by decide)

end

/-! ## concrete ids -/

def marcoConcreto : Marco where
  replaced _ := ""
  entero t := t.toInt?
  entero_toString n := Nat.toInt?_repr n

/-- two suppliers; the RUT of the second one is that of the first and a slash -/
def tiendaBarra : Db :=
  (Peticion.seedChilecompra 2024 5 0 (.csv
    [.orden "1-OC" "1.000.000" "2024-05-01" "61-K" "76-K" "" "Acme",
      .orden "2-OC" "1.000.000" "2024-05-02" "61-K" "76-K/" "" "Otra"])).despues motorConcreto .empty

theorem nodos_por_url_barra :
    marcoConcreto.entrega .get (urlEntidad "76-K") = .request (.getEntity "76-K") ∧
    marcoConcreto.entrega .get (urlEntidad "76-K/") = .redirect "/entity/76-K".toList := by
  have hs : Servida motorConcreto tiendaBarra := Servida.vacia.despues _
  have hg := run_graphChilecompra (M := motorConcreto) (s := tiendaBarra) none 200 none
  obtain ⟨nodo, hn, hid⟩ : ∃ nodo ∈ (grafoDe motorConcreto tiendaBarra
      (enlacesDe motorConcreto tiendaBarra (fun _ => true) 200)).nodes, nodo.id = "76-K" := by
    decide
  obtain ⟨nodo', hn', hid'⟩ : ∃ nodo ∈ (grafoDe motorConcreto tiendaBarra
      (enlacesDe motorConcreto tiendaBarra (fun _ => true) 200)).nodes, nodo.id = "76-K/" := by
    decide
  have h := (nodos_por_url marcoConcreto hs hg hn).1
  have h' := (nodos_por_url marcoConcreto hs hg hn').2
  rw [hid] at h
  rw [hid'] at h'
  exact ⟨(h (by decide)).1, (h' (by decide)).trans (if_pos (by decide))⟩

theorem alertas_por_url_vista : ∃ a ∈ tiendaVista.alerta.rows,
    a.id = "p1_76-K_chilecompra_oc_2024-05" ∧
      Prog.run (exec motorConcreto) (getAlertById a.id) tiendaVista = (.ok a, tiendaVista) := by
  obtain ⟨a, ha, hid, hb⟩ : ∃ a ∈ tiendaVista.alerta.rows,
      a.id = "p1_76-K_chilecompra_oc_2024-05" ∧ '/' ∉ a.id.toList := by decide +kernel
  exact ⟨a, ha, hid, ((alertas_por_url marcoConcreto tiendaVista_servida ha).1 hb).2⟩

theorem consulta_por_url_limite :
    (∃ r, marcoConcreto.entrega .get (buildUrl (fetchGraph (some "a b&c=ñ") 200 none)) = .request r) ∧
    marcoConcreto.entrega .get (buildUrl (fetchGraph none 501 none)) = .estado 422 := by
  obtain ⟨r, hr, -⟩ := (consulta_por_url (M := motorConcreto) marcoConcreto (some "a b&c=ñ") none 200).1
    (by decide)
  exact ⟨⟨r, hr⟩, (consulta_por_url (M := motorConcreto) marcoConcreto none none 501).2 (by decide)⟩

end Fractura
