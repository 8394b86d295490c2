import Fractura.Cliente.Hooks
import Fractura.Lib.Percent
import Fractura.Routers
import Mathlib.Data.List.DropRight

/-!
# From a call of the client to a request

The functions of `frontend/src/api` put ids into the path and the query string of a URL; the browser
normalises the path, `uvicorn` unquotes it, and the router of `starlette` finds the endpoint.
`Marco.entrega` is what comes out of that.

`app_entity` and `app_alerts`: what the router makes of a path that starts with `/entity/` or `/alerts/`.
-/

namespace Fractura

open Percent

/-! ## the browser -/

/-- the characters that `encodeURIComponent` keeps; 39 is the apostrophe -/
def sinReserva (c : Char) : Bool :=
  c.isAlphanum || decide (c ∈ ['-', '_', '.', '!', '~', '*', Char.ofNat 39, '(', ')'])

def encodeURIComponent (x : String) : List Char := encode sinReserva x.toList

/-- the characters that `URLSearchParams` keeps -/
def enFormulario (c : Char) : Bool := c.isAlphanum || decide (c ∈ ['*', '-', '.', '_'])

/-- the segments that the URL parser takes for `.` and for `..` -/
def puntos : List (List Char) := ["." , "%2e", "%2E"].map String.toList

def doblesPuntos : List (List Char) :=
  ["..", ".%2e", ".%2E", "%2e.", "%2E.", "%2e%2e", "%2e%2E", "%2E%2e", "%2E%2E"].map String.toList

/-- the path state of the URL parser; `acc` are the segments so far, the last one first -/
def segmentos : List (List Char) → List (List Char) → List (List Char)
  | acc, [] => acc.reverse
  | acc, [s] =>
    if s ∈ doblesPuntos then ([] :: acc.tail).reverse
    else if s ∈ puntos then ([] :: acc).reverse
    else (s :: acc).reverse
  | acc, s :: r :: rest =>
    if s ∈ doblesPuntos then segmentos acc.tail (r :: rest)
    else if s ∈ puntos then segmentos acc (r :: rest)
    else segmentos (s :: acc) (r :: rest)

/-- the path of `new URL(base + path)` on an origin `base`; the characters that the parser escapes do
not occur in these paths -/
def urlPath (path : List Char) : List Char :=
  '/' :: ['/'].intercalate (segmentos [] ((path.drop 1).splitOn '/'))

/-- the target of a request: the path, and the query string when it is not empty -/
def target (path qs : List Char) : List Char :=
  if qs = [] then urlPath path else urlPath path ++ '?' :: qs

/-! ## `frontend/src/api` -/

/-- `fetch(buildUrl('/entity/' + encodeURIComponent(entityId)))` -/
def urlEntidad (entityId : String) : List Char :=
  target ("/entity/".toList ++ encodeURIComponent entityId) []

/-- the URL of `fetchAlertById` -/
def urlAlerta (id : String) : List Char := target ("/alerts/".toList ++ encodeURIComponent id) []

/-- `url.searchParams.set(k, String(v))` for every parameter of a call -/
def buildUrl (l : Llamada ℕ) : List Char :=
  target l.path.toList (query enFormulario (l.params.map fun p => (p.1, p.2.elim toString id)))

/-! ## `uvicorn` -/

/-- what of the server is compiled code: the texts of bytes that are no UTF-8 (`errors='replace'`),
and the integers of query parameters -/
structure Marco where
  replaced : List UInt8 → String
  entero : String → Option ℤ
  entero_toString : ∀ n : ℕ, entero (toString n) = some (n : ℤ)

structure Scope where
  path : String
  queryString : List Char

/-- `raw_path, _, query_string = event.target.partition(b"?")`, `path = unquote(raw_path)` -/
def Marco.scope (f : Marco) (target : List Char) : Scope where
  path := utf8 f.replaced (decode (target.takeWhile fun c => decide (c ≠ '?')))
  queryString := (target.dropWhile fun c => decide (c ≠ '?')).drop 1

/-! ## `starlette` -/

inductive Metodo where
  | get
  | head
  | post
  deriving DecidableEq

inductive Endpoint where
  | openapi
  | docs
  | oauth2Redirect
  | redoc
  | health
  | seed
  | seedChilecompra
  | detectChilecompra
  | alertsChilecompra
  | getEntity
  | getAlertById
  | getAlerts
  | graphChilecompra
  deriving DecidableEq

/-- the path of a route: a text, or a text and one parameter `[^/]+` -/
inductive Camino where
  | fijo (path : String)
  | conParametro (antes : String)
  deriving DecidableEq

/-- `path_regex.match`, with the parameter; the `$` of a regular expression also matches before a final
newline, which a parameter takes for itself -/
def Camino.matches : Camino → List Char → Option (Option String)
  | .fijo p, path => if path = p.toList ∨ path = p.toList ++ ['\n'] then some none else none
  | .conParametro p, path =>
    let v := path.drop p.toList.length
    if p.toList <+: path ∧ v ≠ [] ∧ '/' ∉ v then some (some (String.ofList v)) else none

structure Route where
  path : Camino
  methods : List Metodo
  endpoint : Endpoint
  deriving DecidableEq

/-- the routes of the application, in the order in which they are tried: those of FastAPI itself, then
the routers of `main.py` -/
def routes : List Route :=
  [⟨.fijo "/openapi.json", [.get, .head], .openapi⟩,
    ⟨.fijo "/docs", [.get, .head], .docs⟩,
    ⟨.fijo "/docs/oauth2-redirect", [.get, .head], .oauth2Redirect⟩,
    ⟨.fijo "/redoc", [.get, .head], .redoc⟩,
    ⟨.fijo "/health", [.get], .health⟩,
    ⟨.fijo "/seed", [.post], .seed⟩,
    ⟨.fijo "/seed/chilecompra", [.post], .seedChilecompra⟩,
    ⟨.fijo "/detect/chilecompra", [.post], .detectChilecompra⟩,
    ⟨.fijo "/alerts/chilecompra", [.get], .alertsChilecompra⟩,
    ⟨.conParametro "/entity/", [.get], .getEntity⟩,
    ⟨.conParametro "/alerts/", [.get], .getAlertById⟩,
    ⟨.fijo "/alerts", [.get], .getAlerts⟩,
    ⟨.fijo "/graph/chilecompra", [.get], .graphChilecompra⟩]

def matching (path : List Char) : List (Route × Option String) :=
  routes.filterMap fun r => (r.path.matches path).map fun v => (r, v)

/-- `rstrip("/")` -/
def rstrip (path : List Char) : List Char := path.rdropWhile fun c => decide (c = '/')

/-- the path that `redirect_slashes` tries -/
def redirectPath (path : List Char) : List Char :=
  if path.getLast? = some '/' then rstrip path else path ++ ['/']

inductive Salida where
  | handle (e : Endpoint) (param : Option String)
  | methodNotAllowed
  | redirect (path : List Char)
  | notFound
  deriving DecidableEq

/-- `Router.app`: the first route that matches with its method, else a route that matches without it,
else the path with the slashes of its end added or taken -/
def Router.app (m : Metodo) (path : List Char) : Salida :=
  match (matching path).find? fun r => decide (m ∈ r.1.methods) with
  | some (r, v) => .handle r.endpoint v
  | none =>
    if matching path ≠ [] then .methodNotAllowed
    else if path ≠ ['/'] ∧ matching (redirectPath path) ≠ [] then .redirect (redirectPath path)
    else .notFound

/-! ## `fastapi` -/

/-- what a request comes to; `otro` are the endpoints that are not of `Request` -/
inductive Entrega where
  | request (r : Request)
  | otro (e : Endpoint)
  | redirect (path : List Char)
  | estado (n : ℕ)

/-- the value of a query parameter, the last one of its name -/
def queryParam (ps : List (String × String)) (name : String) : Option String :=
  (ps.reverse.find? fun p => decide (p.1 = name)).map Prod.snd

/-- an integer parameter; `none` is a 422, which the limiter never sees -/
def Marco.enteroDe (f : Marco) (ps : List (String × String)) (name : String) (porDefecto : ℤ) :
    Option ℤ :=
  match queryParam ps name with
  | none => some porDefecto
  | some t => f.entero t

/-- the parameter `limit` between its bounds -/
def Marco.limite (f : Marco) (ps : List (String × String)) (porDefecto : ℤ) (dentro : ℤ → Bool) :
    Option ℤ :=
  (f.enteroDe ps "limit" porDefecto).filter dentro

def Marco.llama (f : Marco) (ps : List (String × String)) : Endpoint → Option String → Entrega
  | .getEntity, some x => .request (.getEntity x)
  | .getAlertById, some x => .request (.getAlertById x)
  | .getAlerts, _ => .request .getAlerts
  | .graphChilecompra, _ =>
    match f.limite ps 200 fun n => decide (1 ≤ n ∧ n ≤ 500) with
    | some n => .request (.graphChilecompra (queryParam ps "node_id") n.toNat (queryParam ps "fuente"))
    | none => .estado 422
  | .alertsChilecompra, _ =>
    match f.limite ps 50 fun n => decide (n ≤ 500) with
    | some n => .request (.alertsChilecompra (queryParam ps "patron") (queryParam ps "fuente") n)
    | none => .estado 422
  | .detectChilecompra, _ => .request (.detectChilecompra (queryParam ps "fuente"))
  | .seedChilecompra, _ =>
    if (f.enteroDe ps "year" 2023).isSome ∧ (f.enteroDe ps "month" 1).isSome ∧
        (f.enteroDe ps "limit" 0).isSome then .otro .seedChilecompra
    else .estado 422
  | e, _ => .otro e

def Marco.responde (f : Marco) (ps : List (String × String)) : Salida → Entrega
  | .handle e v => f.llama ps e v
  | .methodNotAllowed => .estado 405
  | .redirect path => .redirect path
  | .notFound => .estado 404

/-- a request at the application -/
def Marco.entrega (f : Marco) (m : Metodo) (target : List Char) : Entrega :=
  let sc := f.scope target
  f.responde (parse f.replaced sc.queryString) (Router.app m sc.path.toList)

/-! ## the routes of a prefix -/

section
variable {pre v : List Char}

/-- no path that starts with `pre` matches -/
def Camino.ajeno (pre : List Char) : Camino → Bool
  | .fijo p => !pre.isPrefixOf (p.toList ++ ['\n'])
  | .conParametro p => !p.toList.isPrefixOf pre && !pre.isPrefixOf p.toList

theorem matches_ajeno {c : Camino} (h : c.ajeno pre = true) (v : List Char) :
    c.matches (pre ++ v) = none := by
  have hv := List.prefix_append pre v
  cases c with
  | fijo p =>
    simp only [Camino.ajeno, Bool.not_eq_true', ← Bool.not_eq_true, List.isPrefixOf_iff_prefix] at h
    unfold Camino.matches
    refine if_neg ?_
    rintro (hp | hp)
    · exact h ((hp ▸ hv).trans (List.prefix_append _ _))
    · exact h (hp ▸ hv)
  | conParametro p =>
    simp only [Camino.ajeno, Bool.and_eq_true, Bool.not_eq_true', ← Bool.not_eq_true,
      List.isPrefixOf_iff_prefix] at h
    unfold Camino.matches
    refine if_neg fun hp => ?_
    rcases List.prefix_or_prefix_of_prefix hp.1 hv with hp | hp
    · exact h.1 hp
    · exact h.2 hp

theorem matching_append (pre v : List Char) : matching (pre ++ v) =
    (routes.filter fun r => !r.path.ajeno pre).filterMap fun r =>
      (r.path.matches (pre ++ v)).map fun w => (r, w) := by
  unfold matching
  rw [List.filterMap_filter]
  refine List.filterMap_congr fun r _ => ?_
  by_cases h : r.path.ajeno pre = true
  · simp [h, matches_ajeno h v]
  · simp [h]

theorem matches_parametro (p : String) (v : List Char) :
    (Camino.conParametro p).matches (p.toList ++ v) =
      if v ≠ [] ∧ '/' ∉ v then some (some (String.ofList v)) else none := by
  simp only [Camino.matches, List.drop_left, List.prefix_append, true_and]

def rutaEntidad : Route := ⟨.conParametro "/entity/", [.get], .getEntity⟩
def rutaAlerta : Route := ⟨.conParametro "/alerts/", [.get], .getAlertById⟩

theorem matching_entity (v : List Char) : matching ("/entity/".toList ++ v) =
    if v ≠ [] ∧ '/' ∉ v then [(rutaEntidad, some (String.ofList v))] else [] := by
  have hr : (routes.filter fun r => !r.path.ajeno "/entity/".toList) = [rutaEntidad] := by
    decide
  rw [matching_append, hr, List.filterMap_cons]
  unfold rutaEntidad
  dsimp only
  rw [matches_parametro]
  by_cases h : v ≠ [] ∧ '/' ∉ v
  · rw [if_pos h, if_pos h]
    rfl
  · rw [if_neg h, if_neg h]
    rfl

theorem matching_alerts {v : List Char} (hv : v ≠ "chilecompra".toList)
    (hn : v ≠ "chilecompra\n".toList) : matching ("/alerts/".toList ++ v) =
    if v ≠ [] ∧ '/' ∉ v then [(rutaAlerta, some (String.ofList v))] else [] := by
  have hr : (routes.filter fun r => !r.path.ajeno "/alerts/".toList) =
      [⟨.fijo "/alerts/chilecompra", [.get], .alertsChilecompra⟩, rutaAlerta] := by decide
  have hfijo : (Camino.fijo "/alerts/chilecompra").matches ("/alerts/".toList ++ v) = none := by
    unfold Camino.matches
    refine if_neg ?_
    rintro (h | h)
    · exact hv (List.append_cancel_left (h.trans (by decide)))
    · exact hn (List.append_cancel_left (h.trans (by decide)))
  rw [matching_append, hr, List.filterMap_cons, hfijo, Option.map_none, List.filterMap_cons]
  unfold rutaAlerta
  dsimp only
  rw [matches_parametro]
  by_cases h : v ≠ [] ∧ '/' ∉ v
  · rw [if_pos h, if_pos h]
    rfl
  · rw [if_neg h, if_neg h]
    rfl

/-! ## the slashes at the end -/

theorem rstrip_append (h : rstrip v ≠ []) : rstrip (pre ++ v) = pre ++ rstrip v := by
  unfold rstrip List.rdropWhile at *
  have hne : (v.reverse.dropWhile fun c => decide (c = '/')).isEmpty = false := by
    cases hd : v.reverse.dropWhile fun c => decide (c = '/') with
    | nil => exact absurd (congrArg List.reverse hd) h
    | cons c cs => rfl
  rw [List.reverse_append, List.dropWhile_append, hne]
  simp

theorem rstrip_append_nil (h : rstrip v = []) : rstrip (pre ++ v) = rstrip pre := by
  unfold rstrip List.rdropWhile at *
  rw [List.reverse_append, List.dropWhile_append, List.reverse_eq_nil_iff.mp h]
  simp

theorem rstrip_eq_self : rstrip v = v ↔ v.getLast? ≠ some '/' := by
  unfold rstrip
  rw [List.rdropWhile_eq_self_iff]
  constructor
  · intro h hl
    obtain ⟨w, rfl⟩ := List.getLast?_eq_some_iff.mp hl
    exact h (by simp) (by simp)
  · intro h hne hc
    exact h ((List.getLast?_eq_getLast_of_ne_nil hne).trans (congrArg some (of_decide_eq_true hc)))

/-- an id with slashes at its end only: it is sent on without them -/
def ConBarras (v : List Char) : Prop := rstrip v ≠ v ∧ rstrip v ≠ [] ∧ '/' ∉ rstrip v

instance (v : List Char) : Decidable (ConBarras v) := by unfold ConBarras; infer_instance

/-- the path that is tried for `v` after a prefix that ends in a slash -/
theorem redirectPath_append (hpre : pre.getLast? = some '/') :
    redirectPath (pre ++ v) = if v ≠ [] ∧ rstrip v = v then pre ++ (v ++ ['/'])
      else if rstrip v = [] then rstrip pre else pre ++ rstrip v := by
  unfold redirectPath
  by_cases hv : v = []
  · subst hv
    rw [List.append_nil, if_pos hpre, if_neg fun h => h.1 rfl, if_pos (by decide)]
  · have hlast : (pre ++ v).getLast? = v.getLast? := List.getLast?_append_of_ne_nil pre hv
    rw [hlast]
    by_cases hl : rstrip v = v
    · rw [if_neg (rstrip_eq_self.mp hl), if_pos ⟨hv, hl⟩, List.append_assoc]
    · rw [if_pos (not_not.mp (mt rstrip_eq_self.mpr hl)), if_neg fun h => hl h.2]
      by_cases hnil : rstrip v = []
      · rw [if_pos hnil, rstrip_append_nil hnil]
      · rw [if_neg hnil, rstrip_append hnil]

/-- **What no route takes** of the paths under a parameter: slashes at the end are taken away, and the
rest is not found. -/
theorem app_sin_parametro {m : Metodo} (hpre : pre.getLast? = some '/') (hlen : 1 < pre.length)
    (hm : ∀ w, matching (pre ++ w) ≠ [] ↔ w ≠ [] ∧ '/' ∉ w) (hv : ¬ (v ≠ [] ∧ '/' ∉ v)) :
    Router.app m (pre ++ v) = if ConBarras v then .redirect (pre ++ rstrip v)
      else if rstrip v = [] ∧ matching (rstrip pre) ≠ [] then .redirect (rstrip pre)
      else .notFound := by
  have hne : pre ++ v ≠ ['/'] := fun h => by
    have := congrArg List.length h
    rw [List.length_append, List.length_singleton] at this
    omega
  unfold Router.app
  rw [not_not.mp (mt (hm v).mp hv), redirectPath_append hpre]
  simp only [List.find?_nil, ne_eq, not_true_eq_false, if_false, hne, not_false_eq_true, true_and]
  by_cases hself : v ≠ [] ∧ rstrip v = v
  · -- a slash more is a slash in the parameter
    have hslash : matching (pre ++ (v ++ ['/'])) = [] :=
      not_not.mp fun h => ((hm _).mp h).2 (List.mem_append_right v (List.mem_singleton_self _))
    rw [if_pos hself, if_neg fun h => h hslash, if_neg fun h => h.1 hself.2,
      if_neg fun h => hself.1 (hself.2.symm.trans h.1)]
  · rw [if_neg hself]
    by_cases hnil : rstrip v = []
    · have hb : ¬ ConBarras v := fun h => h.2.1 hnil
      rw [if_pos hnil, if_neg hb]
      simp only [hnil, true_and]
    · have hs : rstrip v ≠ v := fun h => hself ⟨fun h' => hnil (h.trans h'), h⟩
      have hb : matching (pre ++ rstrip v) ≠ [] ↔ ConBarras v :=
        (hm _).trans ⟨fun h => ⟨hs, h⟩, fun h => h.2⟩
      rw [if_neg hnil]
      by_cases hc : ConBarras v
      · rw [if_pos (hb.mpr hc), if_pos hc]
      · rw [if_neg (mt hb.mp hc), if_neg hc, if_neg fun h => hnil h.1]

theorem app_entity (v : List Char) : Router.app .get ("/entity/".toList ++ v) =
    if v ≠ [] ∧ '/' ∉ v then .handle .getEntity (some (String.ofList v))
    else if ConBarras v then .redirect ("/entity/".toList ++ rstrip v)
    else .notFound := by
  have hbase : matching (rstrip "/entity/".toList) = [] := by decide
  have hm (w : List Char) : matching ("/entity/".toList ++ w) ≠ [] ↔ w ≠ [] ∧ '/' ∉ w := by
    rw [matching_entity]
    split <;> simp [*]
  by_cases hv : v ≠ [] ∧ '/' ∉ v
  · unfold Router.app
    rw [matching_entity, if_pos hv, if_pos hv]
    rfl
  · rw [if_neg hv, app_sin_parametro (by decide) (by decide) hm hv]
    simp only [ne_eq, hbase, not_true_eq_false, and_false, if_false]

theorem app_alerts {v : List Char} (hv : v ≠ "chilecompra".toList) (hn : v ≠ "chilecompra\n".toList) :
    Router.app .get ("/alerts/".toList ++ v) =
      if v ≠ [] ∧ '/' ∉ v then .handle .getAlertById (some (String.ofList v))
      else if ConBarras v then .redirect ("/alerts/".toList ++ rstrip v)
      else if rstrip v = [] then .redirect "/alerts".toList else .notFound := by
  have hbase : rstrip "/alerts/".toList = "/alerts".toList := by decide
  have hlista : matching "/alerts".toList ≠ [] := by decide
  have hm (w : List Char) : matching ("/alerts/".toList ++ w) ≠ [] ↔ w ≠ [] ∧ '/' ∉ w := by
    by_cases hw : w = "chilecompra".toList ∨ w = "chilecompra\n".toList
    · rcases hw with rfl | rfl <;> decide
    · obtain ⟨hw, hw'⟩ := not_or.mp hw
      rw [matching_alerts hw hw']
      split <;> simp [*]
  by_cases h : v ≠ [] ∧ '/' ∉ v
  · unfold Router.app
    rw [matching_alerts hv hn, if_pos h, if_pos h]
    rfl
  · rw [if_neg h, app_sin_parametro (by decide) (by decide) hm h, hbase]
    simp only [ne_eq, hlista, not_false_eq_true, and_true]

end

end Fractura
