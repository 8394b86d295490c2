import Fractura.Http.Viaje
import Fractura.Lib.RateLimit
import Mathlib.Algebra.Order.Field.Rat

/-!
# The limits of the routes

`@limiter.limit("60/minute")` counts the requests of a client in fixed windows (`slowapi` over the
memory storage of `limits`).  The limiter is built with its defaults, and its scope is the path of the
request, not the endpoint: the key of a counter is made of the address, the path and the amount.

A hit is one step, with the two readings of the clock that it makes.

* `limite_por_ruta`   no client gets more than twice the amount from a path in any 60 seconds;
* `recorrido_libre`   a client that asks for one entity after another is never refused.
-/

namespace Fractura

open RateLimit Percent

/-! ## `limiter.py` -/

/-- the amount in the decorator of an endpoint -/
def limiteDe : Endpoint → Option ℕ
  | .seed => some 30
  | .seedChilecompra => some 30
  | .detectChilecompra => some 30
  | .alertsChilecompra => some 60
  | .getEntity => some 60
  | .getAlertById => some 60
  | .getAlerts => some 60
  | .graphChilecompra => some 60
  | _ => none

/-- `RateLimitItem.key_for` of so many a minute -/
def keyFor (cliente path : String) (amount : ℕ) : String :=
  "LIMITER/" ++ cliente ++ "/" ++ path ++ "/" ++ toString amount ++ "/1/minute"

/-- the seconds of a window -/
def ventana : ℚ := 60

/-- what a request does to the counters: a hit when it comes to an endpoint with a decorator, whose
parameters are already read; `cliente` is `get_remote_address` -/
def Marco.hit (f : Marco) (cliente : String) (m : Metodo) (target : List Char) (antes despues : ℚ) :
    Option (Event String ℚ) :=
  let sc := f.scope target
  match Router.app m sc.path.toList with
  | .handle e v =>
    match f.llama (parse f.replaced sc.queryString) e v with
    | .estado _ => none
    | _ => (limiteDe e).map fun n => .hit (keyFor cliente sc.path n) n antes despues
  | _ => none

/-- the event of a request, or of the thread that drops counters -/
inductive DeLimite (f : Marco) : Event String ℚ → Prop where
  | request (cliente : String) (m : Metodo) (target : List Char) (antes despues : ℚ)
      {e : Event String ℚ} (h : f.hit cliente m target antes despues = some e) : DeLimite f e
  | expire (now : ℚ) : DeLimite f (.expire now)

/-! ## keys -/

section

theorem barra_not_mem_toString (n : ℕ) : '/' ∉ (toString n).toList := by
  intro h
  exact absurd (isDigit_of_mem_repr h) (by decide)

theorem append_sep_inj {sep : Char} {as as' bs bs' : List Char} (hb : sep ∉ bs) (hb' : sep ∉ bs')
    (h : as ++ sep :: bs = as' ++ sep :: bs') : as = as' ∧ bs = bs' := by
  have hr : bs.reverse ++ sep :: as.reverse = bs'.reverse ++ sep :: as'.reverse := by
    simpa using congrArg List.reverse h
  have hs : bs.reverse = bs'.reverse := by
    have ht := congrArg (List.takeWhile fun c => decide (c ≠ sep)) hr
    rwa [takeWhile_append_sep (by simpa using hb), takeWhile_append_sep (by simpa using hb')] at ht
  rw [hs] at hr
  exact ⟨List.reverse_inj.mp (List.cons.inj (List.append_cancel_left hr)).2, List.reverse_inj.mp hs⟩

theorem cut_amount {a a' : String} {n n' : ℕ}
    (h : a ++ "/" ++ toString n ++ "/1/minute" = a' ++ "/" ++ toString n' ++ "/1/minute") :
    a = a' ∧ n = n' := by
  have hlist := congrArg String.toList h
  simp only [String.toList_append] at hlist
  have hcut := List.append_cancel_right hlist
  rw [List.append_assoc, List.append_assoc] at hcut
  obtain ⟨ha, hn⟩ := append_sep_inj (barra_not_mem_toString n)
    (barra_not_mem_toString n') hcut
  exact ⟨String.toList_inj.mp ha, Nat.repr_injective (String.toList_inj.mp hn)⟩

theorem keyFor_amount {c c' p p' : String} {n n' : ℕ} (h : keyFor c p n = keyFor c' p' n') :
    n = n' :=
  (cut_amount h).2

theorem keyFor_path {c p p' : String} {n n' : ℕ} (h : keyFor c p n = keyFor c p' n') : p = p' := by
  have hlist := congrArg String.toList (cut_amount h).1
  simp only [String.toList_append] at hlist
  exact String.toList_inj.mp (List.append_cancel_left hlist)

end

/-! ## what the limits guarantee -/

section
variable {f : Marco} {es : List (Event String ℚ)} {now : ℚ}

theorem hit_eq_some {cliente : String} {m : Metodo} {target : List Char} {antes despues : ℚ}
    {e : Event String ℚ} (h : f.hit cliente m target antes despues = some e) : ∃ n,
    e = .hit (keyFor cliente (f.scope target).path n) n antes despues := by
  unfold Marco.hit at h
  dsimp only at h
  split at h
  · split at h
    · cases h
    · obtain ⟨n, -, rfl⟩ := Option.map_eq_some_iff.mp h
      exact ⟨n, rfl⟩
  · cases h

theorem amount_of_deLimite (hes : ∀ e ∈ es, DeLimite f e) (c p : String) (n : ℕ) :
    Amount (keyFor c p n) n es := by
  intro n' t t' hm
  cases hes _ hm with
  | request c' m target t t' h =>
    obtain ⟨n'', he⟩ := hit_eq_some h
    injection he with hkey hn
    rw [hn]
    exact (keyFor_amount hkey).symm

/-- **The limit of a path**: in no minute gets a client more than twice the amount from it, and a
request is refused only when so many of the same path are less than a minute old. -/
theorem limite_por_ruta (hes : ∀ e ∈ es, DeLimite f e) (ht : Timed now es) (cliente path : String)
    (n : ℕ) :
    (∀ a, within ventana (keyFor cliente path n) a (run ventana es (.empty, [])).2 ≤ 2 * n) ∧
    ∀ x ∈ (run ventana es (.empty, [])).2, x.key = keyFor cliente path n → x.allowed = false →
      n ≤ allowed (keyFor cliente path n) (fun y => decide (x.before < y.after + ventana))
        (run ventana es (.empty, [])).2 :=
  ⟨allowed_le ht (amount_of_deLimite hes cliente path n),
    fun _ hx hk hr => refused_ge ht (amount_of_deLimite hes cliente path n) hx hk hr⟩

theorem hit_fetchEntity {x : String} (hx : EnRuta x) (cliente : String) (antes despues : ℚ) :
    f.hit cliente .get (urlEntidad x) antes despues =
      some (.hit (keyFor cliente ("/entity/" ++ x) 60) 60 antes despues) := by
  have hscope : f.scope (urlEntidad x) = ⟨"/entity/" ++ x, []⟩ := by
    have h := scope_id x f segmento_entity
    unfold caminoDe at h
    rw [if_neg hx.2.2.1, if_neg hx.2.1] at h
    refine h.trans (congrArg (Scope.mk · []) (String.toList_inj.mp ?_))
    rw [String.toList_ofList, String.toList_append]
    rfl
  have happ := app_entity x.toList
  rw [if_pos ((enRuta_iff hx.2.1 hx.2.2.1).mp hx)] at happ
  unfold Marco.hit
  rw [hscope]
  dsimp only
  rw [String.toList_append, happ]
  rfl

/-- **A walk over the entities is never refused**: however many entities a client asks for in a minute,
and whatever anybody else asks for, the requests are allowed as long as no single entity is asked for
more than 60 times. -/
theorem recorrido_libre (hes : ∀ e ∈ es, DeLimite f e) (ht : Timed now es) {cliente : String}
    (hpoco : ∀ x, EnRuta x → hits (keyFor cliente ("/entity/" ++ x) 60) es ≤ 60) {x : String}
    (hx : EnRuta x) :
    (∀ antes despues, f.hit cliente .get (urlEntidad x) antes despues =
      some (.hit (keyFor cliente ("/entity/" ++ x) 60) 60 antes despues)) ∧
    ∀ y ∈ (run ventana es (.empty, [])).2, y.key = keyFor cliente ("/entity/" ++ x) 60 →
      y.allowed = true :=
  ⟨hit_fetchEntity hx cliente, fun _ hy hk =>
    all_allowed ht (amount_of_deLimite hes cliente _ 60) (hpoco x hx) hy hk⟩

end

/-! ## concrete clients -/

/-- a client that asks for entities, all in the same second -/
def pide (xs : List String) : List (Event String ℚ) :=
  xs.map fun x => .hit (keyFor "10.0.0.1" ("/entity/" ++ x) 60) 60 0 0

theorem deLimite_pide {xs : List String} (hxs : ∀ x ∈ xs, EnRuta x) :
    ∀ e ∈ pide xs, DeLimite marcoConcreto e := by
  intro e he
  obtain ⟨x, hx, rfl⟩ := List.mem_map.mp he
  exact .request "10.0.0.1" .get (urlEntidad x) 0 0 (hit_fetchEntity (hxs x hx) "10.0.0.1" 0 0)

theorem timed_pide (xs : List String) : Timed 0 (pide xs) := by
  induction xs with
  | nil => trivial
  | cons x xs ih => exact ⟨le_rfl, le_rfl, ih⟩

theorem hits_pide {xs : List String} (hxs : xs.Nodup) (x : String) :
    hits (keyFor "10.0.0.1" ("/entity/" ++ x) 60) (pide xs) ≤ 1 := by
  have hcount : hits (keyFor "10.0.0.1" ("/entity/" ++ x) 60) (pide xs) ≤ xs.count x := by
    unfold hits pide List.count
    rw [List.countP_map]
    refine List.countP_mono_left fun y _ hy => ?_
    have hpath := keyFor_path (of_decide_eq_true hy)
    have hlist := congrArg String.toList hpath
    simp only [String.toList_append] at hlist
    exact beq_iff_eq.mpr (String.toList_inj.mp (List.append_cancel_left hlist))
  exact hcount.trans (List.nodup_iff_count_le_one.mp hxs x)

/-- 61 times the same entity -/
theorem limite_por_ruta_repetida :
    let log := (run ventana (pide (List.replicate 61 "76")) (.empty, [])).2
    (∃ x ∈ log, x.allowed = false ∧ 60 ≤ allowed (keyFor "10.0.0.1" ("/entity/" ++ "76") 60)
      (fun y => decide (x.before < y.after + ventana)) log) ∧
      ∀ a, within ventana (keyFor "10.0.0.1" ("/entity/" ++ "76") 60) a log ≤ 120 := by
  have hes : ∀ e ∈ pide (List.replicate 61 "76"), DeLimite marcoConcreto e :=
    deLimite_pide fun x hx => by
      rw [List.eq_of_mem_replicate hx]
      decide
  obtain ⟨hmax, href⟩ := limite_por_ruta hes (timed_pide _) "10.0.0.1" ("/entity/" ++ "76") 60
  obtain ⟨x, hx, hk, hr⟩ : ∃ x ∈ (run ventana (pide (List.replicate 61 "76")) (.empty, [])).2,
      x.key = keyFor "10.0.0.1" ("/entity/" ++ "76") 60 ∧ x.allowed = false := by decide +kernel
  exact ⟨⟨x, hx, hr, href x hx hk hr⟩, hmax⟩

/-- the RUTs of 70 suppliers -/
def rutsSeguidos : List String := (List.range 70).map fun i => toString (76000000 + i)

theorem enRuta_toString (n : ℕ) : EnRuta (toString n) := by
  have hpunto : '.' ∉ (toString n).toList := by
    intro h
    exact absurd (isDigit_of_mem_repr h) (by decide)
  refine ⟨Nat.repr_ne_empty, ?_, ?_, barra_not_mem_toString n⟩
  · intro h
    rw [h] at hpunto
    exact hpunto (by decide)
  · intro h
    rw [h] at hpunto
    exact hpunto (by decide)

theorem recorrido_libre_seguidos : rutsSeguidos.length = 70 ∧ ∀ x ∈ rutsSeguidos,
    ∀ y ∈ (run ventana (pide rutsSeguidos) (.empty, [])).2,
      y.key = keyFor "10.0.0.1" ("/entity/" ++ x) 60 → y.allowed = true := by
  have hruta : ∀ x ∈ rutsSeguidos, EnRuta x := by
    intro x hx
    obtain ⟨i, -, rfl⟩ := List.mem_map.mp hx
    exact enRuta_toString (76000000 + i)
  have hnodup : rutsSeguidos.Nodup := by
    refine List.nodup_range.map fun i j h => ?_
    exact Nat.add_left_cancel (Nat.repr_injective h)
  refine ⟨by simp [rutsSeguidos], fun x hx => (recorrido_libre (deLimite_pide hruta) (timed_pide _)
    (fun y _ => (hits_pide hnodup y).trans (by decide)) (hruta x hx)).2⟩

end Fractura
