import Fractura.Concurrencia.Carga
import Fractura.Chilecompra.Claves

/-!
# A detection beside the load of another slice

The statements of `run_detection(f)` (`DeDeteccion f`) see the contracts of `f` and their
suppliers, the alerts of the other slices that may carry an id of `f`, and the clock (`vistaDe`).
A load of another slice leaves all of that alone, and the detection leaves what the load sees:
`carga_deteccion_separadas`.
-/

namespace Fractura

open Db

/-! ## the statements of a detection -/

/-- the count and the three queries of the rules -/
inductive EsRegla (f : String) : Consulta → Prop where
  | total : EsRegla f (.countContrato f)
  | p1 (c1 : Nat) : EsRegla f (.p1 f c1)
  | p2 (c2 : Nat) (m2 : Int) : EsRegla f (.p2 f c2 m2)
  | p3 (o3 : Nat) : EsRegla f (.p3 f o3)

inductive DeDeteccion (f : String) : Sentencia → Prop where
  | query (q : Consulta) (h : EsRegla f q) : DeDeteccion f (.query q)
  | deleteAlertaPatron : DeDeteccion f (.dml (.deleteAlertaPatron f))
  | insertAlerta (a : Alerta) (hf : a.fuente = some f) (hid : EsIdRegla f a.id) :
      DeDeteccion f (.dml (.insertAlerta a))

section
variable {M : Motor} {f g : String}

theorem insertarAlertas_deDeteccion {l : List Alerta}
    (h : ∀ a ∈ l, a.fuente = some f ∧ EsIdRegla f a.id) :
    (insertarAlertas l).All (DeDeteccion f) :=
  Prog.all_each fun a ha => ejecutar_all (.insertAlerta a (h a ha).1 (h a ha).2)

theorem detectar_deDeteccion (M : Motor) (f : String) : (detectar M f).All (DeDeteccion f) := by
  refine Prog.all_bind (consulta_all (.query _ .total)) fun _ => Prog.all_bind unico_all fun _ => ?_
  refine Prog.all_bind (ejecutar_all .deleteAlertaPatron) fun _ => ?_
  refine Prog.all_bind (consulta_all (.query _ (.p1 _))) fun p1 => ?_
  refine Prog.all_bind (insertarAlertas_deDeteccion fun a ha => ?_) fun _ => ?_
  · obtain ⟨r, -, rfl⟩ := List.mem_map.mp ha
    exact ⟨rfl, esIdRegla_p1 f _⟩
  refine Prog.all_bind (consulta_all (.query _ (.p2 _ _))) fun p2 => ?_
  refine Prog.all_bind (insertarAlertas_deDeteccion fun a ha => ?_) fun _ => ?_
  · obtain ⟨r, -, rfl⟩ := List.mem_map.mp ha
    exact ⟨rfl, esIdRegla_p2 f _ _⟩
  refine Prog.all_bind (consulta_all (.query _ (.p3 _))) fun p3 => ?_
  refine Prog.all_bind (insertarAlertas_deDeteccion fun a ha => ?_) fun _ => ?_
  · obtain ⟨r, -, rfl⟩ := List.mem_map.mp ha
    exact ⟨rfl, esIdRegla_p3 f _⟩
  trivial

theorem runDetection_deDeteccion (M : Motor) (f : String) :
    (runDetection M (some f)).All (DeDeteccion f) :=
  Prog.all_bind (detectar_deDeteccion M f) fun _ => Prog.all_bind trivial fun _ => trivial

/-! ## what a detection sees -/

structure VistaDeteccion where
  contratos : List Contrato
  unidos : List Unido
  alertas : List Alerta
  reloj : Nat

/-- what a detection of `f` sees beside a load of `g` -/
def vistaDe (f g : String) (s : Db) : VistaDeteccion where
  contratos := s.contratosDe f
  unidos := s.unidos f
  alertas := otros Alerta.fuente g s.alerta.rows
  reloj := s.reloj

/-- the alerts of `g` have no id of the rules of `f` -/
def IdsAparte (f g : String) (s : Db) : Prop :=
  ∀ a ∈ s.alerta.rows, a.fuente = some g → ¬ EsIdRegla f a.id

theorem Inv.idsAparte {s : Db} (hs : Inv M s) {y m : Int} (hfg : fuenteDe y m ≠ g) :
    IdsAparte (fuenteDe y m) g s := by
  intro a ha hg hid
  have hf := (hs.de_idRegla ha hid).1
  exact hfg (Option.some.inj (hf.symm.trans hg))

theorem vistaDe_eq {s t : Db} (hc : s.contratosDe f = t.contratosDe f)
    (hu : s.unidos f = t.unidos f)
    (ha : otros Alerta.fuente g s.alerta.rows = otros Alerta.fuente g t.alerta.rows)
    (hr : s.reloj = t.reloj) : vistaDe f g s = vistaDe f g t := by
  unfold vistaDe
  rw [hc, hu, ha, hr]

theorem id_of_vistaDe {s t : Db} (hs : IdsAparte f g s) (hv : vistaDe f g s = vistaDe f g t)
    {a : Alerta} (hid : EsIdRegla f a.id) (h : a.id ∈ s.alerta.keys) : a.id ∈ t.alerta.keys := by
  refine KeyTable.mem_keys_of_filter_eq (congrArg VistaDeteccion.alertas hv) ?_ h
  intro b hb hba
  exact decide_eq_true fun hg => hs b hb hg (by rw [hba]; exact hid)

theorem deteccion_actsThrough :
    Prog.ActsThrough (exec M) (DeDeteccion f) (IdsAparte f g) (vistaDe f g) := by
  refine actsThrough_of ?_ ?_
  · intro q hq s t _ _ hv
    have hc : s.contratosDe f = t.contratosDe f := congrArg VistaDeteccion.contratos hv
    have hu : s.unidos f = t.unidos f := congrArg VistaDeteccion.unidos hv
    cases hq with
    | query q h =>
      cases h with
      | total =>
        show Except.ok [(s.contratosDe f).length] = Except.ok [(t.contratosDe f).length]
        rw [hc]
      | p1 c1 => rw [filas_p1, filas_p1, hu]
      | p2 c2 m2 => rw [filas_p2, filas_p2, hu]
      | p3 o3 => rw [filas_p3, filas_p3, hu]
  · intro d hd s t hs ht hv
    have hc : s.contratosDe f = t.contratosDe f := congrArg VistaDeteccion.contratos hv
    have hu : s.unidos f = t.unidos f := congrArg VistaDeteccion.unidos hv
    have ha : otros Alerta.fuente g s.alerta.rows = otros Alerta.fuente g t.alerta.rows :=
      congrArg VistaDeteccion.alertas hv
    have hr : s.reloj = t.reloj := congrArg VistaDeteccion.reloj hv
    cases hd with
    | deleteAlertaPatron => exact vistaDe_eq hc hu (deClase_filter_congr (p := noDe g) _ ha) hr
    | insertAlerta a hf hid =>
      have hkey : a.id ∈ s.alerta.keys ↔ a.id ∈ t.alerta.keys :=
        ⟨id_of_vistaDe hs hv hid, id_of_vistaDe ht hv.symm hid⟩
      show Coinciden _ (s.insertAlerta a) (t.insertAlerta a)
      unfold insertAlerta
      by_cases h : a.id ∈ s.alerta.keys
      · rw [dif_pos h, dif_pos (hkey.mp h)]
        rfl
      · rw [dif_neg h, dif_neg fun h' => h (hkey.mpr h')]
        refine vistaDe_eq hc hu ?_ (congrArg (· + 1) hr)
        show otros Alerta.fuente g (s.alerta.rows ++ [a.stamp s.reloj]) =
          otros Alerta.fuente g (t.alerta.rows ++ [a.stamp t.reloj])
        unfold otros at ha ⊢
        rw [List.filter_append, List.filter_append, ha, hr]

/-! ## side by side -/

theorem carga_leaves (hfg : f ≠ g) (K : Claves) :
    Prog.Leaves (exec M) (DeCargaEn K g) (IdsAparte f g) (vistaDe f g) := by
  intro q hq s r t hs h
  have haj := exec_ajeno hq.deCarga h
  refine ⟨fun a ha => hs a ((exec_aporta hq.deCarga h).alerta a ha), ?_⟩
  exact vistaDe_eq (haj.contratosDe hfg) (haj.unidos hfg) haj.alerta haj.reloj

def todas (_ : Option String) : Bool := true

/-- the rows of one slice -/
def soloDe (g : String) (x : Option String) : Bool := decide (x = some g)

theorem deteccion_leaves (hfg : f ≠ g) :
    Prog.Leaves (exec M) (DeDeteccion f) (IdsAparte f g) (visibles todas (soloDe g)) := by
  intro q hq s r t hs h
  cases hq with
  | query q _ =>
    rw [(exec_query_ok h).1]
    exact ⟨hs, rfl⟩
  | deleteAlertaPatron =>
    cases exec_dml_ok h
    refine ⟨fun a ha => hs a (List.mem_of_mem_filter ha), visibles_eq rfl rfl rfl ?_⟩
    show deClase _ _ (s.alerta.rows.filter _) = _
    rw [deClase_filter, List.filter_eq_self]
    intro a ha
    refine decide_eq_true fun hp => ?_
    have hg := of_decide_eq_true (mem_deClase.mp ha).2
    exact hfg (Option.some.inj (hp.1.symm.trans hg))
  | insertAlerta a hf hid =>
    obtain ⟨hnew, ht⟩ := insertAlerta_ok (exec_dml_ok h)
    obtain ⟨tab, h1, h2⟩ := t
    dsimp only at ht
    subst ht
    have hne : (a.stamp s.reloj).fuente ≠ some g := by
      rw [Alerta.stamp_fuente, hf]
      exact fun e => hfg (Option.some.inj e)
    refine ⟨?_, visibles_eq rfl rfl rfl ?_⟩
    · intro b hb hg
      rcases List.mem_append.mp hb with hb | hb
      · exact hs b hb hg
      · rw [List.mem_singleton.mp hb] at hg
        exact absurd hg hne
    · show deClase _ _ (s.alerta.rows ++ [a.stamp s.reloj]) = _
      have hnil : [a.stamp s.reloj].filter (fun b => soloDe g b.fuente) = [] :=
        List.filter_cons_of_neg fun hg => hne (of_decide_eq_true hg)
      unfold deClase
      rw [List.filter_append, hnil, List.append_nil]

theorem ve_todas (K : Claves) (s : Db) : Ve todas K g s :=
  ⟨fun _ _ _ => rfl, fun _ _ _ => rfl, fun _ _ _ => rfl, fun _ _ _ _ _ _ => rfl,
    fun _ _ _ _ _ _ => rfl⟩

/-- **A load and the detection of another slice are separate.** -/
theorem carga_deteccion_separadas {α β : Type} (hfg : f ≠ g) {K : Claves} (w : List Bool)
    {p : Prg α} {q : Prg β} (hp : p.All (DeCargaEn K g)) (hq : q.All (DeDeteccion f)) {s t : Db}
    (hs : IdsAparte f g s) {p' : Prg α} {q' : Prg β}
    (hw : Prog.weave (exec M) w p q s = (p', q', t)) {x : Except Error α} {y : Except Error β}
    (hx : p'.result = some x) (hy : q'.result = some y) :
    x = (Prog.run (exec M) p s).1 ∧
      y = (Prog.run (exec M) q (Prog.run (exec M) p s).2).1 ∧
      visibles todas (soloDe g) t =
        visibles todas (soloDe g) (Prog.run (exec M) q (Prog.run (exec M) p s).2).2 ∧
      vistaDe f g t = vistaDe f g (Prog.run (exec M) q (Prog.run (exec M) p s).2).2 :=
  Prog.weave_separate (carga_actsThrough rfl fun s _ => ve_todas K s) deteccion_actsThrough
    (carga_leaves hfg K) (deteccion_leaves hfg) w hp hq hs hw hx hy

end

end Fractura
