import Fractura.Lib.Latest
import Fractura.Chilecompra.Fraccionamiento
import Fractura.Chilecompra.Grupos
import Fractura.Paginas.Vecinos

/-!
# `routers/entity.py`: the alerts on the page of an entity

The page of `x` shows the 100 latest alerts that the query links to `x` (`enlazada`).  What an alert
is ABOUT is another thing: it was generated from a group of joined rows (`origenes`), and it is about
the supplier of these rows, an alert of the second rule also about their organism (`AcercaDe`).

* `origenes_despues`   an alert keeps its origins as long as it is stored;
* `enlazada_iff`       the query links to `x` the alerts of the second rule that are about `x`, those of
                       the third rule whose RUT starts with `x` (`RutHasta`), and none of the first;
* `InvAlertas`         the moments of the alerts differ;
* `pagina_fiel_iff`    so the page is right exactly when `PaginaFiel` holds.
-/

namespace Fractura

open Db Group Latest

/-! ## what an alert is about -/

section
variable (M : Motor)

/-- the groups of a rule that give the alert -/
def gruposDe {κ : Type} [DecidableEq κ] (key : Unido → κ) (having : List Unido → Bool)
    (alerta : κ × List Unido → Alerta) (us : List Unido) (a : Alerta) : List (List Unido) :=
  (((groups key us).filter fun g => having g.2).filter
    fun g => decide (a.sinHora = alerta g)).map Prod.snd

def sliceDe (a : Alerta) : String := a.fuente.getD ""

/-- the groups of joined rows that give the alert -/
def origenes (s : Db) (a : Alerta) : List (List Unido) :=
  let f := sliceDe a
  let us := s.unidos f
  gruposDe porEmpresa (havingP1 P1_THRESHOLD_COUNT) (fun g => alertaP1 M f (filaP1 M g)) us a ++
    gruposDe porPar (havingP2 M P2_THRESHOLD_COUNT P2_THRESHOLD_MONTO)
      (fun g => alertaP2 M f (filaP2 M g)) (conFecha us) a ++
    gruposDe porEmpresa (havingP3 P3_THRESHOLD_ORGS) (fun g => alertaP3 M f (filaP3 M g)) us a

/-- the alert was generated from contracts in which `x` is the supplier or, by the second rule, the
buying organism -/
def AcercaDe (s : Db) (a : Alerta) (x : String) : Prop :=
  ∃ g ∈ origenes M s a, (∃ u ∈ g, u.c.proveedorId = some x) ∨
    (a.patron = some "fraccionamiento" ∧ ∃ u ∈ g, u.c.organismoId = some x)

/-- the alert was generated for a RUT whose text is `x` up to the first underscore -/
def RutHasta (s : Db) (a : Alerta) (x : String) : Prop :=
  ∃ g ∈ origenes M s a, ∃ u ∈ g, Text.before '_' (pyText u.rut) = x

instance (s : Db) (a : Alerta) (x : String) : Decidable (AcercaDe M s a x) := by
  unfold AcercaDe; infer_instance

instance (s : Db) (a : Alerta) (x : String) : Decidable (RutHasta M s a x) := by
  unfold RutHasta; infer_instance

/-- the columns that tell the rule of an alert, from a row that it was generated from -/
inductive DeRegla (a : Alerta) (u : Unido) : Prop where
  | p1 (hp : a.patron = some "recurrente") (hid : a.id = idP1 (sliceDe a) u.rut)
      (ho : a.organismoId = none) (hv : a.proveedorId = none)
  | p2 (hp : a.patron = some "fraccionamiento")
      (hid : a.id = idP2 (sliceDe a) u.c.organismoId u.c.proveedorId)
      (ho : a.organismoId = u.c.organismoId) (hv : a.proveedorId = u.c.proveedorId)
  | p3 (hp : a.patron = some "multi-org") (hid : a.id = idP3 (sliceDe a) u.rut)
      (ho : a.organismoId = none) (hv : a.proveedorId = none)

end

section
variable {M : Motor} {s : Db} {a : Alerta} {u : Unido} {g : List Unido} {x : String}

theorem mem_gruposDe {κ : Type} [DecidableEq κ] {key : Unido → κ} {having : List Unido → Bool}
    {alerta : κ × List Unido → Alerta} {us : List Unido} (h0 : having [] = false) :
    g ∈ gruposDe key having alerta us a ↔ ∃ k, having (withKey key us k) = true ∧
      a.sinHora = alerta (k, withKey key us k) ∧ g = withKey key us k := by
  unfold gruposDe
  rw [List.mem_map]
  refine ⟨fun h => ?_, fun h => ?_⟩
  · obtain ⟨p, hp, rfl⟩ := h
    obtain ⟨hp, ha⟩ := List.mem_filter.mp hp
    obtain ⟨h1, h2⟩ := (mem_groups_having h0).mp hp
    refine ⟨p.1, h2, ?_, h1⟩
    rw [← h1]
    exact of_decide_eq_true ha
  · obtain ⟨k, hk, ha, rfl⟩ := h
    refine ⟨(k, withKey key us k), List.mem_filter.mpr ⟨?_, decide_eq_true ha⟩, rfl⟩
    exact (mem_groups_having h0).mpr ⟨rfl, hk⟩

theorem mem_origenes : g ∈ origenes M s a ↔
    (∃ k, marcaP1 (s.unidos (sliceDe a)) k ∧
      a.sinHora = alertaP1 M (sliceDe a) (filaP1 M (k, withKey porEmpresa (s.unidos (sliceDe a)) k)) ∧
      g = withKey porEmpresa (s.unidos (sliceDe a)) k) ∨
    (∃ k, marcaP2 M (s.unidos (sliceDe a)) k ∧ a.sinHora = alertaP2 M (sliceDe a)
        (filaP2 M (k, withKey porPar (conFecha (s.unidos (sliceDe a))) k)) ∧
      g = withKey porPar (conFecha (s.unidos (sliceDe a))) k) ∨
    ∃ k, marcaP3 (s.unidos (sliceDe a)) k ∧
      a.sinHora = alertaP3 M (sliceDe a) (filaP3 M (k, withKey porEmpresa (s.unidos (sliceDe a)) k)) ∧
      g = withKey porEmpresa (s.unidos (sliceDe a)) k := by
  unfold origenes
  rw [List.mem_append, List.mem_append, mem_gruposDe havingP1_nil, mem_gruposDe havingP2_nil,
    mem_gruposDe havingP3_nil, or_assoc]
  rfl

/-- **A row of an origin tells the columns of the alert.** -/
theorem deRegla_of_origen (hg : g ∈ origenes M s a) (hu : u ∈ g) : DeRegla a u := by
  rcases mem_origenes.mp hg with ⟨k, -, ha, rfl⟩ | ⟨k, -, ha, rfl⟩ | ⟨k, -, ha, rfl⟩
  · have hk : porEmpresa u = k := (mem_withKey.mp hu).2
    subst hk
    exact .p1 (congrArg Alerta.patron ha) (congrArg Alerta.id ha) (congrArg Alerta.organismoId ha)
      (congrArg Alerta.proveedorId ha)
  · have hk : porPar u = k := (mem_withKey.mp hu).2
    subst hk
    exact .p2 (congrArg Alerta.patron ha) (congrArg Alerta.id ha) (congrArg Alerta.organismoId ha)
      (congrArg Alerta.proveedorId ha)
  · have hk : porEmpresa u = k := (mem_withKey.mp hu).2
    subst hk
    exact .p3 (congrArg Alerta.patron ha) (congrArg Alerta.id ha) (congrArg Alerta.organismoId ha)
      (congrArg Alerta.proveedorId ha)

/-- **A stored alert of a rule has an origin**, which is not empty. -/
theorem exists_origen (hs : Inv M s) (ha : a ∈ s.alerta.rows) (hp : a.patron ≠ none) :
    ∃ g ∈ origenes M s a, ∃ u, u ∈ g := by
  obtain ⟨f, hf, hj⟩ := hs.regla a ha hp
  have hsl : sliceDe a = f := by rw [sliceDe, hf]; rfl
  subst hsl
  rcases mem_alertasReglas.mp (justificada_iff.mp hj) with ⟨r, hr, he⟩ | ⟨r, hr, he⟩ | ⟨r, hr, he⟩
  · obtain ⟨k, hk, rfl⟩ := mem_p1De.mp hr
    obtain ⟨u, hu, huk⟩ := exists_of_marcaP1 hk
    exact ⟨_, mem_origenes.mpr (Or.inl ⟨k, hk, he, rfl⟩), u, mem_withKey.mpr ⟨hu, huk⟩⟩
  · obtain ⟨k, hk, rfl⟩ := mem_p2De.mp hr
    obtain ⟨u, hu, hd, huk⟩ := exists_of_marcaP2 hk
    exact ⟨_, mem_origenes.mpr (Or.inr (Or.inl ⟨k, hk, he, rfl⟩)), u,
      mem_withKey.mpr ⟨List.mem_filter.mpr ⟨hu, hd⟩, huk⟩⟩
  · obtain ⟨k, hk, rfl⟩ := mem_p3De.mp hr
    obtain ⟨u, hu, huk⟩ := exists_of_marcaP3 hk
    exact ⟨_, mem_origenes.mpr (Or.inr (Or.inr ⟨k, hk, he, rfl⟩)), u, mem_withKey.mpr ⟨hu, huk⟩⟩

theorem AcercaDe.patron (h : AcercaDe M s a x) : a.patron ≠ none := by
  obtain ⟨g, hg, h⟩ := h
  have hu : ∃ u, u ∈ g := by
    rcases h with ⟨u, hu, -⟩ | ⟨-, u, hu, -⟩
    · exact ⟨u, hu⟩
    · exact ⟨u, hu⟩
  obtain ⟨u, hu⟩ := hu
  cases deRegla_of_origen hg hu with
  | p1 hp => rw [hp]; exact Option.some_ne_none _
  | p2 hp => rw [hp]; exact Option.some_ne_none _
  | p3 hp => rw [hp]; exact Option.some_ne_none _

theorem origenes_congr {t : Db} (h : t.unidos (sliceDe a) = s.unidos (sliceDe a)) :
    origenes M t a = origenes M s a := by
  unfold origenes
  dsimp only
  rw [h]

/-- **An alert keeps its origins as long as it is stored.** -/
theorem origenes_despues (op : Op) (ha : a ∈ (op.despues M s).alerta.rows) (hf : a.fuente ≠ none) :
    origenes M (op.despues M s) a = origenes M s a := by
  apply origenes_congr
  rcases despues_tablas (M := M) s op with ⟨year, month, limit, archivo, rfl⟩ | ⟨-, hemp, hcon⟩
  · have haj := load_ajeno M year month limit archivo s
    rcases load_alerta (M := M) year month limit archivo s with ht | ⟨ht, -⟩
    · exact congrArg (fun t : Db => t.unidos (sliceDe a)) ht
    · -- a load deletes the alerts of its slice
      have ha' : a ∈ (s.alerta.filter fun b =>
          decide (b.fuente ≠ some (fuenteDe year month))).rows := ht ▸ ha
      have hne := of_decide_eq_true (List.mem_filter.mp ha').2
      refine haj.unidos fun he => hne ?_
      obtain ⟨f, hf⟩ := Option.ne_none_iff_exists'.mp hf
      rw [← he, sliceDe, hf]
      rfl
  · exact unidos_congr_tablas hcon hemp

/-! ## what the query links -/

/-- the `WHERE` of the alerts of a page -/
def enlazada (x : String) (a : Alerta) : Bool :=
  decide (a.organismoId = some x) || decide (a.proveedorId = some x) ||
    (Text.like "p3_%" a.id && decide (Text.splitPart a.id '_' 2 = x))

theorem like_p3 {id : String} {c d : Char} {z : List Char} (h : id.toList = c :: d :: '_' :: z) :
    Text.like "p3_%" id = decide (c = 'p' ∧ d = '3') := by
  have hpat : "p3_%".toList = ['p', '3', '_', '%'] := rfl
  unfold Text.like
  rw [h, hpat, Text.likeChars_cons (by decide), Text.likeChars_cons (by decide),
    Text.likeChars_cons (by decide), Text.likeChars_percent]
  simp [eq_comm]

theorem like_idP1 (f : String) (r : Option String) : Text.like "p3_%" (idP1 f r) = false := by
  have h : (idP1 f r).toList = 'p' :: '1' :: '_' :: ((pyText r).toList ++ '_' :: f.toList) := by
    simp [idP1]
  rw [like_p3 h]
  decide

theorem like_idP2 (f : String) (o p : Option String) :
    Text.like "p3_%" (idP2 f o p) = false := by
  have h : (idP2 f o p).toList = 'p' :: '2' :: '_' ::
      ((pyText o).toList ++ '_' :: ((pyText p).toList ++ '_' :: f.toList)) := by
    simp [idP2]
  rw [like_p3 h]
  decide

theorem like_idP3 (f : String) (r : Option String) : Text.like "p3_%" (idP3 f r) = true := by
  have h : (idP3 f r).toList = 'p' :: '3' :: '_' :: ((pyText r).toList ++ '_' :: f.toList) := by
    simp [idP3]
  rw [like_p3 h]
  decide

theorem like_caso (z : String) : Text.like "p3_%" ("alert_" ++ z) = false := by
  have h : ("alert_" ++ z).toList = 'a' :: ("lert_" ++ z).toList := by simp
  have hpat : "p3_%".toList = ['p', '3', '_', '%'] := rfl
  unfold Text.like
  rw [h, hpat, Text.likeChars_cons (by decide)]
  rfl

/-- the second part of an id of the third rule is its RUT, up to the next underscore -/
theorem splitPart_idP3 (f : String) (r : Option String) :
    Text.splitPart (idP3 f r) '_' 2 = Text.before '_' (pyText r) := by
  have h : idP3 f r = "p3" ++ String.singleton '_' ++ pyText r ++ String.singleton '_' ++ f := by
    apply String.toList_inj.mp
    simp [idP3]
  have hp : '_' ∉ "p3".toList := by decide
  rw [h, Text.splitPart_two hp]

/-- **An alert of the second rule has its pair in its columns.** -/
theorem acercaDe_p2_iff (hg : g ∈ origenes M s a) (hu : u ∈ g)
    (hp : a.patron = some "fraccionamiento") :
    AcercaDe M s a x ↔ a.organismoId = some x ∨ a.proveedorId = some x := by
  have hcol : ∀ g' ∈ origenes M s a, ∀ u' ∈ g', a.organismoId = u'.c.organismoId ∧
      a.proveedorId = u'.c.proveedorId := by
    intro g' hg' u' hu'
    cases deRegla_of_origen hg' hu' with
    | p1 hp' => exact absurd (hp.symm.trans hp') (by decide)
    | p2 _ _ ho hv => exact ⟨ho, hv⟩
    | p3 hp' => exact absurd (hp.symm.trans hp') (by decide)
  refine ⟨fun h => ?_, fun h => ⟨g, hg, ?_⟩⟩
  · obtain ⟨g', hg', h⟩ := h
    rcases h with ⟨u', hu', h⟩ | ⟨-, u', hu', h⟩
    · exact Or.inr ((hcol g' hg' u' hu').2.trans h)
    · exact Or.inl ((hcol g' hg' u' hu').1.trans h)
  · rcases h with h | h
    · exact Or.inr ⟨hp, u, hu, (hcol g hg u hu).1.symm.trans h⟩
    · exact Or.inl ⟨u, hu, (hcol g hg u hu).2.symm.trans h⟩

/-- **An alert of the third rule has its RUT in its id.** -/
theorem rutHasta_iff (hg : g ∈ origenes M s a) (hu : u ∈ g) (hp : a.patron = some "multi-org")
    (hid : a.id = idP3 (sliceDe a) u.rut) :
    RutHasta M s a x ↔ Text.before '_' (pyText u.rut) = x := by
  refine ⟨fun h => ?_, fun h => ⟨g, hg, u, hu, h⟩⟩
  obtain ⟨g', hg', u', hu', h⟩ := h
  cases deRegla_of_origen hg' hu' with
  | p1 hp' => exact absurd (hp.symm.trans hp') (by decide)
  | p2 hp' => exact absurd (hp.symm.trans hp') (by decide)
  | p3 _ hid' => rw [idP3_inj.mp (hid.symm.trans hid'), h]

/-- **What the page links to `x`.** -/
theorem enlazada_iff (hs : Inv M s) (ha : a ∈ s.alerta.rows) (hp : a.patron ≠ none) :
    enlazada x a = true ↔ (a.patron = some "fraccionamiento" ∧ AcercaDe M s a x) ∨
      (a.patron = some "multi-org" ∧ RutHasta M s a x) := by
  obtain ⟨g, hg, u, hu⟩ := exists_origen hs ha hp
  unfold enlazada
  cases deRegla_of_origen hg hu with
  | p1 hpat hid ho hv =>
    rw [hpat, hid, ho, hv, like_idP1]
    refine ⟨fun h => ?_, fun h => ?_⟩
    · exact absurd h (by simp)
    · rcases h with ⟨h, -⟩ | ⟨h, -⟩
      · exact absurd h (by decide)
      · exact absurd h (by decide)
  | p2 hpat hid ho hv =>
    have hne : ¬ (some "fraccionamiento" = some "multi-org") := by decide
    rw [acercaDe_p2_iff hg hu hpat, hpat, hid, like_idP2, Bool.false_and, Bool.or_false,
      Bool.or_eq_true, decide_eq_true_eq, decide_eq_true_eq]
    simp [hne]
  | p3 hpat hid ho hv =>
    have hne : ¬ (some "multi-org" = some "fraccionamiento") := by decide
    rw [rutHasta_iff hg hu hpat hid, hpat, hid, ho, hv, like_idP3, splitPart_idP3, Bool.true_and]
    simp [hne]

end

/-! ## the moments of the alerts -/

/-- what every operation keeps of the alerts -/
structure InvAlertas (s : Db) : Prop where
  horas : ∀ a ∈ s.alerta.rows, ∃ n < s.reloj, a.createdAt = some n
  distintas : (s.alerta.rows.map Alerta.createdAt).Nodup
  casos : ∀ a ∈ s.alerta.rows, a.patron = none → a.organismoId = none ∧ a.proveedorId = none

theorem map_createdAt_sellar (n : Nat) (l : List Alerta) :
    (sellar n l).map Alerta.createdAt = (List.range' n l.length).map some := by
  induction l generalizing n with
  | nil => rfl
  | cons a l ih => rw [sellar, List.map_cons, ih, List.length_cons, List.range'_succ]; rfl

namespace InvAlertas
variable {M : Motor} {s t : Db}

theorem congr (hs : InvAlertas s) (ha : t.alerta = s.alerta) (hr : t.reloj = s.reloj) :
    InvAlertas t := by
  refine ⟨?_, ?_, ?_⟩
  · rw [ha, hr]; exact hs.horas
  · rw [ha]; exact hs.distintas
  · rw [ha]; exact hs.casos

theorem filtrada {p : Alerta → Bool} (hs : InvAlertas s) (ha : t.alerta = s.alerta.filter p)
    (hr : t.reloj = s.reloj) : InvAlertas t := by
  have hrows : t.alerta.rows = s.alerta.rows.filter p := by rw [ha]; rfl
  refine ⟨fun a h => ?_, ?_, fun a h hp => ?_⟩
  · rw [hr]
    rw [hrows] at h
    exact hs.horas a (List.mem_of_mem_filter h)
  · rw [hrows]
    exact hs.distintas.sublist (List.filter_sublist.map _)
  · rw [hrows] at h
    exact hs.casos a (List.mem_of_mem_filter h) hp

theorem insertadas {l : List Alerta} (hs : InvAlertas s) (h : Insertadas s l t)
    (hl : ∀ b ∈ l, b.patron = none → b.organismoId = none ∧ b.proveedorId = none) :
    InvAlertas t := by
  refine ⟨fun a ha => ?_, ?_, fun a ha hp => ?_⟩
  · rw [h.rows] at ha
    rw [h.reloj]
    rcases List.mem_append.mp ha with ha | ha
    · obtain ⟨n, hn, han⟩ := hs.horas a ha
      exact ⟨n, by omega, han⟩
    · have hm := List.mem_map_of_mem (f := Alerta.createdAt) ha
      rw [map_createdAt_sellar] at hm
      obtain ⟨n, hn, he⟩ := List.mem_map.mp hm
      exact ⟨n, (List.mem_range'_1.mp hn).2, he.symm⟩
  · rw [h.rows, List.map_append, map_createdAt_sellar]
    have hnew : ((List.range' s.reloj l.length).map some).Nodup :=
      List.Nodup.map (Option.some_injective _) List.nodup_range'
    refine List.nodup_append.mpr ⟨hs.distintas, hnew, fun x hx y hy he => ?_⟩
    -- an old moment is before the clock, a new one is not
    obtain ⟨a, ha, rfl⟩ := List.mem_map.mp hx
    obtain ⟨n, hn, rfl⟩ := List.mem_map.mp hy
    obtain ⟨m, hm, ham⟩ := hs.horas a ha
    have hmn : m = n := Option.some.inj (ham.symm.trans he)
    have hle := (List.mem_range'_1.mp hn).1
    omega
  · rw [h.rows] at ha
    rcases List.mem_append.mp ha with ha | ha
    · exact hs.casos a ha hp
    · obtain ⟨b, hb, n, rfl⟩ := mem_sellar ha
      exact hl b hb hp

theorem detectar {f : String} (hs : InvAlertas s) :
    InvAlertas (Prog.run (exec M) (Fractura.detectar M f) s).2 := by
  obtain ⟨l, hl, hins⟩ := run_detectar_insertadas M f s
  have hdel : InvAlertas (s.deleteAlertaPatron f) := hs.filtrada rfl rfl
  exact hdel.insertadas hins fun b hb hp => absurd hp (alertasReglas_fuente (hl b hb)).2.1

/-- **One operation keeps the invariant.** -/
theorem paso (hs : InvAlertas s) (op : Op) : InvAlertas (op.despues M s) := by
  cases op with
  | cargar year month limit a =>
    rcases load_alerta (M := M) year month limit a s with h | ⟨h, hr⟩
    · exact hs.congr (congrArg (fun t : Db => t.alerta) h) (congrArg (fun t : Db => t.reloj) h)
    · exact hs.filtrada h hr
  | detectar fuente => exact run_runDetection_keeps M (fun f s hs => hs.detectar) fuente hs
  | cargarCasos csv =>
    refine Prog.run_keeps (exec M) (fun q u x t hq hu ht => ?_) (loadCorrupcion_deCasos M csv) hs
    obtain ⟨-, -, -, h1, h2⟩ := hq.tablas ht
    exact InvAlertas.congr hu h1 h2
  | detectarCasos =>
    obtain ⟨l, hl, hins⟩ := run_detectarCasos_insertadas (M := M) s
    refine hs.insertadas hins fun b hb _ => ?_
    obtain ⟨c, -, sev, rfl⟩ := mem_alertasCasos (hl b hb)
    exact ⟨rfl, rfl⟩

end InvAlertas

theorem invAlertas_of_alcanzable {M : Motor} {s : Db} (h : Alcanzable M s) : InvAlertas s := by
  induction h with
  | vacio => exact ⟨fun a ha => absurd ha List.not_mem_nil, List.nodup_nil,
      fun a ha => absurd ha List.not_mem_nil⟩
  | paso op _ ih => exact ih.paso op

/-! ## the page -/

def hora (a : Alerta) : Nat := a.createdAt.getD 0

section
variable {M : Motor} {s : Db} {x : String}

theorem perm_porHora (l : List Alerta) : (porHora M l).Perm l :=
  (List.perm_insertionSort _ _).trans (M.orden_perm l)

theorem pairwise_porHora (hs : InvAlertas s) (p : Alerta → Bool) :
    (porHora M (s.alerta.rows.filter p)).Pairwise fun a b => hora b < hora a := by
  let l := s.alerta.rows.filter p
  have hperm : (porHora M l).Perm l := perm_porHora l
  have hord := pairwise_descNullsLast Alerta.createdAt (M.orden l)
  have hne : ((porHora M l).map Alerta.createdAt).Nodup :=
    (hperm.map _).nodup_iff.mpr (hs.distintas.sublist (List.filter_sublist.map _))
  refine (hord.and (List.pairwise_map.mp hne)).imp_of_mem fun {a b} ha hb h => ?_
  obtain ⟨n, -, hn⟩ := hs.horas a (List.mem_of_mem_filter (hperm.mem_iff.mp ha))
  obtain ⟨m, -, hm⟩ := hs.horas b (List.mem_of_mem_filter (hperm.mem_iff.mp hb))
  obtain ⟨hle, hab⟩ := h
  rw [hn, hm] at hle hab
  unfold hora
  rw [hn, hm]
  exact lt_of_le_of_ne hle fun he => hab (congrArg some he.symm)

theorem exists_filaEntidad (hx : x ∈ s.organismo.keys ∨ x ∈ s.empresa.keys) :
    ∃ r n, filaEntidad s x = some r ∧ r.nombre = some n := by
  unfold filaEntidad
  cases hO : s.organismo.find x with
  | some o => exact ⟨_, o.nombre, rfl, rfl⟩
  | none =>
    cases hE : s.empresa.find x with
    | some e => exact ⟨_, e.nombre, rfl, rfl⟩
    | none =>
      rcases hx with hx | hx
      · exact absurd hx (KeyTable.find_eq_none.mp hO)
      · exact absurd hx (KeyTable.find_eq_none.mp hE)

theorem run_getEntity (hx : x ∈ s.organismo.keys ∨ x ∈ s.empresa.keys) :
    ∃ r, Prog.run (exec M) (getEntity x) s = (.ok r, s) ∧
      r.alertas = (porHora M (s.alerta.rows.filter (enlazada x))).take 100 := by
  obtain ⟨fila, n, hf, hn⟩ := exists_filaEntidad hx
  obtain ⟨alertas, hal, hrun⟩ := run_getEntity_fila (M := M) hf hn
  exact ⟨_, hrun, (Except.ok.inj hal).symm⟩

/-- the alerts about `x` -/
def sobre (M : Motor) (s : Db) (x : String) : List Alerta :=
  s.alerta.rows.filter fun a => decide (AcercaDe M s a x)

/-- when the page of `x` shows the alerts about `x` -/
structure PaginaFiel (M : Motor) (s : Db) (x : String) : Prop where
  /-- no alert of the first rule is about `x` -/
  p1 : ∀ a ∈ s.alerta.rows, AcercaDe M s a x → a.patron ≠ some "recurrente"
  /-- those of the third rule have a RUT that is `x` up to its first underscore -/
  p3 : ∀ a ∈ s.alerta.rows, AcercaDe M s a x → a.patron = some "multi-org" → RutHasta M s a x
  /-- those of other suppliers with such a RUT are older than 100 alerts about `x` -/
  ajenas : ∀ a ∈ s.alerta.rows, a.patron = some "multi-org" → RutHasta M s a x →
    ¬ AcercaDe M s a x → 100 ≤ ((sobre M s x).filter fun b => decide (hora a < hora b)).length

/-- **What the page shows**: the alerts linked to `x` with fewer than 100 later ones. -/
theorem mem_pagina (hs : InvAlertas s) {a : Alerta} :
    a ∈ (porHora M (s.alerta.rows.filter (enlazada x))).take 100 ↔
      Shown hora (fun a => enlazada x a = true) 100 s.alerta.rows a := by
  refine mem_take_iff ?_ (pairwise_porHora hs _)
  simp only [Bool.decide_eq_true]
  exact perm_porHora _

theorem patron_of_enlazada (hs : Inv M s) (hs' : InvAlertas s) {a : Alerta}
    (ha : a ∈ s.alerta.rows) (h : enlazada x a = true) : a.patron ≠ none := by
  intro hp
  obtain ⟨z, hz⟩ := hs.caso a ha hp
  obtain ⟨ho, hv⟩ := hs'.casos a ha hp
  unfold enlazada at h
  rw [ho, hv, hz, like_caso] at h
  exact absurd h (by simp)

/-- **The links of the page are right exactly when `PaginaFiel` holds.** -/
theorem enlaces_iff_paginaFiel (hs : Inv M s) (hs' : InvAlertas s) :
    ((∀ a ∈ s.alerta.rows, AcercaDe M s a x → enlazada x a = true) ∧
      ∀ e ∈ s.alerta.rows, enlazada x e = true → ¬ AcercaDe M s e x →
        100 ≤ (s.alerta.rows.filter
          fun b => decide (AcercaDe M s b x ∧ hora e < hora b)).length) ↔ PaginaFiel M s x := by
  have hlen (e : Alerta) : ((sobre M s x).filter fun b => decide (hora e < hora b)) =
      s.alerta.rows.filter fun b => decide (AcercaDe M s b x ∧ hora e < hora b) := by
    unfold sobre
    rw [List.filter_filter]
    refine List.filter_congr fun b _ => ?_
    rw [← Bool.decide_and]
    exact decide_eq_decide.mpr And.comm
  refine ⟨fun h => ⟨fun a ha hab hr => ?_, fun a ha hab hm => ?_, fun a ha hm hr hno => ?_⟩,
    fun h => ⟨fun a ha hab => ?_, fun e he hl hno => ?_⟩⟩
  · rcases (enlazada_iff hs ha hab.patron).mp (h.1 a ha hab) with ⟨hp, -⟩ | ⟨hp, -⟩
    · exact absurd (hr.symm.trans hp) (by decide)
    · exact absurd (hr.symm.trans hp) (by decide)
  · rcases (enlazada_iff hs ha hab.patron).mp (h.1 a ha hab) with ⟨hp, -⟩ | ⟨-, hr⟩
    · exact absurd (hm.symm.trans hp) (by decide)
    · exact hr
  · have hp : a.patron ≠ none := by rw [hm]; exact Option.some_ne_none _
    rw [hlen]
    exact h.2 a ha ((enlazada_iff hs ha hp).mpr (Or.inr ⟨hm, hr⟩)) hno
  · refine (enlazada_iff hs ha hab.patron).mpr ?_
    obtain ⟨g, hg, u, hu⟩ := exists_origen hs ha hab.patron
    cases deRegla_of_origen hg hu with
    | p1 hp => exact absurd hp (h.p1 a ha hab)
    | p2 hp => exact Or.inl ⟨hp, hab⟩
    | p3 hp => exact Or.inr ⟨hp, h.p3 a ha hab hp⟩
  · rcases (enlazada_iff hs he (patron_of_enlazada hs hs' he hl)).mp hl with ⟨-, hab⟩ | ⟨hm, hr⟩
    · exact absurd hab hno
    · rw [← hlen]
      exact h.ajenas e he hm hr hno

/-- **When the page is the alerts about the entity.** -/
theorem pagina_fiel_iff (h : Alcanzable M s) (hx : x ∈ s.organismo.keys ∨ x ∈ s.empresa.keys)
    (hn : (sobre M s x).length ≤ 100) :
    ∃ r, Prog.run (exec M) (getEntity x) s = (.ok r, s) ∧
      (((∀ a ∈ s.alerta.rows, AcercaDe M s a x → a ∈ r.alertas) ∧
        ∀ a ∈ r.alertas, a.patron ≠ none → AcercaDe M s a x) ↔ PaginaFiel M s x) := by
  have hs := inv_of_alcanzable h
  have hs' := invAlertas_of_alcanzable h
  obtain ⟨r, hr, hal⟩ := run_getEntity (M := M) hx
  refine ⟨r, hr, ?_⟩
  rw [hal]
  refine Iff.trans ?_ ((exact_iff hn).trans (enlaces_iff_paginaFiel hs hs'))
  refine and_congr ?_ ?_
  · exact forall_congr' fun a => forall_congr' fun _ => forall_congr' fun _ => mem_pagina hs'
  · refine ⟨fun h a ha => ?_, fun h a ha _ => h a ((mem_pagina hs').mp ha)⟩
    exact h a ((mem_pagina hs').mpr ha) (patron_of_enlazada hs hs' ha.1 ha.2.1)

end

/-! ## two suppliers -/

/-- **A recurrent supplier does not see its alert.** -/
theorem pagina_sin_recurrente :
    Alcanzable motorConcreto tiendaRecurrente ∧ "76-K" ∈ tiendaRecurrente.empresa.keys ∧
    (sobre motorConcreto tiendaRecurrente "76-K").length ≤ 100 ∧
    ∃ r, Prog.run (exec motorConcreto) (getEntity "76-K") tiendaRecurrente =
        (.ok r, tiendaRecurrente) ∧
      ∃ a ∈ tiendaRecurrente.alerta.rows, a.id = "p1_76-K_chilecompra_oc_2024-05" ∧
        AcercaDe motorConcreto tiendaRecurrente a "76-K" ∧ a ∉ r.alertas := by
  have hkey : "76-K" ∈ tiendaRecurrente.empresa.keys := by decide +kernel
  obtain ⟨r, hr, hal⟩ := run_getEntity (M := motorConcreto) (Or.inr hkey)
  have hnil : (porHora motorConcreto (tiendaRecurrente.alerta.rows.filter (enlazada "76-K"))).take 100 =
      [] := by decide +kernel
  have hex : ∃ a ∈ tiendaRecurrente.alerta.rows, a.id = "p1_76-K_chilecompra_oc_2024-05" ∧
      AcercaDe motorConcreto tiendaRecurrente a "76-K" := by decide +kernel
  refine ⟨tiendaRecurrente_alcanzable, hkey, by decide +kernel, r, hr, ?_⟩
  obtain ⟨a, ha, hid, hab⟩ := hex
  rw [hal, hnil]
  exact ⟨a, ha, hid, hab, List.not_mem_nil⟩

/-- the store with the alert of a split purchase -/
def tiendaPartida : Db := trasDeteccion (trasCarga 2024 5 comprasPartidas .empty)

theorem pagina_fiel_partidas :
    ∃ r, Prog.run (exec motorConcreto) (getEntity "76-K") tiendaPartida = (.ok r, tiendaPartida) ∧
      (∃ a ∈ r.alertas, a.id = "p2_61-K_76-K_chilecompra_oc_2024-05") ∧
      (∀ a ∈ tiendaPartida.alerta.rows, AcercaDe motorConcreto tiendaPartida a "76-K" →
        a ∈ r.alertas) ∧
      ∀ a ∈ r.alertas, a.patron ≠ none → AcercaDe motorConcreto tiendaPartida a "76-K" := by
  have halc : Alcanzable motorConcreto tiendaPartida :=
    .paso (.detectar (some "chilecompra_oc_2024-05"))
      (.paso (.cargar 2024 5 0 (.csv comprasPartidas)) .vacio)
  have hfiel : PaginaFiel motorConcreto tiendaPartida "76-K" :=
    ⟨by decide +kernel, by decide +kernel, by decide +kernel⟩
  obtain ⟨r, hr, hiff⟩ := pagina_fiel_iff halc (Or.inr (by decide +kernel : "76-K" ∈ _))
    (by decide +kernel)
  obtain ⟨hall, hsolo⟩ := hiff.mpr hfiel
  obtain ⟨a, ha, hid, hab⟩ : ∃ a ∈ tiendaPartida.alerta.rows,
      a.id = "p2_61-K_76-K_chilecompra_oc_2024-05" ∧ AcercaDe motorConcreto tiendaPartida a "76-K" := by
    decide +kernel
  exact ⟨r, hr, ⟨a, hall a ha hab, hid⟩, hall, hsolo⟩

end Fractura
