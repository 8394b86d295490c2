import Fractura.Chilecompra.Grupos
import Fractura.Invariante

/-!
# The primary keys of the alerts

When does `run_detection` raise on an id that it builds itself?  In a reachable store two alerts of
a slice share their id in two ways only (`SinChoque` excludes them):

* two flagged groups of suppliers without RUT: a NULL is formatted as `None`, and SQL groups by RUT
  AND name.  A RUT that is present belongs to one supplier;
* two flagged pairs `(o, x_p)` and `(o_x, p)`: the components may contain the separator.

Ids of different rules, of different slices and of the documented cases never meet: a slice ends
after its last underscore in a month (`slice_inj`).  `deteccion_sin_choque_iff` is the
exact condition, for one slice and for all.
-/

namespace Fractura

open Db Group

/-! ## the condition -/

/-- a RUT that is formatted as `None` -/
def SinRut (r : Option String) : Prop := r = none ∨ r = some "None"

instance (r : Option String) : Decidable (SinRut r) := by unfold SinRut; infer_instance

/-- the pair is flagged by the second rule -/
def marcaPar (M : Motor) (us : List Unido) (o p : String) : Prop :=
  ∃ n r, marcaP2 M us (some o, some p, n, r)

structure SinChoque (M : Motor) (s : Db) (f : String) : Prop where
  /-- at most one group of suppliers without RUT is flagged by the first rule -/
  p1 : ∀ k k', SinRut k.1 → SinRut k'.1 → marcaP1 (s.unidos f) k → marcaP1 (s.unidos f) k' → k = k'
  /-- no two flagged pairs differ by where a text between underscores belongs -/
  p2 : ∀ o x p, ¬ (marcaPar M (s.unidos f) o (x ++ "_" ++ p) ∧
    marcaPar M (s.unidos f) (o ++ "_" ++ x) p)
  /-- at most one group of suppliers without RUT is flagged by the third rule -/
  p3 : ∀ k k', SinRut k.1 → SinRut k'.1 → marcaP3 (s.unidos f) k → marcaP3 (s.unidos f) k' → k = k'

section
variable {M : Motor} {s : Db} {f : String}

/-! ## texts -/

theorem pyText_sinRut {r r' : Option String} (h : pyText r = pyText r') :
    r = r' ∨ (SinRut r ∧ SinRut r') := by
  cases r with
  | none =>
    cases r' with
    | none => exact Or.inl rfl
    | some x => exact Or.inr ⟨Or.inl rfl, Or.inr (congrArg some h.symm)⟩
  | some x =>
    cases r' with
    | none => exact Or.inr ⟨Or.inr (congrArg some h), Or.inl rfl⟩
    | some y => exact Or.inl (congrArg some h)

theorem pyText_of_sinRut {r : Option String} (h : SinRut r) : pyText r = "None" := by
  rcases h with h | h <;> rw [h] <;> rfl

/-- what a number is written with -/
def DeNumero (c : Char) : Prop := c.isDigit = true ∨ c = '-'

theorem isDigit_of_mem_repr {n : Nat} {c : Char} (h : c ∈ (Nat.repr n).toList) : c.isDigit = true := by
  rw [Nat.toList_repr] at h
  exact Nat.isDigit_of_mem_toDigits (by decide) (by decide) h

theorem deNumero_repr (n : Nat) : ∀ c ∈ (Nat.repr n).toList, DeNumero c :=
  fun _ hc => Or.inl (isDigit_of_mem_repr hc)

theorem deNumero_int (n : Int) : ∀ c ∈ (toString n).toList, DeNumero c := by
  rw [Int.toString_eq_repr, Int.repr_eq_if]
  split
  · exact deNumero_repr _
  · intro c hc
    rw [String.toList_append, List.mem_append] at hc
    rcases hc with hc | hc
    · exact Or.inr (List.mem_singleton.mp hc)
    · exact deNumero_repr _ c hc

/-- what stands after the last underscore of a slice -/
def mesDe (year month : Int) : String := toString year ++ "-" ++ pad2 month

theorem deNumero_mesDe (year month : Int) : ∀ c ∈ (mesDe year month).toList, DeNumero c := by
  have hpad : ∀ c ∈ (pad2 month).toList, DeNumero c := by
    unfold pad2
    split
    · intro c hc
      rw [String.toList_append, List.mem_append] at hc
      rcases hc with hc | hc
      · rw [List.mem_singleton.mp hc]
        exact Or.inl rfl
      · exact deNumero_int _ c hc
    · exact deNumero_int _
  intro c hc
  unfold mesDe at hc
  rw [String.toList_append, String.toList_append, List.mem_append, List.mem_append] at hc
  rcases hc with (hc | hc) | hc
  · exact deNumero_int _ c hc
  · exact Or.inr (List.mem_singleton.mp hc)
  · exact hpad c hc

theorem fuenteDe_eq (year month : Int) :
    fuenteDe year month = "chilecompra_oc_" ++ mesDe year month := by
  unfold fuenteDe mesDe
  rw [String.append_assoc]

theorem underscore_not_mem_mesDe (year month : Int) : '_' ∉ (mesDe year month).toList :=
  fun h => absurd (deNumero_mesDe year month '_' h) (by unfold DeNumero; decide)

theorem slash_not_mem_fuenteDe (year month : Int) : '/' ∉ (fuenteDe year month).toList := by
  rw [fuenteDe_eq, String.toList_append, List.mem_append]
  rintro (h | h)
  · exact absurd h (by decide)
  · exact absurd (deNumero_mesDe year month '/' h) (by unfold DeNumero; decide)

/-- **The slice of an id is determined by the id.** -/
theorem slice_inj {x x' : String} {y m y' m' : Int}
    (h : x ++ "_" ++ fuenteDe y m = x' ++ "_" ++ fuenteDe y' m') : fuenteDe y m = fuenteDe y' m' := by
  have hcut (z : String) (y m : Int) : z ++ "_" ++ fuenteDe y m =
      (z ++ "_chilecompra_oc") ++ (String.singleton '_' ++ mesDe y m) := by
    show z ++ "_" ++ ("chilecompra_oc_" ++ _) = _
    apply String.toList_inj.mp
    simp [mesDe]
  rw [hcut, hcut] at h
  have hm := (Text.sep_inj_string (underscore_not_mem_mesDe y m) (underscore_not_mem_mesDe y' m')
    h).2
  rw [fuenteDe_eq, fuenteDe_eq, hm]

/-! ## ids of different rules -/

theorem idRegla_alertasP1 {us : List Unido} {a : Alerta} (h : a ∈ alertasP1 M f us) :
    ∃ x, a.id = "p1_" ++ x ++ "_" ++ f := by
  obtain ⟨r, -, rfl⟩ := List.mem_map.mp h
  exact ⟨pyText r.empresaRut, rfl⟩

theorem idRegla_alertasP2 {us : List Unido} {a : Alerta} (h : a ∈ alertasP2 M f us) :
    ∃ x, a.id = "p2_" ++ x ++ "_" ++ f := by
  obtain ⟨r, -, rfl⟩ := List.mem_map.mp h
  refine ⟨pyText r.organismoId ++ "_" ++ pyText r.proveedorId, ?_⟩
  show idP2 f _ _ = _
  unfold idP2
  simp only [String.append_assoc]

theorem idRegla_alertasP3 {us : List Unido} {a : Alerta} (h : a ∈ alertasP3 M f us) :
    ∃ x, a.id = "p3_" ++ x ++ "_" ++ f := by
  obtain ⟨r, -, rfl⟩ := List.mem_map.mp h
  exact ⟨pyText r.empresaRut, rfl⟩

/-- a text that starts with a `p` and ends in the slice, as every id of a rule does -/
def EsIdRegla (f id : String) : Prop := ∃ x, id = "p" ++ x ++ "_" ++ f

theorem esIdRegla_p1 (f : String) (rut : Option String) : EsIdRegla f (idP1 f rut) :=
  ⟨"1_" ++ pyText rut, by unfold idP1; apply String.toList_inj.mp; simp⟩

theorem esIdRegla_p2 (f : String) (o p : Option String) : EsIdRegla f (idP2 f o p) :=
  ⟨"2_" ++ pyText o ++ "_" ++ pyText p, by unfold idP2; apply String.toList_inj.mp; simp⟩

theorem esIdRegla_p3 (f : String) (rut : Option String) : EsIdRegla f (idP3 f rut) :=
  ⟨"3_" ++ pyText rut, by unfold idP3; apply String.toList_inj.mp; simp⟩

theorem idRegla {us : List Unido} {a : Alerta} (h : a ∈ alertasReglas M f us) :
    EsIdRegla f a.id := by
  rcases mem_alertasReglas.mp h with ⟨r, -, rfl⟩ | ⟨r, -, rfl⟩ | ⟨r, -, rfl⟩
  · exact esIdRegla_p1 f _
  · exact esIdRegla_p2 f _ _
  · exact esIdRegla_p3 f _

theorem nodup_alertasReglas {us : List Unido} :
    ((alertasReglas M f us).map Alerta.id).Nodup ↔
      ((alertasP1 M f us).map Alerta.id).Nodup ∧ ((alertasP2 M f us).map Alerta.id).Nodup ∧
        ((alertasP3 M f us).map Alerta.id).Nodup := by
  unfold alertasReglas
  rw [List.map_append, List.map_append]
  refine ⟨fun h => ⟨h.of_append_left.of_append_left, h.of_append_left.of_append_right,
    h.of_append_right⟩, fun h => ?_⟩
  -- the second character tells the rule
  have hne {p q x y : String} (hpq : p.toList[1]? ≠ q.toList[1]?) (hp : p.length = 3)
      (hq : q.length = 3) : p ++ x ++ "_" ++ f ≠ q ++ y ++ "_" ++ f := by
    intro he
    have hl := congrArg (fun t => (String.toList t)[1]?) he
    simp only [String.toList_append, List.append_assoc] at hl
    have hp' : 1 < p.toList.length := by rw [String.length_toList]; omega
    have hq' : 1 < q.toList.length := by rw [String.length_toList]; omega
    rw [List.getElem?_append_left hp', List.getElem?_append_left hq'] at hl
    exact hpq hl
  refine List.nodup_append.mpr ⟨List.nodup_append.mpr ⟨h.1, h.2.1, ?_⟩, h.2.2, ?_⟩
  · intro i hi j hj he
    obtain ⟨a, ha, rfl⟩ := List.mem_map.mp hi
    obtain ⟨b, hb, rfl⟩ := List.mem_map.mp hj
    obtain ⟨x, hx⟩ := idRegla_alertasP1 ha
    obtain ⟨y, hy⟩ := idRegla_alertasP2 hb
    rw [hx, hy] at he
    exact hne (by decide) (by decide) (by decide) he
  · intro i hi j hj he
    obtain ⟨b, hb, rfl⟩ := List.mem_map.mp hj
    obtain ⟨y, hy⟩ := idRegla_alertasP3 hb
    rcases List.mem_append.mp hi with hi | hi
    · obtain ⟨a, ha, rfl⟩ := List.mem_map.mp hi
      obtain ⟨x, hx⟩ := idRegla_alertasP1 ha
      rw [hx, hy] at he
      exact hne (by decide) (by decide) (by decide) he
    · obtain ⟨a, ha, rfl⟩ := List.mem_map.mp hi
      obtain ⟨x, hx⟩ := idRegla_alertasP2 ha
      rw [hx, hy] at he
      exact hne (by decide) (by decide) (by decide) he

/-! ## keys of the joined rows -/

theorem unidos_of_proveedor {u u' : Unido} (hu : u ∈ s.unidos f) (hu' : u' ∈ s.unidos f)
    (h : u.c.proveedorId = u'.c.proveedorId) : u.rut = u'.rut ∧ u.nombre = u'.nombre := by
  obtain ⟨-, e, he, hk, -, hr, hn⟩ := mem_unidos.mp hu
  obtain ⟨-, e', he', hk', -, hr', hn'⟩ := mem_unidos.mp hu'
  have hee : e = e' := by
    apply KeyTable.eq_of_key he he'
    rw [hk, hk'] at h
    exact Option.some.inj h
  rw [hr, hr', hn, hn', hee]
  exact ⟨rfl, rfl⟩

/-- **A RUT belongs to one supplier.** -/
theorem InvTablas.proveedor_of_rut (hs : InvTablas s) {u u' : Unido} (hu : u ∈ s.unidos f)
    (hu' : u' ∈ s.unidos f) {x : String} (h : u.rut = some x) (h' : u'.rut = some x) :
    u.c.proveedorId = u'.c.proveedorId := by
  obtain ⟨-, e, he, hk, -, hr, -⟩ := mem_unidos.mp hu
  obtain ⟨-, e', he', hk', -, hr', -⟩ := mem_unidos.mp hu'
  have h1 := hs.rut e he x (hr.symm.trans h)
  have h2 := hs.rut e' he' x (hr'.symm.trans h')
  rw [hk, hk', ← h1, ← h2]

theorem InvTablas.porEmpresa_of_rut (hs : InvTablas s) {u u' : Unido} (hu : u ∈ s.unidos f)
    (hu' : u' ∈ s.unidos f) {x : String} (h : u.rut = some x) (h' : u'.rut = some x) :
    porEmpresa u = porEmpresa u' := by
  have hn := (unidos_of_proveedor hu hu' (hs.proveedor_of_rut hu hu' h h')).2
  unfold porEmpresa
  rw [h, h', hn]

theorem InvTablas.claves (hs : InvTablas s) {u : Unido} (hu : u ∈ s.unidos f) :
    ∃ o p, porPar u = (some o, some p, u.nombre, u.rut) := by
  obtain ⟨hc, -⟩ := mem_unidos.mp hu
  obtain ⟨⟨o, ho⟩, p, hp⟩ := hs.padres u.c (mem_contratosDe.mp hc).1
  exact ⟨o, p, by unfold porPar; rw [ho, hp]⟩

/-! ## the ids of a slice -/

theorem textos_iff (hs : InvTablas s) {marca : Option String × String → Prop}
    (hex : ∀ k, marca k → ∃ u ∈ s.unidos f, porEmpresa u = k) :
    (∀ k k', marca k → marca k' → pyText k.1 = pyText k'.1 → k = k') ↔
      ∀ k k', SinRut k.1 → SinRut k'.1 → marca k → marca k' → k = k' := by
  refine ⟨fun h k k' hr hr' hk hk' => ?_, fun h k k' hk hk' ht => ?_⟩
  · exact h k k' hk hk' (by rw [pyText_of_sinRut hr, pyText_of_sinRut hr'])
  · rcases pyText_sinRut ht with hr | ⟨hr, hr'⟩
    · cases hx : k.1 with
      | none => exact h k k' (Or.inl hx) (Or.inl (hr.symm.trans hx)) hk hk'
      | some x =>
        -- with a RUT the two groups are of one supplier
        obtain ⟨u, hu, hku⟩ := hex k hk
        obtain ⟨u', hu', hku'⟩ := hex k' hk'
        rw [← hku, ← hku']
        exact hs.porEmpresa_of_rut hu hu' ((congrArg Prod.fst hku).trans hx)
          ((congrArg Prod.fst hku').trans (hr.symm.trans hx))
    · exact h k k' hr hr' hk hk'

theorem textos_par_iff (hs : InvTablas s) :
    (∀ k k', marcaP2 M (s.unidos f) k → marcaP2 M (s.unidos f) k' →
      pyText k.1 ++ "_" ++ pyText k.2.1 = pyText k'.1 ++ "_" ++ pyText k'.2.1 → k = k') ↔
      ∀ o x p, ¬ (marcaPar M (s.unidos f) o (x ++ "_" ++ p) ∧
        marcaPar M (s.unidos f) (o ++ "_" ++ x) p) := by
  refine ⟨fun h => ?_, fun h => ?_⟩
  · intro o x p hpar
    obtain ⟨⟨n, r, hk⟩, n', r', hk'⟩ := hpar
    have heq := h _ _ hk hk' (by
      show o ++ "_" ++ (x ++ "_" ++ p) = o ++ "_" ++ x ++ "_" ++ p
      simp only [String.append_assoc])
    have ho : o = o ++ "_" ++ x := Option.some.inj (congrArg Prod.fst heq)
    have hl := congrArg String.length ho
    simp only [String.length_append] at hl
    have h1 : "_".length = 1 := rfl
    omega
  · intro k k' hk hk' ht
    obtain ⟨u, hu, -, rfl⟩ := exists_of_marcaP2 hk
    obtain ⟨u', hu', -, rfl⟩ := exists_of_marcaP2 hk'
    obtain ⟨o, p, hop⟩ := hs.claves hu
    obtain ⟨o', p', hop'⟩ := hs.claves hu'
    rw [hop] at hk ht ⊢
    rw [hop'] at hk' ht ⊢
    have hm : marcaPar M (s.unidos f) o p := ⟨_, _, hk⟩
    have hm' : marcaPar M (s.unidos f) o' p' := ⟨_, _, hk'⟩
    rcases (Text.cut_sep (c := '_')).mp ht with ⟨ho, hp⟩ | ⟨x, ho, hp⟩ | ⟨x, ho, hp⟩
    · have hp1 : u.c.proveedorId = some p := congrArg (fun k => k.2.1) hop
      have hp2 : u'.c.proveedorId = some p' := congrArg (fun k => k.2.1) hop'
      obtain ⟨hr, hn⟩ := unidos_of_proveedor hu hu' (by rw [hp1, hp2]; exact congrArg some hp)
      have ho' : o = o' := ho
      have hp' : p = p' := hp
      rw [ho', hp', hr, hn]
    · have ho' : o' = o ++ "_" ++ x := ho
      have hp' : p = x ++ "_" ++ p' := hp
      rw [hp'] at hm
      rw [ho'] at hm'
      exact absurd ⟨hm, hm'⟩ (h o x p')
    · have ho' : o = o' ++ "_" ++ x := ho
      have hp' : p' = x ++ "_" ++ p := hp
      rw [ho'] at hm
      rw [hp'] at hm'
      exact absurd ⟨hm', hm⟩ (h o' x p)

theorem nodup_iff_sinChoque (hs : InvTablas s) :
    ((alertasReglas M f (s.unidos f)).map Alerta.id).Nodup ↔ SinChoque M s f := by
  rw [nodup_alertasReglas, nodup_idsP1, nodup_idsP2, nodup_idsP3,
    textos_iff hs fun k => exists_of_marcaP1, textos_par_iff hs,
    textos_iff hs fun k => exists_of_marcaP3]
  exact ⟨fun h => ⟨h.1, h.2.1, h.2.2⟩, fun h => ⟨h.p1, h.p2, h.p3⟩⟩

/-! ## the ids that are already stored -/

theorem exists_unido_of_regla {us : List Unido} {a : Alerta} (h : a ∈ alertasReglas M f us) :
    ∃ u, u ∈ us := by
  rcases mem_alertasReglas.mp h with ⟨r, hr, -⟩ | ⟨r, hr, -⟩ | ⟨r, hr, -⟩
  · obtain ⟨k, hk, -⟩ := mem_p1De.mp hr
    obtain ⟨u, hu, -⟩ := exists_of_marcaP1 hk
    exact ⟨u, hu⟩
  · obtain ⟨k, hk, -⟩ := mem_p2De.mp hr
    obtain ⟨u, hu, -⟩ := exists_of_marcaP2 hk
    exact ⟨u, hu⟩
  · obtain ⟨k, hk, -⟩ := mem_p3De.mp hr
    obtain ⟨u, hu, -⟩ := exists_of_marcaP3 hk
    exact ⟨u, hu⟩

theorem slice_of_regla (hs : InvTablas s) {a : Alerta}
    (h : a ∈ alertasReglas M f (s.unidos f)) : ∃ y m, f = fuenteDe y m := by
  obtain ⟨u, hu⟩ := exists_unido_of_regla h
  obtain ⟨hc, -⟩ := mem_unidos.mp hu
  obtain ⟨hm, hf⟩ := mem_contratosDe.mp hc
  obtain ⟨y, m, hym⟩ := hs.slice u.c hm
  exact ⟨y, m, Option.some.inj (hf.symm.trans hym)⟩

/-- **An id of the rules of a slice is carried by the rule alerts of the slice only.** -/
theorem Inv.de_idRegla (hs : Inv M s) {b : Alerta} (hb : b ∈ s.alerta.rows) {y m : Int}
    (h : EsIdRegla (fuenteDe y m) b.id) : b.fuente = some (fuenteDe y m) ∧ b.patron ≠ none := by
  obtain ⟨x, hx⟩ := h
  by_cases hp : b.patron = none
  · obtain ⟨z, hz⟩ := hs.caso b hb hp
    have hl := congrArg (fun t => (String.toList t)[0]?) (hz.symm.trans hx)
    simp at hl
  · obtain ⟨g, hg, hj⟩ := hs.regla b hb hp
    have hj' := justificada_iff.mp hj
    obtain ⟨z, hz⟩ := idRegla hj'
    obtain ⟨y', m', rfl⟩ := slice_of_regla hs.toInvTablas hj'
    have hgf : fuenteDe y' m' = fuenteDe y m := slice_inj (hz.symm.trans hx)
    exact ⟨hg.trans (congrArg some hgf), hp⟩

theorem ids_libres (hs : Inv M s) {a : Alerta} (ha : a ∈ alertasReglas M f (s.unidos f)) :
    a.id ∉ (s.deleteAlertaPatron f).alerta.keys := by
  intro hk
  obtain ⟨b, hb, hid⟩ := KeyTable.mem_keys.mp hk
  obtain ⟨hmem, hkeep⟩ := List.mem_filter.mp hb
  obtain ⟨y, m, rfl⟩ := slice_of_regla hs.toInvTablas ha
  exact of_decide_eq_true hkeep (hs.de_idRegla hmem (hid ▸ idRegla ha))

/-! ## detections -/

theorem detectar_ok_iff_sinChoque (hs : Inv M s) :
    (∃ r t, Prog.run (exec M) (detectar M f) s = (.ok r, t)) ↔ SinChoque M s f := by
  rw [detectar_ok_iff, nodup_iff_sinChoque hs.toInvTablas]
  exact ⟨fun h => h.1, fun h => ⟨h, fun a ha => ids_libres hs ha⟩⟩

theorem sinChoque_congr {t : Db} (h : t.unidos f = s.unidos f) :
    SinChoque M t f ↔ SinChoque M s f := by
  refine ⟨fun hc => ⟨?_, ?_, ?_⟩, fun hc => ⟨?_, ?_, ?_⟩⟩
  · rw [← h]; exact hc.p1
  · rw [← h]; exact hc.p2
  · rw [← h]; exact hc.p3
  · rw [h]; exact hc.p1
  · rw [h]; exact hc.p2
  · rw [h]; exact hc.p3

theorem sinChoque_of_nil (h : s.unidos f = []) : SinChoque M s f := by
  have hno (u : Unido) : u ∉ s.unidos f := by rw [h]; exact List.not_mem_nil
  refine ⟨?_, ?_, ?_⟩
  · intro k k' _ _ hk
    obtain ⟨u, hu, -⟩ := exists_of_marcaP1 hk
    exact absurd hu (hno u)
  · intro o x p hpar
    obtain ⟨⟨n, r, hk⟩, -⟩ := hpar
    obtain ⟨u, hu, -⟩ := exists_of_marcaP2 hk
    exact hno u hu
  · intro k k' _ _ hk
    obtain ⟨u, hu, -⟩ := exists_of_marcaP3 hk
    exact absurd hu (hno u)

/-- the loop over the slices: a detection changes neither the other slices' joined rows nor the
invariant -/
theorem detectarTodas_iff (hs : Inv M s) (fs : List String) :
    (Prog.run (exec M) (detectarTodas M fs) s).1 ≠ .error (.primaryKey .alerta) ↔
      ∀ f ∈ fs, SinChoque M s f := by
  induction fs generalizing s with
  | nil =>
    refine ⟨fun _ f hf => absurd hf List.not_mem_nil, fun _ h => ?_⟩
    cases h
  | cons f fs ih =>
    have hhead := detectar_ok_iff_sinChoque (f := f) hs
    have hinv := hs.detectarUna f
    rw [List.forall_mem_cons]
    unfold detectarTodas
    simp only [Prog.bind_eq]
    rcases run_detectar M f s with ⟨t, ht, hins⟩ | ⟨pre, a, post, t, -, ht, -, -⟩
    · rw [Prog.run_bind_ok _ ht]
      rw [ht] at hinv
      have hsame (g : String) : SinChoque M t g ↔ SinChoque M s g :=
        sinChoque_congr (hins.unidos g)
      have htail : (Prog.run (exec M) ((detectarTodas M fs).bind fun rs =>
          pure ((f, resultadoDe M (s.unidos f)) :: rs)) t).1 ≠ .error (.primaryKey .alerta) ↔
          ∀ g ∈ fs, SinChoque M s g := by
        rw [Prog.run_bind]
        have ht' := ih hinv
        simp only [hsame] at ht'
        rw [← ht']
        cases Prog.run (exec M) (detectarTodas M fs) t with
        | mk res u =>
          cases res with
          | error e => exact Iff.rfl
          | ok rs =>
            refine ⟨fun _ h => ?_, fun _ h => ?_⟩
            · cases h
            · cases h
      rw [htail]
      exact ⟨fun h => ⟨hhead.mp ⟨_, t, ht⟩, h⟩, fun h => h.2⟩
    · rw [Prog.run_bind_error _ ht]
      refine ⟨fun h => absurd rfl h, fun h => ?_⟩
      obtain ⟨r, t', ht'⟩ := hhead.mpr h.1
      rw [ht] at ht'
      cases ht'

theorem like_fuenteDe (y m : Int) : Text.like "chilecompra_%" (fuenteDe y m) = true := by
  have hf : (fuenteDe y m).toList = "chilecompra".toList ++ '_' :: ("oc_" ++ mesDe y m).toList := by
    unfold fuenteDe mesDe
    simp
  unfold Text.like
  rw [hf]
  show Text.likeChars ("chilecompra".toList ++ ['_', '%']) _ = true
  rw [Text.likeChars_append (by simp), Text.likeChars_cons (by decide),
    Text.likeChars_percent]
  rfl

theorem mem_fuentes (hs : InvTablas s) {fuentes : List String}
    (h : filas M s .fuentes = .ok fuentes) {u : Unido} (hu : u ∈ s.unidos f) : f ∈ fuentes := by
  obtain ⟨hc, -⟩ := mem_unidos.mp hu
  obtain ⟨hm, hf⟩ := mem_contratosDe.mp hc
  obtain ⟨y, m, hym⟩ := hs.slice u.c hm
  have hfy : f = fuenteDe y m := Option.some.inj (hf.symm.trans hym)
  have hrows := Except.ok.inj h
  rw [← hrows, Motor.mem_orden, List.mem_dedup, List.mem_filter, List.mem_filterMap]
  exact ⟨⟨u.c, hm, hf⟩, by rw [hfy]; exact like_fuenteDe y m⟩

/-- **When a detection does not die on its own keys**: of one slice, and of all. -/
theorem deteccion_sin_choque_iff (h : Alcanzable M s) :
    (∀ f, (Prog.run (exec M) (runDetection M (some f)) s).1 ≠ .error (.primaryKey .alerta) ↔
      SinChoque M s f) ∧
    ((Prog.run (exec M) (runDetection M none) s).1 ≠ .error (.primaryKey .alerta) ↔
      ∀ f, SinChoque M s f) := by
  have hs := inv_of_alcanzable h
  refine ⟨fun f => ?_, ?_⟩
  · have h1 := detectarTodas_iff hs [f]
    rw [List.forall_mem_singleton] at h1
    exact h1
  · obtain ⟨fuentes, hq, hrun⟩ := run_runDetection_none M s
    rw [hrun, detectarTodas_iff hs fuentes]
    refine ⟨fun hall f => ?_, fun hall f _ => hall f⟩
    cases hu : s.unidos f with
    | nil => exact sinChoque_of_nil hu
    | cons u us =>
      refine hall f (mem_fuentes hs.toInvTablas hq (u := u) ?_)
      rw [hu]
      exact List.mem_cons_self

end

/-! ## two suppliers without RUT -/

/-- four orders each of two suppliers that have a code and no RUT -/
def comprasSinRut : List FilaCsv :=
  (["1-OC", "2-OC", "3-OC", "4-OC"].map fun id => .orden id "1.000.000" "2024-05-01" "61-K" "" "A" "Uno") ++
    ["5-OC", "6-OC", "7-OC", "8-OC"].map fun id => .orden id "1.000.000" "2024-05-01" "61-K" "" "B" "Dos"

/-- **Both suppliers get the id `p1_None_...`** and the second insertion raises. -/
theorem deteccion_choca :
    Alcanzable motorConcreto (trasCarga 2024 5 comprasSinRut .empty) ∧
    (Prog.run (exec motorConcreto) (runDetection motorConcreto (some "chilecompra_oc_2024-05"))
      (trasCarga 2024 5 comprasSinRut .empty)).1 = .error (.primaryKey .alerta) ∧
    (Prog.run (exec motorConcreto) (runDetection motorConcreto none)
      (trasCarga 2024 5 comprasSinRut .empty)).1 = .error (.primaryKey .alerta) :=
  ⟨.paso (.cargar 2024 5 0 (.csv comprasSinRut)) .vacio, by decide +kernel, by decide +kernel⟩

theorem deteccion_sin_choque_recurrente :
    (Prog.run (exec motorConcreto) (runDetection motorConcreto none)
      (trasCarga 2024 5 comprasRecurrentes .empty)).1 ≠ .error (.primaryKey .alerta) ∧
    ∀ f, SinChoque motorConcreto (trasCarga 2024 5 comprasRecurrentes .empty) f := by
  have hrun : (Prog.run (exec motorConcreto) (runDetection motorConcreto none)
      (trasCarga 2024 5 comprasRecurrentes .empty)).1 ≠ .error (.primaryKey .alerta) := by
    decide +kernel
  exact ⟨hrun, ((deteccion_sin_choque_iff
    (.paso (.cargar 2024 5 0 (.csv comprasRecurrentes)) .vacio)).2).mp hrun⟩

end Fractura
