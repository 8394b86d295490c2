import Mathlib
import Fractura.Chilecompra.Claves

/-!
# Which suppliers the first and the third rule flag

The rules group by RUT and name, the claim behind an alert is about one supplier (one row of
`empresa`).  `AlertasExactas` says that after a detection the alerts of the two rules are in
one-to-one correspondence with the suppliers that meet the condition with their OWN contracts, and
that no alert joins contracts of two suppliers.

A RUT that is present belongs to one supplier; suppliers without RUT and with one name are merged.
`deteccion_exacta_iff`: after a detection that returned the alerts are exact if and only if every
merged group is harmless (`SinFusion`).
-/

namespace Fractura

open Db Group

/-! ## suppliers and their own contracts -/

/-- the contracts of a supplier in a slice -/
def propios (s : Db) (f : String) (e : Empresa) : List Contrato :=
  (s.contratosDe f).filter fun c => decide (c.proveedorId = some e.id)

/-- more than three contracts, one organism -/
def CondP1 (cs : List Contrato) : Prop :=
  P1_THRESHOLD_COUNT < cs.length ∧ countDistinct (cs.map Contrato.organismoId) = 1

/-- three organisms -/
def CondP3 (cs : List Contrato) : Prop :=
  P3_THRESHOLD_ORGS ≤ countDistinct (cs.map Contrato.organismoId)

instance (cs : List Contrato) : Decidable (CondP1 cs) := by unfold CondP1; infer_instance
instance (cs : List Contrato) : Decidable (CondP3 cs) := by unfold CondP3; infer_instance

/-- the suppliers with a name that meet a condition with their own contracts -/
def queCumplen (cond : List Contrato → Prop) (s : Db) (f : String) : Set Empresa :=
  {e | e ∈ s.empresa.rows ∧ e.nombre ≠ "Sin nombre" ∧ cond (propios s f e)}

/-- the ids of the alerts of a rule -/
def idsDePatron (t : Db) (f patron : String) : Set String :=
  {i | ∃ a ∈ t.alerta.rows, a.fuente = some f ∧ a.patron = some patron ∧ a.id = i}

/-- the alerts of a slice are those of the suppliers that call for them -/
structure AlertasExactas (M : Motor) (t : Db) (f : String) : Prop where
  recurrentes : Set.BijOn (fun e => idP1 f e.rut) (queCumplen CondP1 t f)
    (idsDePatron t f "recurrente")
  multiOrg : Set.BijOn (fun e => idP3 f e.rut) (queCumplen CondP3 t f)
    (idsDePatron t f "multi-org")
  unaEmpresa : ∀ k, marcaP1 (t.unidos f) k ∨ marcaP3 (t.unidos f) k →
    ∀ u ∈ withKey porEmpresa (t.unidos f) k, ∀ u' ∈ withKey porEmpresa (t.unidos f) k,
      u.c.proveedorId = u'.c.proveedorId
  unaEmpresaPar : ∀ k, marcaP2 M (t.unidos f) k →
    ∀ u ∈ withKey porPar (conFecha (t.unidos f)) k,
      ∀ u' ∈ withKey porPar (conFecha (t.unidos f)) k, u.c.proveedorId = u'.c.proveedorId

/-- the suppliers without RUT and with one name -/
def fundidos (s : Db) (nombre : String) : List Empresa :=
  s.empresa.rows.filter fun e => decide (e.rut = none ∧ e.nombre = nombre)

/-- the contracts of all of them in a slice -/
def deFundidos (s : Db) (f nombre : String) : List Contrato :=
  (s.contratosDe f).filter fun c => decide (∃ e ∈ fundidos s nombre, c.proveedorId = some e.id)

/-- a name under which two or more suppliers without RUT have contracts in the slice -/
def HayFusion (s : Db) (f nombre : String) : Prop :=
  ∃ e ∈ fundidos s nombre, ∃ e' ∈ fundidos s nombre, e ≠ e' ∧ propios s f e ≠ [] ∧
    propios s f e' ≠ []

/-- the contracts of all the suppliers of such a name meet neither condition together, and those of
none of them meet that of the first rule alone -/
def SinFusion (s : Db) (f : String) : Prop :=
  ∀ nombre ∈ s.empresa.rows.map Empresa.nombre, nombre ≠ "Sin nombre" → HayFusion s f nombre →
    ¬ CondP1 (deFundidos s f nombre) ∧ ¬ CondP3 (deFundidos s f nombre) ∧
      ∀ e ∈ fundidos s nombre, ¬ CondP1 (propios s f e)

instance (s : Db) (f nombre : String) : Decidable (HayFusion s f nombre) := by
  unfold HayFusion; infer_instance

instance (s : Db) (f : String) : Decidable (SinFusion s f) := by
  unfold SinFusion; infer_instance

section
variable {M : Motor} {s t : Db} {f : String}

/-! ## a group and its suppliers -/

theorem marcaP1_iff {us : List Unido} {k : Option String × String} :
    marcaP1 us k ↔ CondP1 ((withKey porEmpresa us k).map Unido.c) := by
  unfold marcaP1 havingP1 CondP1 organismosDe
  rw [Bool.and_eq_true, decide_eq_true_eq, decide_eq_true_eq, List.length_map, List.map_map]
  exact Iff.rfl

theorem marcaP3_iff {us : List Unido} {k : Option String × String} :
    marcaP3 us k ↔ CondP3 ((withKey porEmpresa us k).map Unido.c) := by
  unfold marcaP3 havingP3 CondP3 organismosDe
  rw [decide_eq_true_eq, List.map_map]
  exact Iff.rfl

theorem exists_empresa {u : Unido} (hu : u ∈ s.unidos f) : ∃ e ∈ s.empresa.rows,
    e.nombre ≠ "Sin nombre" ∧ u.c.proveedorId = some e.id ∧ porEmpresa u = (e.rut, e.nombre) ∧
      u.c ∈ propios s f e := by
  obtain ⟨hc, e, he, hk, hn, hr, hn'⟩ := mem_unidos.mp hu
  refine ⟨e, he, hn, hk, ?_, List.mem_filter.mpr ⟨hc, decide_eq_true hk⟩⟩
  unfold porEmpresa
  rw [hr, hn']

theorem exists_unido {e : Empresa} (he : e ∈ s.empresa.rows) (hn : e.nombre ≠ "Sin nombre")
    {c : Contrato} (hc : c ∈ propios s f e) :
    ∃ u ∈ withKey porEmpresa (s.unidos f) (e.rut, e.nombre), u.c = c := by
  obtain ⟨hc, hk⟩ := List.mem_filter.mp hc
  refine ⟨⟨c, e.rut, e.nombre⟩, mem_withKey.mpr ⟨?_, rfl⟩, rfl⟩
  exact mem_unidos.mpr ⟨hc, e, he, of_decide_eq_true hk, hn, rfl, rfl⟩

/-- the contracts of the joined rows that a condition keeps, when it keeps one row or none of each -/
theorem map_filter_unidos {p : Unido → Bool} {q : Contrato → Bool}
    (h : ∀ c, ((s.unidoDe c).filter p).map Unido.c = if q c then [c] else []) :
    ((s.unidos f).filter p).map Unido.c = (s.contratosDe f).filter q := by
  rw [unidos_eq]
  induction s.contratosDe f with
  | nil => rfl
  | cons c cs ih =>
    rw [List.flatMap_cons, List.filter_append, List.map_append, ih, h, List.filter_cons]
    cases q c <;> rfl

theorem unidoDe_of_mem {c : Contrato} {e : Empresa} (he : e ∈ s.empresa.rows)
    (hk : c.proveedorId = some e.id) :
    s.unidoDe c = if e.nombre ≠ "Sin nombre" then [⟨c, e.rut, e.nombre⟩] else [] := by
  have hfind : s.empresa.find e.id = some e := KeyTable.find_eq_some.mpr ⟨he, rfl⟩
  unfold unidoDe
  rw [hk]
  dsimp only
  rw [hfind]
  by_cases hn : e.nombre = "Sin nombre" <;> simp [hn]

theorem unidoDe_of_not_mem {c : Contrato} (h : ∀ e ∈ s.empresa.rows, c.proveedorId ≠ some e.id) :
    s.unidoDe c = [] := by
  rw [List.eq_nil_iff_forall_not_mem]
  intro u hu
  unfold unidoDe at hu
  cases hp : c.proveedorId with
  | none => rw [hp] at hu; cases hu
  | some k =>
    rw [hp] at hu
    obtain ⟨e, he, -⟩ := List.mem_map.mp hu
    obtain ⟨hm, hk⟩ := KeyTable.find_eq_some.mp (Option.mem_toList.mp (List.mem_filter.mp he).1)
    exact h e hm (hp.trans (congrArg some hk.symm))

theorem unidos_proveedor {e : Empresa} (he : e ∈ s.empresa.rows) (hn : e.nombre ≠ "Sin nombre") :
    ((s.unidos f).filter fun u => decide (u.c.proveedorId = some e.id)).map Unido.c =
      propios s f e := by
  refine map_filter_unidos fun c => ?_
  by_cases hex : ∃ x ∈ s.empresa.rows, c.proveedorId = some x.id
  · obtain ⟨x, hx, hk⟩ := hex
    rw [unidoDe_of_mem hx hk]
    by_cases hxe : x.id = e.id
    · obtain rfl : x = e := KeyTable.eq_of_key hx he hxe
      simp [hn, hk]
    · have hno : ¬ c.proveedorId = some e.id := fun h => hxe (Option.some.inj (hk.symm.trans h))
      by_cases hxn : x.nombre = "Sin nombre" <;> simp [hxn, hno]
  · push Not at hex
    rw [unidoDe_of_not_mem hex]
    simp [hex e he]

/-- **The group of a name without RUT** has the contracts of all its suppliers. -/
theorem grupo_fundido {nombre : String} (hn : nombre ≠ "Sin nombre") :
    (withKey porEmpresa (s.unidos f) (none, nombre)).map Unido.c = deFundidos s f nombre := by
  refine map_filter_unidos fun c => ?_
  by_cases hex : ∃ x ∈ s.empresa.rows, c.proveedorId = some x.id
  · obtain ⟨x, hx, hk⟩ := hex
    have hiff : (∃ e ∈ fundidos s nombre, c.proveedorId = some e.id) ↔
        x.rut = none ∧ x.nombre = nombre := by
      refine ⟨fun h => ?_, fun h => ⟨x, List.mem_filter.mpr ⟨hx, decide_eq_true h⟩, hk⟩⟩
      obtain ⟨e, he, hke⟩ := h
      obtain ⟨hm, he⟩ := List.mem_filter.mp he
      obtain rfl : x = e := KeyTable.eq_of_key hx hm (Option.some.inj (hk.symm.trans hke))
      exact of_decide_eq_true he
    rw [unidoDe_of_mem hx hk]
    simp only [hiff, decide_eq_true_eq]
    by_cases hxn : x.rut = none ∧ x.nombre = nombre
    · obtain ⟨hr, rfl⟩ := hxn
      simp [hn, hr, porEmpresa]
    · have hkey : ¬ (x.rut, x.nombre) = (none, nombre) := fun h => hxn (Prod.mk.inj h)
      rw [if_neg hxn]
      split
      · rw [List.filter_cons_of_neg (by simpa [porEmpresa] using hkey)]
        rfl
      · rfl
  · have hno : ¬ ∃ e ∈ fundidos s nombre, c.proveedorId = some e.id := fun h => by
      obtain ⟨e, he, hk⟩ := h
      exact hex ⟨e, (List.mem_filter.mp he).1, hk⟩
    push Not at hex
    rw [unidoDe_of_not_mem hex, if_neg (by simpa using hno)]
    rfl

/-- **A group of one supplier has its own contracts.** -/
theorem grupo_propio {e : Empresa} (he : e ∈ s.empresa.rows) (hn : e.nombre ≠ "Sin nombre")
    (h : ∀ u ∈ withKey porEmpresa (s.unidos f) (e.rut, e.nombre),
      u.c.proveedorId = some e.id) :
    (withKey porEmpresa (s.unidos f) (e.rut, e.nombre)).map Unido.c = propios s f e := by
  rw [← unidos_proveedor he hn]
  congr 1
  unfold withKey
  apply List.filter_congr
  intro u hu
  have hiff : porEmpresa u = (e.rut, e.nombre) ↔ u.c.proveedorId = some e.id := by
    refine ⟨fun hk => h u (mem_withKey.mpr ⟨hu, hk⟩), fun hk => ?_⟩
    obtain ⟨e', he', -, hk', hp, -⟩ := exists_empresa hu
    have hee : e' = e := KeyTable.eq_of_key he' he (Option.some.inj (hk'.symm.trans hk))
    rw [hp, hee]
  simp only [hiff]

theorem exists_unico {k : Option String × String} {u : Unido}
    (hu : u ∈ withKey porEmpresa (s.unidos f) k)
    (h : ∀ u' ∈ withKey porEmpresa (s.unidos f) k, u'.c.proveedorId = u.c.proveedorId) :
    ∃ e ∈ s.empresa.rows, e.nombre ≠ "Sin nombre" ∧ k = (e.rut, e.nombre) ∧
      (withKey porEmpresa (s.unidos f) k).map Unido.c = propios s f e := by
  obtain ⟨hus, hk⟩ := mem_withKey.mp hu
  obtain ⟨e, he, hn, hp, hke, -⟩ := exists_empresa hus
  have hkk : k = (e.rut, e.nombre) := hk.symm.trans hke
  refine ⟨e, he, hn, hkk, ?_⟩
  rw [hkk] at h ⊢
  exact grupo_propio he hn fun u' hu' => (h u' hu').trans hp

/-! ## one rule -/

section
variable {cond : List Contrato → Prop} {marca : Option String × String → Prop}
  {id : Option String → String}

/-- From "one supplier per flagged group" and "who meets the condition is in a flagged group" to
the correspondence. -/
theorem bijOn_of (h0 : ¬ cond [])
    (hm : ∀ k, marca k ↔ cond ((withKey porEmpresa (s.unidos f) k).map Unido.c))
    (hid : ∀ r r', id r = id r' → pyText r = pyText r')
    (htext : ∀ k k', marca k → marca k' → pyText k.1 = pyText k'.1 → k = k')
    (huna : ∀ k, marca k → ∀ u ∈ withKey porEmpresa (s.unidos f) k,
      ∀ u' ∈ withKey porEmpresa (s.unidos f) k, u.c.proveedorId = u'.c.proveedorId)
    (hcum : ∀ e ∈ queCumplen cond s f, marca (e.rut, e.nombre)) :
    Set.BijOn (fun e => id e.rut) (queCumplen cond s f) {i | ∃ k, marca k ∧ id k.1 = i} := by
  refine ⟨fun e he => ⟨_, hcum e he, rfl⟩, fun e he e' he' hee => ?_, fun i hi => ?_⟩
  · have hk := htext _ _ (hcum e he) (hcum e' he') (hid _ _ hee)
    obtain ⟨h1, h2, h3⟩ := he
    obtain ⟨h1', h2', h3'⟩ := he'
    obtain ⟨c, hc⟩ := List.exists_mem_of_ne_nil (propios s f e) fun h => h0 (h ▸ h3)
    obtain ⟨c', hc'⟩ := List.exists_mem_of_ne_nil (propios s f e') fun h => h0 (h ▸ h3')
    obtain ⟨u, hu, rfl⟩ := exists_unido h1 h2 hc
    obtain ⟨u', hu', rfl⟩ := exists_unido h1' h2' hc'
    have hp := of_decide_eq_true (List.mem_filter.mp hc).2
    have hp' := of_decide_eq_true (List.mem_filter.mp hc').2
    have hsame := huna _ (hcum e ⟨h1, h2, h3⟩) u hu u' (hk ▸ hu')
    rw [hp, hp'] at hsame
    exact KeyTable.eq_of_key h1 h1' (Option.some.inj hsame)
  · obtain ⟨k, hk, rfl⟩ := hi
    have hne : withKey porEmpresa (s.unidos f) k ≠ [] := by
      intro hnil
      have h1 := (hm k).mp hk
      rw [hnil] at h1
      exact h0 h1
    obtain ⟨u, hu⟩ := List.exists_mem_of_ne_nil _ hne
    obtain ⟨e, he, hn, hke, hown⟩ := exists_unico hu fun u' hu' => huna k hk u' hu' u hu
    refine ⟨e, ⟨he, hn, ?_⟩, ?_⟩
    · rw [← hown]
      exact (hm k).mp hk
    · rw [hke]

end

/-! ## the alerts after a detection -/

theorem idsDePatron_iff {r : ResultadoFuente}
    (h : Prog.run (exec M) (detectar M f) s = (.ok r, t)) {patron i : String} :
    i ∈ idsDePatron t f patron ↔
      ∃ a ∈ alertasReglas M f (s.unidos f), a.patron = some patron ∧ a.id = i := by
  have hrows := detectar_reglas M h
  have hmem (a : Alerta) : (a ∈ t.alerta.rows ∧ a.fuente = some f ∧ a.patron ≠ none) ↔
      a ∈ sellar s.reloj (alertasReglas M f (s.unidos f)) := by
    rw [← hrows, List.mem_filter, decide_eq_true_eq]
  refine ⟨fun hi => ?_, fun hi => ?_⟩
  · obtain ⟨a, ha, hf, hp, hid⟩ := hi
    obtain ⟨b, hb, n, hab⟩ := mem_sellar ((hmem a).mp ⟨ha, hf, by rw [hp]; exact Option.some_ne_none _⟩)
    rw [hab] at hp hid
    exact ⟨b, hb, hp, hid⟩
  · obtain ⟨b, hb, hp, hid⟩ := hi
    have hb' : b.id ∈ (sellar s.reloj (alertasReglas M f (s.unidos f))).map Alerta.id := by
      rw [map_id_sellar]
      exact List.mem_map_of_mem hb
    have hsin : b.sinHora ∈
        (sellar s.reloj (alertasReglas M f (s.unidos f))).map Alerta.sinHora := by
      rw [map_sinHora_sellar]
      exact List.mem_map_of_mem hb
    obtain ⟨a, ha, hab⟩ := List.mem_map.mp hsin
    obtain ⟨h1, h2, -⟩ := (hmem a).mpr ha
    have hpa : a.sinHora.patron = b.sinHora.patron := by rw [hab]
    have hia : a.sinHora.id = b.sinHora.id := by rw [hab]
    exact ⟨a, h1, h2, hpa.trans hp, hia.trans hid⟩

theorem ids_recurrente {r : ResultadoFuente}
    (h : Prog.run (exec M) (detectar M f) s = (.ok r, t)) :
    idsDePatron t f "recurrente" = {i | ∃ k, marcaP1 (s.unidos f) k ∧ idP1 f k.1 = i} := by
  ext i
  rw [idsDePatron_iff h]
  refine ⟨fun hi => ?_, fun hi => ?_⟩
  · obtain ⟨a, ha, hp, rfl⟩ := hi
    rcases mem_alertasReglas.mp ha with ⟨r, hr, rfl⟩ | ⟨r, hr, rfl⟩ | ⟨r, hr, rfl⟩
    · obtain ⟨k, hk, rfl⟩ := mem_p1De.mp hr
      exact ⟨k, hk, rfl⟩
    · exact absurd (show some "fraccionamiento" = some "recurrente" from hp) (by decide)
    · exact absurd (show some "multi-org" = some "recurrente" from hp) (by decide)
  · obtain ⟨k, hk, rfl⟩ := hi
    exact ⟨_, mem_alertasReglas.mpr (Or.inl ⟨_, mem_p1De.mpr ⟨k, hk, rfl⟩, rfl⟩), rfl, rfl⟩

theorem ids_multiOrg {r : ResultadoFuente}
    (h : Prog.run (exec M) (detectar M f) s = (.ok r, t)) :
    idsDePatron t f "multi-org" = {i | ∃ k, marcaP3 (s.unidos f) k ∧ idP3 f k.1 = i} := by
  ext i
  rw [idsDePatron_iff h]
  refine ⟨fun hi => ?_, fun hi => ?_⟩
  · obtain ⟨a, ha, hp, rfl⟩ := hi
    rcases mem_alertasReglas.mp ha with ⟨r, hr, rfl⟩ | ⟨r, hr, rfl⟩ | ⟨r, hr, rfl⟩
    · exact absurd (show some "recurrente" = some "multi-org" from hp) (by decide)
    · exact absurd (show some "fraccionamiento" = some "multi-org" from hp) (by decide)
    · obtain ⟨k, hk, rfl⟩ := mem_p3De.mp hr
      exact ⟨k, hk, rfl⟩
  · obtain ⟨k, hk, rfl⟩ := hi
    exact ⟨_, mem_alertasReglas.mpr (Or.inr (Or.inr ⟨_, mem_p3De.mpr ⟨k, hk, rfl⟩, rfl⟩)), rfl, rfl⟩

/-! ## merged groups -/

theorem condP3_mono {cs cs' : List Contrato} (h : ∀ c ∈ cs, c ∈ cs') (hc : CondP3 cs) :
    CondP3 cs' := by
  unfold CondP3 at *
  refine le_trans hc (countDistinct_mono fun x hx => ?_)
  obtain ⟨c, hcm, rfl⟩ := List.mem_map.mp hx
  exact List.mem_map_of_mem (h c hcm)

theorem InvTablas.eq_or_sin_rut (hs : InvTablas s) {e e' : Empresa} (he : e ∈ s.empresa.rows)
    (he' : e' ∈ s.empresa.rows) (hr : e.rut = e'.rut) : e = e' ∨ (e.rut = none ∧ e'.rut = none) := by
  cases hx : e.rut with
  | none => exact Or.inr ⟨rfl, hr.symm.trans hx⟩
  | some x =>
    refine Or.inl (KeyTable.eq_of_key he he' ?_)
    rw [← hs.rut e he x hx, ← hs.rut e' he' x (hr.symm.trans hx)]

theorem mem_fundidos {e : Empresa} {nombre : String} :
    e ∈ fundidos s nombre ↔ e ∈ s.empresa.rows ∧ e.rut = none ∧ e.nombre = nombre := by
  unfold fundidos
  rw [List.mem_filter, decide_eq_true_eq]

/-- two suppliers of one group are not flagged, and the first has no right to be -/
theorem SinFusion.de_dos (hf : SinFusion s f) {e e' : Empresa} (he : e ∈ s.empresa.rows)
    (he' : e' ∈ s.empresa.rows) (hne : e ≠ e') (hr : e.rut = none) (hr' : e'.rut = none)
    (hnn : e.nombre = e'.nombre) (hn : e.nombre ≠ "Sin nombre") (hown : propios s f e ≠ [])
    (hown' : propios s f e' ≠ []) :
    ¬ marcaP1 (s.unidos f) (none, e.nombre) ∧ ¬ marcaP3 (s.unidos f) (none, e.nombre) ∧
      ¬ CondP1 (propios s f e) := by
  have hfe : e ∈ fundidos s e.nombre := mem_fundidos.mpr ⟨he, hr, rfl⟩
  have hfe' : e' ∈ fundidos s e.nombre := mem_fundidos.mpr ⟨he', hr', hnn.symm⟩
  obtain ⟨h1, h3, hsolo⟩ := hf e.nombre (List.mem_map_of_mem he) hn
    ⟨e, hfe, e', hfe', hne, hown, hown'⟩
  rw [marcaP1_iff, marcaP3_iff, grupo_fundido hn]
  exact ⟨h1, h3, hsolo e hfe⟩

theorem SinFusion.una (hf : SinFusion s f) (hs : InvTablas s) {k : Option String × String}
    (hk : marcaP1 (s.unidos f) k ∨ marcaP3 (s.unidos f) k) {u u' : Unido}
    (hu : u ∈ withKey porEmpresa (s.unidos f) k) (hu' : u' ∈ withKey porEmpresa (s.unidos f) k) :
    u.c.proveedorId = u'.c.proveedorId := by
  obtain ⟨hus, hku⟩ := mem_withKey.mp hu
  obtain ⟨hus', hku'⟩ := mem_withKey.mp hu'
  obtain ⟨e, he, hn, hp, hke, hown⟩ := exists_empresa hus
  obtain ⟨e', he', -, hp', hke', hown'⟩ := exists_empresa hus'
  have hkk : (e.rut, e.nombre) = (e'.rut, e'.nombre) :=
    hke.symm.trans (hku.trans (hku'.symm.trans hke'))
  obtain ⟨hr, hnn⟩ := Prod.mk.inj hkk
  rcases hs.eq_or_sin_rut he he' hr with hee | ⟨hr1, hr2⟩
  · rw [hp, hp', hee]
  · by_contra hne
    have hne' : e ≠ e' := by
      intro hee
      rw [hp, hp', hee] at hne
      exact hne rfl
    obtain ⟨h1, h2, -⟩ := hf.de_dos he he' hne' hr1 hr2 hnn hn (List.ne_nil_of_mem hown)
      (List.ne_nil_of_mem hown')
    have hkn : k = (none, e.nombre) := by rw [← hku, hke, hr1]
    rw [hkn] at hk
    rcases hk with hk | hk
    · exact h1 hk
    · exact h2 hk

theorem SinFusion.cumple (hf : SinFusion s f) (hs : InvTablas s) {e : Empresa}
    (he : e ∈ s.empresa.rows) (hn : e.nombre ≠ "Sin nombre") :
    (CondP1 (propios s f e) → marcaP1 (s.unidos f) (e.rut, e.nombre)) ∧
      (CondP3 (propios s f e) → marcaP3 (s.unidos f) (e.rut, e.nombre)) := by
  by_cases hsola : ∀ u ∈ withKey porEmpresa (s.unidos f) (e.rut, e.nombre),
      u.c.proveedorId = some e.id
  · have hg := grupo_propio he hn hsola
    refine ⟨fun h => marcaP1_iff.mpr ?_, fun h => marcaP3_iff.mpr ?_⟩
    · rw [hg]; exact h
    · rw [hg]; exact h
  · push Not at hsola
    obtain ⟨u, hu, hne⟩ := hsola
    obtain ⟨hus, hku⟩ := mem_withKey.mp hu
    obtain ⟨e', he', hn', hp', hke', hown'⟩ := exists_empresa hus
    obtain ⟨hr, hnn⟩ := Prod.mk.inj (hku.symm.trans hke')
    have hee : e ≠ e' := by
      intro h
      rw [hp', h] at hne
      exact hne rfl
    rcases hs.eq_or_sin_rut he he' hr with h | ⟨hr1, hr2⟩
    · exact absurd h hee
    · refine ⟨fun h => ?_, fun h => ?_⟩
      · have hown : propios s f e ≠ [] := by
          intro hnil
          rw [hnil] at h
          exact absurd h (by decide)
        have hdos := hf.de_dos he he' hee hr1 hr2 hnn hn hown (List.ne_nil_of_mem hown')
        exact absurd h hdos.2.2
      · refine marcaP3_iff.mpr (condP3_mono (fun c hc => ?_) h)
        obtain ⟨u', hu', rfl⟩ := exists_unido he hn hc
        exact List.mem_map_of_mem hu'

/-- no flagged group is of two suppliers -/
def UnaEmpresa (s : Db) (f : String) : Prop :=
  ∀ k, marcaP1 (s.unidos f) k ∨ marcaP3 (s.unidos f) k →
    ∀ u ∈ withKey porEmpresa (s.unidos f) k, ∀ u' ∈ withKey porEmpresa (s.unidos f) k,
      u.c.proveedorId = u'.c.proveedorId

theorem UnaEmpresa.no_marca (huna : UnaEmpresa s f) {e e' : Empresa} (he : e ∈ s.empresa.rows)
    (he' : e' ∈ s.empresa.rows) (hne : e ≠ e') (hr : e.rut = e'.rut) (hnn : e.nombre = e'.nombre)
    (hn : e.nombre ≠ "Sin nombre") (hown : propios s f e ≠ []) (hown' : propios s f e' ≠ []) :
    ¬ (marcaP1 (s.unidos f) (e.rut, e.nombre) ∨ marcaP3 (s.unidos f) (e.rut, e.nombre)) := by
  intro hk
  obtain ⟨c, hc⟩ := List.exists_mem_of_ne_nil _ hown
  obtain ⟨c', hc'⟩ := List.exists_mem_of_ne_nil _ hown'
  obtain ⟨u, hu, rfl⟩ := exists_unido he hn hc
  obtain ⟨u', hu', rfl⟩ := exists_unido he' (hnn ▸ hn) hc'
  rw [← hr, ← hnn] at hu'
  have hsame := huna _ hk u hu u' hu'
  rw [of_decide_eq_true (List.mem_filter.mp hc).2,
    of_decide_eq_true (List.mem_filter.mp hc').2] at hsame
  exact hne (KeyTable.eq_of_key he he' (Option.some.inj hsame))

theorem sinFusion_of_exactas (huna : UnaEmpresa s f)
    (hb : Set.BijOn (fun e => idP1 f e.rut) (queCumplen CondP1 s f)
      {i | ∃ k, marcaP1 (s.unidos f) k ∧ idP1 f k.1 = i}) : SinFusion s f := by
  rintro nombre - hn ⟨e₁, he₁, e₂, he₂, hne, hown₁, hown₂⟩
  obtain ⟨hm₁, hr₁, rfl⟩ := mem_fundidos.mp he₁
  obtain ⟨hm₂, hr₂, hn₂⟩ := mem_fundidos.mp he₂
  have hno := huna.no_marca hm₁ hm₂ hne (hr₁.trans hr₂.symm) hn₂.symm hn hown₁ hown₂
  rw [hr₁] at hno
  rw [← grupo_fundido hn, ← marcaP1_iff, ← marcaP3_iff]
  refine ⟨fun hk => hno (Or.inl hk), fun hk => hno (Or.inr hk), fun e hfe hc => ?_⟩
  obtain ⟨he, hr, hnn⟩ := mem_fundidos.mp hfe
  -- an alert with the id of this supplier would be of another group
  have hmem : e ∈ queCumplen CondP1 s f := ⟨he, hnn.symm ▸ hn, hc⟩
  obtain ⟨k, hk, hid⟩ := hb.mapsTo hmem
  obtain ⟨u, hu, huk⟩ := exists_of_marcaP1 hk
  have hu' := mem_withKey.mpr ⟨hu, huk⟩
  obtain ⟨e2, he2, hn2, hk2, hown2⟩ := exists_unico hu' fun v hv => huna k (Or.inl hk) v hv u hu'
  have hmem2 : e2 ∈ queCumplen CondP1 s f := by
    refine ⟨he2, hn2, ?_⟩
    rw [← hown2]
    exact marcaP1_iff.mp hk
  have hid' : idP1 f k.1 = idP1 f e.rut := hid
  have hee : e2 = e := by
    apply hb.injOn hmem2 hmem
    show idP1 f e2.rut = idP1 f e.rut
    rw [← hid', hk2]
  apply hno
  apply Or.inl
  rw [hk2, hee, hr, hnn] at hk
  exact hk

/-- **When the alerts of a slice are exact**, after a detection that returned. -/
theorem deteccion_exacta_iff (h : Alcanzable M s) {l : List (String × ResultadoFuente)}
    (hrun : Prog.run (exec M) (runDetection M (some f)) s = (.ok l, t)) :
    AlertasExactas M t f ↔ SinFusion s f := by
  have hs := inv_of_alcanzable h
  obtain ⟨r, -, hdet⟩ := (runDetection_some_ok M).mp hrun
  have hch : SinChoque M s f := (detectar_ok_iff_sinChoque hs).mp ⟨r, t, hdet⟩
  have hsolo := (detectar_filas M f s).1
  rw [hdet] at hsolo
  have hus := hsolo.unidos f
  have hq (cond : List Contrato → Prop) : queCumplen cond t f = queCumplen cond s f := by
    unfold queCumplen propios contratosDe
    rw [hsolo.contrato, hsolo.empresa]
  refine ⟨fun hex => ?_, fun hf => ?_⟩
  · obtain ⟨hb1, -, huna, -⟩ := hex
    rw [hq, ids_recurrente hdet] at hb1
    rw [hus] at huna
    exact sinFusion_of_exactas huna hb1
  · have h1 := (textos_iff hs.toInvTablas fun k => exists_of_marcaP1).mpr hch.p1
    have h3 := (textos_iff hs.toInvTablas fun k => exists_of_marcaP3).mpr hch.p3
    have huna : UnaEmpresa s f := fun k hk u hu u' hu' => hf.una hs.toInvTablas hk hu hu'
    refine ⟨?_, ?_, ?_, ?_⟩
    · rw [hq, ids_recurrente hdet]
      exact bijOn_of (by decide) (fun k => marcaP1_iff) (fun r r' => idP1_inj.mp) h1
        (fun k hk => huna k (Or.inl hk))
        fun e he => (hf.cumple hs.toInvTablas he.1 he.2.1).1 he.2.2
    · rw [hq, ids_multiOrg hdet]
      exact bijOn_of (by decide) (fun k => marcaP3_iff) (fun r r' => idP3_inj.mp) h3
        (fun k hk => huna k (Or.inr hk))
        fun e he => (hf.cumple hs.toInvTablas he.1 he.2.1).2 he.2.2
    · rw [hus]
      exact huna
    · intro k _ u hu u' hu'
      have hk := (mem_withKey.mp hu).2.trans (mem_withKey.mp hu').2.symm
      exact congrArg (fun k => k.2.1) hk

end

/-! ## two suppliers with one name -/

/-- a supplier `A` with two organisms and a supplier `B` with a third one, both called Acme, none
with a RUT -/
def comprasFundidas : List FilaCsv :=
  [.orden "1-OC" "1.000.000" "2024-05-01" "61-K" "" "A" "Acme",
    .orden "2-OC" "1.000.000" "2024-05-01" "62-K" "" "A" "Acme",
    .orden "3-OC" "1.000.000" "2024-05-01" "63-K" "" "B" "Acme"]

def tiendaFundida : Db := trasCarga 2024 5 comprasFundidas .empty

/-- the store after `run_detection` of May -/
def trasDeteccion (s : Db) : Db :=
  (Prog.run (exec motorConcreto) (runDetection motorConcreto (some "chilecompra_oc_2024-05")) s).2

/-- **No supplier has three organisms, and there is an alert about one**: it joins the contracts
of both. -/
theorem deteccion_funde :
    Alcanzable motorConcreto tiendaFundida ∧
    (Prog.run (exec motorConcreto) (runDetection motorConcreto (some "chilecompra_oc_2024-05"))
      tiendaFundida).1 = .ok [("chilecompra_oc_2024-05", ⟨false, 0, 0, 1, 1⟩)] ∧
    (∀ e ∈ tiendaFundida.empresa.rows, ¬ CondP3 (propios tiendaFundida "chilecompra_oc_2024-05" e)) ∧
    ¬ AlertasExactas motorConcreto (trasDeteccion tiendaFundida) "chilecompra_oc_2024-05" := by
  refine ⟨.paso (.cargar 2024 5 0 (.csv comprasFundidas)) .vacio, by decide +kernel,
    by decide +kernel, fun h => ?_⟩
  have hk : marcaP3 ((trasDeteccion tiendaFundida).unidos "chilecompra_oc_2024-05")
      (none, "Acme") := by decide +kernel
  obtain ⟨u, hu, u', hu', hne⟩ : ∃ u ∈ withKey porEmpresa
      ((trasDeteccion tiendaFundida).unidos "chilecompra_oc_2024-05") (none, "Acme"),
      ∃ u' ∈ withKey porEmpresa
        ((trasDeteccion tiendaFundida).unidos "chilecompra_oc_2024-05") (none, "Acme"),
        u.c.proveedorId ≠ u'.c.proveedorId := by decide +kernel
  exact hne (h.unaEmpresa (none, "Acme") (Or.inr hk) u hu u' hu')

/-- three suppliers without RUT that share a name, with one order each, are flagged together -/
example : ¬ SinFusion (trasCarga 2024 5
    [.orden "1-OC" "1.000.000" "2024-05-01" "61-K" "" "A" "Acme",
      .orden "2-OC" "1.000.000" "2024-05-02" "62-K" "" "B" "Acme",
      .orden "3-OC" "1.000.000" "2024-05-03" "63-K" "" "C" "Acme"] .empty)
    "chilecompra_oc_2024-05" := by decide

theorem deteccion_exacta_recurrente :
    AlertasExactas motorConcreto (trasDeteccion (trasCarga 2024 5 comprasRecurrentes .empty))
      "chilecompra_oc_2024-05" := by
  have hrun : Prog.run (exec motorConcreto)
      (runDetection motorConcreto (some "chilecompra_oc_2024-05"))
      (trasCarga 2024 5 comprasRecurrentes .empty) =
      (.ok [("chilecompra_oc_2024-05", ⟨false, 1, 0, 0, 1⟩)],
        trasDeteccion (trasCarga 2024 5 comprasRecurrentes .empty)) :=
    Prod.ext (by decide +kernel) rfl
  exact (deteccion_exacta_iff (.paso (.cargar 2024 5 0 (.csv comprasRecurrentes)) .vacio)
    hrun).mpr (by decide +kernel)

end Fractura
