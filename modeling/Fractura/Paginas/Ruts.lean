import Fractura.Chilecompra.Proveedores
import Fractura.Paginas.Entidad

/-!
# The RUT in the id of an alert

`run_detection` writes the RUT of a supplier into the ids of the first and the third rule; `get_entity`
reads it back with `split_part(id, '_', 2)` and `DetailView` with `extractRut`.

* `leer_id`              both find the text of the RUT up to its first underscore;
* `ruts_legibles_iff`    so they recover the RUT of every alert of a slice, and tell its suppliers
                         apart, exactly when `SinConfusion` holds of the suppliers that each rule flags.
-/

namespace Fractura

open Db Text

/-! ## `pages/DetailView.tsx` -/

/-- JavaScript `s.split(c)` -/
def jsSplit (s : String) (c : Char) : List String := (fields c s.toList).map String.ofList

def extractRut (alertId : String) : String :=
  let parts := jsSplit alertId '_'
  if 2 ≤ parts.length then parts.getD 1 "" else alertId

/-- **Both readers of an id** find the text between its first two separators. -/
theorem leer_id {p r f : String} (hp : '_' ∉ p.toList) :
    splitPart (p ++ "_" ++ r ++ "_" ++ f) '_' 2 = before '_' r ∧
      extractRut (p ++ "_" ++ r ++ "_" ++ f) = before '_' r := by
  have hsep : "_" = String.singleton '_' := rfl
  have hpart : splitPart (p ++ "_" ++ r ++ "_" ++ f) '_' 2 = before '_' r := by
    rw [hsep]
    exact splitPart_two hp
  refine ⟨hpart, ?_⟩
  rw [← hpart]
  have hl : (p ++ "_" ++ r ++ "_" ++ f).toList = p.toList ++ '_' :: (r ++ "_" ++ f).toList := by
    simp
  unfold extractRut jsSplit splitPart
  rw [hl, fields_append_sep hp]
  cases hrest : fields '_' (r ++ "_" ++ f).toList with
  | nil => exact absurd hrest (fields_ne_nil _ _)
  | cons w ws => rfl

/-! ## the alerts of a rule by their suppliers -/

/-- a supplier as the queries see it: its RUT and its name -/
abbrev Proveedor : Type := Option String × String

section
variable (M : Motor)

/-- the alerts that `run_detection` builds for the first rule, each with its supplier -/
def alertadosP1 (s : Db) (f : String) : List (Proveedor × Alerta) :=
  (p1De M P1_THRESHOLD_COUNT (s.unidos f)).map fun r =>
    ((r.empresaRut, r.empresaNombre), alertaP1 M f r)

/-- the same for the third rule -/
def alertadosP3 (s : Db) (f : String) : List (Proveedor × Alerta) :=
  (p3De M P3_THRESHOLD_ORGS (s.unidos f)).map fun r =>
    ((r.empresaRut, r.empresaNombre), alertaP3 M f r)

theorem map_alertados (s : Db) (f : String) :
    (alertadosP1 M s f).map Prod.snd = alertasP1 M f (s.unidos f) ∧
      (alertadosP3 M s f).map Prod.snd = alertasP3 M f (s.unidos f) := by
  constructor
  · unfold alertadosP1 alertasP1
    rw [List.map_map]
    rfl
  · unfold alertadosP3 alertasP3
    rw [List.map_map]
    rfl

end

/-- the readers recover the RUTs from the ids, and never mistake a supplier for another -/
structure RutsLegibles (s : Db) (l : List (Proveedor × Alerta)) : Prop where
  recuperan : ∀ p ∈ l, ∀ r, p.1.1 = some r →
    splitPart p.2.id '_' 2 = r ∧ extractRut p.2.id = r
  distinguen : ∀ p ∈ l, ∀ q ∈ l, p.1 ≠ q.1 →
    splitPart p.2.id '_' 2 ≠ splitPart q.2.id '_' 2 ∧ extractRut p.2.id ≠ extractRut q.2.id
  sinRut : ∀ p ∈ l, p.1.1 = none → ∀ e ∈ s.empresa.rows, ∀ r, e.rut = some r →
    splitPart p.2.id '_' 2 ≠ r ∧ extractRut p.2.id ≠ r

/-- no flagged RUT holds an underscore, at most one flagged supplier has no RUT, and where there is one
no stored RUT is `None` -/
structure SinConfusion (s : Db) (marca : Proveedor → Prop) : Prop where
  sinGuion : ∀ k, marca k → ∀ r, k.1 = some r → '_' ∉ r.toList
  unoSinRut : ∀ k k', marca k → marca k' → k.1 = none → k'.1 = none → k = k'
  ningunNone : ∀ k, marca k → k.1 = none → ∀ e ∈ s.empresa.rows, e.rut ≠ some "None"

section
variable {M : Motor} {s : Db} {f : String}

theorem SinConfusion.text_inj {marca : Proveedor → Prop} (h : SinConfusion s marca)
    (hs : InvTablas s) (hex : ∀ k, marca k → ∃ u ∈ s.unidos f, porEmpresa u = k)
    {k k' : Proveedor} (hk : marca k) (hk' : marca k') (ht : pyText k.1 = pyText k'.1) :
    k = k' := by
  -- only NULL has the text of another RUT
  have hsome {k k' : Proveedor} (hk : marca k) (hk' : marca k') (h0 : k.1 = none) :
      k'.1 ≠ some "None" := by
    intro hr
    obtain ⟨u, hu, hku⟩ := hex k' hk'
    obtain ⟨-, e, he, -, -, hre, -⟩ := mem_unidos.mp hu
    exact h.ningunNone k hk h0 e he (hre.symm.trans ((congrArg Prod.fst hku).trans hr))
  cases hr : k.1 with
  | none =>
    cases hr' : k'.1 with
    | none => exact h.unoSinRut k k' hk hk' hr hr'
    | some r =>
      rw [hr, hr'] at ht
      exact absurd (hr'.trans (congrArg some ht.symm)) (hsome hk hk' hr)
  | some r =>
    cases hr' : k'.1 with
    | none =>
      rw [hr, hr'] at ht
      exact absurd (hr.trans (congrArg some ht)) (hsome hk' hk hr')
    | some r' =>
      rw [hr, hr'] at ht
      obtain rfl : r = r' := ht
      obtain ⟨u, hu, rfl⟩ := hex k hk
      obtain ⟨u', hu', rfl⟩ := hex k' hk'
      exact hs.porEmpresa_of_rut hu hu' hr hr'

theorem before_None : before '_' "None" = "None" := by decide

theorem SinConfusion.leer {marca : Proveedor → Prop} (h : SinConfusion s marca) {p : String}
    (hp : '_' ∉ p.toList) {x : Proveedor × Alerta} (hx : marca x.1)
    (hid : x.2.id = p ++ "_" ++ pyText x.1.1 ++ "_" ++ f) :
    splitPart x.2.id '_' 2 = pyText x.1.1 ∧ extractRut x.2.id = pyText x.1.1 := by
  have htext : before '_' (pyText x.1.1) = pyText x.1.1 := by
    cases hr : x.1.1 with
    | none => exact before_None
    | some r => exact before_eq_self.mpr (h.sinGuion _ hx r hr)
  rw [hid, (leer_id hp).1, (leer_id hp).2]
  exact ⟨htext, htext⟩

/-- **One rule**: its ids are `p`, the text of the RUT and the slice. -/
theorem rutsLegibles_iff (hs : InvTablas s) {l : List (Proveedor × Alerta)}
    {marca : Proveedor → Prop} {p : String} (hp : '_' ∉ p.toList)
    (hid : ∀ x ∈ l, x.2.id = p ++ "_" ++ pyText x.1.1 ++ "_" ++ f)
    (hmarca : ∀ x ∈ l, marca x.1) (hl : ∀ k, marca k → ∃ x ∈ l, x.1 = k)
    (hex : ∀ k, marca k → ∃ u ∈ s.unidos f, porEmpresa u = k) :
    RutsLegibles s l ↔ SinConfusion s marca := by
  constructor
  · intro h
    have hlee (x : Proveedor × Alerta) (hx : x ∈ l) :
        splitPart x.2.id '_' 2 = before '_' (pyText x.1.1) := by
      rw [hid x hx]
      exact (leer_id hp).1
    refine ⟨fun k hk r hr => ?_, fun k k' hk hk' hk0 hk0' => ?_, fun k hk hk0 e he hr => ?_⟩
    · obtain ⟨x, hx, rfl⟩ := hl k hk
      have hrec := (h.recuperan x hx r hr).1
      rw [hlee x hx, hr] at hrec
      exact before_eq_self.mp hrec
    · obtain ⟨x, hx, rfl⟩ := hl k hk
      obtain ⟨y, hy, rfl⟩ := hl k' hk'
      by_contra hne
      refine (h.distinguen x hx y hy hne).1 ?_
      rw [hlee x hx, hlee y hy, hk0, hk0']
    · obtain ⟨x, hx, rfl⟩ := hl k hk
      refine (h.sinRut x hx hk0 e he "None" hr).1 ?_
      rw [hlee x hx, hk0]
      exact before_None
  · intro h
    have hlee (x : Proveedor × Alerta) (hx : x ∈ l) := h.leer hp (hmarca x hx) (hid x hx)
    refine ⟨fun x hx r hr => ?_, fun x hx y hy hne => ?_, fun x hx hx0 e he r hr => ?_⟩
    · have h' := hlee x hx
      rwa [hr] at h'
    · rw [(hlee x hx).1, (hlee x hx).2, (hlee y hy).1, (hlee y hy).2]
      have hinj (ht : pyText x.1.1 = pyText y.1.1) : False :=
        hne (h.text_inj hs hex (hmarca x hx) (hmarca y hy) ht)
      exact ⟨hinj, hinj⟩
    · rw [(hlee x hx).1, (hlee x hx).2, hx0]
      have hne : "None" ≠ r := by
        rintro rfl
        exact h.ningunNone _ (hmarca x hx) hx0 e he hr
      exact ⟨hne, hne⟩

/-- **When the RUTs are read back from the ids of the alerts** of a slice. -/
theorem ruts_legibles_iff (h : Alcanzable M s) (f : String) :
    RutsLegibles s (alertadosP1 M s f) ∧ RutsLegibles s (alertadosP3 M s f) ↔
      SinConfusion s (marcaP1 (s.unidos f)) ∧ SinConfusion s (marcaP3 (s.unidos f)) := by
  have hs := (inv_of_alcanzable h).toInvTablas
  have hp1 : '_' ∉ "p1".toList := by decide
  have hp3 : '_' ∉ "p3".toList := by decide
  refine and_congr
    (rutsLegibles_iff hs hp1 (fun x hx => ?_) (fun x hx => ?_) (fun k hk => ?_)
      fun k hk => exists_of_marcaP1 hk)
    (rutsLegibles_iff hs hp3 (fun x hx => ?_) (fun x hx => ?_) (fun k hk => ?_)
      fun k hk => exists_of_marcaP3 hk)
  · obtain ⟨r, -, rfl⟩ := List.mem_map.mp hx
    rfl
  · obtain ⟨r, hr, rfl⟩ := List.mem_map.mp hx
    obtain ⟨k, hk, rfl⟩ := mem_p1De.mp hr
    exact hk
  · exact ⟨_, List.mem_map_of_mem (mem_p1De.mpr ⟨k, hk, rfl⟩), rfl⟩
  · obtain ⟨r, -, rfl⟩ := List.mem_map.mp hx
    rfl
  · obtain ⟨r, hr, rfl⟩ := List.mem_map.mp hx
    obtain ⟨k, hk, rfl⟩ := mem_p3De.mp hr
    exact hk
  · exact ⟨_, List.mem_map_of_mem (mem_p3De.mpr ⟨k, hk, rfl⟩), rfl⟩

end

/-! ## concrete suppliers -/

theorem ruts_legibles_acme :
    RutsLegibles tiendaRecurrente
        (alertadosP1 motorConcreto tiendaRecurrente "chilecompra_oc_2024-05") ∧
      RutsLegibles tiendaRecurrente
        (alertadosP3 motorConcreto tiendaRecurrente "chilecompra_oc_2024-05") := by
  refine (ruts_legibles_iff tiendaRecurrente_alcanzable _).mpr ?_
  have hrut : ∀ u ∈ tiendaRecurrente.unidos "chilecompra_oc_2024-05", u.rut = some "76-K" := by
    decide +kernel
  have hconf {marca : Proveedor → Prop} (hex : ∀ k, marca k →
      ∃ u ∈ tiendaRecurrente.unidos "chilecompra_oc_2024-05", porEmpresa u = k) :
      SinConfusion tiendaRecurrente marca := by
    have hk (k : Proveedor) (hk : marca k) : k.1 = some "76-K" := by
      obtain ⟨u, hu, rfl⟩ := hex k hk
      exact hrut u hu
    refine ⟨fun k hm r hr => ?_, fun k k' hm _ h0 => ?_, fun k hm h0 => ?_⟩
    · obtain rfl : "76-K" = r := Option.some.inj ((hk k hm).symm.trans hr)
      decide
    · exact absurd ((hk k hm).symm.trans h0) (Option.some_ne_none _)
    · exact absurd ((hk k hm).symm.trans h0) (Option.some_ne_none _)
  exact ⟨hconf fun k h => exists_of_marcaP1 h, hconf fun k h => exists_of_marcaP3 h⟩

/-- four orders of a supplier whose RUT holds an underscore -/
def tiendaGuion : Db := trasCarga 2024 5
  (["1-OC", "2-OC", "3-OC", "4-OC"].map fun id =>
    .orden id "1.000.000" "2024-05-01" "61-K" "76-K_1" "" "Acme") .empty

/-- **A RUT that is not read back**: both readers stop at its underscore. -/
theorem rut_cortado :
    Alcanzable motorConcreto tiendaGuion ∧
      (∃ p ∈ alertadosP1 motorConcreto tiendaGuion "chilecompra_oc_2024-05",
        p.1.1 = some "76-K_1" ∧ splitPart p.2.id '_' 2 = "76-K" ∧ extractRut p.2.id = "76-K") ∧
      ¬ RutsLegibles tiendaGuion
        (alertadosP1 motorConcreto tiendaGuion "chilecompra_oc_2024-05") := by
  have hcorte : ∃ p ∈ alertadosP1 motorConcreto tiendaGuion "chilecompra_oc_2024-05",
      p.1.1 = some "76-K_1" ∧ splitPart p.2.id '_' 2 = "76-K" ∧ extractRut p.2.id = "76-K" := by
    decide +kernel
  refine ⟨.paso (.cargar 2024 5 0 (.csv _)) .vacio, hcorte, fun h => ?_⟩
  obtain ⟨p, hp, hr, hlee, -⟩ := hcorte
  exact absurd (hlee.symm.trans (h.recuperan p hp _ hr).1) (by decide)

end Fractura
