import Fractura.Chilecompra.Reglas

/-!
# The groups that the rules flag

The three queries have one shape: group the joined rows by a key, keep the groups that meet the
`HAVING`, project, sort.  Since a `HAVING` of the three rules is never met by an empty group, a
row of the answer is the projection of a FLAGGED KEY (`mem_p1De`, `mem_p2De`, `mem_p3De`):

* `marcaP1 us k`, `marcaP3 us k`   `k` is a RUT and a name;
* `marcaP2 M us k`                 `k` is an organism, a supplier, its name and its RUT.

The ids of the alerts of one rule are different exactly when different flagged keys give different
ids (`nodup_idsP1`, `nodup_idsP2`, `nodup_idsP3`).
-/

namespace Fractura

open Group

section
variable (M : Motor)

/-! ## one query shape -/

/-- `SELECT fila ... GROUP BY key HAVING having ORDER BY m DESC` -/
def agrupada {κ ρ : Type} [DecidableEq κ] (key : Unido → κ) (having : List Unido → Bool)
    (fila : κ × List Unido → ρ) (m : ρ → Int) (us : List Unido) : List ρ :=
  sortDesc m (M.orden (((groups key us).filter fun g => having g.2).map fila))

section
variable {M} {κ ρ : Type} [DecidableEq κ] {key : Unido → κ} {having : List Unido → Bool}
  {fila : κ × List Unido → ρ} {m : ρ → Int} {us : List Unido}

theorem mem_agrupada (h0 : having [] = false) {r : ρ} :
    r ∈ agrupada M key having fila m us ↔
      ∃ k, having (withKey key us k) = true ∧ r = fila (k, withKey key us k) := by
  unfold agrupada
  rw [mem_sortDesc, Motor.mem_orden, List.mem_map]
  refine ⟨fun h => ?_, fun h => ?_⟩
  · obtain ⟨g, hg, hr⟩ := h
    obtain ⟨h1, h2⟩ := (mem_groups_having h0).mp hg
    exact ⟨g.1, h2, by rw [← hr, ← h1]⟩
  · obtain ⟨k, hk, hr⟩ := h
    exact ⟨(k, withKey key us k), (mem_groups_having h0).mpr ⟨rfl, hk⟩, hr.symm⟩

theorem nodup_agrupada (key : Unido → κ) (having : List Unido → Bool) (fila : κ × List Unido → ρ)
    (m : ρ → Int) (us : List Unido) (idFila : ρ → String) (id : κ → String) (h0 : having [] = false)
    (hid : ∀ g, idFila (fila g) = id g.1) :
    ((agrupada M key having fila m us).map idFila).Nodup ↔
      ∀ k k', having (withKey key us k) = true → having (withKey key us k') = true →
        id k = id k' → k = k' := by
  have hperm : ((agrupada M key having fila m us).map idFila).Perm
      (((groups key us).filter fun g => having g.2).map fun g => id g.1) := by
    have h1 := ((perm_sortDesc m _).trans (M.orden_perm
      (((groups key us).filter fun g => having g.2).map fila))).map idFila
    rw [List.map_map] at h1
    have h2 : idFila ∘ fila = fun g => id g.1 := funext hid
    rw [h2] at h1
    exact h1
  rw [hperm.nodup_iff, List.nodup_map_iff_inj_on ((nodup_groups key us).filter _)]
  refine ⟨fun h k k' hk hk' he => ?_, fun h g hg g' hg' he => ?_⟩
  · have hg := (mem_groups_having (g := (k, withKey key us k)) h0).mpr ⟨rfl, hk⟩
    have hg' := (mem_groups_having (g := (k', withKey key us k')) h0).mpr ⟨rfl, hk'⟩
    exact congrArg Prod.fst (h _ hg _ hg' he)
  · obtain ⟨h1, h2⟩ := (mem_groups_having h0).mp hg
    obtain ⟨h1', h2'⟩ := (mem_groups_having h0).mp hg'
    have hk := h g.1 g'.1 h2 h2' he
    refine Prod.ext hk ?_
    rw [h1, h1', hk]

end

theorem p1De_eq (c1 : Nat) (us : List Unido) : p1De M c1 us =
    agrupada M porEmpresa (havingP1 c1) (filaP1 M) (fun r => (r.totalContratos : Int)) us := rfl

theorem p3De_eq (o3 : Nat) (us : List Unido) : p3De M o3 us =
    agrupada M porEmpresa (havingP3 o3) (filaP3 M) (fun r => (r.totalOrganismos : Int)) us := rfl

/-! ## flagged keys -/

/-- the rows that the second query groups: `c.fecha IS NOT NULL` -/
def conFecha (us : List Unido) : List Unido := us.filter fun u => u.c.fecha.isSome

theorem p2De_eq (c2 : Nat) (m2 : Int) (us : List Unido) : p2De M c2 m2 us =
    agrupada M porPar (havingP2 M c2 m2) (filaP2 M) (fun r => r.montoAcumulado.getD 0)
      (conFecha us) := rfl

def marcaP1 (us : List Unido) (k : Option String × String) : Prop :=
  havingP1 P1_THRESHOLD_COUNT (withKey porEmpresa us k) = true

def marcaP2 (us : List Unido) (k : Option String × Option String × String × Option String) :
    Prop :=
  havingP2 M P2_THRESHOLD_COUNT P2_THRESHOLD_MONTO (withKey porPar (conFecha us) k) = true

def marcaP3 (us : List Unido) (k : Option String × String) : Prop :=
  havingP3 P3_THRESHOLD_ORGS (withKey porEmpresa us k) = true

instance (us : List Unido) (k : Option String × String) : Decidable (marcaP1 us k) := by
  unfold marcaP1; infer_instance

instance (us : List Unido) (k : Option String × Option String × String × Option String) :
    Decidable (marcaP2 M us k) := by
  unfold marcaP2; infer_instance

instance (us : List Unido) (k : Option String × String) : Decidable (marcaP3 us k) := by
  unfold marcaP3; infer_instance

variable {M}

theorem havingP1_nil : havingP1 P1_THRESHOLD_COUNT [] = false := rfl

theorem havingP2_nil : havingP2 M P2_THRESHOLD_COUNT P2_THRESHOLD_MONTO [] = false := rfl

theorem havingP3_nil : havingP3 P3_THRESHOLD_ORGS [] = false := rfl

theorem mem_p1De {us : List Unido} {r : FilaP1} : r ∈ p1De M P1_THRESHOLD_COUNT us ↔
    ∃ k, marcaP1 us k ∧ r = filaP1 M (k, withKey porEmpresa us k) :=
  mem_agrupada havingP1_nil

theorem mem_p2De {us : List Unido} {r : FilaP2} :
    r ∈ p2De M P2_THRESHOLD_COUNT P2_THRESHOLD_MONTO us ↔
      ∃ k, marcaP2 M us k ∧ r = filaP2 M (k, withKey porPar (conFecha us) k) :=
  mem_agrupada havingP2_nil

theorem mem_p3De {us : List Unido} {r : FilaP3} : r ∈ p3De M P3_THRESHOLD_ORGS us ↔
    ∃ k, marcaP3 us k ∧ r = filaP3 M (k, withKey porEmpresa us k) :=
  mem_agrupada havingP3_nil

theorem exists_of_marcaP1 {us : List Unido} {k : Option String × String} (h : marcaP1 us k) :
    ∃ u ∈ us, porEmpresa u = k := by
  by_contra hno
  have hnil : withKey porEmpresa us k = [] := withKey_nil_of fun u hu hk => hno ⟨u, hu, hk⟩
  unfold marcaP1 at h
  rw [hnil, havingP1_nil] at h
  cases h

theorem exists_of_marcaP2 {us : List Unido}
    {k : Option String × Option String × String × Option String} (h : marcaP2 M us k) :
    ∃ u ∈ us, u.c.fecha.isSome = true ∧ porPar u = k := by
  by_contra hno
  have hnil : withKey porPar (conFecha us) k = [] := withKey_nil_of fun u hu hk => by
    obtain ⟨h1, h2⟩ := List.mem_filter.mp hu
    exact hno ⟨u, h1, h2, hk⟩
  unfold marcaP2 at h
  rw [hnil, havingP2_nil] at h
  cases h

theorem exists_of_marcaP3 {us : List Unido} {k : Option String × String} (h : marcaP3 us k) :
    ∃ u ∈ us, porEmpresa u = k := by
  by_contra hno
  have hnil : withKey porEmpresa us k = [] := withKey_nil_of fun u hu hk => hno ⟨u, hu, hk⟩
  unfold marcaP3 at h
  rw [hnil, havingP3_nil] at h
  cases h

/-! ## the ids of one rule -/

theorem between_inj {a b x y : String} : a ++ x ++ b = a ++ y ++ b ↔ x = y := by
  refine ⟨fun h => ?_, fun h => by rw [h]⟩
  have hl := congrArg String.toList h
  simp only [String.toList_append] at hl
  exact String.toList_inj.mp (List.append_cancel_left (List.append_cancel_right hl))

theorem idP1_inj {f : String} {r r' : Option String} :
    idP1 f r = idP1 f r' ↔ pyText r = pyText r' := by
  have h (x : Option String) : idP1 f x = "p1_" ++ pyText x ++ ("_" ++ f) := String.append_assoc
  rw [h, h, between_inj]

theorem idP3_inj {f : String} {r r' : Option String} :
    idP3 f r = idP3 f r' ↔ pyText r = pyText r' := by
  have h (x : Option String) : idP3 f x = "p3_" ++ pyText x ++ ("_" ++ f) := String.append_assoc
  rw [h, h, between_inj]

theorem idP2_inj {f : String} {o p o' p' : Option String} :
    idP2 f o p = idP2 f o' p' ↔ pyText o ++ "_" ++ pyText p = pyText o' ++ "_" ++ pyText p' := by
  have h (x y : Option String) :
      idP2 f x y = "p2_" ++ (pyText x ++ "_" ++ pyText y) ++ ("_" ++ f) := by
    unfold idP2
    simp only [String.append_assoc]
  rw [h, h, between_inj]

theorem nodup_idsP1 {f : String} {us : List Unido} :
    ((alertasP1 M f us).map Alerta.id).Nodup ↔
      ∀ k k', marcaP1 us k → marcaP1 us k' → pyText k.1 = pyText k'.1 → k = k' := by
  have hmap : (alertasP1 M f us).map Alerta.id =
      (p1De M P1_THRESHOLD_COUNT us).map fun r => idP1 f r.empresaRut := List.map_map
  have h : ((p1De M P1_THRESHOLD_COUNT us).map fun r => idP1 f r.empresaRut).Nodup ↔
      ∀ k k', marcaP1 us k → marcaP1 us k' → idP1 f k.1 = idP1 f k'.1 → k = k' := by
    rw [p1De_eq]
    exact nodup_agrupada porEmpresa (havingP1 P1_THRESHOLD_COUNT) (filaP1 M) _ us
      (fun r => idP1 f r.empresaRut) (fun k => idP1 f k.1) havingP1_nil fun g => rfl
  simp only [idP1_inj] at h
  rw [hmap]
  exact h

theorem nodup_idsP2 {f : String} {us : List Unido} :
    ((alertasP2 M f us).map Alerta.id).Nodup ↔
      ∀ k k', marcaP2 M us k → marcaP2 M us k' →
        pyText k.1 ++ "_" ++ pyText k.2.1 = pyText k'.1 ++ "_" ++ pyText k'.2.1 → k = k' := by
  have hmap : (alertasP2 M f us).map Alerta.id =
      (p2De M P2_THRESHOLD_COUNT P2_THRESHOLD_MONTO us).map
        fun r => idP2 f r.organismoId r.proveedorId := List.map_map
  have h : ((p2De M P2_THRESHOLD_COUNT P2_THRESHOLD_MONTO us).map
      fun r => idP2 f r.organismoId r.proveedorId).Nodup ↔
      ∀ k k', marcaP2 M us k → marcaP2 M us k' → idP2 f k.1 k.2.1 = idP2 f k'.1 k'.2.1 → k = k' := by
    rw [p2De_eq]
    exact nodup_agrupada porPar (havingP2 M P2_THRESHOLD_COUNT P2_THRESHOLD_MONTO) (filaP2 M) _
      (conFecha us) (fun r => idP2 f r.organismoId r.proveedorId) (fun k => idP2 f k.1 k.2.1)
      havingP2_nil fun g => rfl
  simp only [idP2_inj] at h
  rw [hmap]
  exact h

theorem nodup_idsP3 {f : String} {us : List Unido} :
    ((alertasP3 M f us).map Alerta.id).Nodup ↔
      ∀ k k', marcaP3 us k → marcaP3 us k' → pyText k.1 = pyText k'.1 → k = k' := by
  have hmap : (alertasP3 M f us).map Alerta.id =
      (p3De M P3_THRESHOLD_ORGS us).map fun r => idP3 f r.empresaRut := List.map_map
  have h : ((p3De M P3_THRESHOLD_ORGS us).map fun r => idP3 f r.empresaRut).Nodup ↔
      ∀ k k', marcaP3 us k → marcaP3 us k' → idP3 f k.1 = idP3 f k'.1 → k = k' := by
    rw [p3De_eq]
    exact nodup_agrupada porEmpresa (havingP3 P3_THRESHOLD_ORGS) (filaP3 M) _ us
      (fun r => idP3 f r.empresaRut) (fun k => idP3 f k.1) havingP3_nil fun g => rfl
  simp only [idP3_inj] at h
  rw [hmap]
  exact h

end

end Fractura
