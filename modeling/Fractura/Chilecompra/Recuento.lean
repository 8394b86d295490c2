import Fractura.Chilecompra.Redeteccion

/-!
# What the numbers of a detection count

The response of `run_detection` gives for each slice how many suppliers, pairs and suppliers the
three rules flag.  `recuento_deteccion`: these are the alerts that the slice has afterwards, no
contract counts for two of them of the first and the third rule, and so there are at most so many as
the contracts of the slice allow.
-/

namespace Fractura

open Db Group

section
variable {M : Motor} {s t : Db} {f : String}

/-! ## the groups of the rules -/

theorem length_p1De (c1 : Nat) (us : List Unido) : (p1De M c1 us).length =
    ((groups porEmpresa us).filter fun g => havingP1 c1 g.2).length := by
  unfold p1De
  rw [(perm_sortDesc _ _).length_eq, (M.orden_perm _).length_eq, List.length_map]

theorem length_p2De (c2 : Nat) (m2 : Int) (us : List Unido) : (p2De M c2 m2 us).length =
    ((groups porPar (us.filter fun u => u.c.fecha.isSome)).filter
      fun g => havingP2 M c2 m2 g.2).length := by
  unfold p2De
  rw [(perm_sortDesc _ _).length_eq, (M.orden_perm _).length_eq, List.length_map]

theorem length_p3De (o3 : Nat) (us : List Unido) : (p3De M o3 us).length =
    ((groups porEmpresa us).filter fun g => havingP3 o3 g.2).length := by
  unfold p3De
  rw [(perm_sortDesc _ _).length_eq, (M.orden_perm _).length_eq, List.length_map]

theorem organismosDe_le (g : List Unido) : organismosDe g ≤ g.length := by
  unfold organismosDe countDistinct
  refine ((List.dedup_sublist _).length_le.trans (List.length_filterMap_le _ _)).trans ?_
  rw [List.length_map]

/-- a supplier with one organism is not one with three: no row counts for both rules -/
theorem p1_p3_length_le (us : List Unido) :
    (P1_THRESHOLD_COUNT + 1) * (p1De M P1_THRESHOLD_COUNT us).length +
      P3_THRESHOLD_ORGS * (p3De M P3_THRESHOLD_ORGS us).length ≤ us.length := by
  rw [length_p1De, length_p3De]
  refine length_having_le (fun g h => ?_) (fun g h => ?_) fun g h => ?_
  · simp only [havingP1, Bool.and_eq_true, decide_eq_true_eq] at h
    exact h.1
  · simp only [havingP3, decide_eq_true_eq] at h
    exact h.trans (organismosDe_le g)
  · simp only [havingP1, Bool.and_eq_true, decide_eq_true_eq] at h
    simp [havingP3, h.2, P3_THRESHOLD_ORGS]

theorem p2_length_le (us : List Unido) :
    P2_THRESHOLD_COUNT * (p2De M P2_THRESHOLD_COUNT P2_THRESHOLD_MONTO us).length ≤
      (us.filter fun u => u.c.fecha.isSome).length := by
  rw [length_p2De]
  have hmin : ∀ g, havingP2 M P2_THRESHOLD_COUNT P2_THRESHOLD_MONTO g = true →
      P2_THRESHOLD_COUNT ≤ g.length := fun g hg => by
    simp only [havingP2, Bool.and_eq_true, decide_eq_true_eq] at hg
    exact hg.1.1
  set l := us.filter fun u => u.c.fecha.isSome
  have h : P2_THRESHOLD_COUNT * ((groups porPar l).filter fun g =>
        havingP2 M P2_THRESHOLD_COUNT P2_THRESHOLD_MONTO g.2).length +
      0 * ((groups porPar l).filter fun _ => false).length ≤ l.length :=
    length_having_le (q := fun _ => false) hmin (fun _ hg => nomatch hg) fun _ _ => rfl
  omega

theorem length_unidos_le (s : Db) (f : String) (p : Contrato → Bool) :
    ((s.unidos f).filter fun u => p u.c).length ≤ ((s.contratosDe f).filter p).length := by
  rw [unidos_eq]
  induction s.contratosDe f with
  | nil => exact le_rfl
  | cons c l ih =>
    have hone : ((s.unidoDe c).filter fun u => p u.c).length ≤ ([c].filter p).length := by
      unfold unidoDe
      cases c.proveedorId with
      | none => exact Nat.zero_le _
      | some k =>
        dsimp only
        cases s.empresa.find k with
        | none => exact Nat.zero_le _
        | some e =>
          by_cases he : e.nombre = "Sin nombre" <;> by_cases hp : p c = true <;> simp [he, hp]
    rw [List.flatMap_cons, List.filter_append, List.length_append, ← List.singleton_append,
      List.filter_append, List.length_append]
    exact Nat.add_le_add hone ih

/-! ## one slice after another -/

/-- the alerts of the rules of a slice -/
def Db.alertasDeReglas (s : Db) (f : String) : List Alerta :=
  s.alerta.rows.filter fun a => decide (a.fuente = some f ∧ a.patron ≠ none)

theorem detectar_cuenta {r : ResultadoFuente}
    (h : Prog.run (exec M) (Fractura.detectar M f) s = (.ok r, t)) :
    r = resultadoDe M (s.unidos f) ∧ SoloAlertas s t ∧
      (t.alertasDeReglas f).length = r.alertsInserted ∧
      ∀ g, g ≠ f → t.alertasDeReglas g = s.alertasDeReglas g := by
  rcases run_detectar M f s with ⟨u, hu, hins⟩ | ⟨pre, a, post, u, -, hu, -, -⟩
  case inr =>
    rw [h] at hu
    cases hu
  rw [h] at hu
  cases hu
  have hnew : ∀ a ∈ sellar (s.deleteAlertaPatron f).reloj (alertasReglas M f (s.unidos f)),
      a.fuente = some f ∧ a.patron ≠ none := by
    intro a ha
    obtain ⟨b, hb, k, rfl⟩ := mem_sellar ha
    exact ⟨(alertasReglas_fuente hb).1, (alertasReglas_fuente hb).2.1⟩
  refine ⟨rfl, by unfold SoloAlertas; rw [hins.resto]; rfl, ?_, fun g hg => ?_⟩
  · have hold : (s.deleteAlertaPatron f).alerta.rows.filter
        (fun a => decide (a.fuente = some f ∧ a.patron ≠ none)) = [] :=
      List.filter_eq_nil_iff.mpr fun a ha hk =>
        of_decide_eq_true (List.mem_filter.mp ha).2 (of_decide_eq_true hk)
    have hlen : (sellar (s.deleteAlertaPatron f).reloj
        (alertasReglas M f (s.unidos f))).length = (alertasReglas M f (s.unidos f)).length := by
      rw [← List.length_map Alerta.id, map_id_sellar, List.length_map]
    unfold Db.alertasDeReglas
    rw [hins.rows, List.filter_append, hold, List.nil_append,
      List.filter_eq_self.mpr fun a ha => decide_eq_true (hnew a ha), hlen]
    simp [alertasReglas, alertasP1, alertasP2, alertasP3, resultadoDe, Nat.add_assoc]
  · have hno : (sellar (s.deleteAlertaPatron f).reloj (alertasReglas M f (s.unidos f))).filter
        (fun a => decide (a.fuente = some g ∧ a.patron ≠ none)) = [] := by
      refine List.filter_eq_nil_iff.mpr fun a ha hk => ?_
      exact hg (Option.some.inj ((of_decide_eq_true hk).1.symm.trans (hnew a ha).1))
    unfold Db.alertasDeReglas
    rw [hins.rows, List.filter_append, hno, List.append_nil]
    show List.filter _ (List.filter _ s.alerta.rows) = _
    rw [List.filter_filter]
    refine List.filter_congr fun a _ => ?_
    by_cases hf : a.fuente = some g
    · simp [hf, hg]
    · simp [hf]

theorem detectarTodas_cuenta {fs : List String} (hnd : fs.Nodup)
    {l : List (String × ResultadoFuente)}
    (h : Prog.run (exec M) (detectarTodas M fs) s = (.ok l, t)) :
    SoloAlertas s t ∧ (∀ g, g ∉ fs → t.alertasDeReglas g = s.alertasDeReglas g) ∧
      ∀ p ∈ l, p.1 ∈ fs ∧ p.2 = resultadoDe M (s.unidos p.1) ∧
        (t.alertasDeReglas p.1).length = p.2.alertsInserted := by
  induction fs generalizing s t l with
  | nil =>
    cases h
    exact ⟨.refl s, fun _ _ => rfl, fun p hp => absurd hp List.not_mem_nil⟩
  | cons f fs ih =>
    obtain ⟨hf, hnd⟩ := List.nodup_cons.mp hnd
    obtain ⟨r, u, hu, h⟩ := Prog.run_bind_inv _ h
    obtain ⟨rs, v, hv, h⟩ := Prog.run_bind_inv _ h
    cases h
    obtain ⟨hr, hsolo, hcount, hother⟩ := detectar_cuenta hu
    obtain ⟨hsolo', hother', hrest⟩ := ih hnd hv
    refine ⟨hsolo.trans hsolo', fun g hg => ?_, fun p hp => ?_⟩
    · obtain ⟨hgf, hgs⟩ := not_or.mp (mt List.mem_cons.mpr hg)
      exact (hother' g hgs).trans (hother g hgf)
    · rcases List.mem_cons.mp hp with rfl | hp
      · exact ⟨List.mem_cons_self, hr, by rw [hother' f hf]; exact hcount⟩
      · obtain ⟨hmem, hres, hlen⟩ := hrest p hp
        rw [hsolo.unidos] at hres
        exact ⟨List.mem_cons_of_mem _ hmem, hres, hlen⟩

/-- **The numbers of a detection**: for each slice of the response they add up to the alerts of the
rules that it has now; no contract counts for two suppliers of the first and the third rule, or for
two pairs of the second, so the contracts of the slice bound them. -/
theorem recuento_deteccion {o : Option String} {l : List (String × ResultadoFuente)}
    (h : Prog.run (exec M) (runDetection M o) s = (.ok l, t)) : ∀ p ∈ l,
    (t.alertasDeReglas p.1).length =
      p.2.p1Recurrente + p.2.p2Fraccionamiento + p.2.p3MultiOrg ∧
    (P1_THRESHOLD_COUNT + 1) * p.2.p1Recurrente + P3_THRESHOLD_ORGS * p.2.p3MultiOrg ≤
      (t.contratosDe p.1).length ∧
    P2_THRESHOLD_COUNT * p.2.p2Fraccionamiento ≤
      ((t.contratosDe p.1).filter fun c => c.fecha.isSome).length := by
  rw [run_runDetection] at h
  obtain ⟨hsolo, -, hall⟩ := detectarTodas_cuenta (nodup_fuentesDe o s) h
  intro p hp
  obtain ⟨-, hres, hlen⟩ := hall p hp
  have hcon : t.contratosDe p.1 = s.contratosDe p.1 := contratosDe_congr hsolo.contrato p.1
  rw [hlen, hcon, hres]
  refine ⟨rfl, ?_, (p2_length_le _).trans (length_unidos_le s p.1 fun c => c.fecha.isSome)⟩
  have hjoin := length_unidos_le s p.1 fun _ => true
  rw [List.filter_true, List.filter_true] at hjoin
  exact (p1_p3_length_le _).trans hjoin

end

theorem recuento_deteccion_recurrente :
    ∃ l t, Prog.run (exec motorConcreto) (runDetection motorConcreto none) tiendaRecurrente =
      (.ok l, t) ∧ ∀ p ∈ l, (t.alertasDeReglas p.1).length =
        p.2.p1Recurrente + p.2.p2Fraccionamiento + p.2.p3MultiOrg := by
  obtain ⟨l, hl⟩ : ∃ l, (Prog.run (exec motorConcreto) (runDetection motorConcreto none)
      tiendaRecurrente).1 = .ok l :=
    ⟨[("chilecompra_oc_2024-05", ⟨false, 1, 0, 0, 1⟩)], by decide +kernel⟩
  exact ⟨l, _, Prod.ext hl rfl, fun p hp => (recuento_deteccion (Prod.ext hl rfl) p hp).1⟩

end Fractura
