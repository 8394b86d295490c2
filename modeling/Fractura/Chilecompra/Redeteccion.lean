import Fractura.Chilecompra.OtrasFuentes
import Fractura.Chilecompra.Claves

/-!
# Detections one after another

`DeLista fs b`: the alert `b` is one of a rule, of one of the slices `fs`.  A loop over slices that
returned leaves, up to the moments, the old alerts outside `fs` and the alerts that the rules call
for in each slice (`detectarTodas_alertas_iff`).  That depends on the slices alone, not on their
order or number, so a detection can be repeated and reordered (`redeteccion`).

A loop that raises has gone through the slices before the failing one, and of the failing one it
leaves the alerts before the first id that is taken (`deteccion_fallida`); the old ones are gone
(`deteccion_no_atomica`).
-/

namespace Fractura

open Db

/-! ## the alerts of some slices -/

def DeLista (fs : List String) (b : Alerta) : Prop :=
  b.patron ≠ none ∧ ∃ f ∈ fs, b.fuente = some f

theorem deLista_cons {f : String} {fs : List String} {b : Alerta} :
    DeLista (f :: fs) b ↔ (b.fuente = some f ∧ b.patron ≠ none) ∨ DeLista fs b := by
  unfold DeLista
  rw [List.exists_mem_cons_iff]
  tauto

/-- the alerts of a store, up to their moments -/
def Db.sinHoras (s : Db) : List Alerta := s.alerta.rows.map Alerta.sinHora

theorem mem_sinHoras {s : Db} {b : Alerta} : b ∈ s.sinHoras ↔ ∃ a ∈ s.alerta.rows, a.sinHora = b :=
  List.mem_map

section
variable {M : Motor} {s t : Db}

/-! ## one slice -/

theorem map_sinHora_reglas (f : String) (us : List Unido) :
    (alertasReglas M f us).map Alerta.sinHora = alertasReglas M f us := by
  conv_rhs => rw [← List.map_id (alertasReglas M f us)]
  exact List.map_congr_left fun a ha => (alertasReglas_fuente ha).2.2

theorem Insertadas.mem_sinHoras {f : String} {l : List Alerta}
    (h : Insertadas (s.deleteAlertaPatron f) l t) {b : Alerta} : b ∈ t.sinHoras ↔
      (b ∈ s.sinHoras ∧ ¬ (b.fuente = some f ∧ b.patron ≠ none)) ∨ b ∈ l.map Alerta.sinHora := by
  unfold Db.sinHoras
  rw [h.rows, List.map_append, List.mem_append, map_sinHora_sellar]
  refine or_congr_left ⟨fun hb => ?_, fun hb => ?_⟩
  · obtain ⟨a, ha, rfl⟩ := List.mem_map.mp hb
    obtain ⟨ha, hf⟩ := List.mem_filter.mp ha
    exact ⟨List.mem_map_of_mem ha, of_decide_eq_true hf⟩
  · obtain ⟨hb, hf⟩ := hb
    obtain ⟨a, ha, rfl⟩ := List.mem_map.mp hb
    exact List.mem_map_of_mem (List.mem_filter.mpr ⟨ha, decide_eq_true hf⟩)

theorem detectar_alertas_iff {f : String} {r : ResultadoFuente}
    (h : Prog.run (exec M) (detectar M f) s = (.ok r, t)) {b : Alerta} : b ∈ t.sinHoras ↔
      (b ∈ s.sinHoras ∧ ¬ (b.fuente = some f ∧ b.patron ≠ none)) ∨
        b ∈ alertasReglas M f (s.unidos f) := by
  rcases run_detectar M f s with ⟨t', h', hins⟩ | ⟨pre, a, post, t', -, h', -, -⟩
  case inr =>
    rw [h] at h'
    cases h'
  rw [h] at h'
  cases h'
  rw [hins.mem_sinHoras, map_sinHora_reglas]

/-! ## a list of slices -/

/-- **The alerts after a loop that returned** depend on which slices it went through. -/
theorem detectarTodas_alertas_iff {fs : List String} {l : List (String × ResultadoFuente)}
    (h : Prog.run (exec M) (detectarTodas M fs) s = (.ok l, t)) {b : Alerta} : b ∈ t.sinHoras ↔
      (b ∈ s.sinHoras ∧ ¬ DeLista fs b) ∨ ∃ f ∈ fs, b ∈ alertasReglas M f (s.unidos f) := by
  induction fs generalizing s l with
  | nil =>
    cases h
    simp [DeLista]
  | cons g fs ih =>
    obtain ⟨r, s1, hr, h⟩ := Prog.run_bind_inv _ h
    obtain ⟨rs, s2, hrs, h⟩ := Prog.run_bind_inv _ h
    cases h
    have hsolo := (detectar_filas M g s).1
    rw [hr] at hsolo
    have hreg : ∀ f, alertasReglas M f (s1.unidos f) = alertasReglas M f (s.unidos f) :=
      fun f => by rw [hsolo.unidos]
    rw [ih hrs, detectar_alertas_iff hr, deLista_cons, List.exists_mem_cons_iff]
    simp only [hreg]
    -- what the loop deletes again of the slice `g` it also inserts again
    have hagain : b ∈ alertasReglas M g (s.unidos g) → DeLista fs b →
        ∃ f ∈ fs, b ∈ alertasReglas M f (s.unidos f) := by
      intro hb hd
      obtain ⟨-, f, hf, hbf⟩ := hd
      have hgf : g = f := Option.some.inj ((alertasReglas_fuente hb).1.symm.trans hbf)
      exact ⟨f, hf, hgf ▸ hb⟩
    by_cases hd : DeLista fs b
    · simp only [hd, not_true_eq_false, and_false, false_or, or_true]
      exact ⟨Or.inr, fun h => h.elim (fun hb => hagain hb hd) id⟩
    · simp only [hd, not_false_eq_true, and_true, or_false, or_assoc]

/-- the rows outside the slices stay, at their moments, also when the loop raises -/
theorem detectar_conserva_filas (f : String) (s : Db) :
    ((Prog.run (exec M) (detectar M f) s).2.alerta.rows.filter
      fun a => decide (¬ (a.fuente = some f ∧ a.patron ≠ none))) =
      s.alerta.rows.filter fun a => decide (¬ (a.fuente = some f ∧ a.patron ≠ none)) := by
  obtain ⟨l, hl, hins⟩ := run_detectar_insertadas M f s
  rw [hins.rows, List.filter_append]
  have hold : (s.deleteAlertaPatron f).alerta.rows =
      s.alerta.rows.filter fun a => decide (¬ (a.fuente = some f ∧ a.patron ≠ none)) := rfl
  have hnew : (sellar (s.deleteAlertaPatron f).reloj l).filter
      (fun a => decide (¬ (a.fuente = some f ∧ a.patron ≠ none))) = [] := by
    rw [List.filter_eq_nil_iff]
    intro a ha
    obtain ⟨b, hb, n, rfl⟩ := mem_sellar ha
    obtain ⟨h1, h2, -⟩ := alertasReglas_fuente (hl b hb)
    exact fun hn => of_decide_eq_true hn ⟨h1, h2⟩
  rw [hold, hnew, List.append_nil, List.filter_filter]
  apply List.filter_congr
  intro a _
  exact Bool.and_self _

/-! ## calls one after another -/

/-- `run_detection(f)` for the slices of a list, each one called when the one before has returned -/
def detectarEnOrden (M : Motor) (fs : List String) : Prg Unit :=
  Prog.each fs fun f => do
    let _ ← runDetection M (some f)
    return ()

theorem detectarEnOrden_ok {fs : List String} :
    Prog.run (exec M) (detectarEnOrden M fs) s = (.ok (), t) ↔
      ∃ l, Prog.run (exec M) (detectarTodas M fs) s = (.ok l, t) := by
  induction fs generalizing s with
  | nil =>
    refine ⟨fun h => ?_, fun h => ?_⟩
    · cases h
      exact ⟨[], rfl⟩
    · obtain ⟨l, h⟩ := h
      cases h
      rfl
  | cons f fs ih =>
    refine ⟨fun h => ?_, fun h => ?_⟩
    · obtain ⟨_, s1, h1, h2⟩ := Prog.run_bind_inv _ h
      obtain ⟨l, s2, h1, h3⟩ := Prog.run_bind_inv _ h1
      cases h3
      obtain ⟨r, _, hr⟩ := (runDetection_some_ok M).mp h1
      obtain ⟨rs, hrs⟩ := ih.mp h2
      exact ⟨(f, r) :: rs, (Prog.run_bind_ok _ hr).trans (Prog.run_bind_ok _ hrs)⟩
    · obtain ⟨l, h⟩ := h
      obtain ⟨r, s1, hr, h⟩ := Prog.run_bind_inv _ h
      obtain ⟨rs, s2, hrs, h⟩ := Prog.run_bind_inv _ h
      cases h
      have h1 := (runDetection_some_ok M).mpr ⟨r, rfl, hr⟩
      exact (Prog.run_bind_ok _ (Prog.run_bind_ok _ h1)).trans (ih.mpr ⟨rs, hrs⟩)

theorem detectar_repetida {f : String} {r : ResultadoFuente}
    (h : Prog.run (exec M) (detectar M f) s = (.ok r, t)) :
    ∃ u, Prog.run (exec M) (detectar M f) t = (.ok r, u) := by
  have hsolo := (detectar_filas M f s).1
  rw [h] at hsolo
  obtain ⟨hnd, hfree⟩ := (detectar_ok_iff M f s).mp ⟨r, t, h⟩
  have hok : ∃ r' u, Prog.run (exec M) (detectar M f) t = (.ok r', u) := by
    refine (detectar_ok_iff M f t).mpr ⟨?_, fun a ha hk => ?_⟩
    · rw [hsolo.unidos]
      exact hnd
    · rw [hsolo.unidos] at ha
      -- the rows that the second `DELETE` leaves are those that the first one left
      have hsame := detectar_conserva_filas (M := M) f s
      rw [h] at hsame
      apply hfree a ha
      unfold KeyTable.keys at hk ⊢
      have h1 : (t.deleteAlertaPatron f).alerta.rows = (s.deleteAlertaPatron f).alerta.rows := hsame
      rwa [h1] at hk
  obtain ⟨r', u, hu⟩ := hok
  have hr' : r' = r := by
    rcases run_detectar M f s with ⟨t', h1, -⟩ | ⟨pre, a, post, t', -, h1, -, -⟩
    · rcases run_detectar M f t with ⟨u', h2, -⟩ | ⟨pre, a, post, u', -, h2, -, -⟩
      · rw [h] at h1
        rw [hu] at h2
        cases h1
        cases h2
        rw [hsolo.unidos]
      · rw [hu] at h2
        cases h2
    · rw [h] at h1
      cases h1
  exact ⟨u, hr' ▸ hu⟩

theorem mismasFilas_sinHoras {s t : Db} : MismasFilas s.sinHoras t.sinHoras ↔
    ∀ b, b ∈ s.sinHoras ↔ b ∈ t.sinHoras :=
  ⟨fun h b => ⟨h.1 b, h.2 b⟩, fun h => ⟨fun b => (h b).mp, fun b => (h b).mpr⟩⟩

theorem detectarTodas_mismas {fs fs' : List String} {l l' : List (String × ResultadoFuente)}
    {u : Db} (hfs : ∀ f, f ∈ fs ↔ f ∈ fs')
    (h : Prog.run (exec M) (detectarTodas M fs) s = (.ok l, t))
    (h' : Prog.run (exec M) (detectarTodas M fs') s = (.ok l', u)) :
    MismasFilas t.sinHoras u.sinHoras := by
  rw [mismasFilas_sinHoras]
  intro b
  rw [detectarTodas_alertas_iff h, detectarTodas_alertas_iff h']
  have hd : DeLista fs b ↔ DeLista fs' b := by
    unfold DeLista
    simp only [hfs]
  simp only [hd, hfs]

/-! ## a loop that raises -/

theorem detectarTodas_error {fs : List String} {e : Error}
    (h : Prog.run (exec M) (detectarTodas M fs) s = (.error e, t)) :
    ∃ hechas f resto l u, fs = hechas ++ f :: resto ∧
      Prog.run (exec M) (detectarTodas M hechas) s = (.ok l, u) ∧
      Prog.run (exec M) (detectar M f) u = (.error e, t) := by
  induction fs generalizing s with
  | nil => cases h
  | cons f fs ih =>
    unfold detectarTodas at h
    simp only [Prog.bind_eq] at h
    cases hr : Prog.run (exec M) (detectar M f) s with
    | mk res s1 =>
      cases res with
      | error e' =>
        rw [Prog.run_bind_error _ hr] at h
        cases h
        exact ⟨[], f, fs, [], s, rfl, rfl, hr⟩
      | ok r =>
        rw [Prog.run_bind_ok _ hr, Prog.run_bind] at h
        cases hrs : Prog.run (exec M) (detectarTodas M fs) s1 with
        | mk res' s2 =>
          rw [hrs] at h
          cases res' with
          | ok rs => cases h
          | error e' =>
            cases h
            obtain ⟨hechas, g, resto, l, u, rfl, hl, hg⟩ := ih hrs
            exact ⟨f :: hechas, g, resto, (f, r) :: l, u, rfl,
              (Prog.run_bind_ok _ hr).trans (Prog.run_bind_ok _ hl), hg⟩

theorem detectarTodas_error_eq {fs : List String} {e : Error}
    (h : Prog.run (exec M) (detectarTodas M fs) s = (.error e, t)) : e = .primaryKey .alerta := by
  obtain ⟨hechas, f, resto, l, u, -, -, hf⟩ := detectarTodas_error h
  rcases run_detectar M f u with ⟨t', h', -⟩ | ⟨pre, a, post, t', -, h', -, -⟩
  · rw [hf] at h'
    cases h'
  · rw [hf] at h'
    cases h'
    rfl

/-- the slices that a call goes through -/
def fuentesDe (M : Motor) (s : Db) : Option String → List String
  | none => M.orden ((s.contrato.rows.filterMap Contrato.fuente).filter
      fun f => Text.like "chilecompra_%" f).dedup
  | some f => [f]

theorem run_runDetection (o : Option String) (s : Db) :
    Prog.run (exec M) (runDetection M o) s =
      Prog.run (exec M) (detectarTodas M (fuentesDe M s o)) s := by
  cases o with
  | none => exact Prog.run_bind_ok _ (run_consulta (q := .fuentes) rfl)
  | some f => rfl

theorem nodup_fuentesDe (o : Option String) (s : Db) : (fuentesDe M s o).Nodup := by
  cases o with
  | none => exact (M.orden_perm _).nodup_iff.mpr (List.nodup_dedup _)
  | some f => exact List.nodup_singleton f

/-- what an interrupted call leaves: the slices `hechas` are done, of the slice `f` the alerts `pre`
are inserted and the old ones deleted, and nothing else has changed -/
structure Interrumpida (M : Motor) (s t : Db) (hechas : List String) (f : String)
    (pre : List Alerta) : Prop where
  tablas : SoloAlertas s t
  completas : ∀ g ∈ hechas, ∀ b, b.fuente = some g → b.patron ≠ none →
    (b ∈ t.sinHoras ↔ b ∈ alertasReglas M g (s.unidos g))
  parcial : ∀ b, b.fuente = some f → b.patron ≠ none → (b ∈ t.sinHoras ↔ b ∈ pre)
  resto : ∀ a, ¬ DeLista (hechas ++ [f]) a → (a ∈ t.alerta.rows ↔ a ∈ s.alerta.rows)

theorem detectar_resto {f : String} {a : Alerta} (ha : ¬ (a.fuente = some f ∧ a.patron ≠ none)) :
    a ∈ (Prog.run (exec M) (detectar M f) s).2.alerta.rows ↔ a ∈ s.alerta.rows := by
  have hmem : a ∈ ((Prog.run (exec M) (detectar M f) s).2.alerta.rows.filter
      fun a => decide (¬ (a.fuente = some f ∧ a.patron ≠ none))) ↔
      a ∈ s.alerta.rows.filter fun a => decide (¬ (a.fuente = some f ∧ a.patron ≠ none)) := by
    rw [detectar_conserva_filas]
  rw [List.mem_filter, List.mem_filter] at hmem
  simpa only [decide_eq_true ha, and_true] using hmem

theorem detectarTodas_resto {fs : List String} {a : Alerta} (ha : ¬ DeLista fs a) :
    a ∈ (Prog.run (exec M) (detectarTodas M fs) s).2.alerta.rows ↔ a ∈ s.alerta.rows := by
  refine run_detectarTodas_keeps M (I := fun u => a ∈ u.alerta.rows ↔ a ∈ s.alerta.rows) ?_ Iff.rfl
  intro f hf u hu
  exact (detectar_resto fun h => ha ⟨h.2, f, hf, h.1⟩).trans hu

/-- the slices `hechas` have been searched, and in the next one the alerts `pre` are inserted -/
theorem interrumpida {u : Db} {hechas : List String} {f : String} {pre : List Alerta}
    {l : List (String × ResultadoFuente)}
    (hl : Prog.run (exec M) (detectarTodas M hechas) s = (.ok l, u)) (hnot : f ∉ hechas)
    (hpre : ∀ b ∈ pre, b ∈ alertasReglas M f (s.unidos f))
    (hins : Insertadas (u.deleteAlertaPatron f) pre (Prog.run (exec M) (detectar M f) u).2) :
    Interrumpida M s (Prog.run (exec M) (detectar M f) u).2 hechas f pre := by
  have hmap : ∀ b ∈ pre.map Alerta.sinHora, b ∈ pre ∧ b.fuente = some f := by
    intro b hb
    obtain ⟨c, hc, rfl⟩ := List.mem_map.mp hb
    obtain ⟨hcf, -, hcs⟩ := alertasReglas_fuente (hpre c hc)
    rw [hcs]
    exact ⟨hc, hcf⟩
  refine ⟨?_, ?_, ?_, ?_⟩
  · have hsolo := detectarTodas_soloAlertas M hechas s
    rw [hl] at hsolo
    exact hsolo.trans (detectar_filas M f u).1
  · intro g hg b hbg hbp
    have hgf : g ≠ f := fun e => hnot (e ▸ hg)
    have hbf : b.fuente ≠ some f := by
      rw [hbg]
      exact fun e => hgf (Option.some.inj e)
    have hd : DeLista hechas b := ⟨hbp, g, hg, hbg⟩
    rw [hins.mem_sinHoras, detectarTodas_alertas_iff hl]
    refine ⟨fun hb => ?_, fun hb => ?_⟩
    · rcases hb with ⟨⟨-, hn⟩ | ⟨g', -, hb⟩, -⟩ | hb
      · exact absurd hd hn
      · have hg' : g' = g := Option.some.inj ((alertasReglas_fuente hb).1.symm.trans hbg)
        exact hg' ▸ hb
      · exact absurd (hmap b hb).2 hbf
    · exact Or.inl ⟨Or.inr ⟨g, hg, hb⟩, fun h => hbf h.1⟩
  · intro b hbf hbp
    rw [hins.mem_sinHoras]
    refine ⟨fun hb => ?_, fun hb => Or.inr ?_⟩
    · rcases hb with ⟨-, hn⟩ | hb
      · exact absurd ⟨hbf, hbp⟩ hn
      · exact (hmap b hb).1
    · exact List.mem_map.mpr ⟨b, hb, (alertasReglas_fuente (hpre b hb)).2.2⟩
  · intro b hb
    have hb1 : ¬ DeLista hechas b := fun h => hb ⟨h.1, by
      obtain ⟨g, hg, hbg⟩ := h.2
      exact ⟨g, List.mem_append_left _ hg, hbg⟩⟩
    have hb2 : ¬ (b.fuente = some f ∧ b.patron ≠ none) := fun h =>
      hb ⟨h.2, f, List.mem_append_right _ List.mem_cons_self, h.1⟩
    have h1 := detectarTodas_resto (M := M) (s := s) hb1
    rw [hl] at h1
    exact (detectar_resto hb2).trans h1

/-- **A call that raises** died on a primary key: the slices before the failing one are done, of
the failing one the alerts before the clash are in the place of the old ones. -/
theorem deteccion_fallida {o : Option String} {e : Error}
    (h : Prog.run (exec M) (runDetection M o) s = (.error e, t)) :
    e = .primaryKey .alerta ∧ ∃ hechas f resto pre a post,
      fuentesDe M s o = hechas ++ f :: resto ∧
      alertasReglas M f (s.unidos f) = pre ++ a :: post ∧ a.id ∈ t.alerta.keys ∧
      Interrumpida M s t hechas f pre := by
  rw [run_runDetection] at h
  refine ⟨detectarTodas_error_eq h, ?_⟩
  obtain ⟨hechas, f, resto, l, u, hfs, hl, hf⟩ := detectarTodas_error h
  have hnd := nodup_fuentesDe (M := M) o s
  rw [hfs] at hnd
  have hnot : f ∉ hechas := fun hm =>
    (List.nodup_append.mp hnd).2.2 f hm f List.mem_cons_self rfl
  have hsolo := detectarTodas_soloAlertas M hechas s
  rw [hl] at hsolo
  rcases run_detectar M f u with ⟨t', h', -⟩ | ⟨pre, a, post, t', he, h', hins, ha⟩
  · rw [hf] at h'
    cases h'
  rw [hf] at h'
  cases h'
  rw [hsolo.unidos] at he
  have hpre : ∀ b ∈ pre, b ∈ alertasReglas M f (s.unidos f) := fun b hb =>
    he ▸ List.mem_append_left _ hb
  have hint := interrumpida hl hnot hpre (by rw [hf]; exact hins)
  rw [hf] at hint
  exact ⟨hechas, f, resto, pre, a, post, hfs, he, ha, hint⟩

/-! ## repeating and reordering -/

theorem deteccion_repetida {f : String} {l : List (String × ResultadoFuente)}
    (h : Prog.run (exec M) (runDetection M (some f)) s = (.ok l, t)) :
    ∃ u, Prog.run (exec M) (runDetection M (some f)) t = (.ok l, u) ∧
      MismasFilas t.sinHoras u.sinHoras := by
  obtain ⟨r, rfl, hr⟩ := (runDetection_some_ok M).mp h
  obtain ⟨u, hu⟩ := detectar_repetida hr
  refine ⟨u, (runDetection_some_ok M).mpr ⟨r, rfl, hu⟩, ?_⟩
  have hsolo := (detectar_filas M f s).1
  rw [hr] at hsolo
  rw [mismasFilas_sinHoras]
  intro b
  rw [detectar_alertas_iff hu, detectar_alertas_iff hr, hsolo.unidos]
  by_cases hb : b ∈ alertasReglas M f (s.unidos f)
  · simp only [hb, or_true]
  · simp only [hb, or_false, and_assoc, and_self]

theorem deteccion_en_orden (hs : Inv M s) {fs : List String} (hp : fs.Perm (fuentesDe M s none))
    (h : Prog.run (exec M) (detectarEnOrden M fs) s = (.ok (), t)) :
    ∃ l u, Prog.run (exec M) (runDetection M none) s = (.ok l, u) ∧
      MismasFilas t.sinHoras u.sinHoras := by
  obtain ⟨l, hl⟩ := detectarEnOrden_ok.mp h
  rw [run_runDetection]
  -- the slices of the list have no clash, so the one call returns too
  have hsin : ∀ f ∈ fs, SinChoque M s f := by
    refine (detectarTodas_iff hs fs).mp ?_
    rw [hl]
    exact fun he => by cases he
  have hne : (Prog.run (exec M) (detectarTodas M (fuentesDe M s none)) s).1 ≠
      .error (.primaryKey .alerta) :=
    (detectarTodas_iff hs _).mpr fun f hf => hsin f (hp.mem_iff.mpr hf)
  cases hr : Prog.run (exec M) (detectarTodas M (fuentesDe M s none)) s with
  | mk res u =>
    cases res with
    | error e =>
      rw [hr] at hne
      exact absurd (congrArg Except.error (detectarTodas_error_eq hr)) hne
    | ok l' => exact ⟨l', u, rfl, detectarTodas_mismas (fun f => hp.mem_iff) hl hr⟩

/-- **A detection can be repeated, is local, and the order of the slices does not matter.** -/
theorem redeteccion (h : Alcanzable M s) :
    (∀ f l t, Prog.run (exec M) (runDetection M (some f)) s = (.ok l, t) →
      ∃ u, Prog.run (exec M) (runDetection M (some f)) t = (.ok l, u) ∧
        MismasFilas t.sinHoras u.sinHoras) ∧
    (∀ f, SoloAlertas s (Prog.run (exec M) (runDetection M (some f)) s).2 ∧
      ∀ a, a.fuente ≠ some f ∨ a.patron = none →
        (a ∈ (Prog.run (exec M) (runDetection M (some f)) s).2.alerta.rows ↔
          a ∈ s.alerta.rows)) ∧
    (∀ fs fs' t u, fs.Perm fs' → Prog.run (exec M) (detectarEnOrden M fs) s = (.ok (), t) →
      Prog.run (exec M) (detectarEnOrden M fs') s = (.ok (), u) →
      MismasFilas t.sinHoras u.sinHoras) ∧
    ∀ fs t, fs.Perm (fuentesDe M s none) →
      Prog.run (exec M) (detectarEnOrden M fs) s = (.ok (), t) →
      ∃ l u, Prog.run (exec M) (runDetection M none) s = (.ok l, u) ∧
        MismasFilas t.sinHoras u.sinHoras := by
  refine ⟨fun f l t ht => deteccion_repetida ht, ?_, ?_,
    fun fs t hp ht => deteccion_en_orden (inv_of_alcanzable h) hp ht⟩
  · intro f
    rw [run_runDetection]
    refine ⟨detectarTodas_soloAlertas M _ s, fun a ha => detectarTodas_resto fun hd => ?_⟩
    obtain ⟨hp, g, hg, hag⟩ := hd
    rw [List.mem_singleton.mp hg] at hag
    rcases ha with ha | ha
    · exact ha hag
    · exact hp ha
  · intro fs fs' t u hp ht hu
    obtain ⟨l, hl⟩ := detectarEnOrden_ok.mp ht
    obtain ⟨l', hl'⟩ := detectarEnOrden_ok.mp hu
    exact detectarTodas_mismas (fun f => hp.mem_iff) hl hl'

end

/-! ## concrete runs -/

/-- four orders of a supplier in May, one more in June -/
def tiendaDosMeses : Db :=
  trasCarga 2024 6 compraCompartida (trasCarga 2024 5 comprasRecurrentes .empty)

theorem redeteccion_dos_meses :
    ∃ l u, Prog.run (exec motorConcreto) (runDetection motorConcreto none) tiendaDosMeses =
        (.ok l, u) ∧
      MismasFilas (Prog.run (exec motorConcreto) (detectarEnOrden motorConcreto
        ["chilecompra_oc_2024-06", "chilecompra_oc_2024-05"]) tiendaDosMeses).2.sinHoras
        u.sinHoras :=
  (redeteccion (.paso (.cargar 2024 6 0 (.csv compraCompartida))
    (.paso (.cargar 2024 5 0 (.csv comprasRecurrentes)) .vacio))).2.2.2 _ _
    (by decide +kernel) (Prod.ext (by decide +kernel) rfl)

/-- **A call that raises leaves its first alerts behind.** -/
theorem deteccion_no_atomica :
    Alcanzable motorConcreto (trasCarga 2024 5 comprasSinRut .empty) ∧
    (Prog.run (exec motorConcreto) (runDetection motorConcreto none)
      (trasCarga 2024 5 comprasSinRut .empty)).1 = .error (.primaryKey .alerta) ∧
    (trasCarga 2024 5 comprasSinRut .empty).alerta.rows = [] ∧
    (Prog.run (exec motorConcreto) (runDetection motorConcreto none)
      (trasCarga 2024 5 comprasSinRut .empty)).2.alerta.keys = ["p1_None_chilecompra_oc_2024-05"] :=
  ⟨.paso (.cargar 2024 5 0 (.csv comprasSinRut)) .vacio, by decide +kernel, by decide +kernel,
    by decide +kernel⟩

theorem deteccion_fallida_sin_rut :
    ∃ hechas f resto pre a post,
      fuentesDe motorConcreto (trasCarga 2024 5 comprasSinRut .empty) none =
        hechas ++ f :: resto ∧
      alertasReglas motorConcreto f ((trasCarga 2024 5 comprasSinRut .empty).unidos f) =
        pre ++ a :: post ∧
      Interrumpida motorConcreto (trasCarga 2024 5 comprasSinRut .empty)
        (Prog.run (exec motorConcreto) (runDetection motorConcreto none)
          (trasCarga 2024 5 comprasSinRut .empty)).2 hechas f pre := by
  have hrun : Prog.run (exec motorConcreto) (runDetection motorConcreto none)
      (trasCarga 2024 5 comprasSinRut .empty) = (.error (.primaryKey .alerta),
        (Prog.run (exec motorConcreto) (runDetection motorConcreto none)
          (trasCarga 2024 5 comprasSinRut .empty)).2) :=
    Prod.ext (by decide +kernel) rfl
  obtain ⟨-, hechas, f, resto, pre, a, post, hfs, he, -, hint⟩ := deteccion_fallida hrun
  exact ⟨hechas, f, resto, pre, a, post, hfs, he, hint⟩

end Fractura
