import Fractura.Chilecompra.Detect
import Fractura.Statements

/-!
# What `run_detection` does to the store

`alertasReglas M f us` are the alerts that the three rules call for on the joined rows `us` of the
slice `f`, in the order of their insertion.

* `run_insertarAlertas`   inserting a list of alerts ends, or stops at the first one whose id is
                          taken; the ones before it stay;
* `run_detectar`          one slice: the old alerts of the rules go, `alertasReglas` are inserted;
* `detectar_ok_iff`       it returns exactly when the new ids are different and free;
* `detectar_reglas`       the rule alerts of the slice afterwards;
* `run_detectarTodas_keeps`   the loop over the slices.

The contracts and their parents are only read (`SoloAlertas`).
-/

namespace Fractura

open Db

/-! ## the alerts of the rules -/

section
variable (M : Motor)

def alertasP1 (f : String) (us : List Unido) : List Alerta :=
  (p1De M P1_THRESHOLD_COUNT us).map (alertaP1 M f)

def alertasP2 (f : String) (us : List Unido) : List Alerta :=
  (p2De M P2_THRESHOLD_COUNT P2_THRESHOLD_MONTO us).map (alertaP2 M f)

def alertasP3 (f : String) (us : List Unido) : List Alerta :=
  (p3De M P3_THRESHOLD_ORGS us).map (alertaP3 M f)

def alertasReglas (f : String) (us : List Unido) : List Alerta :=
  alertasP1 M f us ++ alertasP2 M f us ++ alertasP3 M f us

/-- **The test mode is never on**: its threshold is zero contracts. -/
theorem umbrales_eq (n : Nat) : umbrales n =
    ⟨false, P1_THRESHOLD_COUNT, P2_THRESHOLD_COUNT, P2_THRESHOLD_MONTO, P3_THRESHOLD_ORGS⟩ := by
  unfold umbrales
  rw [show decide (n < TEST_MODE_THRESHOLD) = false from decide_eq_false (Nat.not_lt_zero n)]
  rfl

theorem mem_alertasReglas {M : Motor} {f : String} {us : List Unido} {a : Alerta} :
    a ∈ alertasReglas M f us ↔
      (∃ r ∈ p1De M P1_THRESHOLD_COUNT us, a = alertaP1 M f r) ∨
      (∃ r ∈ p2De M P2_THRESHOLD_COUNT P2_THRESHOLD_MONTO us, a = alertaP2 M f r) ∨
      (∃ r ∈ p3De M P3_THRESHOLD_ORGS us, a = alertaP3 M f r) := by
  unfold alertasReglas alertasP1 alertasP2 alertasP3
  simp only [List.mem_append, List.mem_map, or_assoc, eq_comm (b := a)]

theorem alertasReglas_fuente {M : Motor} {f : String} {us : List Unido} {a : Alerta}
    (h : a ∈ alertasReglas M f us) : a.fuente = some f ∧ a.patron ≠ none ∧ a.sinHora = a := by
  rcases mem_alertasReglas.mp h with ⟨r, -, rfl⟩ | ⟨r, -, rfl⟩ | ⟨r, -, rfl⟩
  · exact ⟨rfl, Option.some_ne_none _, rfl⟩
  · exact ⟨rfl, Option.some_ne_none _, rfl⟩
  · exact ⟨rfl, Option.some_ne_none _, rfl⟩

/-! ## inserting a list of alerts -/

/-- the rows that the engine stores for a list of alerts, from the moment `n` on -/
def sellar (n : Nat) : List Alerta → List Alerta
  | [] => []
  | a :: l => a.stamp n :: sellar (n + 1) l

theorem sellar_append (n : Nat) (l l' : List Alerta) :
    sellar n (l ++ l') = sellar n l ++ sellar (n + l.length) l' := by
  induction l generalizing n with
  | nil => rfl
  | cons a l ih =>
    rw [List.cons_append, sellar, ih, sellar, List.cons_append, List.length_cons]
    congr 3
    omega

theorem map_id_sellar (n : Nat) (l : List Alerta) :
    (sellar n l).map Alerta.id = l.map Alerta.id := by
  induction l generalizing n with
  | nil => rfl
  | cons a l ih => rw [sellar, List.map_cons, List.map_cons, ih, Alerta.stamp_id]

theorem map_sinHora_sellar (n : Nat) (l : List Alerta) :
    (sellar n l).map Alerta.sinHora = l.map Alerta.sinHora := by
  induction l generalizing n with
  | nil => rfl
  | cons a l ih => rw [sellar, List.map_cons, List.map_cons, ih, Alerta.sinHora_stamp]

theorem mem_sellar {n : Nat} {l : List Alerta} {a : Alerta} (h : a ∈ sellar n l) :
    ∃ b ∈ l, ∃ k, a = b.stamp k := by
  induction l generalizing n with
  | nil => cases h
  | cons b l ih =>
    rcases List.mem_cons.mp h with rfl | h
    · exact ⟨b, List.mem_cons_self, n, rfl⟩
    · obtain ⟨c, hc, k, hk⟩ := ih h
      exact ⟨c, List.mem_cons_of_mem _ hc, k, hk⟩

/-- `t` is `s` with the alerts `l` inserted -/
structure Insertadas (s : Db) (l : List Alerta) (t : Db) : Prop where
  rows : t.alerta.rows = s.alerta.rows ++ sellar s.reloj l
  resto : t.toTablas = { s.toTablas with alerta := t.alerta, reloj := s.reloj + l.length }

namespace Insertadas

theorem refl (s : Db) : Insertadas s [] s := ⟨(List.append_nil _).symm, rfl⟩

theorem reloj {s t : Db} {l : List Alerta} (h : Insertadas s l t) :
    t.reloj = s.reloj + l.length := by rw [h.resto]

theorem contrato {s t : Db} {l : List Alerta} (h : Insertadas s l t) :
    t.contrato = s.contrato := by rw [h.resto]

theorem empresa {s t : Db} {l : List Alerta} (h : Insertadas s l t) :
    t.empresa = s.empresa := by rw [h.resto]

theorem unidos {s t : Db} {l : List Alerta} (h : Insertadas s l t) (f : String) :
    t.unidos f = s.unidos f := unidos_congr_tablas h.contrato h.empresa

theorem trans {s t u : Db} {l l' : List Alerta} (h : Insertadas s l t)
    (h' : Insertadas t l' u) : Insertadas s (l ++ l') u := by
  refine ⟨?_, ?_⟩
  · rw [h'.rows, h.rows, sellar_append, h.reloj, List.append_assoc]
  · rw [h'.resto, h.reloj, h.resto, List.length_append, Nat.add_assoc]

theorem keys {s t : Db} {l : List Alerta} (h : Insertadas s l t) :
    t.alerta.keys = s.alerta.keys ++ l.map Alerta.id := by
  unfold KeyTable.keys
  rw [h.rows, List.map_append, map_id_sellar]

theorem ids {s t : Db} {l : List Alerta} (h : Insertadas s l t) :
    (l.map Alerta.id).Nodup ∧ ∀ a ∈ l, a.id ∉ s.alerta.keys := by
  have hnd : t.alerta.keys.Nodup := t.alerta.nodup
  rw [h.keys] at hnd
  refine ⟨hnd.of_append_right, fun a ha hk => ?_⟩
  exact (List.nodup_append.mp hnd).2.2 _ hk _ (List.mem_map_of_mem ha) rfl

theorem free {s t : Db} {pre post : List Alerta} {a : Alerta} (h : Insertadas s pre t)
    (hnd : ((pre ++ a :: post).map Alerta.id).Nodup) (ha : a.id ∉ s.alerta.keys) :
    a.id ∉ t.alerta.keys := by
  rw [h.keys, List.mem_append, not_or]
  refine ⟨ha, fun hm => ?_⟩
  rw [List.map_append, List.map_cons] at hnd
  exact (List.nodup_append.mp hnd).2.2 _ hm _ List.mem_cons_self rfl

end Insertadas

/-- **Inserting alerts**: all of them, or those before the first one whose id is taken. -/
theorem run_insertarAlertas (l : List Alerta) (s : Db) :
    (∃ t, Prog.run (exec M) (insertarAlertas l) s = (.ok (), t) ∧ Insertadas s l t) ∨
    (∃ pre a post t, l = pre ++ a :: post ∧
      Prog.run (exec M) (insertarAlertas l) s = (.error (.primaryKey .alerta), t) ∧
      Insertadas s pre t ∧ a.id ∈ t.alerta.keys) := by
  induction l generalizing s with
  | nil => exact Or.inl ⟨s, rfl, .refl s⟩
  | cons a l ih =>
    cases ha : s.insertAlerta a with
    | error e =>
      obtain ⟨hid, rfl⟩ := insertAlerta_error ha
      refine Or.inr ⟨[], a, l, s, rfl, ?_, .refl s, hid⟩
      exact Prog.run_bind_error _ (run_ejecutar_error (d := .insertAlerta a) ha)
    | ok s' =>
      obtain ⟨hid, htab⟩ := insertAlerta_ok ha
      have h1 : Insertadas s [a] s' := by
        refine ⟨?_, ?_⟩
        · rw [htab]; rfl
        · rw [htab]; rfl
      have hrun : Prog.run (exec M) (insertarAlertas (a :: l)) s =
          Prog.run (exec M) (insertarAlertas l) s' :=
        Prog.run_bind_ok _ (run_ejecutar (d := .insertAlerta a) ha)
      rw [hrun]
      rcases ih s' with ⟨t, ht, hins⟩ | ⟨pre, b, post, t, rfl, ht, hins, hb⟩
      · exact Or.inl ⟨t, ht, h1.trans hins⟩
      · exact Or.inr ⟨a :: pre, b, post, t, rfl, ht, h1.trans hins, hb⟩

theorem run_insertarAlertas_ok {l : List Alerta} {s : Db} (hnd : (l.map Alerta.id).Nodup)
    (hfree : ∀ a ∈ l, a.id ∉ s.alerta.keys) :
    ∃ t, Prog.run (exec M) (insertarAlertas l) s = (.ok (), t) ∧ Insertadas s l t := by
  rcases run_insertarAlertas M l s with h | ⟨pre, a, post, t, rfl, -, hins, ha⟩
  · exact h
  · exact absurd ha (hins.free hnd (hfree a (List.mem_append_right _ List.mem_cons_self)))

/-! ## one slice -/

/-- the dictionary entry of a slice -/
def resultadoDe (us : List Unido) : ResultadoFuente :=
  let n1 := (p1De M P1_THRESHOLD_COUNT us).length
  let n2 := (p2De M P2_THRESHOLD_COUNT P2_THRESHOLD_MONTO us).length
  let n3 := (p3De M P3_THRESHOLD_ORGS us).length
  ⟨false, n1, n2, n3, n1 + n2 + n3⟩

/-- the body of the loop from the first query on -/
def insertarReglas (f : String) : Prg ResultadoFuente := do
  let p1 ← consulta (.p1 f P1_THRESHOLD_COUNT)
  insertarAlertas (p1.map (alertaP1 M f))
  let p2 ← consulta (.p2 f P2_THRESHOLD_COUNT P2_THRESHOLD_MONTO)
  insertarAlertas (p2.map (alertaP2 M f))
  let p3 ← consulta (.p3 f P3_THRESHOLD_ORGS)
  insertarAlertas (p3.map (alertaP3 M f))
  return ⟨false, p1.length, p2.length, p3.length, p1.length + p2.length + p3.length⟩

theorem run_detectar_eq (f : String) (s : Db) :
    Prog.run (exec M) (detectar M f) s =
      Prog.run (exec M) (insertarReglas M f) (s.deleteAlertaPatron f) := by
  have h : Prog.run (exec M) (detectar M f) s = Prog.run (exec M) (do
      let u := umbrales (s.contratosDe f).length
      ejecutar (.deleteAlertaPatron f)
      let p1 ← consulta (.p1 f u.c1)
      insertarAlertas (p1.map (alertaP1 M f))
      let p2 ← consulta (.p2 f u.c2 u.m2)
      insertarAlertas (p2.map (alertaP2 M f))
      let p3 ← consulta (.p3 f u.o3)
      insertarAlertas (p3.map (alertaP3 M f))
      return ⟨u.isTest, p1.length, p2.length, p3.length, p1.length + p2.length + p3.length⟩) s :=
    rfl
  rw [h, umbrales_eq]
  rfl

theorem run_regla {α : Type} {q : Consulta} {rows : List q.forma.fila} {s : Db}
    (hq : filas M s q = .ok rows) (hu : q.una = false) (g : q.forma.fila → Alerta)
    (k : List q.forma.fila → Prg α) :
    (∃ t, Insertadas s (rows.map g) t ∧
      Prog.run (exec M) (do
        let p ← consulta q
        insertarAlertas (p.map g)
        k p) s = Prog.run (exec M) (k rows) t) ∨
    (∃ pre a post t, rows.map g = pre ++ a :: post ∧
      Prog.run (exec M) (do
        let p ← consulta q
        insertarAlertas (p.map g)
        k p) s = (.error (.primaryKey .alerta), t) ∧ Insertadas s pre t ∧ a.id ∈ t.alerta.keys) := by
  have hleer : leer q rows = rows := by unfold leer; rw [hu]; rfl
  have hc := run_consulta hq
  rw [hleer] at hc
  simp only [Prog.bind_eq]
  rw [Prog.run_bind_ok _ hc]
  rcases run_insertarAlertas M (rows.map g) s with ⟨t, ht, hins⟩ | ⟨pre, a, post, t, he, ht, hins, ha⟩
  · exact Or.inl ⟨t, hins, Prog.run_bind_ok _ ht⟩
  · exact Or.inr ⟨pre, a, post, t, he, Prog.run_bind_error _ ht, hins, ha⟩

/-- **One slice**: the old alerts of its rules are gone, the new ones are inserted up to the first
one whose id is taken. -/
theorem run_detectar (f : String) (s : Db) :
    (∃ t, Prog.run (exec M) (detectar M f) s = (.ok (resultadoDe M (s.unidos f)), t) ∧
      Insertadas (s.deleteAlertaPatron f) (alertasReglas M f (s.unidos f)) t) ∨
    (∃ pre a post t, alertasReglas M f (s.unidos f) = pre ++ a :: post ∧
      Prog.run (exec M) (detectar M f) s = (.error (.primaryKey .alerta), t) ∧
      Insertadas (s.deleteAlertaPatron f) pre t ∧ a.id ∈ t.alerta.keys) := by
  rw [run_detectar_eq]
  let s0 := s.deleteAlertaPatron f
  let us := s.unidos f
  have hq1 : filas M s0 (.p1 f P1_THRESHOLD_COUNT) = .ok (p1De M P1_THRESHOLD_COUNT us) := rfl
  unfold insertarReglas alertasReglas alertasP1 alertasP2 alertasP3
  rcases run_regla M hq1 rfl (alertaP1 M f) (fun p1 => do
      let p2 ← consulta (.p2 f P2_THRESHOLD_COUNT P2_THRESHOLD_MONTO)
      insertarAlertas (p2.map (alertaP2 M f))
      let p3 ← consulta (.p3 f P3_THRESHOLD_ORGS)
      insertarAlertas (p3.map (alertaP3 M f))
      return (⟨false, p1.length, p2.length, p3.length, p1.length + p2.length + p3.length⟩ :
        ResultadoFuente)) with ⟨s1, h1, hr1⟩ | ⟨pre, a, post, t, he, ht, hins, ha⟩
  case inr =>
    refine Or.inr ⟨pre, a, post ++ (alertasP2 M f us ++ alertasP3 M f us), t, ?_, ht, hins, ha⟩
    rw [he, List.append_assoc, List.append_assoc]
    rfl
  rw [hr1]
  have hq2 : filas M s1 (.p2 f P2_THRESHOLD_COUNT P2_THRESHOLD_MONTO) =
      .ok (p2De M P2_THRESHOLD_COUNT P2_THRESHOLD_MONTO us) := by
    rw [filas_p2, h1.unidos]
    rfl
  rcases run_regla M hq2 rfl (alertaP2 M f) (fun p2 => do
      let p3 ← consulta (.p3 f P3_THRESHOLD_ORGS)
      insertarAlertas (p3.map (alertaP3 M f))
      return (⟨false, (p1De M P1_THRESHOLD_COUNT us).length, p2.length, p3.length,
        (p1De M P1_THRESHOLD_COUNT us).length + p2.length + p3.length⟩ : ResultadoFuente))
    with ⟨s2, h2, hr2⟩ | ⟨pre, a, post, t, he, ht, hins, ha⟩
  case inr =>
    refine Or.inr ⟨alertasP1 M f us ++ pre, a, post ++ alertasP3 M f us, t, ?_, ht,
      h1.trans hins, ha⟩
    rw [he]
    simp only [List.append_assoc]
    rfl
  rw [hr2]
  have hq3 : filas M s2 (.p3 f P3_THRESHOLD_ORGS) = .ok (p3De M P3_THRESHOLD_ORGS us) := by
    rw [filas_p3, h2.unidos, h1.unidos]
    rfl
  rcases run_regla M hq3 rfl (alertaP3 M f) (fun p3 =>
      return (⟨false, (p1De M P1_THRESHOLD_COUNT us).length,
        (p2De M P2_THRESHOLD_COUNT P2_THRESHOLD_MONTO us).length, p3.length,
        (p1De M P1_THRESHOLD_COUNT us).length +
          (p2De M P2_THRESHOLD_COUNT P2_THRESHOLD_MONTO us).length + p3.length⟩ : ResultadoFuente))
    with ⟨s3, h3, hr3⟩ | ⟨pre, a, post, t, he, ht, hins, ha⟩
  case inr =>
    refine Or.inr ⟨alertasP1 M f us ++ alertasP2 M f us ++ pre, a, post, t, ?_, ht,
      (h1.trans h2).trans hins, ha⟩
    rw [he, ← List.append_assoc]
    rfl
  exact Or.inl ⟨s3, hr3, (h1.trans h2).trans h3⟩

/-- **A detection returns exactly when the ids that it builds are different and free.** -/
theorem detectar_ok_iff (f : String) (s : Db) :
    (∃ r t, Prog.run (exec M) (detectar M f) s = (.ok r, t)) ↔
      ((alertasReglas M f (s.unidos f)).map Alerta.id).Nodup ∧
        ∀ a ∈ alertasReglas M f (s.unidos f), a.id ∉ (s.deleteAlertaPatron f).alerta.keys := by
  refine ⟨fun h => ?_, fun h => ?_⟩
  · obtain ⟨r, t, h⟩ := h
    rcases run_detectar M f s with ⟨t', -, hins⟩ | ⟨pre, a, post, t', -, h', -, -⟩
    · exact hins.ids
    · rw [h] at h'
      cases h'
  · obtain ⟨hnd, hfree⟩ := h
    rcases run_detectar M f s with ⟨t, h, -⟩ | ⟨pre, a, post, t, he, -, hins, ha⟩
    · exact ⟨_, t, h⟩
    · rw [he] at hnd hfree
      exact absurd ha (hins.free hnd (hfree a (List.mem_append_right _ List.mem_cons_self)))

/-! ## what a detection leaves alone -/

/-- only the alerts and the clock differ -/
def SoloAlertas (s t : Db) : Prop :=
  t.toTablas = { s.toTablas with alerta := t.alerta, reloj := t.reloj }

namespace SoloAlertas

theorem refl (s : Db) : SoloAlertas s s := rfl

theorem trans {s t u : Db} (h : SoloAlertas s t) (h' : SoloAlertas t u) : SoloAlertas s u := by
  unfold SoloAlertas at *
  rw [h', h]

theorem contrato {s t : Db} (h : SoloAlertas s t) : t.contrato = s.contrato := by rw [h]
theorem empresa {s t : Db} (h : SoloAlertas s t) : t.empresa = s.empresa := by rw [h]
theorem organismo {s t : Db} (h : SoloAlertas s t) : t.organismo = s.organismo := by rw [h]

theorem unidos {s t : Db} (h : SoloAlertas s t) (f : String) : t.unidos f = s.unidos f :=
  unidos_congr_tablas h.contrato h.empresa

end SoloAlertas

theorem Insertadas.soloAlertas {s t : Db} {l : List Alerta} (h : Insertadas s l t) :
    SoloAlertas s t := by
  unfold SoloAlertas
  rw [h.reloj, h.resto]

theorem run_detectar_insertadas (f : String) (s : Db) :
    ∃ l, (∀ b ∈ l, b ∈ alertasReglas M f (s.unidos f)) ∧
      Insertadas (s.deleteAlertaPatron f) l (Prog.run (exec M) (detectar M f) s).2 := by
  rcases run_detectar M f s with ⟨t, h, hins⟩ | ⟨pre, a, post, t, he, h, hins, -⟩
  · exact ⟨_, fun b hb => hb, by rw [h]; exact hins⟩
  · exact ⟨pre, fun b hb => he ▸ List.mem_append_left _ hb, by rw [h]; exact hins⟩

/-- **The rows that a slice's detection leaves**: the old ones, less its rule alerts, and alerts
of the rules. -/
theorem detectar_filas (f : String) (s : Db) :
    SoloAlertas s (Prog.run (exec M) (detectar M f) s).2 ∧
      ∀ a ∈ (Prog.run (exec M) (detectar M f) s).2.alerta.rows,
        (a ∈ s.alerta.rows ∧ ¬ (a.fuente = some f ∧ a.patron ≠ none)) ∨
          ∃ b ∈ alertasReglas M f (s.unidos f), ∃ n, a = b.stamp n := by
  obtain ⟨l, hl, hins⟩ := run_detectar_insertadas M f s
  refine ⟨SoloAlertas.trans (t := s.deleteAlertaPatron f) rfl hins.soloAlertas, ?_⟩
  intro a ha
  rw [hins.rows] at ha
  rcases List.mem_append.mp ha with ha | ha
  · obtain ⟨h1, h2⟩ := List.mem_filter.mp ha
    exact Or.inl ⟨h1, of_decide_eq_true h2⟩
  · obtain ⟨b, hb, n, hn⟩ := mem_sellar ha
    exact Or.inr ⟨b, hl b hb, n, hn⟩

theorem detectar_reglas {f : String} {s t : Db} {r : ResultadoFuente}
    (h : Prog.run (exec M) (detectar M f) s = (.ok r, t)) :
    (t.alerta.rows.filter fun a => decide (a.fuente = some f ∧ a.patron ≠ none)) =
      sellar s.reloj (alertasReglas M f (s.unidos f)) := by
  rcases run_detectar M f s with ⟨t', h', hins⟩ | ⟨pre, a, post, t', -, h', -, -⟩
  case inr =>
    rw [h] at h'
    cases h'
  rw [h] at h'
  cases h'
  rw [hins.rows, List.filter_append]
  have hold : (s.deleteAlertaPatron f).alerta.rows.filter
      (fun a => decide (a.fuente = some f ∧ a.patron ≠ none)) = [] := by
    rw [List.filter_eq_nil_iff]
    intro a ha
    have h2 := of_decide_eq_true (List.mem_filter.mp ha).2
    exact fun h3 => h2 (of_decide_eq_true h3)
  have hnew : (sellar s.reloj (alertasReglas M f (s.unidos f))).filter
      (fun a => decide (a.fuente = some f ∧ a.patron ≠ none)) =
      sellar s.reloj (alertasReglas M f (s.unidos f)) := by
    rw [List.filter_eq_self]
    intro a ha
    obtain ⟨b, hb, n, rfl⟩ := mem_sellar ha
    obtain ⟨h1, h2, -⟩ := alertasReglas_fuente hb
    exact decide_eq_true ⟨h1, h2⟩
  rw [hold, List.nil_append]
  exact hnew

/-! ## several slices -/

/-- **Invariant of the loop over the slices.** -/
theorem run_detectarTodas_keeps {I : Db → Prop} {fs : List String}
    (h : ∀ f ∈ fs, ∀ s, I s → I (Prog.run (exec M) (detectar M f) s).2) {s : Db}
    (hs : I s) : I (Prog.run (exec M) (detectarTodas M fs) s).2 := by
  induction fs generalizing s with
  | nil => exact hs
  | cons f fs ih =>
    have hf := h f List.mem_cons_self s hs
    unfold detectarTodas
    simp only [Prog.bind_eq]
    cases hr : Prog.run (exec M) (detectar M f) s with
    | mk res t =>
      rw [hr] at hf
      cases res with
      | error e =>
        rw [Prog.run_bind_error _ hr]
        exact hf
      | ok r =>
        rw [Prog.run_bind_ok _ hr, Prog.run_bind]
        have ht := ih (fun g hg => h g (List.mem_cons_of_mem _ hg)) hf
        cases hrs : Prog.run (exec M) (detectarTodas M fs) t with
        | mk res' u =>
          rw [hrs] at ht
          cases res' with
          | error e => exact ht
          | ok rs => exact ht

theorem run_runDetection_none (s : Db) : ∃ fs, filas M s .fuentes = .ok fs ∧
    Prog.run (exec M) (runDetection M none) s = Prog.run (exec M) (detectarTodas M fs) s :=
  ⟨_, rfl, Prog.run_bind_ok _ (run_consulta (q := .fuentes) rfl)⟩

theorem run_runDetection_keeps {I : Db → Prop}
    (h : ∀ f s, I s → I (Prog.run (exec M) (detectar M f) s).2) (o : Option String) {s : Db}
    (hs : I s) : I (Prog.run (exec M) (runDetection M o) s).2 := by
  cases o with
  | some f => exact run_detectarTodas_keeps M (fun g _ => h g) hs
  | none => exact run_detectarTodas_keeps M (fun g _ => h g) hs

theorem detectarTodas_soloAlertas (fs : List String) (s : Db) :
    SoloAlertas s (Prog.run (exec M) (detectarTodas M fs) s).2 :=
  run_detectarTodas_keeps M (fun f _ _ h => h.trans (detectar_filas M f _).1) (.refl s)

theorem runDetection_soloAlertas (o : Option String) (s : Db) :
    SoloAlertas s (Prog.run (exec M) (runDetection M o) s).2 :=
  run_runDetection_keeps M (fun f _ h => h.trans (detectar_filas M f _).1) o (.refl s)

theorem runDetection_some_ok {f : String} {s t : Db} {l : List (String × ResultadoFuente)} :
    Prog.run (exec M) (runDetection M (some f)) s = (.ok l, t) ↔
      ∃ r, l = [(f, r)] ∧ Prog.run (exec M) (detectar M f) s = (.ok r, t) := by
  show Prog.run (exec M) ((detectar M f).bind fun r => .ret [(f, r)]) s = (.ok l, t) ↔ _
  rw [Prog.run_bind]
  cases hr : Prog.run (exec M) (detectar M f) s with
  | mk res u =>
    cases res with
    | error e =>
      refine ⟨fun h => ?_, fun h => ?_⟩
      · cases h
      · obtain ⟨r, -, h⟩ := h
        cases h
    | ok r =>
      refine ⟨fun h => ?_, fun h => ?_⟩
      · cases h
        exact ⟨r, rfl, rfl⟩
      · obtain ⟨r', rfl, h⟩ := h
        cases h
        rfl

end

end Fractura
