import Fractura.Caidas.Vida

/-!
# A detection that dies

In a life with crashes an id of the rules of a slice is carried by rule alerts of that slice only, the
ones that a crash left behind included (`InvCaida.de_idRegla`).  So a detection returns exactly when the
ids that it builds in each slice are different (`InvCaida.detectarTodas_ok_iff`), whatever alerts
there are.

`deteccion_tras_caida`: a detection that died at any statement, run again, ends as if it had never
died, up to the moments of its alerts.
-/

namespace Fractura

open Db Prog

section
variable {M : Motor} {s t : Db}

theorem InvCaida.de_idRegla (hs : InvCaida M s) {b : Alerta} (hb : b ∈ s.alerta.rows) {y m : Int}
    (h : EsIdRegla (fuenteDe y m) b.id) : b.fuente = some (fuenteDe y m) ∧ b.patron ≠ none := by
  obtain ⟨x, hx⟩ := h
  by_cases hp : b.patron = none
  · obtain ⟨z, hz⟩ := hs.caso b hb hp
    have hl := congrArg (fun t => (String.toList t)[0]?) (hz.symm.trans hx)
    simp at hl
  · obtain ⟨y', m', hf, z, hz⟩ := hs.ids b hb hp
    rw [hf, show fuenteDe y' m' = fuenteDe y m from slice_inj (hz.symm.trans hx)]
    exact ⟨rfl, hp⟩

/-- the ids that the rules build for a slice -/
def idsReglas (M : Motor) (s : Db) (f : String) : List String :=
  (alertasReglas M f (s.unidos f)).map Alerta.id

theorem InvCaida.detectar_ok_iff (hs : InvCaida M s) (f : String) :
    (∃ r t, Prog.run (exec M) (Fractura.detectar M f) s = (.ok r, t)) ↔ (idsReglas M s f).Nodup := by
  rw [Fractura.detectar_ok_iff]
  refine ⟨fun h => h.1, fun h => ⟨h, fun a ha hk => ?_⟩⟩
  obtain ⟨b, hb, hid⟩ := KeyTable.mem_keys.mp hk
  obtain ⟨hmem, hkeep⟩ := List.mem_filter.mp hb
  obtain ⟨y, m, rfl⟩ := slice_of_regla hs.toInvTablas ha
  exact of_decide_eq_true hkeep (hs.de_idRegla hmem (hid ▸ idRegla ha))

theorem InvCaida.detectarUna (hs : InvCaida M s) (f : String) :
    InvCaida M (Prog.run (exec M) (Fractura.detectar M f) s).2 := by
  obtain ⟨n, hn⟩ := exists_cut_run (exec M) (Fractura.detectar M f) s
  rw [← hn]
  have hf : f ∈ [f] := List.mem_cons_self
  exact hs.buscada ((keeps_detectar hf s).cut n (.refl _ s))

/-- what a loop over slices returns -/
def resultados (M : Motor) (s : Db) (fs : List String) : List (String × ResultadoFuente) :=
  fs.map fun f => (f, resultadoDe M (s.unidos f))

/-- **A loop over slices returns exactly when in each slice the ids are different**, and then its
result depends on the joined rows alone. -/
theorem InvCaida.detectarTodas_ok_iff (hs : InvCaida M s) (fs : List String)
    (l : List (String × ResultadoFuente)) :
    (∃ t, Prog.run (exec M) (detectarTodas M fs) s = (.ok l, t)) ↔
      l = resultados M s fs ∧ ∀ f ∈ fs, (idsReglas M s f).Nodup := by
  induction fs generalizing s l with
  | nil =>
    refine ⟨fun ⟨t, h⟩ => ?_, fun ⟨hl, _⟩ => ⟨s, by rw [hl]; rfl⟩⟩
    cases h
    exact ⟨rfl, fun f hf => absurd hf List.not_mem_nil⟩
  | cons f fs ih =>
    have hhead := hs.detectar_ok_iff f
    have hnext := hs.detectarUna f
    rw [List.forall_mem_cons, ← hhead]
    rcases run_detectar M f s with ⟨t, ht, hins⟩ | ⟨pre, a, post, t, -, ht, -, -⟩
    · rw [ht] at hnext
      have htail (rs : List (String × ResultadoFuente)) :
          (∃ u, Prog.run (exec M) (detectarTodas M fs) t = (.ok rs, u)) ↔
            rs = resultados M s fs ∧ ∀ g ∈ fs, (idsReglas M s g).Nodup := by
        rw [ih hnext]
        unfold resultados idsReglas
        simp only [hins.unidos]
        rfl
      have hbind : Prog.run (exec M) (detectarTodas M (f :: fs)) s =
          Prog.run (exec M) ((detectarTodas M fs).bind fun rs =>
            .ret ((f, resultadoDe M (s.unidos f)) :: rs)) t := Prog.run_bind_ok _ ht
      rw [hbind]
      constructor
      · rintro ⟨u, hu⟩
        obtain ⟨rs, v, hv, hret⟩ := Prog.run_bind_inv _ hu
        cases hret
        obtain ⟨rfl, hnd⟩ := (htail rs).mp ⟨u, hv⟩
        exact ⟨rfl, ⟨_, t, ht⟩, hnd⟩
      · rintro ⟨rfl, -, hnd⟩
        obtain ⟨u, hu⟩ := (htail _).mpr ⟨rfl, hnd⟩
        exact ⟨u, Prog.run_bind_ok _ hu⟩
    · have hbind : Prog.run (exec M) (detectarTodas M (f :: fs)) s =
          (.error (.primaryKey .alerta), t) := Prog.run_bind_error _ ht
      rw [hbind]
      constructor
      · rintro ⟨u, hu⟩
        cases hu
      · rintro ⟨-, ⟨r, u, hu⟩, -⟩
        rw [ht] at hu
        cases hu

theorem Buscada.mem_sinHoras {fs : List String} (h : Buscada M fs s t) {b : Alerta}
    (hb : ¬ DeLista fs b) : b ∈ t.sinHoras ↔ b ∈ s.sinHoras := by
  rw [Fractura.mem_sinHoras, Fractura.mem_sinHoras]
  constructor
  · rintro ⟨a, ha, rfl⟩
    rcases h.filas a ha with ha | ⟨f, hf, c, hc, n, rfl⟩
    · exact ⟨a, ha, rfl⟩
    · obtain ⟨hcf, hcp, -⟩ := alertasReglas_fuente hc
      exact absurd ⟨hcp, f, hf, hcf⟩ hb
  · rintro ⟨a, ha, rfl⟩
    exact ⟨a, h.resto a ha hb, rfl⟩

/-- **A detection that died at any statement, run again, ends as if it had never died**: it returns
exactly when it would have returned, with the same result, and leaves the same alerts up to their
moments.  So it is at every store of a life with crashes. -/
theorem deteccion_tras_caida {d : Db} (h : Vida M s d) (o : Option String) (n : Nat) :
    (∀ l, (∃ u, Prog.run (exec M) (runDetection M o) (cut (exec M) n (runDetection M o) s) =
        (.ok l, u)) ↔ ∃ t, Prog.run (exec M) (runDetection M o) s = (.ok l, t)) ∧
    ∀ l l' t u, Prog.run (exec M) (runDetection M o) s = (.ok l, t) →
      Prog.run (exec M) (runDetection M o) (cut (exec M) n (runDetection M o) s) = (.ok l', u) →
      MismasFilas t.sinHoras u.sinHoras := by
  have hs := h.inv.1
  have hb := (keeps_runDetection (M := M) s o).cut n (.refl _ s)
  have hv : InvCaida M (cut (exec M) n (runDetection M o) s) := hs.buscada hb
  generalize cut (exec M) n (runDetection M o) s = v at hb hv
  have hfs := fuentesDe_congr (M := M) hb.solo.contrato o
  have hun (f : String) : v.unidos f = s.unidos f := hb.solo.unidos f
  rw [run_runDetection, run_runDetection, hfs]
  constructor
  · intro l
    rw [hv.detectarTodas_ok_iff, hs.detectarTodas_ok_iff]
    unfold resultados idsReglas
    simp only [hun]
  · intro l l' t u ht hu
    rw [mismasFilas_sinHoras]
    intro b
    rw [detectarTodas_alertas_iff ht, detectarTodas_alertas_iff hu]
    simp only [hun]
    refine or_congr_left (and_congr_left fun hd => ?_)
    exact (hb.mem_sinHoras hd).symm

end

/-- a search that died when the old alerts of its slice were gone -/
theorem deteccion_tras_caida_recurrente :
    (cut (exec motorConcreto) 3 (runDetection motorConcreto none) tiendaRecurrente).alerta.rows =
      [] ∧
    ∃ l u, Prog.run (exec motorConcreto) (runDetection motorConcreto none)
      (cut (exec motorConcreto) 3 (runDetection motorConcreto none) tiendaRecurrente) = (.ok l, u) := by
  refine ⟨by decide +kernel, ?_⟩
  obtain ⟨r, hr⟩ : ∃ r, (Prog.run (exec motorConcreto) (runDetection motorConcreto none)
      tiendaRecurrente).1 = .ok r := by
    cases h : (Prog.run (exec motorConcreto) (runDetection motorConcreto none)
      tiendaRecurrente).1 with
    | ok r => exact ⟨r, rfl⟩
    | error e =>
      have hne : (Prog.run (exec motorConcreto) (runDetection motorConcreto none)
        tiendaRecurrente).1.toBool = true := by decide +kernel
      rw [h] at hne
      cases hne
  exact ⟨r, ((deteccion_tras_caida tiendaRecurrente_vida none 3).1 r).mpr ⟨_, Prod.ext hr rfl⟩⟩

end Fractura
