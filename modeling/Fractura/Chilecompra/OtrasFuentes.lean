import Fractura.Invariante

/-!
# A load and the slices it does not load

* `carga_no_cambia_otra`   whatever a load does, returning or raising, the detection queries of
                           another slice, its alerts, its contracts and their parents are the same;
* `carga_fallida`          what is left when a load raises: before its first `DELETE` nothing has
                           changed; later the slice has lost its contracts and alerts, and nothing
                           else is different in the other slices.

The load is not one transaction: `carga_no_atomica` loses the old contracts of a slice.
-/

namespace Fractura

open Db

section
variable {M : Motor} {s t : Db}

/-! ## another slice -/

/-- what `run_detection(g)` reads and what it has written is the same in both stores -/
structure Intacta (M : Motor) (s t : Db) (g : String) : Prop where
  p1 : filas M t (.p1 g (umbrales (t.contratosDe g).length).c1) =
    filas M s (.p1 g (umbrales (s.contratosDe g).length).c1)
  p2 : filas M t (.p2 g (umbrales (t.contratosDe g).length).c2
      (umbrales (t.contratosDe g).length).m2) =
    filas M s (.p2 g (umbrales (s.contratosDe g).length).c2
      (umbrales (s.contratosDe g).length).m2)
  p3 : filas M t (.p3 g (umbrales (t.contratosDe g).length).o3) =
    filas M s (.p3 g (umbrales (s.contratosDe g).length).o3)
  alertas : (t.alerta.rows.filter fun a => decide (a.fuente = some g)) =
    s.alerta.rows.filter fun a => decide (a.fuente = some g)
  contratos : t.contratosDe g = s.contratosDe g
  organismos : ∀ c ∈ s.contratosDe g, ∀ k, c.organismoId = some k →
    t.organismo.find k = s.organismo.find k
  empresas : ∀ c ∈ s.contratosDe g, ∀ k, c.proveedorId = some k →
    t.empresa.find k = s.empresa.find k

theorem Ajeno.intacta {f g : String} (h : Ajeno f s t) (hgf : g ≠ f) : Intacta M s t g := by
  have hc := h.contratosDe hgf
  have hu := h.unidos hgf
  have hne : ∀ c ∈ s.contratosDe g, c ∈ s.contrato.rows ∧ c.fuente ≠ some f := by
    intro c hc
    obtain ⟨hm, hf⟩ := mem_contratosDe.mp hc
    exact ⟨hm, by rw [hf]; exact fun e => hgf (Option.some.inj e)⟩
  refine ⟨?_, ?_, ?_, h.alertasDe hgf, hc, ?_, ?_⟩
  · rw [filas_p1, filas_p1, hc, hu]
  · rw [filas_p2, filas_p2, hc, hu]
  · rw [filas_p3, filas_p3, hc, hu]
  · intro c hcm k hk
    exact h.refOrg c (hne c hcm).1 (hne c hcm).2 k hk
  · intro c hcm k hk
    exact h.refEmp c (hne c hcm).1 (hne c hcm).2 k hk

/-- **A load never changes what was detected for another slice**, at whatever statement it ends. -/
theorem carga_no_cambia_otra (year month limit : Int) (a : Archivo) (s : Db) {g : String}
    (hg : g ≠ fuenteDe year month) :
    Intacta M s (Prog.run (exec M) (loadChilecompraSlice M year month limit a) s).2 g :=
  (load_ajeno M year month limit a s).intacta hg

/-- one order of the same supplier, in another month -/
def compraCompartida : List FilaCsv := [.orden "9-OC" "5.000.000" "2024-06-01" "62-K" "76-K" "" "Acme SpA"]

/-- the second slice loses the supplier to the first one and nothing of the first one changes -/
theorem carga_no_cambia_otra_compartida :
    (∃ a ∈ tiendaRecurrente.alerta.rows, a.fuente = some "chilecompra_oc_2024-05") ∧
    Intacta motorConcreto tiendaRecurrente
      (trasCarga 2024 6 compraCompartida tiendaRecurrente) "chilecompra_oc_2024-05" :=
  ⟨by decide +kernel, carga_no_cambia_otra 2024 6 0 (.csv compraCompartida) tiendaRecurrente
    (by decide +kernel)⟩

/-! ## a load that raises -/

/-- the slice has lost its contracts and its alerts; every row of another slice is as before -/
structure SliceVaciada (s t : Db) (f : String) : Prop where
  contratos : ∀ c ∈ t.contrato.rows, c.fuente ≠ some f
  alertas : ∀ a ∈ t.alerta.rows, a.fuente ≠ some f
  otrosContratos : otros Contrato.fuente f t.contrato.rows = otros Contrato.fuente f s.contrato.rows
  otrasAlertas : otros Alerta.fuente f t.alerta.rows = otros Alerta.fuente f s.alerta.rows
  otrasEmpresas : otros Empresa.fuente f t.empresa.rows = otros Empresa.fuente f s.empresa.rows
  otrosOrganismos :
    otros Organismo.fuente f t.organismo.rows = otros Organismo.fuente f s.organismo.rows

theorem guardado_error {f : String} {fr : Frames} {e : Error} {tab : Tablas}
    (h : Guardado f fr s (.error e) tab) :
    tab.contrato = s.contrato.filter (fun c => decide (c.fuente ≠ some f)) ∧
    tab.alerta = s.alerta.filter (fun a => decide (a.fuente ≠ some f)) ∧
    (e = .foreignKey .empresa → tab.empresa = s.empresa ∧ tab.organismo = s.organismo) ∧
    (e = .foreignKey .organismo → tab.organismo = s.organismo) ∧
    (e = .foreignKey .empresa ∨ e = .foreignKey .organismo ∨ e = .emptyBatch) := by
  cases h with
  | empresaCompartida => exact ⟨rfl, rfl, fun _ => ⟨rfl, rfl⟩, fun h => (nomatch h), .inl rfl⟩
  | organismoCompartido =>
    exact ⟨rfl, rfl, fun h => (nomatch h), fun _ => rfl, .inr (.inl rfl)⟩
  | sinOrganismos =>
    exact ⟨rfl, rfl, fun h => (nomatch h), fun h => (nomatch h), .inr (.inr rfl)⟩
  | sinEmpresas => exact ⟨rfl, rfl, fun h => (nomatch h), fun h => (nomatch h), .inr (.inr rfl)⟩
  | sinContratos => exact ⟨rfl, rfl, fun h => (nomatch h), fun h => (nomatch h), .inr (.inr rfl)⟩

/-- **A load that raises**: while it reads the file, nothing has changed; afterwards the slice is
without contracts and alerts, the other slices have all their rows, and a `DELETE` that raised
left its own table and the later ones as they were. -/
theorem carga_fallida {year month limit : Int} {a : Archivo} {e : Error}
    (h : Prog.run (exec M) (loadChilecompraSlice M year month limit a) s = (.error e, t)) :
    (t = s ∧ (e = .readError ∨ e = .conversion)) ∨
    (SliceVaciada s t (fuenteDe year month) ∧
      (e = .foreignKey .empresa → t.empresa = s.empresa ∧ t.organismo = s.organismo) ∧
      (e = .foreignKey .organismo → t.organismo = s.organismo) ∧
      (e = .foreignKey .empresa ∨ e = .foreignKey .organismo ∨ e = .emptyBatch)) := by
  have haj := load_ajeno M year month limit a s
  rw [h] at haj
  cases a with
  | ausente => cases h
  | ilegible =>
    cases h
    exact Or.inl ⟨rfl, Or.inl rfl⟩
  | csv csv =>
    unfold loadChilecompraSlice at h
    dsimp only at h
    cases hfr : frames M (fuenteDe year month) csv limit with
    | error e' =>
      rw [hfr] at h
      cases h
      refine Or.inl ⟨rfl, Or.inr ?_⟩
      exact frames_error hfr
    | ok fr =>
      rw [hfr] at h
      have hg := run_guardar (M := M) (frames_wf hfr) s
      simp only [Prog.bind_eq, Prog.run_bind] at h
      cases hr : Prog.run (exec M) (guardar (fuenteDe year month) fr) s with
      | mk res u =>
        rw [hr] at hg h
        cases res with
        | ok c => cases h
        | error e' =>
          cases h
          obtain ⟨h1, h2, h3, h4, h5⟩ := guardado_error hg
          refine Or.inr ⟨⟨?_, ?_, haj.contrato, haj.alerta, haj.empresa, haj.organismo⟩, h3, h4, h5⟩
          · intro c hc
            rw [h1] at hc
            exact of_decide_eq_true (List.mem_filter.mp hc).2
          · intro b hb
            rw [h2] at hb
            exact of_decide_eq_true (List.mem_filter.mp hb).2

/-- The reload of a slice with a file without rows raises at the first batch: the contracts, the
suppliers and the alerts that were stored are gone. -/
theorem carga_no_atomica :
    Alcanzable motorConcreto tiendaRecurrente ∧
    (Prog.run (exec motorConcreto) (loadChilecompraSlice motorConcreto 2024 5 0 (.csv []))
      tiendaRecurrente).1 = .error .emptyBatch ∧
    tiendaRecurrente.contrato.rows.length = 4 ∧
    (trasCarga 2024 5 [] tiendaRecurrente).contrato.rows = [] ∧
    (trasCarga 2024 5 [] tiendaRecurrente).alerta.rows ≠ tiendaRecurrente.alerta.rows :=
  ⟨tiendaRecurrente_alcanzable,
    by decide +kernel, by decide +kernel, by decide +kernel, by decide +kernel⟩

theorem carga_fallida_vacia :
    SliceVaciada tiendaRecurrente (trasCarga 2024 5 [] tiendaRecurrente)
      "chilecompra_oc_2024-05" := by
  have h : Prog.run (exec motorConcreto)
      (loadChilecompraSlice motorConcreto 2024 5 0 (.csv [])) tiendaRecurrente =
      (.error .emptyBatch, trasCarga 2024 5 [] tiendaRecurrente) :=
    Prod.ext (by decide +kernel) rfl
  rcases carga_fallida h with ⟨-, he | he⟩ | ⟨hv, -⟩
  · cases he
  · cases he
  · exact hv

end

end Fractura
