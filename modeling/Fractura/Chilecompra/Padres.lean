import Fractura.Chilecompra.Guardar

/-!
# The parents of the contracts

The keys of `con_df` are trimmed by SQL; those of the parent frames are stripped by pandas as well.

* `padres_iff`         so a row of `con_df` has its parents in the frames when `strip` leaves its two keys
                       alone (`FilaCsv.Limpia`), and the filter drops the others;
* `padres_guardados`   whenever a load inserts a contract, the parents of all rows that the filter left are
                       stored.
-/

namespace Fractura

open Db

/-! ## the frames -/

/-- `strip` leaves the two keys of the row as they are -/
def FilaCsv.Limpia (r : FilaCsv) : Prop :=
  r.organismo.map strip = r.organismo ∧ r.proveedor.map strip = r.proveedor

instance (r : FilaCsv) : Decidable r.Limpia := by unfold FilaCsv.Limpia; infer_instance

/-- the frames have the parents of every row of `con_df`, and the filter drops none -/
structure Completos (fr : Frames) (con : List FilaCon) : Prop where
  org : ∀ c ∈ con, c.organismoId ∈ fr.org.map FilaOrg.rut
  emp : ∀ c ∈ con, c.proveedorId ∈ fr.emp.map FilaEmp.id
  con : fr.con = con
  descartados : fr.warnDescartados = 0

theorem strip_strip (s : String) : strip (strip s) = strip s :=
  Text.trimBy_of_trimmed (Text.exists_trimBy isSpace s).1

theorem map_strip_strip (k : Option String) : (k.map strip).map strip = k.map strip := by
  cases k with
  | none => rfl
  | some s => exact congrArg some (strip_strip s)

section
variable {M : Motor} {csv : List FilaCsv} {limit : Int} {r : FilaCsv}

theorem admitida_iff (hr : r ∈ csv) (hv : r.valida = true) : r.Admitida csv ↔ r.Limpia := by
  refine ⟨fun h => ?_, fun h => ?_⟩
  · obtain ⟨⟨x, -, -, hx⟩, y, -, -, hy⟩ := h
    exact ⟨by rw [← hx, map_strip_strip], by rw [← hy, map_strip_strip]⟩
  · exact ⟨⟨r, hr, FilaCsv.valida_organismo hv, h.1⟩, r, hr, FilaCsv.valida_proveedor hv, h.2⟩

/-- **When no contract is dropped for want of its own parents.** -/
theorem padres_iff {fuente : String} {con : List FilaCon} (h : conDf M fuente csv limit = .ok con) :
    (∃ fr, frames M fuente csv limit = .ok fr ∧ Completos fr con) ↔
      ∀ r ∈ conFilas M csv limit, r.Limpia := by
  obtain ⟨fr, hfr⟩ := frames_isOk.mpr (conDf_isOk.mp ⟨con, h⟩)
  obtain ⟨con', hcon', -, -, hfil, hwarn⟩ := frames_eq hfr
  obtain rfl : con = con' := Except.ok.inj (h.symm.trans hcon')
  have hcon := conDf_ok h
  have hpad (r : FilaCsv) (hr : r ∈ conFilas M csv limit) :
      conPadres fr.org fr.emp (filaCon M fuente r) = true ↔ r.Limpia := by
    obtain ⟨h1, h2⟩ := mem_conFilas hr
    rw [conPadres_filaCon hfr, decide_eq_true_eq, admitida_iff h1 h2]
  have htodos : (∀ c ∈ con, conPadres fr.org fr.emp c = true) ↔
      ∀ r ∈ conFilas M csv limit, r.Limpia := by
    rw [hcon, List.forall_mem_map]
    exact forall₂_congr hpad
  rw [← htodos]
  refine ⟨fun h => ?_, fun h => ⟨fr, hfr, ?_⟩⟩
  · obtain ⟨fr', hfr', hc⟩ := h
    obtain rfl : fr = fr' := Except.ok.inj (hfr.symm.trans hfr')
    exact fun c hm => Bool.and_eq_true_iff.mpr
      ⟨decide_eq_true (hc.org c hm), decide_eq_true (hc.emp c hm)⟩
  · have hself : fr.con = con := hfil.trans (List.filter_eq_self.mpr h)
    refine ⟨fun c hm => ?_, fun c hm => ?_, hself, ?_⟩
    · exact of_decide_eq_true (Bool.and_eq_true_iff.mp (h c hm)).1
    · exact of_decide_eq_true (Bool.and_eq_true_iff.mp (h c hm)).2
    · rw [hwarn, hself, Nat.sub_self]

end

/-- a file of two orders, by the organism key of the second one -/
def comprasCon (organismo : String) : List FilaCsv :=
  [.orden "1-OC" "1.000.000" "2024-05-01" "61-K" "76-K" "" "Acme",
    .orden "2-OC" "1.000.000" "2024-05-01" organismo "76-K" "" "Acme"]

theorem padres_completos : ∃ con fr,
    conDf motorConcreto "chilecompra_oc_2024-05" (comprasCon " 62 ") 0 = .ok con ∧
      frames motorConcreto "chilecompra_oc_2024-05" (comprasCon " 62 ") 0 = .ok fr ∧
      Completos fr con := by
  obtain ⟨con, h⟩ : ∃ con,
      conDf motorConcreto "chilecompra_oc_2024-05" (comprasCon " 62 ") 0 = .ok con :=
    conDf_isOk.mpr (by decide +kernel)
  obtain ⟨fr, hfr, hc⟩ := (padres_iff h).mpr (by decide +kernel)
  exact ⟨con, fr, h, hfr, hc⟩

/-- a tab after the key of the second order: its organism is stored without it, and the order is
dropped -/
theorem padre_con_tabulador :
    (conDf motorConcreto "chilecompra_oc_2024-05" (comprasCon "62-K\t") 0).map
        (fun con => con.map FilaCon.organismoId) = .ok [some "61-K", some "62-K\t"] ∧
      (frames motorConcreto "chilecompra_oc_2024-05" (comprasCon "62-K\t") 0).map
        (fun fr => (fr.org.map FilaOrg.rut, fr.con.map FilaCon.id, fr.warnDescartados)) =
        .ok ([some "61-K", some "62-K"], [some "cc_1-OC"], 1) := by
  decide +kernel

/-! ## the store when the contracts are inserted -/

section
variable {M : Motor} {f : String} {fr : Frames}

theorem organismos_guardados (hw : fr.Wf f) {s t : Db}
    (h : Prog.run (exec M) (executemany fr.org .insertOrganismo) s = (.ok (), t)) :
    t.toTablas = s.conOrganismos fr.org := by
  obtain ⟨u, hu, htab⟩ := run_organismos (M := M) (ne_nil_of_executemany h)
    (fun o ho => ⟨(hw.org o ho).1, (hw.org o ho).2.1⟩) s
  rw [h] at hu
  cases hu
  exact htab

theorem empresas_guardadas (hw : fr.Wf f) {s t : Db}
    (h : Prog.run (exec M) (executemany fr.emp .insertEmpresa) s = (.ok (), t)) :
    t.toTablas = s.conEmpresas fr.emp := by
  obtain ⟨u, hu, htab⟩ := run_empresas (M := M) (ne_nil_of_executemany h) (fun e he => by
    obtain ⟨⟨k, hk, -⟩, hn, -⟩ := hw.emp e he
    exact ⟨⟨k, hk⟩, hn⟩) s
  rw [h] at hu
  cases hu
  exact htab

/-- both parents of the contract are stored, whatever slice they are of -/
def ConPadres (t : Db) (c : FilaCon) : Prop :=
  (∃ k ∈ t.organismo.keys, c.organismoId = some k) ∧ ∃ k ∈ t.empresa.keys, c.proveedorId = some k

/-- the statement is not the insert of a contract -/
def NoContrato (q : Sentencia) : Prop := ∀ c, q ≠ .dml (.insertContrato c)

theorem padres_del_lote {con : List FilaCon} {s t : Db} {c : FilaCon}
    (hx : (Sentencia.dml (.insertContrato c), t) ∈
      Prog.trace (exec M) (executemany con .insertContrato) s) :
    c ∈ con ∧ t.organismo = s.organismo ∧ t.empresa = s.empresa := by
  obtain ⟨⟨c', hc', he⟩, ho, hp⟩ := Prog.trace_keeps (exec M)
    (P := fun q => ∃ c ∈ con, q = .dml (.insertContrato c))
    (I := fun u : Db => u.organismo = s.organismo ∧ u.empresa = s.empresa)
    (fun q u r v hq hu hv => by
      obtain ⟨c, -, rfl⟩ := hq
      obtain ⟨-, htab⟩ := insertContrato_ok (exec_dml_ok hv)
      rw [htab]
      exact hu)
    (executemany_all fun c hc => ⟨c, hc, rfl⟩) ⟨rfl, rfl⟩ hx
  cases he
  exact ⟨hc', ho, hp⟩

/-- **When a contract is inserted**, all contracts of the frames have their parents. -/
theorem guardar_padres (hw : fr.Wf f) {s t : Db} {c : FilaCon}
    (hx : (Sentencia.dml (.insertContrato c), t) ∈ Prog.trace (exec M) (guardar f fr) s) :
    c ∈ fr.con ∧ ∀ x ∈ fr.con, ConPadres t x := by
  have salta {α β : Type} {p : Prg α} {k : α → Prg β} {s : Db} (hp : p.All NoContrato)
      (hx : (Sentencia.dml (.insertContrato c), t) ∈ Prog.trace (exec M) (p.bind k) s) :
      ∃ a u, Prog.run (exec M) p s = (.ok a, u) ∧
        (Sentencia.dml (.insertContrato c), t) ∈ Prog.trace (exec M) (k a) u :=
    Prog.trace_after _ hp hx fun h => h c rfl
  obtain ⟨-, s1, -, hx⟩ := salta (ejecutar_all fun c h => by cases h) hx
  obtain ⟨-, s2, -, hx⟩ := salta (ejecutar_all fun c h => by cases h) hx
  obtain ⟨-, s3, -, hx⟩ := salta (ejecutar_all fun c h => by cases h) hx
  obtain ⟨-, s4, -, hx⟩ := salta (ejecutar_all fun c h => by cases h) hx
  obtain ⟨_, s5, h5, hx⟩ := salta (executemany_all fun o _ c h => by cases h) hx
  obtain ⟨_, s6, h6, hx⟩ := salta (executemany_all fun e _ c h => by cases h) hx
  have h5 := organismos_guardados hw h5
  have h6 := empresas_guardadas hw h6
  have horg : s6.organismo = s4.organismo.insertAll (fr.org.map FilaOrg.toOrganismo) := by
    rw [h6, h5]
    rfl
  have hemp : s6.empresa = s4.empresa.insertAll (fr.emp.map FilaEmp.toEmpresa) := by
    rw [h6, h5]
    rfl
  have hpadres : ∀ x ∈ fr.con, ConPadres s6 x := by
    intro x hx
    obtain ⟨-, -, ⟨k, hk, -⟩, k', hk', -⟩ := hw.con x hx
    obtain ⟨ho, he⟩ := hw.parents horg hemp hx
    exact ⟨⟨k, ho k hk, hk⟩, k', he k' hk', hk'⟩
  rcases (Prog.mem_trace_bind _).mp hx with hx | ⟨-, s7, -, hx⟩
  · obtain ⟨hmem, ho, he⟩ := padres_del_lote hx
    refine ⟨hmem, fun x hx => ?_⟩
    unfold ConPadres
    rw [ho, he]
    exact hpadres x hx
  · -- what follows only counts
    have hcuenta := (Prog.trace_keeps (exec M) (P := NoContrato) (I := fun _ => True)
      (fun _ _ _ _ _ _ _ => trivial) (cuentas_all (fun q _ c h => by cases h)
        fun a b c => ⟨a, b, c, fr.warnDescartados, f⟩) trivial hx).1
    exact absurd rfl (hcuenta c)

/-- no column that cannot be NULL gets one, whatever the store -/
def SinNulos (q : Sentencia) : Prop := ∀ d, q = .dml d → ∀ t tab, d.exec t ≠ .error (.notNull tab)

theorem guardar_sinNulos (hw : fr.Wf f) : (guardar f fr).All SinNulos := by
  refine guardar_all (fun q _ d h => by cases h) ?_ ?_ ?_ ?_ ?_ ?_ ?_
  · rintro d ⟨⟩ t tab h
    cases h
  · rintro d ⟨⟩ t tab h
    cases h
  · rintro d ⟨⟩ t tab h
    change t.deleteEmpresa f = _ at h
    unfold deleteEmpresa at h
    split at h <;> cases h
  · rintro d ⟨⟩ t tab h
    change t.deleteOrganismo f = _ at h
    unfold deleteOrganismo at h
    split at h <;> cases h
  · rintro o ho d ⟨⟩ t tab h
    obtain ⟨⟨k, hk⟩, ⟨n, hn⟩, -⟩ := hw.org o ho
    cases h.symm.trans (insertOrganismo_eq hk hn)
  · rintro e he d ⟨⟩ t tab h
    obtain ⟨⟨k, hk, -⟩, ⟨n, hn⟩, -⟩ := hw.emp e he
    cases h.symm.trans (insertEmpresa_eq hk hn)
  · rintro c hc d ⟨⟩ t tab h
    obtain ⟨⟨k, hk⟩, -⟩ := hw.con c hc
    change t.insertContrato c = _ at h
    simp only [insertContrato, hk] at h
    split at h
    · cases h
    · split at h <;> cases h

/-- **Inserting contracts never violates a foreign key**: the orphan branches are never taken, no
statement of a load meets a NULL key, and each insert of a contract finds the parents of all of them. -/
theorem padres_guardados {year month limit : Int} {csv : List FilaCsv}
    (h : frames M (fuenteDe year month) csv limit = .ok fr) (s : Db) :
    (∃ con, conDf M (fuenteDe year month) csv limit = .ok con ∧
      huerfanos (neededOrg con) ((orgBase M (fuenteDe year month) csv).map FilaOrg.rut) = [] ∧
      huerfanos (neededProv con) ((empBase M (fuenteDe year month) csv).map FilaEmp.id) = []) ∧
    ∀ d t, (Sentencia.dml d, t) ∈
        Prog.trace (exec M) (loadChilecompraSlice M year month limit (.csv csv)) s →
      (∀ tab, d.exec t ≠ .error (.notNull tab)) ∧
      ∀ c, d = .insertContrato c → (∀ x ∈ fr.con, ConPadres t x) ∧ ∃ u, d.exec t = .ok u := by
  obtain ⟨con, hcon, -⟩ := frames_eq h
  refine ⟨⟨con, hcon, huerfanos_org hcon, huerfanos_prov hcon⟩, fun d t hx => ?_⟩
  have hw := frames_wf h
  unfold loadChilecompraSlice at hx
  dsimp only at hx
  rw [h] at hx
  rcases (Prog.mem_trace_bind _).mp hx with hx | ⟨c, u, -, hx⟩
  · have hnulos := (Prog.trace_keeps (exec M) (I := fun _ => True)
      (fun _ _ _ _ _ _ _ => trivial) (guardar_sinNulos hw) trivial hx).1
    refine ⟨hnulos d rfl t, fun c hc => ?_⟩
    subst hc
    obtain ⟨hmem, hpad⟩ := guardar_padres hw hx
    obtain ⟨⟨k, hk, ho⟩, k', hk', hp⟩ := hpad c hmem
    obtain ⟨⟨id, hid⟩, -⟩ := hw.con c hmem
    refine ⟨hpad, insertContrato_eq hid ⟨fun x hx => ?_, fun x hx => ?_⟩⟩
    · obtain rfl := Option.some.inj (ho.symm.trans hx)
      exact hk
    · obtain rfl := Option.some.inj (hp.symm.trans hx)
      exact hk'
  · cases hx

end

/-- the statement is the insert of a contract -/
def esContrato : Sentencia → Bool
  | .dml (.insertContrato _) => true
  | _ => false

theorem exists_of_esContrato {q : Sentencia} (h : esContrato q = true) :
    ∃ c, q = .dml (.insertContrato c) := by
  cases q with
  | query q => cases h
  | dml d =>
    cases d with
    | insertContrato c => exact ⟨c, rfl⟩
    | _ => cases h

theorem padres_guardados_acme : ∃ c t,
    (Sentencia.dml (.insertContrato c), t) ∈ Prog.trace (exec motorConcreto)
        (loadChilecompraSlice motorConcreto 2024 5 0 (.csv (comprasCon "62-K"))) .empty ∧
      ∃ u, Dml.exec t (.insertContrato c) = .ok u := by
  obtain ⟨fr, hfr⟩ : ∃ fr, frames motorConcreto (fuenteDe 2024 5) (comprasCon "62-K") 0 = .ok fr :=
    frames_isOk.mpr (by decide +kernel)
  have hany : (Prog.trace (exec motorConcreto) (loadChilecompraSlice motorConcreto 2024 5 0
      (.csv (comprasCon "62-K"))) .empty).any (fun x => esContrato x.1) = true := by decide +kernel
  obtain ⟨⟨q, t⟩, hx, hq⟩ := List.any_eq_true.mp hany
  obtain ⟨c, rfl⟩ := exists_of_esContrato hq
  exact ⟨c, t, hx, (((padres_guardados hfr .empty).2 _ t hx).2 c rfl).2⟩

end Fractura
