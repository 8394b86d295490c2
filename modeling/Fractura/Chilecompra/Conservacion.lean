import Fractura.Chilecompra.Recarga
import Fractura.Invariante

/-!
# What becomes of the purchase orders of a file

A full load that returns takes every purchase order of the valid rows to one of three ends
(`conservacion`):

* discarded, when the row chosen for it is not `Admitida`; these are counted;
* stored under the slice, with the fields of the chosen row; these are counted too;
* left to another slice that stored the same id first (`Ajena`).  `INSERT OR IGNORE` skips it and
  no count says so (`pedido_sin_contar`).
-/

namespace Fractura

open Db KeyTable Group

/-- the different ids of the rows that pass the `WHERE` -/
def idsValidos (csv : List FilaCsv) : List (Option String) :=
  ((csv.filter FilaCsv.valida).map fun r => trimN r.id).dedup

/-- the id of the row is stored by another slice -/
def FilaCsv.Ajena (s : Db) (f : String) (r : FilaCsv) : Prop :=
  ∃ x ∈ s.contrato.rows, x.fuente ≠ some f ∧ (trimN r.id).map (fun id => "cc_" ++ id) = some x.id

instance (s : Db) (f : String) (r : FilaCsv) : Decidable (r.Ajena s f) := by
  unfold FilaCsv.Ajena; infer_instance

section
variable (M : Motor)

/-- the row of `contrato` that a full load makes of a chosen row -/
def contratoDe (f : String) (r : FilaCsv) : Contrato := (filaCon M f r).toContrato

/-- the row chosen for an id: a valid row of the file, none of the same id being later -/
structure Elegida (csv : List FilaCsv) (r r' : FilaCsv) : Prop where
  elegida : r' ∈ conTodas M csv
  id : trimN r'.id = trimN r.id
  ultima : ∀ x ∈ csv, x.valida = true → trimN x.id = trimN r.id →
    descNullsLast r'.fechacreacion x.fechacreacion

end

section
variable {M : Motor} {s t : Db} {csv : List FilaCsv}

/-! ## the chosen rows -/

theorem length_idsValidos : (idsValidos csv).length = (conTodas M csv).length := by
  have hperm : (idsValidos csv).Perm ((conTodas M csv).map fun r => trimN r.id) := by
    refine (List.perm_ext_iff_of_nodup (List.nodup_dedup _) (nodup_conTodas csv)).mpr fun k => ?_
    simp only [List.mem_dedup, List.mem_map, List.mem_filter]
    refine ⟨fun h => ?_, fun h => ?_⟩
    · obtain ⟨r, ⟨hr, hv⟩, rfl⟩ := h
      exact exists_conTodas hr hv
    · obtain ⟨r, hr, rfl⟩ := h
      exact ⟨r, mem_conTodas hr, rfl⟩
  rw [hperm.length_eq, List.length_map]

theorem exists_elegida {r : FilaCsv} (hr : r ∈ csv) (hv : r.valida = true) :
    ∃ r', Elegida M csv r r' := by
  obtain ⟨r', h, hid, hult⟩ := exists_ultima (M := M) hr hv
  exact ⟨r', h, hid, hult⟩

/-! ## the batch of contracts -/

variable {f : String} {fr : Frames}

theorem conFilas_todas : conFilas M csv 0 = conTodas M csv := rfl

theorem con_admitidas (h : frames M f csv 0 = .ok fr) :
    fr.con.map FilaCon.toContrato =
      ((conTodas M csv).filter fun r => decide (r.Admitida csv)).map (contratoDe M f) ∧
    fr.warnDescartados = ((conTodas M csv).filter fun r => decide (¬ r.Admitida csv)).length := by
  obtain ⟨con, hcon, -, -, hfil, hwarn⟩ := frames_eq h
  have hcon' := conDf_ok hcon
  rw [conFilas_todas] at hcon'
  have hpad : (conPadres fr.org fr.emp) ∘ (filaCon M f) =
      fun r => decide (r.Admitida csv) := funext fun r => conPadres_filaCon h r
  have hrows : fr.con = ((conTodas M csv).filter fun r => decide (r.Admitida csv)).map
      (filaCon M f) := by
    rw [hfil, hcon', ← hpad, ← List.filter_map]
  refine ⟨?_, ?_⟩
  · rw [hrows, List.map_map]
    rfl
  · have hlen : (conTodas M csv).length =
        ((conTodas M csv).filter fun r => decide (r.Admitida csv)).length +
        ((conTodas M csv).filter fun r => decide (¬ r.Admitida csv)).length := by
      rw [List.length_eq_length_filter_add (l := conTodas M csv) fun r => decide (r.Admitida csv)]
      simp only [decide_not]
    rw [hwarn, hrows, hcon', List.length_map, List.length_map, hlen]
    exact Nat.add_sub_cancel_left _ _

theorem id_contratoDe {r : FilaCsv} (hr : r ∈ conTodas M csv) :
    (trimN r.id).map (fun id => "cc_" ++ id) = some (contratoDe M f r).id := by
  obtain ⟨id, hid⟩ := FilaCsv.id_isSome (mem_conTodas hr).2
  show (trimN r.id).map _ = some (((trimN r.id).map fun id => "cc_" ++ id).getD "")
  rw [hid]
  rfl

theorem nodup_contratoDe : ((conTodas M csv).map fun r => (contratoDe M f r).id).Nodup := by
  have h := nodup_conTodas (M := M) csv
  rw [List.Nodup, List.pairwise_map] at h ⊢
  refine h.imp_of_mem fun {a b} ha hb hne heq => hne ?_
  have hab : (trimN a.id).map (fun id => "cc_" ++ id) = (trimN b.id).map fun id => "cc_" ++ id := by
    rw [id_contratoDe (f := f) ha, id_contratoDe (f := f) hb, heq]
  obtain ⟨i, hi⟩ := FilaCsv.id_isSome (mem_conTodas ha).2
  obtain ⟨j, hj⟩ := FilaCsv.id_isSome (mem_conTodas hb).2
  rw [hi, hj] at hab ⊢
  have hl := congrArg String.toList (Option.some.inj hab)
  rw [String.toList_append, String.toList_append] at hl
  exact congrArg some (String.toList_inj.mp (List.append_cancel_left hl))

/-- **The contracts after the load** are those of the other slices and the admitted rows whose id
no other slice has. -/
theorem contratos_de_carga (h : frames M f csv 0 = .ok fr) (ht : t.toTablas = s.cargada f fr) :
    t.contrato.rows = (s.contrato.rows.filter fun c => decide (c.fuente ≠ some f)) ++
      ((conTodas M csv).filter fun r => decide (r.Admitida csv ∧ ¬ r.Ajena s f)).map
        (contratoDe M f) := by
  have hids : ((fr.con.map FilaCon.toContrato).map Contrato.id).Nodup := by
    rw [(con_admitidas h).1, List.map_map]
    exact (nodup_contratoDe (f := f)).sublist (List.filter_sublist.map _)
  have htab : t.contrato = (s.contrato.filter fun c => decide (c.fuente ≠ some f)).insertAll
      (fr.con.map FilaCon.toContrato) := by rw [ht]; rfl
  rw [htab, rows_insertAll_of_nodup hids, rows_filter, (con_admitidas h).1, List.filter_map,
    List.filter_filter]
  congr 2
  apply List.filter_congr
  intro r hr
  have hkey : (contratoDe M f r).id ∈
      (s.contrato.filter fun c => decide (c.fuente ≠ some f)).keys ↔ r.Ajena s f := by
    rw [mem_keys_filter]
    refine ⟨fun hx => ?_, fun hx => ?_⟩
    · obtain ⟨x, hx, hk, hf⟩ := hx
      exact ⟨x, hx, of_decide_eq_true hf, by rw [id_contratoDe (f := f) hr, hk]⟩
    · obtain ⟨x, hx, hf, hk⟩ := hx
      rw [id_contratoDe (f := f) hr] at hk
      exact ⟨x, hx, (Option.some.inj hk).symm, decide_eq_true hf⟩
  rw [Bool.eq_iff_iff]
  simp only [Function.comp_apply, Bool.and_eq_true, decide_eq_true_eq, hkey]
  exact And.comm

theorem length_contratosDe (h : frames M f csv 0 = .ok fr) (ht : t.toTablas = s.cargada f fr) :
    (t.contratosDe f).length =
      ((conTodas M csv).filter fun r => decide (r.Admitida csv ∧ ¬ r.Ajena s f)).length := by
  have hotros : (s.contrato.rows.filter fun c => decide (c.fuente ≠ some f)).filter
      (fun c => decide (c.fuente = some f)) = [] := by
    rw [List.filter_eq_nil_iff]
    intro x hx hf
    exact of_decide_eq_true (List.mem_filter.mp hx).2 (of_decide_eq_true hf)
  unfold contratosDe
  rw [contratos_de_carga h ht, List.filter_append, hotros, List.nil_append,
    List.filter_eq_self.mpr, List.length_map]
  intro x hx
  obtain ⟨r, -, rfl⟩ := List.mem_map.mp hx
  exact decide_eq_true rfl

theorem length_tres {α : Type} (p q : α → Prop) [DecidablePred p] [DecidablePred q] (l : List α) :
    l.length = (l.filter fun x => decide (p x ∧ ¬ q x)).length +
      (l.filter fun x => decide (¬ p x)).length + (l.filter fun x => decide (p x ∧ q x)).length := by
  induction l with
  | nil => rfl
  | cons x l ih =>
    rw [List.length_cons, ih]
    by_cases hp : p x
    · by_cases hq : q x
      · simp only [List.filter_cons, hp, hq, not_true_eq_false, and_false, and_self, decide_false,
          decide_true, Bool.false_eq_true, if_true, if_false, List.length_cons]
        omega
      · simp only [List.filter_cons, hp, hq, not_true_eq_false, not_false_eq_true, and_false,
          and_self, decide_false, decide_true, Bool.false_eq_true, if_true, if_false,
          List.length_cons]
        omega
    · simp only [List.filter_cons, hp, not_false_eq_true, false_and, decide_false, decide_true,
        Bool.false_eq_true, if_true, if_false, List.length_cons]
      omega

/-- **No purchase order is lost without a trace in the store**: those of the valid rows are counted
as stored or as discarded, or another slice has them.  The stored ones have the fields of the row
chosen in this file; what another slice has is not changed. -/
theorem conservacion {year month : Int} {c : Carga}
    (h : Prog.run (exec M) (loadChilecompraSlice M year month 0 (.csv csv)) s =
      (.ok (.ok c), t)) :
    (idsValidos csv).length = c.contratos + c.warnContratosDescartados +
      ((conTodas M csv).filter fun r =>
        decide (r.Admitida csv ∧ r.Ajena s (fuenteDe year month))).length ∧
    c.warnContratosDescartados =
      ((conTodas M csv).filter fun r => decide (¬ r.Admitida csv)).length ∧
    ∀ r ∈ csv, r.valida = true → ∃ r', Elegida M csv r r' ∧ (r'.Admitida csv →
      (¬ r'.Ajena s (fuenteDe year month) ∧
        contratoDe M (fuenteDe year month) r' ∈ t.contrato.rows) ∨
      ∃ x ∈ s.contrato.rows, x ∈ t.contrato.rows ∧ x.fuente ≠ some (fuenteDe year month) ∧
        (trimN r.id).map (fun id => "cc_" ++ id) = some x.id) := by
  obtain ⟨fr, hfr, ht, hc⟩ := load_ok_carga h
  have hrows := contratos_de_carga hfr ht
  have hwarn : c.warnContratosDescartados =
      ((conTodas M csv).filter fun r => decide (¬ r.Admitida csv)).length := by
    rw [hc]
    exact (con_admitidas hfr).2
  refine ⟨?_, hwarn, ?_⟩
  · have hcon : c.contratos = ((conTodas M csv).filter fun r =>
        decide (r.Admitida csv ∧ ¬ r.Ajena s (fuenteDe year month))).length := by
      rw [hc]
      exact length_contratosDe hfr ht
    rw [hwarn, hcon, length_idsValidos (M := M)]
    exact length_tres (FilaCsv.Admitida csv) (FilaCsv.Ajena s (fuenteDe year month)) _
  · intro r hr hv
    obtain ⟨r', he⟩ := exists_elegida (M := M) hr hv
    refine ⟨r', he, fun ha => ?_⟩
    by_cases haj : r'.Ajena s (fuenteDe year month)
    · obtain ⟨x, hx, hf, hk⟩ := haj
      refine Or.inr ⟨x, hx, ?_, hf, he.id ▸ hk⟩
      rw [hrows]
      exact List.mem_append_left _ (List.mem_filter.mpr ⟨hx, decide_eq_true hf⟩)
    · refine Or.inl ⟨haj, ?_⟩
      rw [hrows]
      refine List.mem_append_right _ (List.mem_map_of_mem ?_)
      exact List.mem_filter.mpr ⟨he.elegida, decide_eq_true ⟨ha, haj⟩⟩

end

/-! ## concrete runs -/

/-- a file with one order of each kind: one that is stored and one whose organism key has a line
end, which the frame of the organisms loses -/
def compraDescartada : List FilaCsv :=
  [.orden "1-OC" "1.000.000" "2024-05-01" "61-K" "76-K" "" "Acme",
    .orden "2-OC" "1.000.000" "2024-05-01" "62-K\n" "76-K" "" "Acme"]

theorem conservacion_descartada :
    (idsValidos compraDescartada).length = 1 + 1 +
      ((conTodas motorConcreto compraDescartada).filter fun r =>
        decide (r.Admitida compraDescartada ∧ r.Ajena .empty "chilecompra_oc_2024-05")).length := by
  have h : Prog.run (exec motorConcreto)
      (loadChilecompraSlice motorConcreto 2024 5 0 (.csv compraDescartada)) .empty =
      (.ok (.ok ⟨2, 1, 1, 1, "chilecompra_oc_2024-05"⟩),
        trasCarga 2024 5 compraDescartada .empty) :=
    Prod.ext (by decide +kernel) rfl
  exact (conservacion h).1

/-- **The order that nobody counts**: June brings an order that May has stored. -/
theorem pedido_sin_contar :
    Alcanzable motorConcreto (trasCarga 2024 5 compraMayo .empty) ∧
    (Prog.run (exec motorConcreto) (loadChilecompraSlice motorConcreto 2024 6 0 (.csv compraMayo))
      (trasCarga 2024 5 compraMayo .empty)).1 =
      .ok (.ok ⟨0, 0, 0, 0, "chilecompra_oc_2024-06"⟩) ∧
    (idsValidos compraMayo).length = 1 ∧
    (trasCarga 2024 6 compraMayo (trasCarga 2024 5 compraMayo .empty)).contratosDe
      "chilecompra_oc_2024-06" = [] :=
  ⟨.paso (.cargar 2024 5 0 (.csv compraMayo)) .vacio, by decide +kernel, by decide +kernel,
    by decide +kernel⟩

end Fractura
