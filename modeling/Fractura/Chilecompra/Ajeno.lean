import Fractura.Chilecompra.Load
import Fractura.Statements

/-!
# What a load leaves of the other slices

`DeCarga g` are the statements that `load_chilecompra_slice` issues for the slice `g`
(`load_deCarga`), and `exec_aporta` says which rows one of them can add.  `Ajeno g s t` says that
`t` has, of everything that is not of `g`, what `s` has:

* the rows of the four tables with another `fuente`, in the same order;
* what the foreign keys of the contracts of other slices read, also when the row belongs to `g`.

Each statement of the class respects it (`exec_ajeno`): a `DELETE` of parents in use fails as a
whole and `OR IGNORE` never overwrites.  So does the whole load, returning or raising, at any
statement (`load_ajeno`), and with it what the detection queries of another slice read
(`Ajeno.unidos`).
-/

namespace Fractura

open Db

/-! ## the statements of a load -/

/-- one of the three counts of the result -/
inductive EsCuenta (g : String) : Consulta → Prop where
  | organismo : EsCuenta g (.countOrganismo g)
  | empresa : EsCuenta g (.countEmpresa g)
  | contrato : EsCuenta g (.countContrato g)

inductive DeCarga (g : String) : Sentencia → Prop where
  | query (q : Consulta) (h : EsCuenta g q) : DeCarga g (.query q)
  | deleteContrato : DeCarga g (.dml (.deleteContrato g))
  | deleteAlerta : DeCarga g (.dml (.deleteAlerta g))
  | deleteEmpresa : DeCarga g (.dml (.deleteEmpresa g))
  | deleteOrganismo : DeCarga g (.dml (.deleteOrganismo g))
  | insertOrganismo (r : FilaOrg) (hf : r.fuente = some g) : DeCarga g (.dml (.insertOrganismo r))
  | insertEmpresa (r : FilaEmp) (hf : r.fuente = some g)
      (hr : ∀ k x, r.id = some k → r.rut = some x → strip x = k) :
      DeCarga g (.dml (.insertEmpresa r))
  | insertContrato (r : FilaCon) (hf : r.fuente = some g) (ho : ∃ k, r.organismoId = some k)
      (hp : ∃ k, r.proveedorId = some k) : DeCarga g (.dml (.insertContrato r))

section
variable {M : Motor} {g : String}

theorem ejecutar_all {d : Dml} {P : Sentencia → Prop} (h : P (.dml d)) : (ejecutar d).All P :=
  ⟨h, fun _ => trivial⟩

theorem consulta_all {q : Consulta} {P : Sentencia → Prop} (h : P (.query q)) :
    (consulta q).All P :=
  ⟨h, fun _ => trivial⟩

theorem executemany_all {β : Type} {l : List β} {f : β → Dml} {P : Sentencia → Prop}
    (h : ∀ x ∈ l, P (.dml (f x))) : (executemany l f).All P := by
  unfold executemany
  split
  · trivial
  · exact Prog.all_each fun x hx => ejecutar_all (h x hx)

theorem unico_all {α : Type} {l : List α} {P : Sentencia → Prop} : (unico l).All P := by
  cases l <;> trivial

theorem cuentas_all {P : Sentencia → Prop} (hq : ∀ q, EsCuenta g q → P (.query q))
    (k : Nat → Nat → Nat → Carga) : (show Prg Carga from do
      let organismos ← unico (← consulta (.countOrganismo g))
      let empresas ← unico (← consulta (.countEmpresa g))
      let contratos ← unico (← consulta (.countContrato g))
      return k organismos empresas contratos).All P := by
  refine Prog.all_bind (consulta_all (hq _ .organismo)) fun _ => Prog.all_bind unico_all fun _ => ?_
  refine Prog.all_bind (consulta_all (hq _ .empresa)) fun _ => Prog.all_bind unico_all fun _ => ?_
  refine Prog.all_bind (consulta_all (hq _ .contrato)) fun _ => Prog.all_bind unico_all fun _ => ?_
  trivial

theorem guardar_all {P : Sentencia → Prop} {fr : Frames} (hq : ∀ q, EsCuenta g q → P (.query q))
    (h1 : P (.dml (.deleteContrato g))) (h2 : P (.dml (.deleteAlerta g)))
    (h3 : P (.dml (.deleteEmpresa g))) (h4 : P (.dml (.deleteOrganismo g)))
    (ho : ∀ o ∈ fr.org, P (.dml (.insertOrganismo o)))
    (he : ∀ e ∈ fr.emp, P (.dml (.insertEmpresa e)))
    (hc : ∀ c ∈ fr.con, P (.dml (.insertContrato c))) : (guardar g fr).All P := by
  refine Prog.all_bind (ejecutar_all h1) fun _ => ?_
  refine Prog.all_bind (ejecutar_all h2) fun _ => ?_
  refine Prog.all_bind (ejecutar_all h3) fun _ => ?_
  refine Prog.all_bind (ejecutar_all h4) fun _ => ?_
  refine Prog.all_bind (executemany_all ho) fun _ => ?_
  refine Prog.all_bind (executemany_all he) fun _ => ?_
  exact Prog.all_bind (executemany_all hc) fun _ =>
    cuentas_all hq fun a b c => ⟨a, b, c, fr.warnDescartados, g⟩

theorem guardar_deCarga {fr : Frames} (h : fr.Wf g) : (guardar g fr).All (DeCarga g) := by
  refine guardar_all (fun q hq => .query q hq) .deleteContrato .deleteAlerta .deleteEmpresa
    .deleteOrganismo ?_ ?_ ?_
  · intro o ho
    exact .insertOrganismo o (h.org o ho).2.2
  · intro e he
    obtain ⟨⟨k, hk, hr⟩, -, hf⟩ := h.emp e he
    refine .insertEmpresa e hf fun k' x hk' hx => ?_
    rw [hk] at hk'
    exact (hr x hx).trans (Option.some.inj hk')
  · intro c hc
    obtain ⟨-, hf, ⟨k, ho, -⟩, ⟨k', hp, -⟩⟩ := h.con c hc
    exact .insertContrato c hf ⟨k, ho⟩ ⟨k', hp⟩

theorem load_all {P : Sentencia → Prop} {M : Motor} {year month limit : Int} {a : Archivo}
    (h : ∀ csv fr, a = .csv csv → frames M (fuenteDe year month) csv limit = .ok fr →
      (guardar (fuenteDe year month) fr).All P) :
    (loadChilecompraSlice M year month limit a).All P := by
  unfold loadChilecompraSlice
  cases a with
  | ausente => trivial
  | ilegible => trivial
  | csv filas =>
    dsimp only
    cases hfr : frames M (fuenteDe year month) filas limit with
    | error e => trivial
    | ok fr => exact Prog.all_bind (h filas fr rfl hfr) fun _ => trivial

theorem load_deCarga (M : Motor) (year month limit : Int) (a : Archivo) :
    (loadChilecompraSlice M year month limit a).All (DeCarga (fuenteDe year month)) :=
  load_all fun _ _ _ h => guardar_deCarga (frames_wf h)

/-! ## the rows after a statement -/

/-- the rows after a statement of a load: old ones, and one that the statement inserts -/
structure Aporta (q : Sentencia) (s t : Db) : Prop where
  organismo : ∀ o ∈ t.organismo.rows, o ∈ s.organismo.rows ∨
    ∃ r k, q = .dml (.insertOrganismo r) ∧ r.rut = some k ∧ o = r.toOrganismo
  empresa : ∀ e ∈ t.empresa.rows, e ∈ s.empresa.rows ∨
    ∃ r k, q = .dml (.insertEmpresa r) ∧ r.id = some k ∧ e = r.toEmpresa
  contrato : ∀ c ∈ t.contrato.rows, c ∈ s.contrato.rows ∨
    ∃ r k, q = .dml (.insertContrato r) ∧ r.id = some k ∧ c = r.toContrato
  alerta : ∀ a ∈ t.alerta.rows, a ∈ s.alerta.rows

theorem Aporta.refl (q : Sentencia) (s : Db) : Aporta q s s :=
  ⟨fun _ h => Or.inl h, fun _ h => Or.inl h, fun _ h => Or.inl h, fun _ h => h⟩

theorem exec_aporta {q : Sentencia} (hq : DeCarga g q) {s t : Db} {x : Resp q}
    (h : exec M q s = .ok (x, t)) : Aporta q s t := by
  cases hq with
  | query q _ =>
    rw [(exec_query_ok h).1]
    exact .refl _ s
  | deleteContrato =>
    cases exec_dml_ok h
    exact { Aporta.refl _ s with contrato := fun _ hc => Or.inl (List.mem_of_mem_filter hc) }
  | deleteAlerta =>
    cases exec_dml_ok h
    exact { Aporta.refl _ s with alerta := fun _ ha => List.mem_of_mem_filter ha }
  | deleteEmpresa =>
    have ht := (deleteEmpresa_ok (exec_dml_ok h)).2
    obtain ⟨tab, h1, h2⟩ := t
    dsimp only at ht
    subst ht
    exact { Aporta.refl _ s with empresa := fun _ he => Or.inl (List.mem_of_mem_filter he) }
  | deleteOrganismo =>
    have ht := (deleteOrganismo_ok (exec_dml_ok h)).2
    obtain ⟨tab, h1, h2⟩ := t
    dsimp only at ht
    subst ht
    exact { Aporta.refl _ s with organismo := fun _ ho => Or.inl (List.mem_of_mem_filter ho) }
  | insertOrganismo r hf =>
    obtain ⟨⟨k, hk⟩, rfl⟩ := insertOrganismo_ok (exec_dml_ok h)
    refine { Aporta.refl _ s with organismo := fun o ho => ?_ }
    rcases KeyTable.mem_insertOrIgnore.mp ho with ho | ⟨rfl, -⟩
    · exact Or.inl ho
    · exact Or.inr ⟨r, k, rfl, hk, rfl⟩
  | insertEmpresa r hf _ =>
    obtain ⟨⟨k, hk⟩, rfl⟩ := insertEmpresa_ok (exec_dml_ok h)
    refine { Aporta.refl _ s with empresa := fun e he => ?_ }
    rcases KeyTable.mem_insertOrIgnore.mp he with he | ⟨rfl, -⟩
    · exact Or.inl he
    · exact Or.inr ⟨r, k, rfl, hk, rfl⟩
  | insertContrato r hf _ _ =>
    obtain ⟨⟨k, hk⟩, ht⟩ := insertContrato_ok (exec_dml_ok h)
    obtain ⟨tab, h1, h2⟩ := t
    dsimp only at ht
    subst ht
    refine { Aporta.refl _ s with contrato := fun c hc => ?_ }
    rcases KeyTable.mem_insertOrIgnore.mp hc with hc | ⟨rfl, -⟩
    · exact Or.inl hc
    · exact Or.inr ⟨r, k, rfl, hk, rfl⟩

/-! ## the relation -/

/-- the rows of a table that are not of the slice -/
def otros {ρ : Type} (fuente : ρ → Option String) (g : String) (rows : List ρ) : List ρ :=
  rows.filter fun r => decide (fuente r ≠ some g)

theorem mem_otros {ρ : Type} {fuente : ρ → Option String} {rows : List ρ} {r : ρ} :
    r ∈ otros fuente g rows ↔ r ∈ rows ∧ fuente r ≠ some g := by
  simp [otros]

theorem otros_filter {ρ : Type} {fuente : ρ → Option String} {rows : List ρ} {p : ρ → Bool}
    (h : ∀ r ∈ rows, fuente r ≠ some g → p r = true) :
    otros fuente g (rows.filter p) = otros fuente g rows := by
  unfold otros
  rw [List.filter_filter]
  apply List.filter_congr
  intro r hr
  by_cases hf : fuente r = some g
  · simp [hf]
  · simp [h r hr hf]

theorem otros_insertOrIgnore {ρ : Type} {key : ρ → String} {fuente : ρ → Option String}
    {t : KeyTable ρ String key} {r : ρ} (h : fuente r = some g) :
    otros fuente g (t.insertOrIgnore r).rows = otros fuente g t.rows := by
  show otros fuente g (t.insertAll [r]).rows = _
  exact KeyTable.filter_insertAll (by simp [h])

theorem filter_otros {ρ : Type} {fuente : ρ → Option String} {f : String} (hfg : f ≠ g)
    (rows : List ρ) : (otros fuente g rows).filter (fun r => decide (fuente r = some f)) =
      rows.filter fun r => decide (fuente r = some f) := by
  unfold otros
  rw [List.filter_filter]
  apply List.filter_congr
  intro r _
  by_cases hf : fuente r = some f
  · simp [hf, hfg]
  · simp [hf]

structure Ajeno (g : String) (s t : Db) : Prop where
  organismo : otros Organismo.fuente g t.organismo.rows = otros Organismo.fuente g s.organismo.rows
  empresa : otros Empresa.fuente g t.empresa.rows = otros Empresa.fuente g s.empresa.rows
  contrato : otros Contrato.fuente g t.contrato.rows = otros Contrato.fuente g s.contrato.rows
  alerta : otros Alerta.fuente g t.alerta.rows = otros Alerta.fuente g s.alerta.rows
  refOrg : ∀ c ∈ s.contrato.rows, c.fuente ≠ some g → ∀ k, c.organismoId = some k →
    t.organismo.find k = s.organismo.find k
  refEmp : ∀ c ∈ s.contrato.rows, c.fuente ≠ some g → ∀ k, c.proveedorId = some k →
    t.empresa.find k = s.empresa.find k
  caso : t.caso = s.caso
  entidad : t.entidad = s.entidad
  reloj : t.reloj = s.reloj

namespace Ajeno

theorem refl (s : Db) : Ajeno g s s :=
  ⟨rfl, rfl, rfl, rfl, fun _ _ _ _ _ => rfl, fun _ _ _ _ _ => rfl, rfl, rfl, rfl⟩

theorem mem_contrato {s t : Db} (h : Ajeno g s t) {c : Contrato} (hf : c.fuente ≠ some g) :
    c ∈ t.contrato.rows ↔ c ∈ s.contrato.rows := by
  have hm : c ∈ otros Contrato.fuente g t.contrato.rows ↔
      c ∈ otros Contrato.fuente g s.contrato.rows := by rw [h.contrato]
  rw [mem_otros, mem_otros] at hm
  exact ⟨fun hc => (hm.mp ⟨hc, hf⟩).1, fun hc => (hm.mpr ⟨hc, hf⟩).1⟩

theorem mem_organismo {s t : Db} (h : Ajeno g s t) {o : Organismo} (hf : o.fuente ≠ some g)
    (ho : o ∈ t.organismo.rows) : o ∈ s.organismo.rows := by
  have hm := mem_otros.mpr ⟨ho, hf⟩
  rw [h.organismo] at hm
  exact (mem_otros.mp hm).1

theorem mem_empresa {s t : Db} (h : Ajeno g s t) {e : Empresa} (hf : e.fuente ≠ some g)
    (he : e ∈ t.empresa.rows) : e ∈ s.empresa.rows := by
  have hm := mem_otros.mpr ⟨he, hf⟩
  rw [h.empresa] at hm
  exact (mem_otros.mp hm).1

theorem trans (s t u : Db) (h : Ajeno g s t) (h' : Ajeno g t u) : Ajeno g s u where
  organismo := h'.organismo.trans h.organismo
  empresa := h'.empresa.trans h.empresa
  contrato := h'.contrato.trans h.contrato
  alerta := h'.alerta.trans h.alerta
  refOrg c hc hf k hk :=
    (h'.refOrg c ((h.mem_contrato hf).mpr hc) hf k hk).trans (h.refOrg c hc hf k hk)
  refEmp c hc hf k hk :=
    (h'.refEmp c ((h.mem_contrato hf).mpr hc) hf k hk).trans (h.refEmp c hc hf k hk)
  caso := h'.caso.trans h.caso
  entidad := h'.entidad.trans h.entidad
  reloj := h'.reloj.trans h.reloj

/-! ## one statement -/

theorem deleteContrato (s : Db) : Ajeno g s (s.deleteContrato g) :=
  { refl s with
    contrato := otros_filter fun c _ hf => by simpa using hf }

theorem deleteAlerta (s : Db) : Ajeno g s (s.deleteAlerta g) :=
  { refl s with
    alerta := otros_filter fun a _ hf => by simpa using hf }

/-- deleted suppliers are referenced by nobody -/
theorem deleteEmpresa {s t : Db} (h : s.deleteEmpresa g = .ok t) : Ajeno g s t := by
  obtain ⟨hn, ht⟩ := deleteEmpresa_ok h
  obtain ⟨tab, h1, h2⟩ := t
  dsimp only at ht
  subst ht
  refine { refl s with empresa := otros_filter fun e _ hf => by simpa using hf, refEmp := ?_ }
  intro c hc _ k hk
  apply KeyTable.find_filter
  intro e he hek
  exact decide_eq_true fun hf => hn ⟨e, he, hf, c, hc, by rw [hk, hek]⟩

theorem deleteOrganismo {s t : Db} (h : s.deleteOrganismo g = .ok t) : Ajeno g s t := by
  obtain ⟨hn, ht⟩ := deleteOrganismo_ok h
  obtain ⟨tab, h1, h2⟩ := t
  dsimp only at ht
  subst ht
  refine { refl s with organismo := otros_filter fun o _ hf => by simpa using hf, refOrg := ?_ }
  intro c hc _ k hk
  apply KeyTable.find_filter
  intro o ho hok
  exact decide_eq_true fun hf => hn ⟨o, ho, hf, c, hc, by rw [hk, hok]⟩

theorem addEmpresa (s : Db) {e : Empresa} (hf : e.fuente = some g) : Ajeno g s (s.addEmpresa e) :=
  { refl s with
    empresa := otros_insertOrIgnore hf
    refEmp := fun c hc _ k hk => KeyTable.find_insertOrIgnore_of_mem (s.fkEmp c hc k hk) }

theorem addOrganismo (s : Db) {o : Organismo} (hf : o.fuente = some g) :
    Ajeno g s (s.addOrganismo o) :=
  { refl s with
    organismo := otros_insertOrIgnore hf
    refOrg := fun c hc _ k hk => KeyTable.find_insertOrIgnore_of_mem (s.fkOrg c hc k hk) }

theorem insertContrato {s t : Db} {r : FilaCon} (hf : r.fuente = some g)
    (h : s.insertContrato r = .ok t) : Ajeno g s t := by
  obtain ⟨-, ht⟩ := insertContrato_ok h
  obtain ⟨tab, h1, h2⟩ := t
  dsimp only at ht
  subst ht
  exact { refl s with contrato := otros_insertOrIgnore hf }

end Ajeno

/-- **Every statement of a load of `g` leaves the other slices alone.** -/
theorem exec_ajeno {q : Sentencia} (hq : DeCarga g q) {s t : Db} {x : Resp q}
    (h : exec M q s = .ok (x, t)) : Ajeno g s t := by
  cases hq with
  | query q _ =>
    rw [(exec_query_ok h).1]
    exact Ajeno.refl s
  | deleteContrato =>
    cases exec_dml_ok h
    exact Ajeno.deleteContrato s
  | deleteAlerta =>
    cases exec_dml_ok h
    exact Ajeno.deleteAlerta s
  | deleteEmpresa => exact Ajeno.deleteEmpresa (exec_dml_ok h)
  | deleteOrganismo => exact Ajeno.deleteOrganismo (exec_dml_ok h)
  | insertOrganismo r hf =>
    rw [(insertOrganismo_ok (exec_dml_ok h)).2]
    exact Ajeno.addOrganismo s hf
  | insertEmpresa r hf _ =>
    rw [(insertEmpresa_ok (exec_dml_ok h)).2]
    exact Ajeno.addEmpresa s hf
  | insertContrato r hf _ _ => exact Ajeno.insertContrato hf (exec_dml_ok h)

/-! ## a whole load -/

theorem run_ajeno {α : Type} {p : Prg α} (hp : p.All (DeCarga g)) (s : Db) :
    Ajeno g s (Prog.run (exec M) p s).2 :=
  Prog.run_related (exec M) Ajeno.refl Ajeno.trans (fun _ _ _ _ hq h => exec_ajeno hq h) hp s

theorem load_ajeno (M : Motor) (year month limit : Int) (a : Archivo) (s : Db) :
    Ajeno (fuenteDe year month) s
      (Prog.run (exec M) (loadChilecompraSlice M year month limit a) s).2 :=
  run_ajeno (load_deCarga M year month limit a) s

/-! ## another slice -/

namespace Ajeno

variable {f : String} {s t : Db}

theorem contratosDe (h : Ajeno g s t) (hfg : f ≠ g) : t.contratosDe f = s.contratosDe f := by
  unfold Db.contratosDe
  rw [← filter_otros hfg, h.contrato, filter_otros hfg]

theorem alertasDe (h : Ajeno g s t) (hfg : f ≠ g) :
    (t.alerta.rows.filter fun a => decide (a.fuente = some f)) =
      s.alerta.rows.filter fun a => decide (a.fuente = some f) := by
  rw [← filter_otros hfg, h.alerta, filter_otros hfg]

/-- **The join of the detection queries of another slice is the same.** -/
theorem unidos (h : Ajeno g s t) (hfg : f ≠ g) : t.unidos f = s.unidos f := by
  apply unidos_congr (h.contratosDe hfg)
  intro c hc k hk
  obtain ⟨hm, hf⟩ := mem_contratosDe.mp hc
  have hne : c.fuente ≠ some g := by
    rw [hf]
    exact fun e => hfg (Option.some.inj e)
  rw [h.refEmp c hm hne k hk]

end Ajeno

end

end Fractura
