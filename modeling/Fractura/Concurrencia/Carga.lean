import Fractura.Lib.Weave
import Fractura.Chilecompra.Ajeno

/-!
# What a load sees of the store

`visibles p pa s` are the rows of `s` whose slice is in the class `p` (for the alerts, `pa`).  The
statements of a load of `g` that bring keys of `K` only (`DeCargaEn K g`) act through the visible
rows as soon as those include everything that the load can meet (`Ve p K g s`): the rows of its own
slice, the rows that carry a key of `K`, and the contracts that use a parent of `g`
(`carga_actsThrough`).

Two loads of different slices that share no key see only their own rows: `cargas_separadas`.
-/

namespace Fractura

open Db

section
variable {V : Type} {M : Motor}

/-! ## statements at two stores -/

/-- both stores accept the statement, and agree afterwards, or both reject it with one error -/
def Coinciden (v : Db → V) : Except Error Db → Except Error Db → Prop
  | .ok s, .ok t => v s = v t
  | .error e, .error e' => e = e'
  | _, _ => False

theorem actsThrough_of {P : Sentencia → Prop} {I : Db → Prop} {v : Db → V}
    (hq : ∀ q, P (.query q) → ∀ s t, I s → I t → v s = v t → filas M s q = filas M t q)
    (hd : ∀ d, P (.dml d) → ∀ s t, I s → I t → v s = v t → Coinciden v (d.exec s) (d.exec t)) :
    Prog.ActsThrough (exec M) P I v := by
  intro q hP s t hs ht hv
  cases q with
  | query q =>
    have hf := hq q hP s t hs ht hv
    refine ⟨?_, ?_⟩
    · intro r s' h
      obtain ⟨rfl, rows, hrows, rfl⟩ := exec_query_ok h
      exact ⟨t, exec_query (hf.symm.trans hrows), hv⟩
    · intro e h
      exact exec_query_error.mpr (hf.symm.trans (exec_query_error.mp h))
  | dml d =>
    have hc := hd d hP s t hs ht hv
    refine ⟨?_, ?_⟩
    · intro r s' h
      rw [exec_dml_ok h] at hc
      cases hdt : d.exec t with
      | error e => rw [hdt] at hc; exact hc.elim
      | ok t' =>
        rw [hdt] at hc
        exact ⟨t', exec_dml hdt, hc⟩
    · intro e h
      cases hds : d.exec s with
      | ok s' =>
        rw [exec_dml hds] at h
        cases h
      | error e' =>
        rw [exec_dml_error hds] at h
        cases h
        rw [hds] at hc
        cases hdt : d.exec t with
        | ok t' => rw [hdt] at hc; exact hc.elim
        | error e' =>
          rw [hdt] at hc
          rw [exec_dml_error hdt, hc]

/-! ## keys -/

/-- keys of organisms, of suppliers and of contracts -/
structure Claves where
  organismo : List String
  empresa : List String
  contrato : List String

/-- the keys that a load can insert -/
def Frames.claves (fr : Frames) : Claves where
  organismo := fr.org.filterMap FilaOrg.rut
  empresa := fr.emp.filterMap FilaEmp.id
  contrato := fr.con.filterMap FilaCon.id

/-- the statement inserts keys of `K` only, and contracts whose parents have keys of `K` -/
def Dml.Trae (K : Claves) : Dml → Prop
  | .insertOrganismo r => ∀ k, r.rut = some k → k ∈ K.organismo
  | .insertEmpresa r => ∀ k, r.id = some k → k ∈ K.empresa
  | .insertContrato r => (∀ k, r.id = some k → k ∈ K.contrato) ∧
      (∀ k, r.organismoId = some k → k ∈ K.organismo) ∧ ∀ k, r.proveedorId = some k → k ∈ K.empresa
  | _ => True

/-- a statement of a load of `g` that brings keys of `K` -/
structure DeCargaEn (K : Claves) (g : String) (q : Sentencia) : Prop where
  deCarga : DeCarga g q
  trae : ∀ d, q = .dml d → d.Trae K

/-! ## the visible rows -/

/-- the rows whose slice is in a class -/
def deClase {ρ : Type} (p : Option String → Bool) (fuente : ρ → Option String) (rows : List ρ) :
    List ρ :=
  rows.filter fun r => p (fuente r)

theorem mem_deClase {ρ : Type} {p : Option String → Bool} {fuente : ρ → Option String}
    {rows : List ρ} {r : ρ} : r ∈ deClase p fuente rows ↔ r ∈ rows ∧ p (fuente r) = true :=
  List.mem_filter

theorem deClase_filter {ρ : Type} (p : Option String → Bool) (fuente : ρ → Option String)
    (q : ρ → Bool) (rows : List ρ) :
    deClase p fuente (rows.filter q) = (deClase p fuente rows).filter q :=
  List.filter_comm _ _ rows

theorem filter_deClase {ρ : Type} {p : Option String → Bool} {fuente : ρ → Option String}
    {g : String} (hp : p (some g) = true) (rows : List ρ) :
    (deClase p fuente rows).filter (fun r => decide (fuente r = some g)) =
      rows.filter fun r => decide (fuente r = some g) := by
  unfold deClase
  rw [List.filter_filter]
  apply List.filter_congr
  intro r _
  by_cases hf : fuente r = some g
  · rw [hf, hp]
    simp
  · simp [hf]

structure Vista where
  organismo : List Organismo
  empresa : List Empresa
  contrato : List Contrato
  alerta : List Alerta

def visibles (p pa : Option String → Bool) (s : Db) : Vista where
  organismo := deClase p Organismo.fuente s.organismo.rows
  empresa := deClase p Empresa.fuente s.empresa.rows
  contrato := deClase p Contrato.fuente s.contrato.rows
  alerta := deClase pa Alerta.fuente s.alerta.rows

theorem visibles_eq {p pa : Option String → Bool} {s t : Db}
    (ho : deClase p Organismo.fuente s.organismo.rows = deClase p Organismo.fuente t.organismo.rows)
    (he : deClase p Empresa.fuente s.empresa.rows = deClase p Empresa.fuente t.empresa.rows)
    (hc : deClase p Contrato.fuente s.contrato.rows = deClase p Contrato.fuente t.contrato.rows)
    (ha : deClase pa Alerta.fuente s.alerta.rows = deClase pa Alerta.fuente t.alerta.rows) :
    visibles p pa s = visibles p pa t := by
  unfold visibles
  rw [ho, he, hc, ha]

/-- everything that a load of `g` with keys of `K` can meet is visible -/
structure Ve (p : Option String → Bool) (K : Claves) (g : String) (s : Db) : Prop where
  organismo : ∀ o ∈ s.organismo.rows, o.rut ∈ K.organismo → p o.fuente = true
  empresa : ∀ e ∈ s.empresa.rows, e.id ∈ K.empresa → p e.fuente = true
  contrato : ∀ c ∈ s.contrato.rows, c.id ∈ K.contrato → p c.fuente = true
  usoOrg : ∀ o ∈ s.organismo.rows, o.fuente = some g → ∀ c ∈ s.contrato.rows,
    c.organismoId = some o.rut → p c.fuente = true
  usoEmp : ∀ e ∈ s.empresa.rows, e.fuente = some g → ∀ c ∈ s.contrato.rows,
    c.proveedorId = some e.id → p c.fuente = true

variable {p pa : Option String → Bool} {K : Claves} {g : String}

section
variable {s t : Db} (hv : visibles p pa s = visibles p pa t)
include hv

theorem empresaEnUso_of_visibles (hpg : p (some g) = true) (hs : Ve p K g s)
    (h : s.EmpresaEnUso g) : t.EmpresaEnUso g := by
  obtain ⟨e, he, hf, c, hc, hk⟩ := h
  have he' : e ∈ (visibles p pa s).empresa := mem_deClase.mpr ⟨he, by rw [hf]; exact hpg⟩
  have hc' : c ∈ (visibles p pa s).contrato := mem_deClase.mpr ⟨hc, hs.usoEmp e he hf c hc hk⟩
  rw [hv] at he' hc'
  exact ⟨e, (mem_deClase.mp he').1, hf, c, (mem_deClase.mp hc').1, hk⟩

theorem organismoEnUso_of_visibles (hpg : p (some g) = true) (hs : Ve p K g s)
    (h : s.OrganismoEnUso g) : t.OrganismoEnUso g := by
  obtain ⟨o, ho, hf, c, hc, hk⟩ := h
  have ho' : o ∈ (visibles p pa s).organismo := mem_deClase.mpr ⟨ho, by rw [hf]; exact hpg⟩
  have hc' : c ∈ (visibles p pa s).contrato := mem_deClase.mpr ⟨hc, hs.usoOrg o ho hf c hc hk⟩
  rw [hv] at ho' hc'
  exact ⟨o, (mem_deClase.mp ho').1, hf, c, (mem_deClase.mp hc').1, hk⟩

theorem organismo_of_visibles (hs : Ve p K g s) {k : String} (hk : k ∈ K.organismo)
    (h : k ∈ s.organismo.keys) : k ∈ t.organismo.keys := by
  refine KeyTable.mem_keys_of_filter_eq (congrArg Vista.organismo hv) ?_ h
  intro o ho hok
  exact hs.organismo o ho (by rw [hok]; exact hk)

theorem empresa_of_visibles (hs : Ve p K g s) {k : String} (hk : k ∈ K.empresa)
    (h : k ∈ s.empresa.keys) : k ∈ t.empresa.keys := by
  refine KeyTable.mem_keys_of_filter_eq (congrArg Vista.empresa hv) ?_ h
  intro e he hek
  exact hs.empresa e he (by rw [hek]; exact hk)

theorem contrato_of_visibles (hs : Ve p K g s) {k : String} (hk : k ∈ K.contrato)
    (h : k ∈ s.contrato.keys) : k ∈ t.contrato.keys := by
  refine KeyTable.mem_keys_of_filter_eq (congrArg Vista.contrato hv) ?_ h
  intro c hc hck
  exact hs.contrato c hc (by rw [hck]; exact hk)

theorem parents_of_visibles (hs : Ve p K g s) {c : Contrato}
    (ho : ∀ k, c.organismoId = some k → k ∈ K.organismo)
    (he : ∀ k, c.proveedorId = some k → k ∈ K.empresa) (h : s.Parents c) : t.Parents c := by
  refine ⟨fun k hk => ?_, fun k hk => ?_⟩
  · exact organismo_of_visibles hv hs (ho k hk) (h.1 k hk)
  · exact empresa_of_visibles hv hs (he k hk) (h.2 k hk)

end

/-! ## one statement -/

theorem deClase_filter_congr {ρ : Type} {fuente : ρ → Option String} {l l' : List ρ} (q : ρ → Bool)
    (h : deClase p fuente l = deClase p fuente l') :
    deClase p fuente (l.filter q) = deClase p fuente (l'.filter q) := by
  rw [deClase_filter, deClase_filter, h]

section
variable {s t : Db} (hs : Ve p K g s) (ht : Ve p K g t) (hv : visibles p pa s = visibles p pa t)
include hs ht hv

theorem coinciden_deleteEmpresa (hpg : p (some g) = true) :
    Coinciden (visibles p pa) (s.deleteEmpresa g) (t.deleteEmpresa g) := by
  unfold deleteEmpresa
  by_cases h : s.EmpresaEnUso g
  · have h' := empresaEnUso_of_visibles hv hpg hs h
    rw [dif_pos h, dif_pos h']
    rfl
  · have h' : ¬ t.EmpresaEnUso g := fun h' => h (empresaEnUso_of_visibles hv.symm hpg ht h')
    rw [dif_neg h, dif_neg h']
    exact visibles_eq (congrArg Vista.organismo hv)
      (deClase_filter_congr _ (congrArg Vista.empresa hv)) (congrArg Vista.contrato hv)
      (congrArg Vista.alerta hv)

theorem coinciden_deleteOrganismo (hpg : p (some g) = true) :
    Coinciden (visibles p pa) (s.deleteOrganismo g) (t.deleteOrganismo g) := by
  unfold deleteOrganismo
  by_cases h : s.OrganismoEnUso g
  · have h' := organismoEnUso_of_visibles hv hpg hs h
    rw [dif_pos h, dif_pos h']
    rfl
  · have h' : ¬ t.OrganismoEnUso g := fun h' => h (organismoEnUso_of_visibles hv.symm hpg ht h')
    rw [dif_neg h, dif_neg h']
    exact visibles_eq (deClase_filter_congr _ (congrArg Vista.organismo hv))
      (congrArg Vista.empresa hv) (congrArg Vista.contrato hv) (congrArg Vista.alerta hv)

theorem coinciden_insertOrganismo {r : FilaOrg} (hr : ∀ k, r.rut = some k → k ∈ K.organismo) :
    Coinciden (visibles p pa) (s.insertOrganismo r) (t.insertOrganismo r) := by
  unfold insertOrganismo
  cases hk : r.rut with
  | none => rfl
  | some k =>
    cases r.nombre with
    | none => rfl
    | some n =>
      have hkey : k ∈ s.organismo.keys ↔ k ∈ t.organismo.keys :=
        ⟨organismo_of_visibles hv hs (hr k hk), organismo_of_visibles hv.symm ht (hr k hk)⟩
      exact visibles_eq
        (KeyTable.filter_insertOrIgnore_congr (congrArg Vista.organismo hv) hkey)
        (congrArg Vista.empresa hv) (congrArg Vista.contrato hv) (congrArg Vista.alerta hv)

theorem coinciden_insertEmpresa {r : FilaEmp} (hr : ∀ k, r.id = some k → k ∈ K.empresa) :
    Coinciden (visibles p pa) (s.insertEmpresa r) (t.insertEmpresa r) := by
  unfold insertEmpresa
  cases hk : r.id with
  | none => rfl
  | some k =>
    cases r.nombre with
    | none => rfl
    | some n =>
      have hkey : k ∈ s.empresa.keys ↔ k ∈ t.empresa.keys :=
        ⟨empresa_of_visibles hv hs (hr k hk), empresa_of_visibles hv.symm ht (hr k hk)⟩
      exact visibles_eq (congrArg Vista.organismo hv)
        (KeyTable.filter_insertOrIgnore_congr (congrArg Vista.empresa hv) hkey)
        (congrArg Vista.contrato hv) (congrArg Vista.alerta hv)

theorem coinciden_insertContrato {r : FilaCon} (hr : ∀ k, r.id = some k → k ∈ K.contrato)
    (ho : ∀ k, r.organismoId = some k → k ∈ K.organismo)
    (he : ∀ k, r.proveedorId = some k → k ∈ K.empresa) :
    Coinciden (visibles p pa) (s.insertContrato r) (t.insertContrato r) := by
  unfold insertContrato
  cases hk : r.id with
  | none => rfl
  | some k =>
    dsimp only
    have hkey : k ∈ s.contrato.keys ↔ k ∈ t.contrato.keys :=
      ⟨contrato_of_visibles hv hs (hr k hk), contrato_of_visibles hv.symm ht (hr k hk)⟩
    by_cases hm : k ∈ s.contrato.keys
    · rw [if_pos hm, if_pos (hkey.mp hm)]
      exact hv
    · rw [if_neg hm, if_neg (fun h => hm (hkey.mpr h))]
      -- the parents have keys of `K`, so both stores see them or none does
      split
      case isTrue hp =>
        rw [dif_pos (parents_of_visibles hv hs (c := ⟨k, _, _, _, _, _, _, _, _, _⟩) ho he hp)]
        exact visibles_eq (congrArg Vista.organismo hv) (congrArg Vista.empresa hv)
          (KeyTable.filter_insertOrIgnore_congr (congrArg Vista.contrato hv) hkey)
          (congrArg Vista.alerta hv)
      case isFalse hp =>
        rw [dif_neg fun h => hp
          (parents_of_visibles hv.symm ht (c := ⟨k, _, _, _, _, _, _, _, _, _⟩) ho he h)]
        rfl

end

/-- **A load acts through what it sees.** -/
theorem carga_actsThrough {I : Db → Prop} (hpg : p (some g) = true) (hI : ∀ s, I s → Ve p K g s) :
    Prog.ActsThrough (exec M) (DeCargaEn K g) I (visibles p pa) := by
  refine actsThrough_of ?_ ?_
  · intro q hq s t _ _ hv
    cases hq.deCarga with
    | query q hc =>
      cases hc with
      | organismo =>
        show Except.ok [_] = Except.ok [_]
        rw [← filter_deClase hpg s.organismo.rows, ← filter_deClase hpg t.organismo.rows]
        rw [show deClase p Organismo.fuente s.organismo.rows = _ from congrArg Vista.organismo hv]
        rfl
      | empresa =>
        show Except.ok [_] = Except.ok [_]
        rw [← filter_deClase hpg s.empresa.rows, ← filter_deClase hpg t.empresa.rows]
        rw [show deClase p Empresa.fuente s.empresa.rows = _ from congrArg Vista.empresa hv]
        rfl
      | contrato =>
        show Except.ok [_] = Except.ok [_]
        rw [← filter_deClase hpg s.contrato.rows, ← filter_deClase hpg t.contrato.rows]
        rw [show deClase p Contrato.fuente s.contrato.rows = _ from congrArg Vista.contrato hv]
        rfl
  · intro d hd s t hs ht hv
    have hs := hI s hs
    have ht := hI t ht
    have htr := hd.trae d rfl
    cases hd.deCarga with
    | deleteContrato =>
      exact visibles_eq (congrArg Vista.organismo hv) (congrArg Vista.empresa hv)
        (deClase_filter_congr _ (congrArg Vista.contrato hv)) (congrArg Vista.alerta hv)
    | deleteAlerta =>
      exact visibles_eq (congrArg Vista.organismo hv) (congrArg Vista.empresa hv)
        (congrArg Vista.contrato hv) (deClase_filter_congr _ (congrArg Vista.alerta hv))
    | deleteEmpresa => exact coinciden_deleteEmpresa hs ht hv hpg
    | deleteOrganismo => exact coinciden_deleteOrganismo hs ht hv hpg
    | insertOrganismo r => exact coinciden_insertOrganismo hs ht hv htr
    | insertEmpresa r => exact coinciden_insertEmpresa hs ht hv htr
    | insertContrato r => exact coinciden_insertContrato hs ht hv htr.1 htr.2.1 htr.2.2

/-! ## two loads that share no key -/

def Claves.Disjuntas (K L : Claves) : Prop :=
  (∀ k ∈ K.organismo, k ∉ L.organismo) ∧ (∀ k ∈ K.empresa, k ∉ L.empresa) ∧
    ∀ k ∈ K.contrato, k ∉ L.contrato

instance (K L : Claves) : Decidable (K.Disjuntas L) := by
  unfold Claves.Disjuntas; infer_instance

theorem Claves.Disjuntas.symm {K L : Claves} (h : K.Disjuntas L) : L.Disjuntas K :=
  ⟨fun k hl hk => h.1 k hk hl, fun k hl hk => h.2.1 k hk hl, fun k hl hk => h.2.2 k hk hl⟩

/-- the stored rows of a slice, and the parents of its contracts, have keys of `K` -/
structure Dentro (K : Claves) (f : String) (s : Db) : Prop where
  organismo : ∀ o ∈ s.organismo.rows, o.fuente = some f → o.rut ∈ K.organismo
  empresa : ∀ e ∈ s.empresa.rows, e.fuente = some f → e.id ∈ K.empresa
  contrato : ∀ c ∈ s.contrato.rows, c.fuente = some f → c.id ∈ K.contrato
  refOrg : ∀ c ∈ s.contrato.rows, c.fuente = some f →
    ∀ k, c.organismoId = some k → k ∈ K.organismo
  refEmp : ∀ c ∈ s.contrato.rows, c.fuente = some f →
    ∀ k, c.proveedorId = some k → k ∈ K.empresa

variable {L : Claves} {f : String} {s t : Db}

theorem Dentro.ajeno (hfg : f ≠ g) (h : Ajeno g s t) (hs : Dentro K f s) : Dentro K f t := by
  have hne : some f ≠ some g := fun e => hfg (Option.some.inj e)
  have hcon {c : Contrato} (hc : c ∈ t.contrato.rows) (hf : c.fuente = some f) :
      c ∈ s.contrato.rows := (h.mem_contrato (by rw [hf]; exact hne)).mp hc
  refine ⟨?_, ?_, ?_, ?_, ?_⟩
  · exact fun o ho hf => hs.organismo o (h.mem_organismo (by rw [hf]; exact hne) ho) hf
  · exact fun e he hf => hs.empresa e (h.mem_empresa (by rw [hf]; exact hne) he) hf
  · exact fun c hc hf => hs.contrato c (hcon hc hf) hf
  · exact fun c hc hf => hs.refOrg c (hcon hc hf) hf
  · exact fun c hc hf => hs.refEmp c (hcon hc hf) hf

theorem Dentro.exec {q : Sentencia} (hq : DeCargaEn K f q) {x : Resp q} (hs : Dentro K f s)
    (h : exec M q s = .ok (x, t)) : Dentro K f t := by
  have hap := exec_aporta hq.deCarga h
  refine ⟨?_, ?_, ?_, ?_, ?_⟩
  · intro o ho hf
    rcases hap.organismo o ho with ho | ⟨r, k, rfl, hk, rfl⟩
    · exact hs.organismo o ho hf
    · have hid : r.toOrganismo.rut = k := by simp [FilaOrg.toOrganismo, hk]
      rw [hid]
      exact hq.trae _ rfl k hk
  · intro e he hf
    rcases hap.empresa e he with he | ⟨r, k, rfl, hk, rfl⟩
    · exact hs.empresa e he hf
    · have hid : r.toEmpresa.id = k := by simp [FilaEmp.toEmpresa, hk]
      rw [hid]
      exact hq.trae _ rfl k hk
  · intro c hc hf
    rcases hap.contrato c hc with hc | ⟨r, k, rfl, hk, rfl⟩
    · exact hs.contrato c hc hf
    · have hid : r.toContrato.id = k := by simp [FilaCon.toContrato, hk]
      rw [hid]
      exact (hq.trae _ rfl).1 k hk
  · intro c hc hf
    rcases hap.contrato c hc with hc | ⟨r, k, rfl, hk, rfl⟩
    · exact hs.refOrg c hc hf
    · exact (hq.trae _ rfl).2.1
  · intro c hc hf
    rcases hap.contrato c hc with hc | ⟨r, k, rfl, hk, rfl⟩
    · exact hs.refEmp c hc hf
    · exact (hq.trae _ rfl).2.2

/-- the rows of the other slices -/
def noDe (g : String) (x : Option String) : Bool := decide (x ≠ some g)

theorem visibles_ajeno (h : Ajeno g s t) :
    visibles (noDe g) (noDe g) t = visibles (noDe g) (noDe g) s :=
  visibles_eq h.organismo h.empresa h.contrato h.alerta

/-- without common keys a load meets no row of the other slice -/
theorem ve_of_dentro (hd : K.Disjuntas L) (hK : Dentro K f s) (hL : Dentro L g s) :
    Ve (noDe g) K f s := by
  refine ⟨?_, ?_, ?_, ?_, ?_⟩
  · intro o ho hk
    exact decide_eq_true fun hg => hd.1 _ hk (hL.organismo o ho hg)
  · intro e he hk
    exact decide_eq_true fun hg => hd.2.1 _ hk (hL.empresa e he hg)
  · intro c hc hk
    exact decide_eq_true fun hg => hd.2.2 _ hk (hL.contrato c hc hg)
  · intro o ho hf c hc hk
    exact decide_eq_true fun hg => hd.1 _ (hK.organismo o ho hf) (hL.refOrg c hc hg _ hk)
  · intro e he hf c hc hk
    exact decide_eq_true fun hg => hd.2.1 _ (hK.empresa e he hf) (hL.refEmp c hc hg _ hk)

/-- **Two loads of different slices that share no key are separate**: under every schedule they
end as one after the other, with the same rows. -/
theorem cargas_separadas {α β : Type} (hfg : f ≠ g) (hd : K.Disjuntas L) (w : List Bool)
    {p : Prg α} {q : Prg β} (hp : p.All (DeCargaEn K f)) (hq : q.All (DeCargaEn L g))
    (hK : Dentro K f s) (hL : Dentro L g s) {p' : Prg α} {q' : Prg β}
    (hw : Prog.weave (exec M) w p q s = (p', q', t)) {x : Except Error α} {y : Except Error β}
    (hx : p'.result = some x) (hy : q'.result = some y) :
    x = (Prog.run (exec M) p s).1 ∧
      y = (Prog.run (exec M) q (Prog.run (exec M) p s).2).1 ∧
      visibles (noDe g) (noDe g) t =
        visibles (noDe g) (noDe g) (Prog.run (exec M) q (Prog.run (exec M) p s).2).2 ∧
      visibles (noDe f) (noDe f) t =
        visibles (noDe f) (noDe f) (Prog.run (exec M) q (Prog.run (exec M) p s).2).2 := by
  have hsee (f g : String) (hfg : f ≠ g) : noDe g (some f) = true :=
    decide_eq_true fun e => hfg (Option.some.inj e)
  let I (s : Db) : Prop := Dentro K f s ∧ Dentro L g s
  have h₁ : Prog.ActsThrough (exec M) (DeCargaEn K f) I (visibles (noDe g) (noDe g)) :=
    carga_actsThrough (hsee f g hfg) fun s hs => ve_of_dentro hd hs.1 hs.2
  have h₂ : Prog.ActsThrough (exec M) (DeCargaEn L g) I (visibles (noDe f) (noDe f)) :=
    carga_actsThrough (hsee g f (Ne.symm hfg)) fun s hs => ve_of_dentro hd.symm hs.2 hs.1
  have l₁ : Prog.Leaves (exec M) (DeCargaEn K f) I (visibles (noDe f) (noDe f)) := by
    intro q hq s r s' hs h
    have haj := exec_ajeno hq.deCarga h
    exact ⟨⟨hs.1.exec hq h, hs.2.ajeno (Ne.symm hfg) haj⟩, visibles_ajeno haj⟩
  have l₂ : Prog.Leaves (exec M) (DeCargaEn L g) I (visibles (noDe g) (noDe g)) := by
    intro q hq s r s' hs h
    have haj := exec_ajeno hq.deCarga h
    exact ⟨⟨hs.1.ajeno hfg haj, hs.2.exec hq h⟩, visibles_ajeno haj⟩
  exact Prog.weave_separate h₁ h₂ l₁ l₂ w hp hq ⟨hK, hL⟩ hw hx hy

/-! ## the keys of a load -/

instance : Append Claves :=
  ⟨fun K L => ⟨K.organismo ++ L.organismo, K.empresa ++ L.empresa, K.contrato ++ L.contrato⟩⟩

/-- the keys of the stored rows of a slice and of the parents of its contracts -/
def Db.claves (s : Db) (f : String) : Claves where
  organismo := (s.organismo.rows.filter fun o => decide (o.fuente = some f)).map Organismo.rut ++
    (s.contratosDe f).filterMap Contrato.organismoId
  empresa := (s.empresa.rows.filter fun e => decide (e.fuente = some f)).map Empresa.id ++
    (s.contratosDe f).filterMap Contrato.proveedorId
  contrato := (s.contratosDe f).map Contrato.id

/-- the keys that a file brings -/
def Archivo.claves (M : Motor) (f : String) (limit : Int) : Archivo → Claves
  | .csv filas =>
    match frames M f filas limit with
    | .ok fr => fr.claves
    | .error _ => ⟨[], [], []⟩
  | _ => ⟨[], [], []⟩

theorem dentro_claves (K : Claves) : Dentro (K ++ s.claves f) f s := by
  refine ⟨?_, ?_, ?_, ?_, ?_⟩
  · intro o ho hf
    refine List.mem_append_right _ (List.mem_append_left _ (List.mem_map_of_mem ?_))
    exact List.mem_filter.mpr ⟨ho, decide_eq_true hf⟩
  · intro e he hf
    refine List.mem_append_right _ (List.mem_append_left _ (List.mem_map_of_mem ?_))
    exact List.mem_filter.mpr ⟨he, decide_eq_true hf⟩
  · intro c hc hf
    exact List.mem_append_right _ (List.mem_map_of_mem (mem_contratosDe.mpr ⟨hc, hf⟩))
  · intro c hc hf k hk
    refine List.mem_append_right _ (List.mem_append_right _ ?_)
    exact List.mem_filterMap.mpr ⟨c, mem_contratosDe.mpr ⟨hc, hf⟩, hk⟩
  · intro c hc hf k hk
    refine List.mem_append_right _ (List.mem_append_right _ ?_)
    exact List.mem_filterMap.mpr ⟨c, mem_contratosDe.mpr ⟨hc, hf⟩, hk⟩

theorem guardar_trae {fr : Frames} (h : fr.Wf f) (K : Claves) :
    (guardar f fr).All fun q => ∀ d, q = .dml d → d.Trae (fr.claves ++ K) := by
  refine guardar_all ?_ ?_ ?_ ?_ ?_ ?_ ?_ ?_
  · intro q _ d hd
    cases hd
  · intro d hd
    cases hd
    trivial
  · intro d hd
    cases hd
    trivial
  · intro d hd
    cases hd
    trivial
  · intro d hd
    cases hd
    trivial
  · intro o ho d hd
    cases hd
    intro k hk
    exact List.mem_append_left _ (List.mem_filterMap.mpr ⟨o, ho, hk⟩)
  · intro e he d hd
    cases hd
    intro k hk
    exact List.mem_append_left _ (List.mem_filterMap.mpr ⟨e, he, hk⟩)
  · intro c hc d hd
    cases hd
    obtain ⟨-, -, ⟨ko, hko, hmo⟩, ⟨kp, hkp, hmp⟩⟩ := h.con c hc
    refine ⟨fun k hk => ?_, fun k hk => ?_, fun k hk => ?_⟩
    · exact List.mem_append_left _ (List.mem_filterMap.mpr ⟨c, hc, hk⟩)
    · rw [hko] at hk
      cases hk
      obtain ⟨o, ho, hor⟩ := List.mem_map.mp hmo
      exact List.mem_append_left _ (List.mem_filterMap.mpr ⟨o, ho, hor⟩)
    · rw [hkp] at hk
      cases hk
      obtain ⟨e, he, her⟩ := List.mem_map.mp hmp
      exact List.mem_append_left _ (List.mem_filterMap.mpr ⟨e, he, her⟩)

theorem load_deCargaEn (M : Motor) (year month limit : Int) (a : Archivo) (K : Claves) :
    (loadChilecompraSlice M year month limit a).All
      (DeCargaEn (a.claves M (fuenteDe year month) limit ++ K) (fuenteDe year month)) := by
  refine load_all fun csv fr ha hfr => ?_
  have hw := frames_wf hfr
  have hcl : a.claves M (fuenteDe year month) limit = fr.claves := by
    rw [ha]
    simp only [Archivo.claves, hfr]
  rw [hcl]
  exact ((guardar_deCarga hw).and (guardar_trae hw K)).mono fun q h => ⟨h.1, h.2⟩

end

end Fractura
