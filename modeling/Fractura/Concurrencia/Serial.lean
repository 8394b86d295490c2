import Fractura.Concurrencia.Deteccion

/-!
# Two requests at once

No statement of the backend opens a transaction and no lock is taken, so two requests that change
the store interleave statement by statement.  `desenlace` runs a schedule to the end of both, and
`Serial` compares it with the two sequential orders: the success of each request and the four
tables, as sets of rows, the alerts up to their moment.

`serializables`: the load of a slice and the detection of another one, and two loads of different
slices that share no key.  `no_serializables`: two detections of one slice, two loads of one slice,
a load and a detection of one slice, and two loads that share their parents.
-/

namespace Fractura

open Db

/-! ## outcomes -/

def exitoso {α : Type} : Except Error α → Bool
  | .ok _ => true
  | .error _ => false

def MismasTablas (s t : Db) : Prop :=
  MismasFilas s.contrato.rows t.contrato.rows ∧ MismasFilas s.empresa.rows t.empresa.rows ∧
    MismasFilas s.organismo.rows t.organismo.rows ∧
    MismasFilas (s.alerta.rows.map Alerta.sinHora) (t.alerta.rows.map Alerta.sinHora)

/-- the success of the two requests, and the store at the end -/
structure Desenlace where
  izq : Bool
  der : Bool
  tienda : Db

structure Iguales (d e : Desenlace) : Prop where
  izq : d.izq = e.izq
  der : d.der = e.der
  tablas : MismasTablas d.tienda e.tienda

instance (s t : Db) : Decidable (MismasTablas s t) := by unfold MismasTablas; infer_instance

instance (d e : Desenlace) : Decidable (Iguales d e) :=
  decidable_of_iff (d.izq = e.izq ∧ d.der = e.der ∧ MismasTablas d.tienda e.tienda)
    ⟨fun h => ⟨h.1, h.2.1, h.2.2⟩, fun h => ⟨h.izq, h.der, h.tablas⟩⟩

section
variable (M : Motor) {α β : Type}

/-- the outcome of a schedule, if both programs have ended -/
def desenlace (w : List Bool) (p : Prg α) (q : Prg β) (s : Db) : Option Desenlace :=
  match Prog.weave (exec M) w p q s with
  | (p', q', t) =>
    match p'.result, q'.result with
    | some x, some y => some ⟨exitoso x, exitoso y, t⟩
    | _, _ => none

/-- first `p`, then `q` -/
def primeroIzq (p : Prg α) (q : Prg β) (s : Db) : Desenlace where
  izq := exitoso (Prog.run (exec M) p s).1
  der := exitoso (Prog.run (exec M) q (Prog.run (exec M) p s).2).1
  tienda := (Prog.run (exec M) q (Prog.run (exec M) p s).2).2

/-- first `q`, then `p` -/
def primeroDer (p : Prg α) (q : Prg β) (s : Db) : Desenlace where
  izq := exitoso (Prog.run (exec M) p (Prog.run (exec M) q s).2).1
  der := exitoso (Prog.run (exec M) q s).1
  tienda := (Prog.run (exec M) p (Prog.run (exec M) q s).2).2

def Serial (p : Prg α) (q : Prg β) (s : Db) (d : Desenlace) : Prop :=
  Iguales d (primeroIzq M p q s) ∨ Iguales d (primeroDer M p q s)

instance (p : Prg α) (q : Prg β) (s : Db) (d : Desenlace) : Decidable (Serial M p q s d) := by
  unfold Serial; infer_instance

/-- at every reachable store and under every schedule the outcome is that of a sequential order -/
def Serializables (p : Prg α) (q : Prg β) : Prop :=
  ∀ s, Alcanzable M s → ∀ w d, desenlace M w p q s = some d → Serial M p q s d

end

section
variable {M : Motor} {α β : Type}

theorem desenlace_eq {w : List Bool} {p : Prg α} {q : Prg β} {s : Db} {d : Desenlace}
    (h : desenlace M w p q s = some d) :
    ∃ p' q' x y, Prog.weave (exec M) w p q s = (p', q', d.tienda) ∧ p'.result = some x ∧
      q'.result = some y ∧ d.izq = exitoso x ∧ d.der = exitoso y := by
  unfold desenlace at h
  cases hw : Prog.weave (exec M) w p q s with
  | mk p' r =>
    obtain ⟨q', t⟩ := r
    rw [hw] at h
    dsimp only at h
    cases hx : p'.result with
    | none =>
      rw [hx] at h
      cases h
    | some x =>
      cases hy : q'.result with
      | none =>
        rw [hx, hy] at h
        cases h
      | some y =>
        rw [hx, hy] at h
        cases h
        exact ⟨p', q', x, y, rfl, hx, hy, rfl, rfl⟩

/-! ## tables that are seen equal -/

theorem mismasFilas_of_clases {ρ : Type} {fuente : ρ → Option String} {l l' : List ρ}
    {p q : Option String → Bool} (hpq : ∀ x, p x = true ∨ q x = true)
    (hp : deClase p fuente l = deClase p fuente l')
    (hq : deClase q fuente l = deClase q fuente l') : MismasFilas l l' := by
  have key {l l' : List ρ} (hp : deClase p fuente l = deClase p fuente l')
      (hq : deClase q fuente l = deClase q fuente l') : ∀ x ∈ l, x ∈ l' := by
    intro x hx
    rcases hpq (fuente x) with h | h
    · have hm : x ∈ deClase p fuente l' := hp ▸ mem_deClase.mpr ⟨hx, h⟩
      exact (mem_deClase.mp hm).1
    · have hm : x ∈ deClase q fuente l' := hq ▸ mem_deClase.mpr ⟨hx, h⟩
      exact (mem_deClase.mp hm).1
  exact ⟨key hp hq, key hp.symm hq.symm⟩

theorem MismasFilas.map {ρ τ : Type} {l l' : List ρ} (h : MismasFilas l l') (f : ρ → τ) :
    MismasFilas (l.map f) (l'.map f) := by
  refine ⟨fun y hy => ?_, fun y hy => ?_⟩
  · obtain ⟨x, hx, rfl⟩ := List.mem_map.mp hy
    exact List.mem_map_of_mem (h.1 x hx)
  · obtain ⟨x, hx, rfl⟩ := List.mem_map.mp hy
    exact List.mem_map_of_mem (h.2 x hx)

theorem noDe_or {f g : String} (hfg : f ≠ g) (x : Option String) :
    noDe f x = true ∨ noDe g x = true := by
  by_cases h : x = some f
  · refine Or.inr (decide_eq_true fun h' => hfg (Option.some.inj (h.symm.trans h')))
  · exact Or.inl (decide_eq_true h)

theorem soloDe_or {g : String} (x : Option String) : soloDe g x = true ∨ noDe g x = true := by
  by_cases h : x = some g
  · exact Or.inl (decide_eq_true h)
  · exact Or.inr (decide_eq_true h)

/-- **The requests that are serialisable**: the load of a slice beside the detection of another
one, and two loads of different slices that share no key. -/
theorem serializables {year month year' month' : Int}
    (hfg : fuenteDe year month ≠ fuenteDe year' month') (limit limit' : Int) (a a' : Archivo) :
    Serializables M (loadChilecompraSlice M year month limit a)
      (runDetection M (some (fuenteDe year' month'))) ∧
    ∀ s : Db,
      (a.claves M (fuenteDe year month) limit ++ s.claves (fuenteDe year month)).Disjuntas
        (a'.claves M (fuenteDe year' month') limit' ++ s.claves (fuenteDe year' month')) →
      ∀ w d, desenlace M w (loadChilecompraSlice M year month limit a)
          (loadChilecompraSlice M year' month' limit' a') s = some d →
        Serial M (loadChilecompraSlice M year month limit a)
          (loadChilecompraSlice M year' month' limit' a') s d := by
  refine ⟨?_, ?_⟩
  · intro s hs w d hd
    obtain ⟨p', q', x, y, hw, hx, hy, hdx, hdy⟩ := desenlace_eq hd
    have hids := (inv_of_alcanzable hs).idsAparte (Ne.symm hfg)
    obtain ⟨hx', hy', hv₁, hv₂⟩ := carga_deteccion_separadas (Ne.symm hfg) w
      (load_deCargaEn M year month limit a ⟨[], [], []⟩) (runDetection_deDeteccion M _) hids hw hx hy
    refine Or.inl ⟨by rw [hdx, hx']; rfl, by rw [hdy, hy']; rfl, ?_⟩
    have htodas (x : Option String) : todas x = true ∨ todas x = true := Or.inl rfl
    refine ⟨?_, ?_, ?_, ?_⟩
    · exact mismasFilas_of_clases htodas (congrArg Vista.contrato hv₁) (congrArg Vista.contrato hv₁)
    · exact mismasFilas_of_clases htodas (congrArg Vista.empresa hv₁) (congrArg Vista.empresa hv₁)
    · exact mismasFilas_of_clases htodas (congrArg Vista.organismo hv₁)
        (congrArg Vista.organismo hv₁)
    · exact (mismasFilas_of_clases soloDe_or (congrArg Vista.alerta hv₁)
        (congrArg VistaDeteccion.alertas hv₂)).map _
  · intro s hdis w d hd
    obtain ⟨p', q', x, y, hw, hx, hy, hdx, hdy⟩ := desenlace_eq hd
    obtain ⟨hx', hy', hv₁, hv₂⟩ := cargas_separadas hfg hdis w
      (load_deCargaEn M year month limit a _) (load_deCargaEn M year' month' limit' a' _)
      (dentro_claves _) (dentro_claves _) hw hx hy
    refine Or.inl ⟨by rw [hdx, hx']; rfl, by rw [hdy, hy']; rfl, ?_⟩
    refine ⟨?_, ?_, ?_, ?_⟩
    · exact mismasFilas_of_clases (noDe_or (Ne.symm hfg)) (congrArg Vista.contrato hv₁)
        (congrArg Vista.contrato hv₂)
    · exact mismasFilas_of_clases (noDe_or (Ne.symm hfg)) (congrArg Vista.empresa hv₁)
        (congrArg Vista.empresa hv₂)
    · exact mismasFilas_of_clases (noDe_or (Ne.symm hfg)) (congrArg Vista.organismo hv₁)
        (congrArg Vista.organismo hv₂)
    · exact (mismasFilas_of_clases (noDe_or (Ne.symm hfg)) (congrArg Vista.alerta hv₁)
        (congrArg Vista.alerta hv₂)).map _

theorem not_serializables {p : Prg α} {q : Prg β} {s : Db} (hs : Alcanzable M s) (w : List Bool)
    (h : (desenlace M w p q s).any (fun d => decide (¬ Serial M p q s d)) = true) :
    ¬ Serializables M p q := by
  cases hd : desenlace M w p q s with
  | none =>
    rw [hd] at h
    cases h
  | some d =>
    rw [hd] at h
    exact fun hall => of_decide_eq_true h (hall s hs w d hd)

end

/-! ## schedules -/

/-- `n` steps of one side -/
def pasos (izq : Bool) (n : Nat) : List Bool := List.replicate n izq

def unaCompra (id nombre : String) : Archivo :=
  .csv [.orden id "1.000.000" "2024-05-01" "61-K" "76-K" "" nombre]

def otraCompra : Archivo := .csv [.orden "9-OC" "1.000.000" "2024-06-01" "62-K" "77-K" "" "Otra"]

abbrev cargaMayo (limit : Int) (a : Archivo) : Prg ResultadoCarga :=
  loadChilecompraSlice motorConcreto 2024 5 limit a

abbrev cargaJunio (a : Archivo) : Prg ResultadoCarga :=
  loadChilecompraSlice motorConcreto 2024 6 0 a

abbrev deteccionMayo : Prg (List (String × ResultadoFuente)) :=
  runDetection motorConcreto (some "chilecompra_oc_2024-05")

/-- statement by statement in turn, from the empty store and beside the detected slice -/
theorem serializables_mayo_junio :
    (∃ d, desenlace motorConcreto (pasos true 5 ++ pasos false 3 ++ pasos true 5 ++ pasos false 3)
        (cargaJunio otraCompra) deteccionMayo tiendaRecurrente = some d ∧
      Serial motorConcreto (cargaJunio otraCompra) deteccionMayo tiendaRecurrente d) ∧
    ∃ d, desenlace motorConcreto (pasos true 5 ++ pasos false 6 ++ pasos true 5 ++ pasos false 4)
        (cargaJunio otraCompra) (cargaMayo 0 (unaCompra "1-OC" "Uno")) .empty = some d ∧
      Serial motorConcreto (cargaJunio otraCompra) (cargaMayo 0 (unaCompra "1-OC" "Uno")) .empty d := by
  have hfg : fuenteDe 2024 6 ≠ fuenteDe 2024 5 := by decide +kernel
  obtain ⟨hdet, hcar⟩ := serializables (M := motorConcreto) hfg 0 0 otraCompra (unaCompra "1-OC" "Uno")
  refine ⟨?_, ?_⟩
  · obtain ⟨d, hd⟩ := Option.isSome_iff_exists.mp (show (desenlace motorConcreto
      (pasos true 5 ++ pasos false 3 ++ pasos true 5 ++ pasos false 3)
      (cargaJunio otraCompra) deteccionMayo tiendaRecurrente).isSome = true by decide +kernel)
    exact ⟨d, hd, hdet _ tiendaRecurrente_alcanzable _ d hd⟩
  · obtain ⟨d, hd⟩ := Option.isSome_iff_exists.mp (show (desenlace motorConcreto
      (pasos true 5 ++ pasos false 6 ++ pasos true 5 ++ pasos false 4)
      (cargaJunio otraCompra) (cargaMayo 0 (unaCompra "1-OC" "Uno")) .empty).isSome = true by
        decide +kernel)
    exact ⟨d, hd, hcar _ (by decide +kernel) _ d hd⟩

/-- the four pairs that are not serialisable -/
theorem no_serializables :
    ¬ Serializables motorConcreto deteccionMayo deteccionMayo ∧
    ¬ Serializables motorConcreto (cargaMayo 0 (unaCompra "1-OC" "Uno"))
      (cargaMayo 0 (unaCompra "1-OC" "Uno")) ∧
    ¬ Serializables motorConcreto (cargaMayo 1 (.csv comprasRecurrentes)) deteccionMayo ∧
    ¬ Serializables motorConcreto (cargaMayo 0 (unaCompra "1-OC" "Uno"))
      (cargaJunio (unaCompra "2-OC" "Dos")) := by
  refine ⟨?_, ?_, ?_, ?_⟩
  -- both delete the old alerts, then both insert the new one
  · exact not_serializables tiendaRecurrente_alcanzable
      (pasos true 2 ++ pasos false 2 ++ pasos true 4 ++ pasos false 2) (by decide +kernel)
  -- the second one deletes the parents that the first one has just inserted
  · exact not_serializables .vacio
      (pasos true 6 ++ pasos false 4 ++ pasos true 1 ++ pasos false 6) (by decide +kernel)
  -- the alert is inserted after the load has replaced the contracts it accuses
  · exact not_serializables tiendaRecurrente_alcanzable
      (pasos false 3 ++ pasos true 10 ++ pasos false 3) (by decide +kernel)
  -- one slice keeps the organism, the other one the supplier
  · exact not_serializables .vacio
      (pasos true 5 ++ pasos false 6 ++ pasos true 5 ++ pasos false 4) (by decide +kernel)

end Fractura
