import Fractura.Lib.Machine
import Mathlib.Data.List.Basic

/-!
# `components/StatItem.tsx`: the text of a statistic

The text that is shown is a state of its own, with the first label in it; only the ticks of a
`scramble` set it.  Each interval works on the label of the render that started it, and several may
run at a time.

* `corriendo_iff`        an interval runs exactly while it has ticked fewer than three times for each
                         character of its label;
* `actual_iff`           the text at rest is the current label exactly when the label does not change at
                         rest, and the tick that ends the last interval shows the current label
                         (`Oportuno`).
-/

namespace Fractura

/-- a text of JavaScript: its UTF-16 code units -/
abbrev Texto : Type := List UInt16

def unidades (c : Char) : Texto :=
  if c.toNat < 0x10000 then [c.toNat.toUInt16]
  else [(0xD800 + (c.toNat - 0x10000) / 0x400).toUInt16,
    (0xDC00 + (c.toNat - 0x10000) % 0x400).toUInt16]

def jsText (s : String) : Texto := s.toList.flatMap unidades

def CHARS : Texto := jsText "ABCDEFGHIJKLMNOPQRSTUVWXYZ0123456789!@#$%^&*"

/-- what `setInterval` keeps for a `scramble`: the label of its render, and `iteration` in thirds -/
structure Intervalo where
  label : Texto
  iteration : Nat
  corriendo : Bool

structure EstadoStat where
  label : Texto
  displayText : Texto
  intervalos : List Intervalo

/-- a render with a label, a hover or a click, a tick of the interval `i`, which draws `azar idx` from
`CHARS` at each place -/
inductive EventoStat where
  | cambio (label : Texto)
  | scramble
  | tick (i : Nat) (azar : Nat → Fin CHARS.length)

/-- the text of a tick: the label up to `iteration`, random characters after it -/
def cuadro (label : Texto) (iteration : Nat) (azar : Nat → Fin CHARS.length) : Texto :=
  label.mapIdx fun idx c => if 3 * idx < iteration then c else CHARS.get (azar idx)

/-- `iteration += 1 / 3; if (iteration >= stat.label.length) clearInterval(iv)` -/
def Intervalo.avanza (iv : Intervalo) : Intervalo :=
  { iv with
    iteration := iv.iteration + 1
    corriendo := decide (iv.iteration + 1 < 3 * iv.label.length) }

def pasoStat : EventoStat → EstadoStat → Option EstadoStat
  | .cambio label, s => some { s with label := label }
  | .scramble, s => some { s with intervalos := s.intervalos ++ [⟨s.label, 0, true⟩] }
  | .tick i azar, s =>
    match s.intervalos[i]? with
    | none => none
    | some iv =>
      if iv.corriendo then
        some { s with
          displayText := cuadro iv.label iv.iteration azar
          intervalos := s.intervalos.set i iv.avanza }
      else none

/-- a statistic, mounted with a label -/
def statItem (label : Texto) : Machine EventoStat EstadoStat where
  init := ⟨label, label, []⟩
  step := pasoStat

/-! ## what a statistic should show -/

def EnReposo (s : EstadoStat) : Prop := ∀ iv ∈ s.intervalos, iv.corriendo = false

/-- at rest it shows its label -/
def Actual (s : EstadoStat) : Prop := EnReposo s → s.displayText = s.label

/-- how often the interval `i` has ticked -/
def ticks (i : Nat) (es : List EventoStat) : Nat :=
  es.countP fun
    | .tick j _ => decide (j = i)
    | _ => false

/-- every interval ends with its last tick, three for each character and at least one -/
def Terminan (es : List EventoStat) (s : EstadoStat) : Prop :=
  ∀ (i : Nat) (iv : Intervalo), s.intervalos[i]? = some iv → ticks i es ≤ max 1 (3 * iv.label.length) ∧
    (iv.corriendo = true ↔ ticks i es < max 1 (3 * iv.label.length))

/-- the tick of `i` is the last one of the only interval that runs -/
def Cierra (i : Nat) (iv : Intervalo) (s : EstadoStat) : Prop :=
  s.intervalos[i]? = some iv ∧ 3 * iv.label.length ≤ iv.iteration + 1 ∧
    ∀ j jv, j ≠ i → s.intervalos[j]? = some jv → jv.corriendo = false

/-- at rest the label does not change, and the tick that brings the rest belongs to an interval that
was started with the current label -/
def Oportuno : EventoStat → EstadoStat → Prop
  | .cambio label, s => EnReposo s → label = s.label
  | .scramble, _ => True
  | .tick i _, s => ∀ iv, Cierra i iv s → iv.label = s.label

section
variable {label : Texto} {es : List EventoStat} {s t : EstadoStat} {i : Nat} {iv : Intervalo}
  {azar : Nat → Fin CHARS.length}

/-- **What a tick does.** -/
theorem pasoStat_tick : pasoStat (.tick i azar) s = some t ↔
    ∃ iv, s.intervalos[i]? = some iv ∧ iv.corriendo = true ∧
      t = ⟨s.label, cuadro iv.label iv.iteration azar, s.intervalos.set i iv.avanza⟩ := by
  show (match s.intervalos[i]? with
    | none => none
    | some iv => if iv.corriendo then some _ else none) = some t ↔ _
  cases hi : s.intervalos[i]? with
  | none =>
    refine ⟨fun h => (nomatch h), ?_⟩
    rintro ⟨iv, h, -⟩
    cases h
  | some iv =>
    show (if iv.corriendo = true then some _ else none) = some t ↔ _
    by_cases hc : iv.corriendo = true
    · rw [if_pos hc, Option.some.injEq]
      constructor
      · exact fun h => ⟨iv, rfl, hc, h.symm⟩
      · rintro ⟨_, h, -, rfl⟩
        obtain rfl := Option.some.inj h
        rfl
    · rw [if_neg hc]
      refine ⟨fun h => (nomatch h), ?_⟩
      rintro ⟨_, h, hc', -⟩
      obtain rfl := Option.some.inj h
      exact absurd hc' hc

/-! ## the ticks of an interval -/

theorem ticks_tick_self : ticks i (.tick i azar :: es) = ticks i es + 1 :=
  List.countP_cons_of_pos (by simp)

theorem ticks_tick_of_ne {j : Nat} (h : j ≠ i) : ticks i (.tick j azar :: es) = ticks i es :=
  List.countP_cons_of_neg (by simpa using h)

/-- the ticks are counted from the start of the interval -/
structure Cuenta (es : List EventoStat) (s : EstadoStat) : Prop where
  iteration : ∀ (i : Nat) (iv : Intervalo), s.intervalos[i]? = some iv → iv.iteration = ticks i es
  futuros : ∀ i, s.intervalos.length ≤ i → ticks i es = 0
  corriendo : ∀ (i : Nat) (iv : Intervalo), s.intervalos[i]? = some iv → iv.iteration ≤ max 1 (3 * iv.label.length) ∧
    (iv.corriendo = true ↔ iv.iteration < max 1 (3 * iv.label.length))

theorem Cuenta.scramble (h : Cuenta es s) :
    Cuenta (.scramble :: es) { s with intervalos := s.intervalos ++ [⟨s.label, 0, true⟩] } := by
  have hcases : ∀ (i : Nat) (iv : Intervalo), (s.intervalos ++ [⟨s.label, 0, true⟩])[i]? = some iv →
      s.intervalos[i]? = some iv ∨ i = s.intervalos.length ∧ iv = ⟨s.label, 0, true⟩ := by
    intro i iv hi
    rcases Nat.lt_trichotomy i s.intervalos.length with hlt | rfl | hgt
    · exact Or.inl (by rwa [List.getElem?_append_left hlt] at hi)
    · rw [List.getElem?_concat_length] at hi
      exact Or.inr ⟨rfl, (Option.some.inj hi).symm⟩
    · rw [List.getElem?_eq_none (by simp; omega)] at hi
      cases hi
  refine ⟨fun i iv hi => ?_, fun i hi => ?_, fun i iv hi => ?_⟩
  · rcases hcases i iv hi with hold | ⟨rfl, rfl⟩
    · exact h.iteration i iv hold
    · exact (h.futuros _ (Nat.le_refl _)).symm
  · rw [List.length_append] at hi
    exact h.futuros i (by omega)
  · rcases hcases i iv hi with hold | ⟨rfl, rfl⟩
    · exact h.corriendo i iv hold
    · exact ⟨Nat.zero_le _, iff_of_true rfl (Nat.lt_of_lt_of_le Nat.zero_lt_one (Nat.le_max_left ..))⟩

theorem Cuenta.tick (h : Cuenta es s) (hi : s.intervalos[i]? = some iv) (hc : iv.corriendo = true)
    (texto : Texto) :
    Cuenta (.tick i azar :: es) ⟨s.label, texto, s.intervalos.set i iv.avanza⟩ := by
  have hlt : i < s.intervalos.length := (List.getElem?_eq_some_iff.mp hi).1
  have hcases : ∀ (j : Nat) (jv : Intervalo), (s.intervalos.set i iv.avanza)[j]? = some jv →
      (i = j ∧ jv = iv.avanza) ∨ i ≠ j ∧ s.intervalos[j]? = some jv := by
    intro j jv hj
    by_cases hij : i = j
    · subst hij
      rw [List.getElem?_set_self hlt] at hj
      exact Or.inl ⟨rfl, (Option.some.inj hj).symm⟩
    · rw [List.getElem?_set_ne hij] at hj
      exact Or.inr ⟨hij, hj⟩
  obtain ⟨-, hrun⟩ := h.corriendo i iv hi
  refine ⟨fun j jv hj => ?_, fun j hj => ?_, fun j jv hj => ?_⟩
  · rcases hcases j jv hj with ⟨rfl, rfl⟩ | ⟨hij, hold⟩
    · rw [ticks_tick_self, ← h.iteration i iv hi]
      rfl
    · rw [ticks_tick_of_ne hij]
      exact h.iteration j jv hold
  · rw [List.length_set] at hj
    rw [ticks_tick_of_ne (by omega)]
    exact h.futuros j hj
  · rcases hcases j jv hj with ⟨rfl, rfl⟩ | ⟨hij, hold⟩
    · have hbefore := hrun.mp hc
      show iv.iteration + 1 ≤ max 1 (3 * iv.label.length) ∧
        (decide (iv.iteration + 1 < 3 * iv.label.length) = true ↔
          iv.iteration + 1 < max 1 (3 * iv.label.length))
      rw [decide_eq_true_iff]
      omega
    · exact h.corriendo j jv hold

theorem cuenta_of_after (hs : (statItem label).after es = some s) : Cuenta es s := by
  refine Machine.keeps (I := Cuenta) ⟨?_, fun _ _ => rfl, ?_⟩ (fun e es s t h ht => ?_) hs
  · exact fun i iv hi => nomatch (show none = some iv from hi)
  · exact fun i iv hi => nomatch (show none = some iv from hi)
  · cases e with
    | cambio l =>
      obtain rfl := Option.some.inj ht
      exact ⟨h.iteration, h.futuros, h.corriendo⟩
    | scramble =>
      obtain rfl := Option.some.inj ht
      exact h.scramble
    | tick i azar =>
      obtain ⟨iv, hi, hc, rfl⟩ := pasoStat_tick.mp ht
      exact h.tick hi hc _

/-- **Every interval ends.** -/
theorem terminan_of_after (hs : (statItem label).after es = some s) : Terminan es s := by
  have h := cuenta_of_after hs
  intro i iv hi
  rw [← h.iteration i iv hi]
  exact h.corriendo i iv hi

/-! ## the text at rest -/

theorem cuadro_eq {n : Nat} (h : 3 * label.length ≤ n + 1) : cuadro label n azar = label := by
  unfold cuadro
  refine List.ext_getElem List.length_mapIdx fun idx _ hidx => ?_
  rw [List.getElem_mapIdx, if_pos (by omega)]

theorem enReposo_tick (hi : s.intervalos[i]? = some iv) {texto : Texto} :
    EnReposo ⟨s.label, texto, s.intervalos.set i iv.avanza⟩ ↔ Cierra i iv s := by
  have hlt : i < s.intervalos.length := (List.getElem?_eq_some_iff.mp hi).1
  constructor
  · intro h
    refine ⟨hi, ?_, fun j jv hj hjv => ?_⟩
    · have hstop := h iv.avanza (List.mem_iff_getElem?.mpr ⟨i, List.getElem?_set_self hlt⟩)
      exact Nat.le_of_not_lt (of_decide_eq_false hstop)
    · exact h jv (List.mem_iff_getElem?.mpr ⟨j, (List.getElem?_set_ne hj.symm).trans hjv⟩)
  · rintro ⟨-, hstop, hothers⟩ jv hjv
    obtain ⟨j, hj⟩ := List.mem_iff_getElem?.mp hjv
    by_cases hij : i = j
    · subst hij
      obtain rfl := Option.some.inj ((List.getElem?_set_self hlt).symm.trans hj)
      exact decide_eq_false (Nat.not_lt.mpr hstop)
    · exact hothers j jv (Ne.symm hij) ((List.getElem?_set_ne hij).symm.trans hj)

/-- **A step keeps the text current exactly when it comes in time.** -/
theorem actual_paso {e : EventoStat} (hP : Actual s) (ht : pasoStat e s = some t) :
    Actual t ↔ Oportuno e s := by
  cases e with
  | cambio l =>
    obtain rfl := Option.some.inj ht
    exact forall_congr' fun hr => ⟨fun h => h.symm.trans (hP hr), fun h => (hP hr).trans h.symm⟩
  | scramble =>
    obtain rfl := Option.some.inj ht
    refine iff_of_true (fun hr => ?_) trivial
    cases hr _ List.mem_concat_self
  | tick i azar =>
    obtain ⟨iv, hi, hc, rfl⟩ := pasoStat_tick.mp ht
    constructor
    · intro h iv' hcl
      obtain rfl := Option.some.inj (hi.symm.trans hcl.1)
      have hshow := h ((enReposo_tick hi).mpr hcl)
      rwa [cuadro_eq hcl.2.1] at hshow
    · intro h hr
      have hcl := (enReposo_tick hi).mp hr
      exact (cuadro_eq hcl.2.1).trans (h iv hcl)

/-- every interval ends, and the text is current at rest in every state of the run -/
def MuestraActual (label : Texto) (es : List EventoStat) : Prop :=
  (∀ s, (statItem label).after es = some s → Terminan es s) ∧ (statItem label).Always Actual es

/-- **A statistic at rest shows its current label exactly in the runs whose steps come in time.** -/
theorem actual_iff (hs : (statItem label).after es = some s) :
    MuestraActual label es ↔ (statItem label).Steps Oportuno es := by
  have hiff := Machine.always_iff_steps (P := Actual) (C := Oportuno) (fun _ => rfl)
    (fun _ _ _ hP ht => actual_paso hP ht) hs
  exact ⟨fun h => hiff.mp h.2, fun h => ⟨fun _ hs => terminan_of_after hs, hiff.mpr h⟩⟩

end

/-! ## concrete runs -/

/-- a hover over a label of one character -/
def unScramble : List EventoStat :=
  let azar : Nat → Fin CHARS.length := fun _ => ⟨0, by decide⟩
  [.tick 0 azar, .tick 0 azar, .tick 0 azar, .scramble]

theorem actual_unScramble : MuestraActual [53] unScramble := by
  refine (actual_iff (show (statItem [53]).after unScramble = some _ from rfl)).mpr ?_
  refine ⟨⟨⟨⟨trivial, fun _ _ => trivial⟩, ?_⟩, ?_⟩, ?_⟩ <;>
  · intro s hs iv hcl
    obtain rfl := Option.some.inj hs
    obtain rfl := Option.some.inj hcl.1
    rfl

/-- the page mounts the statistic with the amount of no alerts and replaces it when the answers arrive -/
theorem label_perdida : ¬ ∀ label es s, (statItem label).after es = some s → MuestraActual label es := by
  intro h
  have hactual := (h (jsText "$0M") [.cambio (jsText "$1.2B")] _ rfl).2.last rfl
  exact absurd (hactual fun _ hiv => nomatch hiv) (by decide)

end Fractura
