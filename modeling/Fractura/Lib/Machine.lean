import Mathlib.Logic.Basic
import Mathlib.Data.List.Basic
import Mathlib.Data.Option.Basic

/-!
# Machines and their histories

A machine has an initial state and a partial step: an event that is not possible at a state has no
step there.  A history is the list of the events so far, THE LATEST FIRST, so that what a run has done
since some event is read off from its head.

* `M.after h`         the state after the history `h`, if `h` is a run;
* `M.Always P h`      `P` holds of every state that the run `h` goes through;
* `M.Steps C h`       each event of the run `h` meets `C` at the state where it happens.

Rules: `keeps` (an invariant that relates the state to the history), `keeps_of_steps` (the
same for the runs whose steps meet a condition) and `always_iff_steps` (a property of all states as a condition
on the steps).
-/

structure Machine (ε σ : Type*) where
  init : σ
  step : ε → σ → Option σ

namespace Machine

section
variable {ε σ : Type*} (M : Machine ε σ)

/-- the state after the history `h` -/
def after : List ε → Option σ
  | [] => some M.init
  | e :: h => (after h).bind (M.step e)

/-- `P` holds of every state of the run -/
def Always (P : σ → Prop) : List ε → Prop
  | [] => P M.init
  | e :: h => Always P h ∧ ∀ s ∈ M.after (e :: h), P s

/-- every event of the run meets `C` at the state that it finds -/
def Steps (C : ε → σ → Prop) : List ε → Prop
  | [] => True
  | e :: h => Steps C h ∧ ∀ s ∈ M.after h, C e s

variable {M}
variable {P : σ → Prop} {C : ε → σ → Prop} {h : List ε} {e : ε} {s t : σ}

theorem after_cons : M.after (e :: h) = some t ↔ ∃ s, M.after h = some s ∧ M.step e s = some t :=
  Option.bind_eq_some_iff

/-- **The invariant rule**, for a property of the state and its history. -/
theorem keeps {I : List ε → σ → Prop} (h0 : I [] M.init)
    (hstep : ∀ e h s t, I h s → M.step e s = some t → I (e :: h) t) (hs : M.after h = some s) :
    I h s := by
  induction h generalizing s with
  | nil =>
    obtain rfl := Option.some.inj hs
    exact h0
  | cons e h ih =>
    obtain ⟨r, hr, ht⟩ := after_cons.mp hs
    exact hstep e h r s (ih hr) ht

theorem keeps_of_steps {I : List ε → σ → Prop} (h0 : I [] M.init)
    (hstep : ∀ e h s t, I h s → C e s → M.step e s = some t → I (e :: h) t) (hC : M.Steps C h)
    (hs : M.after h = some s) : I h s := by
  induction h generalizing s with
  | nil =>
    obtain rfl := Option.some.inj hs
    exact h0
  | cons e h ih =>
    obtain ⟨r, hr, ht⟩ := after_cons.mp hs
    exact hstep e h r s (ih hC.1 hr) (hC.2 r hr) ht

theorem Always.last (hP : M.Always P h) (hs : M.after h = some s) : P s := by
  cases h with
  | nil =>
    obtain rfl := Option.some.inj hs
    exact hP
  | cons e h => exact hP.2 s hs

/-- **A property of every state of a run is a condition on its steps**, when each step from a state
with the property keeps it exactly if it meets the condition. -/
theorem always_iff_steps (h0 : P M.init)
    (hstep : ∀ e s t, P s → M.step e s = some t → (P t ↔ C e s)) (hs : M.after h = some s) :
    M.Always P h ↔ M.Steps C h := by
  induction h generalizing s with
  | nil => exact iff_of_true h0 trivial
  | cons e h ih =>
    obtain ⟨r, hr, ht⟩ := after_cons.mp hs
    constructor
    · rintro ⟨hP, hlast⟩
      refine ⟨(ih hr).mp hP, fun r' hr' => ?_⟩
      obtain rfl := Option.some.inj (hr.symm.trans hr')
      exact (hstep e r s (hP.last hr) ht).mp (hlast s hs)
    · rintro ⟨hC, hlast⟩
      have hP := (ih hr).mpr hC
      refine ⟨hP, fun s' hs' => ?_⟩
      obtain rfl := Option.some.inj (hs.symm.trans hs')
      exact (hstep e r s (hP.last hr) ht).mpr (hlast r hr)

end

end Machine
