import Fractura.Lib.Prog

/-!
# Two programs interleaved statement by statement

`p.step exec s` executes the next statement of `p`; `weave exec w p q s` follows the schedule `w`
(`true`: the left program moves, `false`: the right one), the state being shared and no statement
being undone.  A schedule is complete when both programs have ended.

Main result: `weave_separate`.  Two programs whose statements work on separate views of the state
(the statements of the left program are determined by the view `v₁` and leave the view `v₂`
alone, and conversely) end, under EVERY complete schedule, with the results of the two programs
run one after the other, and with the same two views.
-/

set_option linter.unusedSectionVars false

namespace Prog

section
variable {Q : Type} {R : Q → Type} {ε α β σ : Type}
variable (exec : (q : Q) → σ → Except ε (R q × σ))

/-- the next statement; a program that has ended stays as it is -/
def step : Prog Q R ε α → σ → Prog Q R ε α × σ
  | ret a, s => (ret a, s)
  | raise e, s => (raise e, s)
  | call q k, s =>
    match exec q s with
    | .ok (r, s') => (k r, s')
    | .error e => (raise e, s)

/-- the result of a program that has ended -/
def result : Prog Q R ε α → Option (Except ε α)
  | ret a => some (.ok a)
  | raise e => some (.error e)
  | call _ _ => none

def weave : List Bool → Prog Q R ε α → Prog Q R ε β → σ → Prog Q R ε α × Prog Q R ε β × σ
  | [], p, q, s => (p, q, s)
  | true :: w, p, q, s => weave w (p.step exec s).1 q (p.step exec s).2
  | false :: w, p, q, s => weave w p (q.step exec s).1 (q.step exec s).2

theorem run_step (p : Prog Q R ε α) (s : σ) :
    run exec (p.step exec s).1 (p.step exec s).2 = run exec p s := by
  cases p with
  | ret a => rfl
  | raise e => rfl
  | call q k =>
    cases h : exec q s with
    | error e => simp only [step, run, h]
    | ok x => simp only [step, run, h]

theorem run_of_result {p : Prog Q R ε α} {x : Except ε α} (h : p.result = some x) (s : σ) :
    run exec p s = (x, s) := by
  cases p with
  | ret a => cases h; rfl
  | raise e => cases h; rfl
  | call q k => cases h

theorem all_step {P : Q → Prop} {p : Prog Q R ε α} (hp : p.All P) (s : σ) :
    (p.step exec s).1.All P := by
  cases p with
  | ret a => trivial
  | raise e => trivial
  | call q k =>
    cases h : exec q s with
    | error e => simp only [step, h]; trivial
    | ok x => simp only [step, h]; exact hp.2 x.1

/-- The statements of class `P` act through the view `v`: at states with one view they give one
answer, or one error, and states with one view again. -/
def ActsThrough {V : Type} (P : Q → Prop) (I : σ → Prop) (v : σ → V) : Prop :=
  ∀ q, P q → ∀ s t, I s → I t → v s = v t →
    (∀ r s', exec q s = .ok (r, s') → ∃ t', exec q t = .ok (r, t') ∧ v s' = v t') ∧
    (∀ e, exec q s = .error e → exec q t = .error e)

/-- The statements of class `P` keep the invariant and leave the view `v` alone. -/
def Leaves {V : Type} (P : Q → Prop) (I : σ → Prop) (v : σ → V) : Prop :=
  ∀ q, P q → ∀ s r s', I s → exec q s = .ok (r, s') → I s' ∧ v s' = v s

section
variable {exec} {V : Type} {P : Q → Prop} {I : σ → Prop} {v : σ → V}

theorem Leaves.step (h : Leaves exec P I v) {p : Prog Q R ε α} (hp : p.All P) {s : σ} (hs : I s) :
    I (p.step exec s).2 ∧ v (p.step exec s).2 = v s := by
  cases p with
  | ret a => exact ⟨hs, rfl⟩
  | raise e => exact ⟨hs, rfl⟩
  | call q k =>
    cases hq : exec q s with
    | error e => simp only [Prog.step, hq]; exact ⟨hs, trivial⟩
    | ok x => simp only [Prog.step, hq]; exact h q hp.1 s x.1 x.2 hs hq

theorem Leaves.run (h : Leaves exec P I v) {p : Prog Q R ε α} (hp : p.All P) {s : σ} (hs : I s) :
    I (run exec p s).2 ∧ v (run exec p s).2 = v s :=
  run_keeps exec (I := fun t => I t ∧ v t = v s)
    (fun q t r t' hq ht he => by
      obtain ⟨h1, h2⟩ := h q hq t r t' ht.1 he
      exact ⟨h1, h2.trans ht.2⟩) hp ⟨hs, rfl⟩

theorem ActsThrough.run (h : ActsThrough exec P I v) {V' : Type} {v' : σ → V'}
    (hI : Leaves exec P I v') {p : Prog Q R ε α} (hp : p.All P) {s t : σ} (hs : I s) (ht : I t)
    (hv : v s = v t) :
    (run exec p s).1 = (run exec p t).1 ∧ v (run exec p s).2 = v (run exec p t).2 := by
  induction p generalizing s t with
  | ret a => exact ⟨rfl, hv⟩
  | raise e => exact ⟨rfl, hv⟩
  | call q k ih =>
    obtain ⟨hok, herr⟩ := h q hp.1 s t hs ht hv
    cases hq : exec q s with
    | error e =>
      rw [run_call_error exec hq, run_call_error exec (herr e hq)]
      exact ⟨rfl, hv⟩
    | ok x =>
      obtain ⟨r, s'⟩ := x
      obtain ⟨t', ht', hv'⟩ := hok r s' hq
      rw [run_call_ok exec hq, run_call_ok exec ht']
      exact ih r (hp.2 r) (hI q hp.1 s r s' hs hq).1 (hI q hp.1 t r t' ht ht').1 hv'

end

section
variable {exec} {V₁ V₂ : Type} {P₁ P₂ : Q → Prop} {I : σ → Prop} {v₁ : σ → V₁} {v₂ : σ → V₂}

/-- What remains to run, at every point of a schedule, gives the results of the two programs run
alone from the start. -/
theorem weave_remains (h₁ : ActsThrough exec P₁ I v₁) (h₂ : ActsThrough exec P₂ I v₂)
    (l₁ : Leaves exec P₁ I v₂) (l₂ : Leaves exec P₂ I v₁) (w : List Bool)
    {p : Prog Q R ε α} {q : Prog Q R ε β} (hp : p.All P₁) (hq : q.All P₂) {s : σ} (hs : I s)
    {p' : Prog Q R ε α} {q' : Prog Q R ε β} {s' : σ} (hw : weave exec w p q s = (p', q', s')) :
    ((run exec p' s').1 = (run exec p s).1 ∧ v₁ (run exec p' s').2 = v₁ (run exec p s).2) ∧
    ((run exec q' s').1 = (run exec q s).1 ∧ v₂ (run exec q' s').2 = v₂ (run exec q s).2) := by
  induction w generalizing p q s with
  | nil =>
    cases hw
    exact ⟨⟨rfl, rfl⟩, ⟨rfl, rfl⟩⟩
  | cons b w ih =>
    cases b with
    | true =>
      obtain ⟨hI, hv⟩ := l₁.step hp hs
      obtain ⟨hl, hr⟩ := ih (all_step exec hp s) hq hI hw
      have hq' := h₂.run l₂ hq hI hs hv
      rw [run_step] at hl
      exact ⟨hl, hr.1.trans hq'.1, hr.2.trans hq'.2⟩
    | false =>
      obtain ⟨hI, hv⟩ := l₂.step hq hs
      obtain ⟨hl, hr⟩ := ih hp (all_step exec hq s) hI hw
      have hp' := h₁.run l₁ hp hI hs hv
      rw [run_step] at hr
      exact ⟨⟨hl.1.trans hp'.1, hl.2.trans hp'.2⟩, hr⟩

/-- **Separate programs are serialisable**: under every complete schedule both programs end with
the results of the sequential run `p` then `q`, and the final state has its two views. -/
theorem weave_separate (h₁ : ActsThrough exec P₁ I v₁) (h₂ : ActsThrough exec P₂ I v₂)
    (l₁ : Leaves exec P₁ I v₂) (l₂ : Leaves exec P₂ I v₁) (w : List Bool)
    {p : Prog Q R ε α} {q : Prog Q R ε β} (hp : p.All P₁) (hq : q.All P₂) {s : σ} (hs : I s)
    {p' : Prog Q R ε α} {q' : Prog Q R ε β} {s' : σ} (hw : weave exec w p q s = (p', q', s'))
    {x : Except ε α} {y : Except ε β} (hx : p'.result = some x) (hy : q'.result = some y) :
    x = (run exec p s).1 ∧ y = (run exec q (run exec p s).2).1 ∧
      v₁ s' = v₁ (run exec q (run exec p s).2).2 ∧
      v₂ s' = v₂ (run exec q (run exec p s).2).2 := by
  obtain ⟨⟨hp1, hp2⟩, ⟨hq1, hq2⟩⟩ := weave_remains h₁ h₂ l₁ l₂ w hp hq hs hw
  rw [run_of_result exec hx] at hp1 hp2
  rw [run_of_result exec hy] at hq1 hq2
  obtain ⟨hI, hv⟩ := l₁.run hp hs
  obtain ⟨hq3, hq4⟩ := h₂.run l₂ hq hI hs hv
  obtain ⟨-, hv1⟩ := l₂.run hq hI
  exact ⟨hp1, hq1.trans hq3.symm, hp2.trans hv1.symm, hq2.trans hq4.symm⟩

end

end

end Prog
