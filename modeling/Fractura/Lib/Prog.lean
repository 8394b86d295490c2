import Mathlib.Logic.Basic
import Mathlib.Data.List.Basic

/-!
# Programs of atomic statements

`Prog Q R ε α` is a program that issues statements `q : Q`, each answered by a value of type
`R q`, and ends by returning an `α` or by raising an `ε`.  What a statement does is not part of
the program: an executor `exec q s` answers it at the state `s`, or fails and leaves `s` alone.

* `run exec p s`      the result and the state that `p` leaves, also when it raises: the
                      statements before the failing one stay done (there is no rollback);
* `trace exec p s`    the statements of that run, each with the state that it finds;
* `p.All P`           every statement that `p` can issue, whatever the answers, satisfies `P`;
* `each l f`          the loop `for x in l: f x`.

Rules: `run_bind` (sequencing) and `run_keeps` (a property kept by every statement of a class is
kept by a program of that class), with `mem_trace_bind` and `trace_keeps` for what the statements of a
run find.
-/

set_option linter.unusedSectionVars false

inductive Prog (Q : Type) (R : Q → Type) (ε α : Type) : Type where
  | ret (a : α)
  | raise (e : ε)
  | call (q : Q) (k : R q → Prog Q R ε α)

namespace Prog

section
variable {Q : Type} {R : Q → Type} {ε α β γ σ : Type}

def bind : Prog Q R ε α → (α → Prog Q R ε β) → Prog Q R ε β
  | ret a, f => f a
  | raise e, _ => raise e
  | call q k, f => call q fun r => (k r).bind f

instance : Monad (Prog Q R ε) where
  pure := ret
  bind := bind

theorem bind_eq (p : Prog Q R ε α) (f : α → Prog Q R ε β) : p >>= f = p.bind f := rfl

/-- a single statement, answered -/
def stmt (q : Q) : Prog Q R ε (R q) := call q ret

/-- `for x in l: f x` -/
def each : List γ → (γ → Prog Q R ε Unit) → Prog Q R ε Unit
  | [], _ => ret ()
  | x :: l, f => (f x).bind fun _ => each l f

theorem each_cons (x : γ) (l : List γ) (f : γ → Prog Q R ε Unit) :
    each (x :: l) f = (f x).bind fun _ => each l f := rfl

/-! ## running -/

def run (exec : (q : Q) → σ → Except ε (R q × σ)) : Prog Q R ε α → σ → Except ε α × σ
  | ret a, s => (.ok a, s)
  | raise e, s => (.error e, s)
  | call q k, s =>
    match exec q s with
    | .ok (r, s') => run exec (k r) s'
    | .error e => (.error e, s)

variable (exec : (q : Q) → σ → Except ε (R q × σ))

theorem run_call_ok {q : Q} {k : R q → Prog Q R ε α} {s s' : σ} {r : R q}
    (h : exec q s = .ok (r, s')) : run exec (call q k) s = run exec (k r) s' := by
  simp only [run, h]

theorem run_call_error {q : Q} {k : R q → Prog Q R ε α} {s : σ} {e : ε}
    (h : exec q s = .error e) : run exec (call q k) s = (.error e, s) := by
  simp only [run, h]

/-- **Sequencing**: the second program starts where the first one returned; if the first one
raised, the state it left is the final one. -/
theorem run_bind (p : Prog Q R ε α) (f : α → Prog Q R ε β) (s : σ) :
    run exec (p.bind f) s =
      match run exec p s with
      | (.ok a, s') => run exec (f a) s'
      | (.error e, s') => (.error e, s') := by
  induction p generalizing s with
  | ret a => rfl
  | raise e => rfl
  | call q k ih =>
    show run exec (call q fun r => (k r).bind f) s = _
    cases h : exec q s with
    | error e => rw [run_call_error exec h, run_call_error exec h]
    | ok x =>
      obtain ⟨r, s'⟩ := x
      rw [run_call_ok exec h, run_call_ok exec h, ih]

theorem run_bind_ok {p : Prog Q R ε α} {f : α → Prog Q R ε β} {s s' : σ} {a : α}
    (h : run exec p s = (.ok a, s')) : run exec (p.bind f) s = run exec (f a) s' := by
  rw [run_bind, h]

theorem run_bind_error {p : Prog Q R ε α} {f : α → Prog Q R ε β} {s s' : σ} {e : ε}
    (h : run exec p s = (.error e, s')) : run exec (p.bind f) s = (.error e, s') := by
  rw [run_bind, h]

theorem run_bind_inv {p : Prog Q R ε α} {f : α → Prog Q R ε β} {s t : σ} {b : β}
    (h : run exec (p.bind f) s = (.ok b, t)) :
    ∃ a s', run exec p s = (.ok a, s') ∧ run exec (f a) s' = (.ok b, t) := by
  rw [run_bind] at h
  cases hp : run exec p s with
  | mk res s' =>
    rw [hp] at h
    cases res with
    | error e => cases h
    | ok a => exact ⟨a, s', rfl, h⟩

/-! ## properties kept by every statement -/

/-- every statement that the program can issue satisfies `P` -/
def All (P : Q → Prop) : Prog Q R ε α → Prop
  | ret _ => True
  | raise _ => True
  | call q k => P q ∧ ∀ r, All P (k r)

theorem all_bind {P : Q → Prop} {p : Prog Q R ε α} {f : α → Prog Q R ε β}
    (hp : p.All P) (hf : ∀ a, (f a).All P) : (p.bind f).All P := by
  induction p with
  | ret a => exact hf a
  | raise e => trivial
  | call q k ih => exact ⟨hp.1, fun r => ih r (hp.2 r)⟩

theorem all_each {P : Q → Prop} {l : List γ} {f : γ → Prog Q R ε Unit}
    (h : ∀ x ∈ l, (f x).All P) : (each l f).All P := by
  induction l with
  | nil => trivial
  | cons x l ih =>
    exact all_bind (h x List.mem_cons_self) fun _ => ih fun y hy => h y (List.mem_cons_of_mem _ hy)

theorem All.mono {P P' : Q → Prop} (h : ∀ q, P q → P' q) {p : Prog Q R ε α} (hp : p.All P) :
    p.All P' := by
  induction p with
  | ret a => trivial
  | raise e => trivial
  | call q k ih => exact ⟨h q hp.1, fun r => ih r (hp.2 r)⟩

theorem All.and {P P' : Q → Prop} {p : Prog Q R ε α} (hp : p.All P) (hp' : p.All P') :
    p.All fun q => P q ∧ P' q := by
  induction p with
  | ret a => trivial
  | raise e => trivial
  | call q k ih => exact ⟨⟨hp.1, hp'.1⟩, fun r => ih r (hp.2 r) (hp'.2 r)⟩

/-- **Invariant rule**: what every statement of a class keeps, a program of the class keeps,
whether it returns or raises. -/
theorem run_keeps {P : Q → Prop} {I : σ → Prop}
    (h : ∀ q s r s', P q → I s → exec q s = .ok (r, s') → I s')
    {p : Prog Q R ε α} (hp : p.All P) {s : σ} (hs : I s) : I (run exec p s).2 := by
  induction p generalizing s with
  | ret a => exact hs
  | raise e => exact hs
  | call q k ih =>
    cases hq : exec q s with
    | error e => rw [run_call_error exec hq]; exact hs
    | ok x =>
      obtain ⟨r, s'⟩ := x
      rw [run_call_ok exec hq]
      exact ih r (hp.2 r) (h q s r s' hp.1 hs hq)

theorem run_related {P : Q → Prop} {S : σ → σ → Prop} (hrefl : ∀ s, S s s)
    (htrans : ∀ s t u, S s t → S t u → S s u)
    (h : ∀ q s r s', P q → exec q s = .ok (r, s') → S s s')
    {p : Prog Q R ε α} (hp : p.All P) (s : σ) : S s (run exec p s).2 :=
  run_keeps exec (I := S s) (fun q t r t' hq ht he => htrans s t t' ht (h q t r t' hq he)) hp
    (hrefl s)

/-! ## the statements of a run -/

/-- the statements that a run issues, each with the state that it finds -/
def trace : Prog Q R ε α → σ → List (Q × σ)
  | ret _, _ => []
  | raise _, _ => []
  | call q k, s => (q, s) ::
    match exec q s with
    | .ok (r, s') => trace (k r) s'
    | .error _ => []

theorem mem_trace_call {q : Q} {k : R q → Prog Q R ε α} {s : σ} {x : Q × σ} :
    x ∈ trace exec (call q k) s ↔
      x = (q, s) ∨ ∃ r t, exec q s = .ok (r, t) ∧ x ∈ trace exec (k r) t := by
  rw [trace, List.mem_cons]
  cases h : exec q s with
  | error e => simp
  | ok y =>
    obtain ⟨r, t⟩ := y
    refine or_congr_right ⟨fun hx => ⟨r, t, rfl, hx⟩, fun hx => ?_⟩
    obtain ⟨r', t', he, hx⟩ := hx
    cases he
    exact hx

theorem mem_trace_bind {p : Prog Q R ε α} {f : α → Prog Q R ε β} {s : σ} {x : Q × σ} :
    x ∈ trace exec (p.bind f) s ↔
      x ∈ trace exec p s ∨ ∃ a t, run exec p s = (.ok a, t) ∧ x ∈ trace exec (f a) t := by
  induction p generalizing s with
  | ret a =>
    refine ⟨fun hx => Or.inr ⟨a, s, rfl, hx⟩, fun hx => ?_⟩
    rcases hx with hx | ⟨a', t, he, hx⟩
    · cases hx
    · cases he
      exact hx
  | raise e =>
    refine ⟨fun hx => Or.inl hx, fun hx => ?_⟩
    rcases hx with hx | ⟨a, t, he, -⟩
    · exact hx
    · cases he
  | call q k ih =>
    show x ∈ trace exec (call q fun r => (k r).bind f) s ↔ _
    rw [mem_trace_call, mem_trace_call, or_assoc]
    refine or_congr_right ?_
    cases hq : exec q s with
    | error e =>
      rw [run_call_error exec hq]
      simp
    | ok y =>
      obtain ⟨r, u⟩ := y
      rw [run_call_ok exec hq]
      refine ⟨fun h => ?_, fun h => ?_⟩
      · obtain ⟨r', u', he, hx⟩ := h
        cases he
        exact (ih r).mp hx |>.imp_left fun hx => ⟨r, u, rfl, hx⟩
      · refine ⟨r, u, rfl, (ih r).mpr (h.imp_left fun h => ?_)⟩
        obtain ⟨r', u', he, hx⟩ := h
        cases he
        exact hx

/-- **What the statements of a class keep, each of them finds.** -/
theorem trace_keeps {P : Q → Prop} {I : σ → Prop}
    (h : ∀ q s r s', P q → I s → exec q s = .ok (r, s') → I s')
    {p : Prog Q R ε α} (hp : p.All P) {s : σ} (hs : I s) {x : Q × σ} (hx : x ∈ trace exec p s) :
    P x.1 ∧ I x.2 := by
  induction p generalizing s with
  | ret a => cases hx
  | raise e => cases hx
  | call q k ih =>
    rcases (mem_trace_call exec).mp hx with rfl | ⟨r, t, hq, hx⟩
    · exact ⟨hp.1, hs⟩
    · exact ih r (hp.2 r) (h q s r t hp.1 hs hq) hx

theorem trace_after {P : Q → Prop} {p : Prog Q R ε α} (hp : p.All P) {f : α → Prog Q R ε β} {s : σ}
    {x : Q × σ} (hx : x ∈ trace exec (p.bind f) s) (hn : ¬ P x.1) :
    ∃ a t, run exec p s = (.ok a, t) ∧ x ∈ trace exec (f a) t := by
  rcases (mem_trace_bind exec).mp hx with hx | hx
  · have h := trace_keeps exec (I := fun _ => True) (fun _ _ _ _ _ _ _ => trivial) hp trivial hx
    exact absurd h.1 hn
  · exact hx

end

end Prog
