import Fractura.Lib.Prog

/-!
# Programs that stop half way

`p.cut exec k s` is the state after the first `k` statements of `p`, or at its end if it has fewer:
what a process that dies there leaves behind (no statement is undone).

* `p.Keeps exec I`   every statement that `p` can come to, at the answers that it can get from states
                    with `I`, keeps `I`; then `I` holds at every cut (`Keeps.cut`);
* `exists_cut_run`   the end of a run is a cut;
* `cut_map`          what is done with the result of a program is no statement.

A store with a disk: a checkpoint writes the state in memory, at any statement, and a crash goes back
to the last checkpoint.  `Life` are the pairs of a state in memory and one on disk that runs of
several programs, checkpoints and crashes reach, and `Life.keeps` is its invariant rule.
-/

set_option linter.unusedSectionVars false

namespace Prog

section
variable {Q : Type} {R : Q → Type} {ε α β σ : Type}
variable (exec : (q : Q) → σ → Except ε (R q × σ))

/-- the state after the first `k` statements -/
def cut : Nat → Prog Q R ε α → σ → σ
  | 0, _, s => s
  | _ + 1, ret _, s => s
  | _ + 1, raise _, s => s
  | n + 1, call q k, s =>
    match exec q s with
    | .ok (r, s') => cut n (k r) s'
    | .error _ => s

@[simp] theorem cut_zero (p : Prog Q R ε α) (s : σ) : cut exec 0 p s = s := by
  cases p <;> rfl

@[simp] theorem cut_ret (n : Nat) (a : α) (s : σ) :
    cut exec n (ret a : Prog Q R ε α) s = s := by
  cases n <;> rfl

@[simp] theorem cut_raise (n : Nat) (e : ε) (s : σ) :
    cut exec n (raise e : Prog Q R ε α) s = s := by
  cases n <;> rfl

theorem cut_call_ok {q : Q} {k : R q → Prog Q R ε α} {s s' : σ} {r : R q} (n : Nat)
    (h : exec q s = .ok (r, s')) : cut exec (n + 1) (call q k) s = cut exec n (k r) s' := by
  simp only [cut, h]

theorem cut_call_error {q : Q} {k : R q → Prog Q R ε α} {s : σ} {e : ε} (n : Nat)
    (h : exec q s = .error e) : cut exec n (call q k) s = s := by
  cases n with
  | zero => rfl
  | succ n => simp only [cut, h]

/-- `I` is kept by every statement, whatever it is answered at states with `I` -/
def Keeps (I : σ → Prop) : Prog Q R ε α → Prop
  | ret _ => True
  | raise _ => True
  | call q k => ∀ s r s', I s → exec q s = .ok (r, s') → I s' ∧ Keeps I (k r)

variable {I : σ → Prop}

theorem keeps_bind {p : Prog Q R ε α} {f : α → Prog Q R ε β} (hp : p.Keeps exec I)
    (hf : ∀ a, (f a).Keeps exec I) : (p.bind f).Keeps exec I := by
  induction p with
  | ret a => exact hf a
  | raise e => trivial
  | call q k ih =>
    intro s r s' hs h
    obtain ⟨hs', hk⟩ := hp s r s' hs h
    exact ⟨hs', ih r hk⟩

theorem keeps_each {γ : Type} {l : List γ} {f : γ → Prog Q R ε Unit}
    (h : ∀ x ∈ l, (f x).Keeps exec I) : (each l f).Keeps exec I := by
  induction l with
  | nil => trivial
  | cons x l ih =>
    exact keeps_bind exec (h x List.mem_cons_self) fun _ =>
      ih fun y hy => h y (List.mem_cons_of_mem _ hy)

theorem All.keeps {P : Q → Prop} (h : ∀ q s r s', P q → I s → exec q s = .ok (r, s') → I s')
    {p : Prog Q R ε α} (hp : p.All P) : p.Keeps exec I := by
  induction p with
  | ret a => trivial
  | raise e => trivial
  | call q k ih => exact fun s r s' hs hq => ⟨h q s r s' hp.1 hs hq, ih r (hp.2 r)⟩

variable {exec}

/-- **What every statement keeps holds at every cut.** -/
theorem Keeps.cut {p : Prog Q R ε α} (hp : p.Keeps exec I) (n : Nat) {s : σ} (hs : I s) :
    I (cut exec n p s) := by
  induction p generalizing n s with
  | ret a =>
    rw [cut_ret]
    exact hs
  | raise e =>
    rw [cut_raise]
    exact hs
  | call q k ih =>
    cases n with
    | zero => exact hs
    | succ n =>
      cases hq : exec q s with
      | error e =>
        rw [cut_call_error exec _ hq]
        exact hs
      | ok x =>
        obtain ⟨r, s'⟩ := x
        obtain ⟨hs', hk⟩ := hp s r s' hs hq
        rw [cut_call_ok exec n hq]
        exact ih r hk n hs'

variable (exec)

/-- **The end of a run is a cut of it.** -/
theorem exists_cut_run (p : Prog Q R ε α) (s : σ) : ∃ n, cut exec n p s = (run exec p s).2 := by
  induction p generalizing s with
  | ret a => exact ⟨0, rfl⟩
  | raise e => exact ⟨0, rfl⟩
  | call q k ih =>
    cases hq : exec q s with
    | error e => exact ⟨0, by rw [run_call_error exec hq]; rfl⟩
    | ok x =>
      obtain ⟨r, s'⟩ := x
      obtain ⟨n, hn⟩ := ih r s'
      exact ⟨n + 1, by rw [cut_call_ok exec n hq, run_call_ok exec hq, hn]⟩

theorem cut_map (n : Nat) (p : Prog Q R ε α) (g : α → β) (s : σ) :
    cut exec n (p.bind fun a => ret (g a)) s = cut exec n p s := by
  induction p generalizing n s with
  | ret a => exact (cut_ret exec n (g a) s).trans (cut_ret exec n a s).symm
  | raise e => exact (cut_raise exec n e s).trans (cut_raise exec n e s).symm
  | call q k ih =>
    have hbind : ((call q k).bind fun a => ret (g a) : Prog Q R ε β) =
      call q fun r => (k r).bind fun a => ret (g a) := rfl
    rw [hbind]
    cases n with
    | zero => rfl
    | succ n =>
      cases hq : exec q s with
      | error e => rw [cut_call_error exec _ hq, cut_call_error exec _ hq]
      | ok x =>
        obtain ⟨r, t⟩ := x
        rw [cut_call_ok exec n hq, cut_call_ok exec n hq]
        exact ih r n t

end

/-! ## checkpoints and crashes -/

section
variable {ι σ : Type} (finish : ι → σ → σ) (during : ι → Nat → σ → σ) (init : σ)

/-- the state in memory and the last checkpoint, after runs of the programs `ι` -/
inductive Life : σ → σ → Prop where
  | start : Life init init
  | run (i : ι) {m d : σ} (h : Life m d) : Life (finish i m) d
  | checkpoint (i : ι) (n : Nat) {m d : σ} (h : Life m d) : Life (finish i m) (during i n m)
  | crash {m d : σ} (h : Life m d) : Life d d

variable {finish during init}

/-- **Invariant rule**: what every cut of every program keeps holds in memory and on disk. -/
theorem Life.keeps {I : σ → Prop} (h0 : I init) (hrun : ∀ i s, I s → I (finish i s))
    (hcut : ∀ i n s, I s → I (during i n s)) {m d : σ} (h : Life finish during init m d) :
    I m ∧ I d := by
  induction h with
  | start => exact ⟨h0, h0⟩
  | run i _ ih => exact ⟨hrun i _ ih.1, ih.2⟩
  | checkpoint i n _ ih => exact ⟨hrun i _ ih.1, hcut i n _ ih.1⟩
  | crash _ ih => exact ⟨ih.2, ih.2⟩

end

end Prog
