import Fractura.Lib.Prog
import Mathlib.Data.Fintype.Basic

/-!
# Programs on one connection with one pending result

A connection keeps ONE pending result, that of the last statement executed on it.  `execute q`
answers a statement with its pending result; what a program gets is read off the pending result
that it finds when it fetches (`take q`), whoever executed the statement behind it.

A pool has a program for each index; a step of the schedule moves one of them: a program that is
ready executes its next statement, and, when the statement is one whose result is fetched, waits;
a program that waits fetches.  Each fetch is an event: the result of the program's own statement
and the one that it got.

`run_own`: in a run where nobody moves while another program waits (`Exclusive`) every fetch gets
the result of the program's own statement.  `run_keeps` is the invariant rule of ALL runs: what the
statements of the programs keep holds at every state, whatever results the programs are given.
`run_alone`: a program that moves alone ends as it does when its statements are atomic.
-/

set_option linter.unusedSectionVars false

namespace Connection

/-- one program of the pool; `own` is the result of the statement whose fetch is due -/
inductive Thread (Q : Type) (R : Q → Type) (ε α : Type) : Type where
  | ready (p : Prog Q R ε α)
  | waiting (q : Q) (own : Except ε (R q)) (k : R q → Prog Q R ε α)

structure Fetch (ι Q : Type) (R : Q → Type) (ε : Type) where
  who : ι
  stmt : Q
  own : Except ε (R stmt)
  got : Except ε (R stmt)

structure Pool (ι Q : Type) (R : Q → Type) (ε α P σ : Type) where
  threads : ι → Thread Q R ε α
  pending : P
  state : σ

/-- what a driver does: `execute` may fail, `fetched` tells the statements whose result is
fetched, `lost` is what a failing statement leaves of the pending result -/
structure Driver (Q : Type) (R : Q → Type) (ε P σ : Type) where
  execute : Q → σ → Except ε (P × σ)
  take : (q : Q) → P → Except ε (R q) × P
  fetched : Q → Bool
  lost : P

section
variable {ι Q : Type} {R : Q → Type} {ε α P σ : Type} [DecidableEq ι]

def Thread.Waiting : Thread Q R ε α → Prop
  | .ready _ => False
  | .waiting _ _ _ => True

instance (t : Thread Q R ε α) : Decidable t.Waiting :=
  match t with
  | .ready _ => isFalse id
  | .waiting _ _ _ => isTrue trivial

/-- the program goes on with a result, or raises -/
def Thread.resume {q : Q} (k : R q → Prog Q R ε α) : Except ε (R q) → Thread Q R ε α
  | .ok r => .ready (k r)
  | .error e => .ready (.raise e)

/-- what a program that has ended returned -/
def Thread.result : Thread Q R ε α → Option α
  | .ready (.ret a) => some a
  | _ => none

variable (D : Driver Q R ε P σ)

/-- one step of the program `i` -/
def step (i : ι) (pl : Pool ι Q R ε α P σ) : Pool ι Q R ε α P σ × Option (Fetch ι Q R ε) :=
  match pl.threads i with
  | .ready (.ret _) => (pl, none)
  | .ready (.raise _) => (pl, none)
  | .ready (.call q k) =>
    match D.execute q pl.state with
    | .error e =>
      (⟨Function.update pl.threads i (.ready (.raise e)), D.lost, pl.state⟩, none)
    | .ok (p, s) =>
      let own := (D.take q p).1
      let t := if D.fetched q then .waiting q own k else Thread.resume k own
      (⟨Function.update pl.threads i t, p, s⟩, none)
  | .waiting q own k =>
    let (got, p) := D.take q pl.pending
    (⟨Function.update pl.threads i (Thread.resume k got), p, pl.state⟩, some ⟨i, q, own, got⟩)

/-- the pool and the fetches after a schedule -/
def run : List ι → Pool ι Q R ε α P σ → Pool ι Q R ε α P σ × List (Fetch ι Q R ε)
  | [], pl => (pl, [])
  | i :: w, pl =>
    let (pl', ev) := step D i pl
    let (pl'', evs) := run w pl'
    (pl'', ev.toList ++ evs)

/-- nobody moves while another program waits -/
def Exclusive : List ι → Pool ι Q R ε α P σ → Prop
  | [], _ => True
  | i :: w, pl => (∀ j, j ≠ i → ¬ (pl.threads j).Waiting) ∧ Exclusive w (step D i pl).1

instance decidableExclusive [Fintype ι] :
    (w : List ι) → (pl : Pool ι Q R ε α P σ) → Decidable (Exclusive D w pl)
  | [], _ => isTrue trivial
  | i :: w, pl =>
    have := decidableExclusive w (step D i pl).1
    inferInstanceAs (Decidable ((∀ j, j ≠ i → ¬ (pl.threads j).Waiting) ∧
      Exclusive D w (step D i pl).1))

/-- the pending result is the one that every waiting program waits for -/
def Own (pl : Pool ι Q R ε α P σ) : Prop :=
  ∀ i q own k, pl.threads i = .waiting q own k → (D.take q pl.pending).1 = own

variable {D}

theorem resume_not_waiting {q : Q} (k : R q → Prog Q R ε α) (r : Except ε (R q)) :
    ¬ (Thread.resume k r).Waiting := by
  cases r <;> exact id

theorem eq_of_waiting {pl : Pool ι Q R ε α P σ} {i j : ι}
    (hex : ∀ j, j ≠ i → ¬ (pl.threads j).Waiting) {t q own k}
    (h : Function.update pl.threads i t j = Thread.waiting q own k) : j = i := by
  by_contra hj
  rw [Function.update_of_ne hj] at h
  apply hex j hj
  rw [h]
  trivial

/-- **One exclusive step** fetches the own result, and keeps the pending result that of whoever
waits. -/
theorem step_own {pl : Pool ι Q R ε α P σ} {i : ι} (hown : Own D pl)
    (hex : ∀ j, j ≠ i → ¬ (pl.threads j).Waiting) :
    Own D (step D i pl).1 ∧ ∀ ev ∈ (step D i pl).2, ev.got = ev.own := by
  unfold step
  cases ht : pl.threads i with
  | ready p =>
    cases p with
    | ret a => exact ⟨hown, fun ev h => nomatch h⟩
    | raise e => exact ⟨hown, fun ev h => nomatch h⟩
    | call q k =>
      dsimp only
      cases he : D.execute q pl.state with
      | error e =>
        refine ⟨fun j q' own' k' h => ?_, fun ev h => nomatch h⟩
        have hj := eq_of_waiting hex h
        rw [hj] at h
        dsimp only at h
        rw [Function.update_self] at h
        cases h
      | ok x =>
        obtain ⟨p, s⟩ := x
        refine ⟨fun j q' own' k' h => ?_, fun ev h => nomatch h⟩
        have hj := eq_of_waiting hex h
        rw [hj] at h
        dsimp only at h ⊢
        rw [Function.update_self] at h
        split at h
        · cases h
          rfl
        · have hno := resume_not_waiting k (D.take q p).1
          rw [h] at hno
          exact absurd trivial hno
  | waiting q own k =>
    refine ⟨fun j q' own' k' h => ?_, fun ev h => ?_⟩
    · have hj := eq_of_waiting hex h
      rw [hj] at h
      dsimp only at h
      rw [Function.update_self] at h
      have hno := resume_not_waiting k (D.take q pl.pending).1
      rw [h] at hno
      exact absurd trivial hno
    · cases h
      exact hown i q own k ht

/-- **Exclusive runs**: every fetch gets the result of the program's own statement. -/
theorem run_own {w : List ι} {pl : Pool ι Q R ε α P σ} (hown : Own D pl)
    (hex : Exclusive D w pl) : ∀ ev ∈ (run D w pl).2, ev.got = ev.own := by
  induction w generalizing pl with
  | nil => exact fun ev h => nomatch h
  | cons i w ih =>
    obtain ⟨h1, h2⟩ := step_own hown hex.1
    intro ev hev
    rcases List.mem_append.mp hev with hev | hev
    · exact h2 ev (Option.mem_toList.mp hev)
    · exact ih h1 hex.2 ev hev

/-- a pool of programs that have not started -/
def start (p : ι → Prog Q R ε α) (pending : P) (s : σ) : Pool ι Q R ε α P σ :=
  ⟨fun i => .ready (p i), pending, s⟩

theorem start_own (p : ι → Prog Q R ε α) (pending : P) (s : σ) : Own D (start p pending s) :=
  fun _ _ _ _ h => nomatch h

/-! ## what every schedule keeps -/

/-- the statements that a program can still execute are of a class -/
def Thread.All (P : Q → Prop) : Thread Q R ε α → Prop
  | .ready p => p.All P
  | .waiting _ _ k => ∀ r, (k r).All P

theorem Thread.all_resume {P : Q → Prop} {q : Q} {k : R q → Prog Q R ε α}
    (h : ∀ r, (k r).All P) (r : Except ε (R q)) : (Thread.resume k r).All P := by
  cases r with
  | ok r => exact h r
  | error e => trivial

/-- **One step** keeps what the statement that it executes keeps, and the classes of the programs. -/
theorem step_keeps {π : Type} {D : Driver Q R ε π σ} {P : ι → Q → Prop} {I : σ → Prop}
    (h : ∀ i q s p s', P i q → I s → D.execute q s = .ok (p, s') → I s')
    {pl : Pool ι Q R ε α π σ} (hall : ∀ j, (pl.threads j).All (P j)) (hs : I pl.state) (i : ι) :
    (∀ j, ((step D i pl).1.threads j).All (P j)) ∧ I (step D i pl).1.state := by
  have hupd (t : Thread Q R ε α) (ht : t.All (P i)) (j : ι) :
      (Function.update pl.threads i t j).All (P j) := by
    by_cases hj : j = i
    · subst hj
      rw [Function.update_self]
      exact ht
    · rw [Function.update_of_ne hj]
      exact hall j
  have hi := hall i
  unfold step
  cases ht : pl.threads i with
  | ready p =>
    rw [ht] at hi
    cases p with
    | ret a => exact ⟨hall, hs⟩
    | raise e => exact ⟨hall, hs⟩
    | call q k =>
      dsimp only
      cases he : D.execute q pl.state with
      | error e => exact ⟨hupd _ trivial, hs⟩
      | ok x =>
        obtain ⟨p, s⟩ := x
        refine ⟨hupd _ ?_, h i q pl.state p s hi.1 hs he⟩
        split
        · exact hi.2
        · exact Thread.all_resume hi.2 _
  | waiting q own k =>
    rw [ht] at hi
    exact ⟨hupd _ (Thread.all_resume hi _), hs⟩

/-- **The invariant rule of a pool**: what the statements of each program keep holds after every
schedule. -/
theorem run_keeps {π : Type} {D : Driver Q R ε π σ} {P : ι → Q → Prop} {I : σ → Prop}
    (h : ∀ i q s p s', P i q → I s → D.execute q s = .ok (p, s') → I s')
    {pl : Pool ι Q R ε α π σ} (hall : ∀ j, (pl.threads j).All (P j)) (hs : I pl.state)
    (w : List ι) : I (run D w pl).1.state := by
  induction w generalizing pl with
  | nil => exact hs
  | cons i w ih =>
    obtain ⟨hall', hs'⟩ := step_keeps h hall hs i
    exact ih hall' hs'

/-! ## a program alone -/

/-- a statement and its fetch, with nothing between them, have the outcome of `exec` -/
def Driver.Atomic (D : Driver Q R ε P σ) (exec : (q : Q) → σ → Except ε (R q × σ)) : Prop :=
  ∀ q s, (∀ p t, D.execute q s = .ok (p, t) → ∃ r, (D.take q p).1 = .ok r ∧ exec q s = .ok (r, t)) ∧
    ∀ e, D.execute q s = .error e → exec q s = .error e

/-- the end of a program -/
def ended : Except ε α → Prog Q R ε α
  | .ok a => .ret a
  | .error e => .raise e

/-- **A program alone on the connection** ends as it does when its statements are atomic. -/
theorem run_alone {exec : (q : Q) → σ → Except ε (R q × σ)} (hD : D.Atomic exec)
    {p : Prog Q R ε α} {pl : Pool ι Q R ε α P σ} {i : ι} (hp : pl.threads i = .ready p) :
    ∃ n, (run D (List.replicate n i) pl).1.state = (p.run exec pl.state).2 ∧
      (run D (List.replicate n i) pl).1.threads i = .ready (ended (p.run exec pl.state).1) := by
  induction p generalizing pl with
  | ret a => exact ⟨0, rfl, hp⟩
  | raise e => exact ⟨0, rfl, hp⟩
  | call q k ih =>
    obtain ⟨hok, herr⟩ := hD q pl.state
    cases hx : D.execute q pl.state with
    | error e =>
      have hstep : (step D i pl).1 =
          ⟨Function.update pl.threads i (.ready (.raise e)), D.lost, pl.state⟩ := by
        unfold step
        simp only [hp, hx]
      rw [Prog.run_call_error exec (herr e hx)]
      refine ⟨1, ?_⟩
      show (step D i pl).1.state = _ ∧ (step D i pl).1.threads i = _
      rw [hstep]
      exact ⟨rfl, Function.update_self ..⟩
    | ok x =>
      obtain ⟨p, t⟩ := x
      obtain ⟨r, htake, hexec⟩ := hok p t hx
      rw [Prog.run_call_ok exec hexec]
      by_cases hf : D.fetched q = true
      · -- one step to execute, one to fetch
        have hstep : (step D i pl).1 =
            ⟨Function.update pl.threads i (.waiting q (D.take q p).1 k), p, t⟩ := by
          unfold step
          simp only [hp, hx, hf, if_true]
        have hfetch : (step D i (step D i pl).1).1.threads i = .ready (k r) ∧
            (step D i (step D i pl).1).1.state = t := by
          rw [hstep]
          unfold step
          simp only [Function.update_self, htake, Thread.resume, and_self]
        obtain ⟨n, hn⟩ := ih r hfetch.1
        rw [hfetch.2] at hn
        exact ⟨n + 2, hn⟩
      · have hstep : (step D i pl).1 =
            ⟨Function.update pl.threads i (Thread.resume k (D.take q p).1), p, t⟩ := by
          unfold step
          simp only [hp, hx, hf]
          rfl
        have hready : (step D i pl).1.threads i = .ready (k r) ∧ (step D i pl).1.state = t := by
          rw [hstep, htake]
          exact ⟨Function.update_self .., rfl⟩
        obtain ⟨n, hn⟩ := ih r hready.1
        rw [hready.2] at hn
        exact ⟨n + 1, hn⟩

end

end Connection
