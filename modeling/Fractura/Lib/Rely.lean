import Fractura.Lib.Connection

/-!
# Programs among others

Rely and guarantee for the pools of `Lib.Connection`, with one relation for both.  A `Pact` has a
preorder `le` in which every statement of every program moves the state up, an invariant `inv` of the
states, and what is known of a pending result (`valid`), which stays known as the state moves up.

`Honours K post p s`: the program `p`, started at `s`, keeps the pact, whatever the others do within
it before each of its statements and before each of its fetches, and `post` holds of what it returns,
from then on.

Rules: `honours_bind` (sequencing), `honours_all` (a class of statements), `honours_each` (a loop with
an invariant), and `run_honours`: a pool whose programs honour the pact is within it after every
schedule.
-/

set_option linter.unusedSectionVars false

namespace Connection

structure Pact {Q : Type} {R : Q → Type} {ε P σ : Type} (D : Driver Q R ε P σ) where
  le : σ → σ → Prop
  inv : σ → Prop
  valid : P → σ → Prop
  refl : ∀ s, le s s
  trans : ∀ {s t u}, le s t → le t u → le s u
  mono : ∀ {p s t}, valid p s → le s t → valid p t
  lost : ∀ s, valid D.lost s
  take : ∀ {q p s}, valid p s → valid (D.take q p).2 s

section
variable {ι Q : Type} {R : Q → Type} {ε α β γ P σ : Type} [DecidableEq ι]
variable {D : Driver Q R ε P σ}

/-- the result of a fetch among the others, at a state that is not before `s` -/
def Pact.Fetches (K : Pact D) (q : Q) (s : σ) (r : R q) (t : σ) : Prop :=
  K.le s t ∧ K.inv t ∧ ∃ p, K.valid p t ∧ (D.take q p).1 = .ok r

def Honours (K : Pact D) (post : α → σ → Prop) : Prog Q R ε α → σ → Prop
  | .ret a, s => ∀ t, K.le s t → K.inv t → post a t
  | .raise _, _ => True
  | .call q k, s => ∀ t p u, K.le s t → K.inv t → D.execute q t = .ok (p, u) →
      (K.le t u ∧ K.inv u ∧ K.valid p u) ∧ ∀ r v, K.Fetches q u r v → Honours K post (k r) v

variable {K : Pact D} {post : α → σ → Prop} {s t : σ}

theorem honours_ret {a : α} (h : ∀ t, K.le s t → K.inv t → post a t) :
    Honours K post (.ret a : Prog Q R ε α) s := h

theorem honours_raise {e : ε} : Honours K post (.raise e : Prog Q R ε α) s := trivial

theorem honours_call {q : Q} {k : R q → Prog Q R ε α}
    (h : ∀ t p u, K.le s t → K.inv t → D.execute q t = .ok (p, u) →
      (K.le t u ∧ K.inv u ∧ K.valid p u) ∧ ∀ r v, K.Fetches q u r v → Honours K post (k r) v) :
    Honours K post (.call q k) s := h

theorem Honours.mono {p : Prog Q R ε α} (h : Honours K post p s) (hle : K.le s t) :
    Honours K post p t := by
  cases p with
  | ret a => exact fun u hu hi => h u (K.trans hle hu) hi
  | raise e => trivial
  | call q k => exact fun u p v hu hi hx => h u p v (K.trans hle hu) hi hx

theorem Honours.imp {post' : α → σ → Prop} {p : Prog Q R ε α} (h : Honours K post p s)
    (himp : ∀ a t, K.le s t → K.inv t → post a t → post' a t) : Honours K post' p s := by
  induction p generalizing s with
  | ret a => exact fun t ht hi => himp a t ht hi (h t ht hi)
  | raise e => trivial
  | call q k ih =>
    intro t p u ht hi hx
    obtain ⟨hstep, hk⟩ := h t p u ht hi hx
    refine ⟨hstep, fun r v hv => ih r (hk r v hv) fun a w hw => ?_⟩
    exact himp a w (K.trans ht (K.trans hstep.1 (K.trans hv.1 hw)))

theorem Honours.always {p : Prog Q R ε α} (h : Honours K post p s) :
    Honours K (fun a t => ∀ u, K.le t u → K.inv u → post a u) p s := by
  induction p generalizing s with
  | ret a => exact fun t ht _ u hu hi => h u (K.trans ht hu) hi
  | raise e => trivial
  | call q k ih =>
    intro t p u ht hi hx
    obtain ⟨hstep, hk⟩ := h t p u ht hi hx
    exact ⟨hstep, fun r v hv => ih r (hk r v hv)⟩

/-- **Sequencing.** -/
theorem honours_bind {post' : β → σ → Prop} {p : Prog Q R ε α} {f : α → Prog Q R ε β}
    (hs : K.inv s) (hp : Honours K post p s)
    (hf : ∀ a t, K.le s t → K.inv t → post a t → Honours K post' (f a) t) :
    Honours K post' (p.bind f) s := by
  induction p generalizing s with
  | ret a => exact hf a s (K.refl s) hs (hp s (K.refl s) hs)
  | raise e => trivial
  | call q k ih =>
    intro t p u ht hi hx
    obtain ⟨hstep, hk⟩ := hp t p u ht hi hx
    refine ⟨hstep, fun r v hv => ih r hv.2.1 (hk r v hv) fun a w hw => ?_⟩
    exact hf a w (K.trans ht (K.trans hstep.1 (K.trans hv.1 hw)))

theorem honours_bind_never {post : β → σ → Prop} {p : Prog Q R ε α} {f : α → Prog Q R ε β}
    (hs : K.inv s) (hp : Honours K (fun _ _ => False) p s) : Honours K post (p.bind f) s :=
  honours_bind hs hp fun _ _ _ _ h => h.elim

/-- **A class of statements**: programs of statements that keep the pact one by one. -/
theorem honours_all {C : Q → Prop}
    (h : ∀ q t p u, C q → K.inv t → D.execute q t = .ok (p, u) →
      K.le t u ∧ K.inv u ∧ K.valid p u)
    {p : Prog Q R ε α} (hp : p.All C) (s : σ) : Honours K (fun _ _ => True) p s := by
  induction p generalizing s with
  | ret a => exact fun _ _ _ => trivial
  | raise e => trivial
  | call q k ih =>
    exact fun t p u _ hi hx => ⟨h q t p u hp.1 hi hx, fun r v _ => ih r (hp.2 r) v⟩

/-- **A loop**: `J` holds of the elements that are done, at every round. -/
theorem honours_each {f : γ → Prog Q R ε Unit} {J : List γ → σ → Prop} {l : List γ}
    (h : ∀ pre x post, l = pre ++ x :: post → ∀ s, K.inv s → J pre s →
      Honours K (fun _ t => J (pre ++ [x]) t) (f x) s)
    (hs : K.inv s) (h0 : ∀ t, K.le s t → K.inv t → J [] t) :
    Honours K (fun _ t => J l t) (Prog.each l f) s := by
  suffices hrest : ∀ pre rest s, l = pre ++ rest → K.inv s →
      (∀ t, K.le s t → K.inv t → J pre t) → Honours K (fun _ t => J l t) (Prog.each rest f) s from
    hrest [] l s rfl hs h0
  intro pre rest
  induction rest generalizing pre with
  | nil =>
    intro s hl _ hJ
    rw [List.append_nil] at hl
    subst hl
    exact hJ
  | cons x rest ih =>
    intro s hl hs hJ
    -- what the round ends with stays, so it holds at the start of the next one
    have hx : Honours K (fun _ t => ∀ u, K.le t u → K.inv u → J (pre ++ [x]) u) (f x) s :=
      (h pre x rest hl s hs (hJ s (K.refl s) hs)).always
    refine honours_bind hs hx fun _ t _ ht hpost => ?_
    exact ih (pre ++ [x]) t (by rw [hl, List.append_assoc]; rfl) ht hpost

/-! ## pools -/

/-- a program in the middle of its run -/
def Thread.Honours (K : Pact D) (post : α → σ → Prop) : Thread Q R ε α → σ → Prop
  | .ready p, s => Connection.Honours K post p s
  | .waiting q _ k, s => ∀ r t, K.Fetches q s r t → Connection.Honours K post (k r) t

structure Honoured (K : Pact D) (post : ι → α → σ → Prop) (pl : Pool ι Q R ε α P σ) : Prop where
  threads : ∀ i, (pl.threads i).Honours K (post i) pl.state
  inv : K.inv pl.state
  valid : K.valid pl.pending pl.state

theorem Thread.Honours.mono {T : Thread Q R ε α} (h : T.Honours K post s) (hle : K.le s t) :
    T.Honours K post t := by
  cases T with
  | ready p => exact Connection.Honours.mono h hle
  | waiting q own k => exact fun r u hf => h r u ⟨K.trans hle hf.1, hf.2⟩

theorem Thread.honours_resume {q : Q} {k : R q → Prog Q R ε α} {r : Except ε (R q)}
    (h : ∀ x, r = .ok x → Connection.Honours K post (k x) s) :
    (Thread.resume k r).Honours K post s := by
  cases r with
  | ok x => exact h x rfl
  | error e => trivial

/-- **One step** of a pool that honours the pact is within it. -/
theorem step_honours {post : ι → α → σ → Prop} {pl : Pool ι Q R ε α P σ} (h : Honoured K post pl)
    (i : ι) : Honoured K post (step D i pl).1 ∧ K.le pl.state (step D i pl).1.state := by
  have hi := h.threads i
  -- one thread moves and the state goes up; the others keep what they knew
  have hmove (T : Thread Q R ε α) (p : P) (u : σ) (hle : K.le pl.state u) (hu : K.inv u)
      (hp : K.valid p u) (hT : T.Honours K (post i) u) :
      Honoured K post ⟨Function.update pl.threads i T, p, u⟩ := by
    refine ⟨fun j => ?_, hu, hp⟩
    by_cases hj : j = i
    · subst hj
      dsimp only
      rw [Function.update_self]
      exact hT
    · dsimp only
      rw [Function.update_of_ne hj]
      exact (h.threads j).mono hle
  unfold step
  cases ht : pl.threads i with
  | ready p =>
    rw [ht] at hi
    cases p with
    | ret a => exact ⟨h, K.refl _⟩
    | raise e => exact ⟨h, K.refl _⟩
    | call q k =>
      dsimp only
      cases hx : D.execute q pl.state with
      | error e => exact ⟨hmove _ _ _ (K.refl _) h.inv (K.lost _) trivial, K.refl _⟩
      | ok x =>
        obtain ⟨p, u⟩ := x
        obtain ⟨⟨hle, hu, hp⟩, hk⟩ := hi pl.state p u (K.refl _) h.inv hx
        refine ⟨hmove _ _ _ hle hu hp ?_, hle⟩
        split
        · exact hk
        · exact Thread.honours_resume fun r hr => hk r u ⟨K.refl u, hu, p, hp, hr⟩
  | waiting q own k =>
    rw [ht] at hi
    refine ⟨hmove _ _ _ (K.refl _) h.inv (K.take h.valid) (Thread.honours_resume fun r hr => ?_),
      K.refl _⟩
    exact hi r pl.state ⟨K.refl _, h.inv, pl.pending, h.valid, hr⟩

/-- **Every schedule** of a pool that honours the pact is within it. -/
theorem run_honours {post : ι → α → σ → Prop} {pl : Pool ι Q R ε α P σ} (h : Honoured K post pl)
    (w : List ι) : Honoured K post (run D w pl).1 ∧ K.le pl.state (run D w pl).1.state := by
  induction w generalizing pl with
  | nil => exact ⟨h, K.refl _⟩
  | cons i w ih =>
    obtain ⟨hstep, hle⟩ := step_honours h i
    obtain ⟨hrun, hle'⟩ := ih hstep
    exact ⟨hrun, K.trans hle hle'⟩

theorem Honoured.result {post : ι → α → σ → Prop} {pl : Pool ι Q R ε α P σ}
    (h : Honoured K post pl) {i : ι} {a : α} (ha : (pl.threads i).result = some a) :
    post i a pl.state := by
  have hi := h.threads i
  cases ht : pl.threads i with
  | ready p =>
    rw [ht] at hi ha
    cases p with
    | ret b =>
      cases ha
      exact hi pl.state (K.refl _) h.inv
    | raise e => cases ha
    | call q k => cases ha
  | waiting q own k =>
    rw [ht] at ha
    cases ha

end

attribute [irreducible] Honours

end Connection
