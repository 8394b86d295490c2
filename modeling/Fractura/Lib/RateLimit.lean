import Mathlib.Algebra.Order.Group.Defs
import Mathlib.Data.List.Count
import Mathlib.Logic.Function.Basic
import Mathlib.Tactic.Linarith

/-!
# Fixed-window counters

A counter for every key, which is dropped when its time is over.  The first hit of a key opens a window
of length `W`; a hit is allowed while the counter is not above the amount.  Events carry the readings
of the clock, so the state holds no clock.

A run is any list of events in the order of time (`Timed`), from the empty storage:

* `allowed_le`    in no interval of length `W` are more than `2 * N` hits of a key allowed;
* `refused_ge`    a hit is refused only if `N` allowed hits of its own key are less than `W` old;
* `all_allowed`   a key with no more than `N` hits is never refused, whatever the other keys do.

They follow from `Inv`, what one event keeps (`Inv.step`).
-/

set_option linter.unusedSectionVars false

namespace RateLimit

variable {κ T : Type}

/-- the counters and the moments at which they end -/
structure Storage (κ T : Type) where
  count : κ → ℕ
  expirations : κ → Option T

/-- a hit reads the clock before and after it counts; counters are also dropped in the background -/
inductive Event (κ T : Type) where
  | hit (k : κ) (amount : ℕ) (before after : T)
  | expire (now : T)

/-- a hit and its answer -/
structure Entry (κ T : Type) where
  key : κ
  before : T
  after : T
  allowed : Bool

def Storage.empty : Storage κ T := ⟨fun _ => 0, fun _ => none⟩

section
variable [DecidableEq κ] [LinearOrder T] [Add T]

def Storage.pop (s : Storage κ T) (k : κ) : Storage κ T :=
  ⟨Function.update s.count k 0, Function.update s.expirations k none⟩

/-- a key without a moment counts as over -/
def Storage.over (s : Storage κ T) (k : κ) (now : T) : Bool :=
  match s.expirations k with
  | some e => decide (e ≤ now)
  | none => true

def Storage.get (s : Storage κ T) (k : κ) (now : T) : Storage κ T :=
  if s.over k now then s.pop k else s

/-- the first hit of a window sets the moment at which it ends -/
def Storage.incr (W : T) (s : Storage κ T) (k : κ) (before after : T) : Storage κ T :=
  let s := s.get k before
  ⟨Function.update s.count k (s.count k + 1),
    if s.count k = 0 then Function.update s.expirations k (some (after + W)) else s.expirations⟩

def Storage.expire (s : Storage κ T) (now : T) : Storage κ T where
  count k := if s.expirations k ≠ none ∧ s.over k now = true then 0 else s.count k
  expirations k := if s.over k now then none else s.expirations k

def step (W : T) (s : Storage κ T) : Event κ T → Storage κ T × Option (Entry κ T)
  | .hit k amount before after =>
    let t := s.incr W k before after
    (t, some ⟨k, before, after, decide (t.count k ≤ amount)⟩)
  | .expire now => (s.expire now, none)

/-- the storage after the events, and the answers, the last one first -/
def run (W : T) (es : List (Event κ T)) (x : Storage κ T × List (Entry κ T)) :
    Storage κ T × List (Entry κ T) :=
  es.foldl (fun x e => ((step W x.1 e).1, (step W x.1 e).2.toList ++ x.2)) x

/-- the events are in the order of time -/
def Timed : T → List (Event κ T) → Prop
  | _, [] => True
  | now, .hit _ _ before after :: es => now ≤ before ∧ before ≤ after ∧ Timed after es
  | now, .expire t :: es => now ≤ t ∧ Timed t es

/-- the hits of `k` are hits of the amount `N` -/
def Amount (k : κ) (N : ℕ) (es : List (Event κ T)) : Prop :=
  ∀ n before after, Event.hit k n before after ∈ es → n = N

end

/-! ## counting -/

section
variable [DecidableEq κ] [AddCommGroup T] [LinearOrder T] [IsOrderedAddMonoid T]
  {W : T} {k : κ} {N : ℕ} {s : Storage κ T} {log : List (Entry κ T)} {now : T}

/-- the allowed hits of a key with a property -/
def allowed (k : κ) (p : Entry κ T → Bool) (log : List (Entry κ T)) : ℕ :=
  log.countP fun x => decide (x.key = k) && x.allowed && p x

/-- the allowed hits from `a` on -/
def since (k : κ) (a : T) (log : List (Entry κ T)) : ℕ := allowed k (fun x => decide (a ≤ x.before)) log

/-- the allowed hits in the interval of length `W` from `a` -/
def within (W : T) (k : κ) (a : T) (log : List (Entry κ T)) : ℕ :=
  allowed k (fun x => decide (a ≤ x.before ∧ x.before < a + W)) log

/-- the allowed hits whose window of their own is not over at `a` -/
def fresh (W : T) (k : κ) (a : T) (log : List (Entry κ T)) : ℕ :=
  allowed k (fun x => decide (a ≤ x.after + W)) log

theorem allowed_mono {p q : Entry κ T → Bool} (h : ∀ x ∈ log, p x = true → q x = true) :
    allowed k p log ≤ allowed k q log := by
  refine List.countP_mono_left fun x hx hp => ?_
  simp only [Bool.and_eq_true] at hp ⊢
  exact ⟨hp.1, h x hx hp.2⟩

theorem within_le_since (a : T) : within W k a log ≤ since k a log :=
  allowed_mono fun x _ h => by
    simp only [decide_eq_true_eq] at h ⊢
    exact h.1

theorem allowed_cons (p : Entry κ T → Bool) (x : Entry κ T) : allowed k p (x :: log) =
    allowed k p log + if x.key = k ∧ x.allowed = true ∧ p x = true then 1 else 0 := by
  unfold allowed
  rw [List.countP_cons]
  congr 1
  simp only [Bool.and_eq_true, decide_eq_true_eq, and_assoc]

theorem allowed_le_cons (p : Entry κ T → Bool) (x : Entry κ T) :
    allowed k p log ≤ allowed k p (x :: log) := by
  rw [allowed_cons]
  exact Nat.le_add_right _ _

theorem allowed_cons_of_not {p : Entry κ T → Bool} {x : Entry κ T}
    (h : ¬ (x.key = k ∧ x.allowed = true ∧ p x = true)) :
    allowed k p (x :: log) = allowed k p log := by
  rw [allowed_cons, if_neg h, Nat.add_zero]

/-! ## the invariant of a key -/

/-- what holds of the counter of `k` and of the answers so far, at the time `now` -/
structure Inv (W : T) (k : κ) (N : ℕ) (s : Storage κ T) (log : List (Entry κ T)) (now : T) : Prop where
  past : ∀ x ∈ log, x.before ≤ now
  total : ∀ a, within W k a log ≤ 2 * N
  closed : s.expirations k = none → s.count k = 0 ∧ ∀ a, now < a + W → since k a log ≤ N
  /-- a window that ends at `e`: the allowed hits after its first one are at most its counter, and an
  interval that is not over meets it and at most one window before it -/
  opened : ∀ e, s.expirations k = some e → 0 < s.count k ∧ e ≤ now + W ∧
    (∀ a, e < a + W → since k a log ≤ min (s.count k) N) ∧
    (∀ a, now < a + W → within W k a log ≤ N + min (s.count k) N) ∧
    min (s.count k) N ≤ fresh W k e log
  refused : ∀ x ∈ log, x.key = k → x.allowed = false → N ≤
    allowed k (fun y => decide (x.before < y.after + W)) log

theorem inv_empty (now : T) : Inv W k N (Storage.empty : Storage κ T) [] now where
  past _ hx := absurd hx List.not_mem_nil
  total _ := Nat.zero_le _
  closed _ := ⟨rfl, fun _ _ => Nat.zero_le _⟩
  opened _ he := nomatch he
  refused _ hx := absurd hx List.not_mem_nil

theorem Inv.later (h : Inv W k N s log now) {t : T} (ht : now ≤ t) : Inv W k N s log t where
  past x hx := (h.past x hx).trans ht
  total := h.total
  closed hc := ⟨(h.closed hc).1, fun a ha => (h.closed hc).2 a (ht.trans_lt ha)⟩
  opened e he := by
    obtain ⟨hpos, hend, hsince, hwithin, hfresh⟩ := h.opened e he
    exact ⟨hpos, hend.trans (by gcongr), hsince, fun a ha => hwithin a (ht.trans_lt ha), hfresh⟩
  refused := h.refused

theorem Inv.congr (h : Inv W k N s log now) {t : Storage κ T} (hc : t.count k = s.count k)
    (he : t.expirations k = s.expirations k) : Inv W k N t log now where
  past := h.past
  total := h.total
  closed := by
    rw [hc, he]
    exact h.closed
  opened := by
    rw [hc, he]
    exact h.opened
  refused := h.refused

theorem Inv.drop (h : Inv W k N s log now) (hover : s.over k now = true) {t : Storage κ T}
    (hc : t.count k = 0) (he : t.expirations k = none) : Inv W k N t log now where
  past := h.past
  total := h.total
  closed _ := by
    refine ⟨hc, fun a ha => ?_⟩
    cases hexp : s.expirations k with
    | none => exact (h.closed hexp).2 a ha
    | some e =>
      have hle : e ≤ now := by
        unfold Storage.over at hover
        rw [hexp] at hover
        exact of_decide_eq_true hover
      exact ((h.opened e hexp).2.2.1 a (hle.trans_lt ha)).trans (min_le_right _ _)
  opened e h' := by
    rw [he] at h'
    cases h'
  refused := h.refused

theorem Inv.other (h : Inv W k N s log now) {x : Entry κ T} (hk : x.key ≠ k) (hx : x.before ≤ now) :
    Inv W k N s (x :: log) now := by
  have hsame (p : Entry κ T → Bool) : allowed k p (x :: log) = allowed k p log :=
    allowed_cons_of_not fun hc => hk hc.1
  refine ⟨?_, ?_, ?_, ?_, ?_⟩
  · intro y hy
    rcases List.mem_cons.mp hy with rfl | hy
    · exact hx
    · exact h.past y hy
  · intro a
    unfold within
    rw [hsame]
    exact h.total a
  · intro hc
    refine ⟨(h.closed hc).1, fun a ha => ?_⟩
    unfold since
    rw [hsame]
    exact (h.closed hc).2 a ha
  · intro e he
    unfold since within fresh
    simp only [hsame]
    exact h.opened e he
  · intro y hy hyk hya
    rw [hsame]
    rcases List.mem_cons.mp hy with rfl | hy
    · exact absurd hyk hk
    · exact h.refused y hy hyk hya

/-! ## one event -/

theorem get_of_ne {j : κ} (hj : j ≠ k) (t : T) : (s.get j t).count k = s.count k ∧
    (s.get j t).expirations k = s.expirations k := by
  unfold Storage.get Storage.pop
  split
  · exact ⟨Function.update_of_ne hj.symm .., Function.update_of_ne hj.symm ..⟩
  · exact ⟨rfl, rfl⟩

theorem incr_of_ne {j : κ} (hj : j ≠ k) (t t' : T) : (s.incr W j t t').count k = s.count k ∧
    (s.incr W j t t').expirations k = s.expirations k := by
  obtain ⟨hc, he⟩ := get_of_ne (s := s) hj t
  unfold Storage.incr
  dsimp only
  rw [Function.update_of_ne hj.symm, hc]
  refine ⟨rfl, ?_⟩
  split
  · rw [Function.update_of_ne hj.symm, he]
  · exact he

/-- before it counts, a hit finds no window or one that is not over -/
theorem get_cases (s : Storage κ T) (k : κ) (t : T) : (s.get k t).expirations k = none ∨
    ∃ e, (s.get k t).expirations k = some e ∧ t < e := by
  unfold Storage.get
  by_cases hover : s.over k t = true
  · rw [if_pos hover]
    exact .inl (Function.update_self ..)
  · rw [if_neg hover]
    unfold Storage.over at hover
    cases hexp : s.expirations k with
    | none => exact .inl rfl
    | some e =>
      rw [hexp] at hover
      exact .inr ⟨e, rfl, not_le.mp fun hle => hover (decide_eq_true hle)⟩

theorem Inv.get (h : Inv W k N s log now) : Inv W k N (s.get k now) log now := by
  unfold Storage.get
  by_cases hover : s.over k now = true
  · rw [if_pos hover]
    exact h.drop hover (Function.update_self ..) (Function.update_self ..)
  · rw [if_neg hover]
    exact h

theorem Inv.expire (h : Inv W k N s log now) : Inv W k N (s.expire now) log now := by
  by_cases hover : s.over k now = true
  · refine h.drop hover ?_ (if_pos hover)
    show (if s.expirations k ≠ none ∧ s.over k now = true then 0 else s.count k) = 0
    split
    · rfl
    · rename_i hno
      exact (h.closed (not_not.mp fun hne => hno ⟨hne, hover⟩)).1
  · exact h.congr (if_neg fun hc => hover hc.2) (if_neg hover)

/-- the answer to a hit that is made at `t` and counts at `t'` -/
def answer (k : κ) (t t' : T) (c N : ℕ) : Entry κ T := ⟨k, t, t', decide (c ≤ N)⟩

theorem allowed_answer (p : Entry κ T → Bool) (t t' : T) (c : ℕ) :
    allowed k p (answer k t t' c N :: log) =
      allowed k p log + if c ≤ N ∧ p (answer k t t' c N) = true then 1 else 0 := by
  rw [allowed_cons]
  congr 1
  exact if_congr (by simp [answer]) rfl rfl

theorem Inv.first (h : Inv W k N s log now) (hexp : s.expirations k = none) {t' : T} (ht : now ≤ t')
    {u : Storage κ T} (hc : u.count k = 1) (he : u.expirations k = some (t' + W)) :
    Inv W k N u (answer k now t' 1 N :: log) t' := by
  have hfree : ∀ a, now < a + W → within W k a log ≤ N := fun a ha =>
    (within_le_since a).trans ((h.closed hexp).2 a ha)
  refine ⟨?_, ?_, fun hn => ?_, fun e hs => ?_, ?_⟩
  · intro x hx
    rcases List.mem_cons.mp hx with rfl | hx
    · exact ht
    · exact (h.past x hx).trans ht
  · intro a
    unfold within
    rw [allowed_answer]
    split
    · rename_i hin
      have hin' : a ≤ now ∧ now < a + W := of_decide_eq_true hin.2
      have hle := hfree a hin'.2
      unfold within at hle
      omega
    · exact h.total a
  · rw [he] at hn
    cases hn
  · rw [he] at hs
    cases hs
    rw [hc]
    refine ⟨Nat.one_pos, le_rfl, fun a ha => ?_, fun a ha => ?_, ?_⟩
    · have hlt : t' < a := by simpa using ha
      have hnil : since k a (answer k now t' 1 N :: log) = 0 := by
        refine List.countP_eq_zero.mpr fun x hx hin => ?_
        simp only [Bool.and_eq_true, decide_eq_true_eq] at hin
        have hpast : x.before ≤ t' := by
          rcases List.mem_cons.mp hx with rfl | hx
          · exact ht
          · exact (h.past x hx).trans ht
        exact absurd (hin.2.trans hpast) (not_le.mpr hlt)
      rw [hnil]
      exact Nat.zero_le _
    · have hle := hfree a (ht.trans_lt ha)
      unfold within at hle ⊢
      rw [allowed_answer]
      split <;> omega
    · unfold fresh
      rw [allowed_answer]
      by_cases hN : 1 ≤ N
      · rw [if_pos ⟨hN, decide_eq_true le_rfl⟩]
        omega
      · omega
  · intro x hx hk hx'
    rcases List.mem_cons.mp hx with rfl | hx
    · have hN : ¬ 1 ≤ N := of_decide_eq_false hx'
      omega
    · exact (h.refused x hx hk hx').trans (allowed_le_cons _ _)

theorem Inv.further (h : Inv W k N s log now) {e : T} (hexp : s.expirations k = some e)
    (hlt : now < e) {t' : T} (ht : now ≤ t') {u : Storage κ T} (hc : u.count k = s.count k + 1)
    (he : u.expirations k = some e) :
    Inv W k N u (answer k now t' (s.count k + 1) N :: log) t' := by
  obtain ⟨hpos, hend, hsince, hwithin, hfresh⟩ := h.opened e hexp
  refine ⟨?_, ?_, fun hn => ?_, fun e' hs => ?_, ?_⟩
  · intro x hx
    rcases List.mem_cons.mp hx with rfl | hx
    · exact ht
    · exact (h.past x hx).trans ht
  · intro a
    unfold within
    rw [allowed_answer]
    split
    · rename_i hin
      have hin' : a ≤ now ∧ now < a + W := of_decide_eq_true hin.2
      have hle := hwithin a hin'.2
      unfold within at hle
      omega
    · exact h.total a
  · rw [he] at hn
    cases hn
  · rw [he] at hs
    cases hs
    rw [hc]
    refine ⟨Nat.succ_pos _, hend.trans (by gcongr), fun a ha => ?_, fun a ha => ?_, ?_⟩
    · have hle := hsince a ha
      unfold since at hle ⊢
      rw [allowed_answer]
      split <;> omega
    · have hle := hwithin a (ht.trans_lt ha)
      unfold within at hle ⊢
      rw [allowed_answer]
      split <;> omega
    · unfold fresh at hfresh ⊢
      rw [allowed_answer]
      by_cases hN : s.count k + 1 ≤ N
      · have hin : e ≤ t' + W := hend.trans (by gcongr)
        rw [if_pos ⟨hN, decide_eq_true hin⟩]
        omega
      · omega
  · intro x hx hk hx'
    rcases List.mem_cons.mp hx with rfl | hx
    · have hN : ¬ s.count k + 1 ≤ N := of_decide_eq_false hx'
      have hold : fresh W k e log ≤ allowed k (fun y => decide (now < y.after + W)) log :=
        allowed_mono fun y _ hy => decide_eq_true (hlt.trans_le (of_decide_eq_true hy))
      exact (by omega : N ≤ fresh W k e log).trans (hold.trans (allowed_le_cons _ _))
    · exact (h.refused x hx hk hx').trans (allowed_le_cons _ _)

theorem Inv.hit (h : Inv W k N s log now) {t' : T} (ht : now ≤ t') :
    Inv W k N (s.incr W k now t') (answer k now t' ((s.incr W k now t').count k) N :: log) t' := by
  have hget := h.get
  have hcount : (s.incr W k now t').count k = (s.get k now).count k + 1 := Function.update_self ..
  rw [hcount]
  rcases get_cases s k now with hexp | ⟨e, hexp, hlt⟩
  · have hzero := (hget.closed hexp).1
    rw [hzero]
    refine hget.first hexp ht (by rw [hcount, hzero]) ?_
    unfold Storage.incr
    dsimp only
    rw [if_pos hzero, Function.update_self]
  · refine hget.further hexp hlt ht hcount ?_
    unfold Storage.incr
    dsimp only
    rw [if_neg (Nat.pos_iff_ne_zero.mp (hget.opened e hexp).1), hexp]

/-! ## runs -/

/-- **The invariant of a key holds at the end of every run.** -/
theorem Inv.run {es : List (Event κ T)} (hes : Timed now es) (hN : Amount k N es)
    (h : Inv W k N s log now) :
    ∃ t, Inv W k N (run W es (s, log)).1 (run W es (s, log)).2 t := by
  induction es generalizing s log now with
  | nil => exact ⟨now, h⟩
  | cons e es ih =>
    have hN' : Amount k N es := fun n t t' hm => hN n t t' (List.mem_cons_of_mem _ hm)
    cases e with
    | hit j n t t' =>
      obtain ⟨hnow, ht, hes⟩ := hes
      have h' := h.later hnow
      by_cases hj : j = k
      · subst hj
        obtain rfl : n = N := hN n t t' List.mem_cons_self
        exact ih hes hN' (h'.hit ht)
      · obtain ⟨hc, he⟩ := incr_of_ne (W := W) (s := s) hj t t'
        exact ih hes hN' (((h'.later ht).congr hc he).other hj ht)
    | expire t => exact ih hes.2 hN' (h.later hes.1).expire

variable {es : List (Event κ T)}

/-- **A key is not allowed more than twice its amount** in any interval of one window. -/
theorem allowed_le (hes : Timed now es) (hN : Amount k N es) (a : T) :
    within W k a (run W es (.empty, [])).2 ≤ 2 * N := by
  obtain ⟨t, h⟩ := (inv_empty now).run (W := W) hes hN
  exact h.total a

/-- **A hit is refused only after its amount**: that many allowed hits of the key are still fresh. -/
theorem refused_ge (hes : Timed now es) (hN : Amount k N es) {x : Entry κ T}
    (hx : x ∈ (run W es (.empty, [])).2) (hk : x.key = k) (hr : x.allowed = false) :
    N ≤ allowed k (fun y => decide (x.before < y.after + W)) (run W es (.empty, [])).2 := by
  obtain ⟨t, h⟩ := (inv_empty now).run (W := W) hes hN
  exact h.refused x hx hk hr

/-- the hits of a key among the events -/
def hits (k : κ) (es : List (Event κ T)) : ℕ :=
  es.countP fun e => match e with
    | .hit j _ _ _ => decide (j = k)
    | .expire _ => false

theorem countP_run (es : List (Event κ T)) (x : Storage κ T × List (Entry κ T)) :
    (run W es x).2.countP (fun y => decide (y.key = k)) =
      hits k es + x.2.countP fun y => decide (y.key = k) := by
  induction es generalizing x with
  | nil => exact (Nat.zero_add _).symm
  | cons e es ih =>
    refine (ih _).trans ?_
    unfold hits
    rw [List.countP_cons]
    cases e with
    | hit j n t t' =>
      show _ + List.countP _ (_ :: x.2) = _
      rw [List.countP_cons]
      dsimp only
      omega
    | expire t => rfl

theorem allowed_add_refused (p : Entry κ T → Bool) (log : List (Entry κ T)) :
    allowed k p log + log.countP (fun x => decide (x.key = k) && !x.allowed) ≤
      log.countP fun x => decide (x.key = k) := by
  induction log with
  | nil => exact le_rfl
  | cons x log ih =>
    rw [allowed_cons, List.countP_cons, List.countP_cons]
    by_cases hk : x.key = k
    · cases hx : x.allowed with
      | false =>
        simp only [hk, decide_true, Bool.true_and, Bool.not_false, if_true, false_and, and_false,
          if_false, Bool.false_eq_true]
        omega
      | true =>
        simp only [hk, decide_true, Bool.true_and, Bool.not_true, if_true, true_and, if_false,
          Bool.false_eq_true]
        split <;> omega
    · simp only [hk, decide_false, Bool.false_and, if_false, false_and, Bool.false_eq_true]
      omega

/-- **A key with no more hits than its amount** is never refused, whatever the other keys do. -/
theorem all_allowed (hes : Timed now es) (hN : Amount k N es) (hk : hits k es ≤ N) {x : Entry κ T}
    (hx : x ∈ (run W es (.empty, [])).2) (hxk : x.key = k) : x.allowed = true := by
  by_contra hr
  have hr' := Bool.eq_false_iff.mpr hr
  have hge := refused_ge (W := W) hes hN hx hxk hr'
  have hadd := allowed_add_refused (k := k) (fun y => decide (x.before < y.after + W))
    (run W es (.empty, [])).2
  have hpos : 0 < (run W es (.empty, [])).2.countP fun x => decide (x.key = k) && !x.allowed :=
    List.countP_pos_iff.mpr ⟨x, hx, by simp [hxk, hr']⟩
  rw [countP_run] at hadd
  simp only [List.countP_nil] at hadd
  omega

end

end RateLimit
