import Mathlib.Data.List.Basic
import Mathlib.Data.Option.Basic

/-!
# Requests and their outcomes

A log keeps the requests of a client in the order in which they were issued, each with its outcome
once it has one; they complete in any order.

* `issue l q`           a new request, the latest one;
* `complete l i x`      the request at the place `i` has the outcome `x`; only a pending request
                        completes;
* `latest l`            the request that was issued last (`latest_issue`, `latest_complete_last`,
                        `latest_complete_earlier`);
* `AllDone l`           none is pending;
* `Suits C l`           every outcome suits its request.
-/

namespace Requests

structure Request (ρ χ : Type) where
  params : ρ
  outcome : Option χ

section
variable {ρ χ : Type}

abbrev Log (ρ χ : Type) : Type := List (Request ρ χ)

def issue (l : Log ρ χ) (q : ρ) : Log ρ χ := l ++ [⟨q, none⟩]

def complete (l : Log ρ χ) (i : Nat) (x : χ) : Option (Log ρ χ) :=
  match l[i]? with
  | some ⟨q, none⟩ => some (l.set i ⟨q, some x⟩)
  | _ => none

def latest (l : Log ρ χ) : Option (Request ρ χ) := l.getLast?

def AllDone (l : Log ρ χ) : Prop := ∀ p ∈ l, p.outcome.isSome = true

instance (l : Log ρ χ) : Decidable (AllDone l) := inferInstanceAs (Decidable (∀ p ∈ l, _))

variable {l l' : Log ρ χ} {i : Nat} {x : χ} {q : ρ}

/-- **What a completion does.** -/
theorem complete_eq_some :
    complete l i x = some l' ↔ ∃ q, l[i]? = some ⟨q, none⟩ ∧ l' = l.set i ⟨q, some x⟩ := by
  unfold complete
  constructor
  · intro h
    split at h
    · next q hq => exact ⟨q, hq, (Option.some.inj h).symm⟩
    · cases h
  · rintro ⟨q, hq, rfl⟩
    rw [hq]

theorem lt_length_of_complete (h : complete l i x = some l') : i < l.length := by
  obtain ⟨q, hq, -⟩ := complete_eq_some.mp h
  exact (List.getElem?_eq_some_iff.mp hq).1

@[simp] theorem length_issue : (issue l q).length = l.length + 1 := by simp [issue]

theorem length_complete (h : complete l i x = some l') : l'.length = l.length := by
  obtain ⟨q, -, rfl⟩ := complete_eq_some.mp h
  exact List.length_set

@[simp] theorem latest_issue : latest (issue l q) = some ⟨q, none⟩ := List.getLast?_concat

/-- every outcome suits its request -/
def Suits (C : ρ → χ → Prop) (l : Log ρ χ) : Prop := ∀ p ∈ l, ∀ x, p.outcome = some x → C p.params x

theorem Suits.issue {C : ρ → χ → Prop} (h : Suits C l) (q : ρ) : Suits C (issue l q) := by
  intro p hp x hx
  rcases List.mem_append.mp hp with hp | hp
  · exact h p hp x hx
  · obtain rfl := List.mem_singleton.mp hp
    cases hx

theorem Suits.complete {C : ρ → χ → Prop} (h : Suits C l) (hl : complete l i x = some l')
    (hx : ∀ p, l[i]? = some p → C p.params x) : Suits C l' := by
  obtain ⟨q, hq, rfl⟩ := complete_eq_some.mp hl
  intro p hp y hy
  rcases List.mem_or_eq_of_mem_set hp with hp | rfl
  · exact h p hp y hy
  · obtain rfl := Option.some.inj hy
    exact hx ⟨q, none⟩ hq

theorem Suits.latest {C : ρ → χ → Prop} (h : Suits C l) {p : Request ρ χ} (hp : latest l = some p)
    (hx : p.outcome = some x) : C p.params x :=
  h p (List.mem_of_getLast? hp) x hx

theorem latest_complete_last (h : complete l i x = some l') (hi : i + 1 = l.length) :
    ∃ q, latest l = some ⟨q, none⟩ ∧ latest l' = some ⟨q, some x⟩ := by
  obtain ⟨q, hq, rfl⟩ := complete_eq_some.mp h
  have hlt : i < l.length := by omega
  refine ⟨q, ?_, ?_⟩
  · rw [latest, List.getLast?_eq_getElem?, ← hi]
    exact hq
  · rw [latest, List.getLast?_eq_getElem?, List.length_set, ← hi]
    exact List.getElem?_set_self hlt

theorem latest_complete_earlier (h : complete l i x = some l') (hi : i + 1 ≠ l.length) :
    latest l' = latest l := by
  obtain ⟨q, hq, rfl⟩ := complete_eq_some.mp h
  have hlt : i < l.length := (List.getElem?_eq_some_iff.mp hq).1
  rw [latest, latest, List.getLast?_eq_getElem?, List.getLast?_eq_getElem?, List.length_set]
  exact List.getElem?_set_ne (by omega)

end

end Requests
