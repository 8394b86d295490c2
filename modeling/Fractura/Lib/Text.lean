import Mathlib.Data.List.Infix
import Mathlib.Data.List.TakeWhile

/-!
# Texts: trimming, separators, `LIKE`

* `trimBy p s`      `s` without the characters of the class `p` at its two ends: the text between
                    two runs of `p` (`exists_trimBy`, `toList_trimBy`);
* `like pat s`      the SQL `LIKE` (`%` any text, `_` any one character);
* `sep_inj`         a text is cut in one way at the LAST occurrence of a separator; `cut_sep` compares
                    any two cuts;
* `splitPart s c n` the SQL `split_part`, the second piece of which is `before c` of the rest
                    (`splitPart_two`).
-/

namespace Text

/-- `s` without the characters of `p` at its ends -/
def trimBy (p : Char → Bool) (s : String) : String :=
  String.ofList ((s.toList.dropWhile p).reverse.dropWhile p).reverse

/-! ## trimming -/

/-- no character of `p` at the ends -/
def Trimmed (p : Char → Bool) (cs : List Char) : Prop :=
  (∀ c ∈ cs.head?, p c = false) ∧ ∀ c ∈ cs.getLast?, p c = false

theorem trimmed_of_forall {p : Char → Bool} {cs : List Char} (h : ∀ c ∈ cs, p c = false) :
    Trimmed p cs :=
  ⟨fun c hc => h c (List.mem_of_mem_head? hc), fun c hc => h c (List.mem_of_mem_getLast? hc)⟩

theorem dropWhile_of_head? {p : Char → Bool} {cs : List Char} (h : ∀ c ∈ cs.head?, p c = false) :
    cs.dropWhile p = cs := by
  cases cs with
  | nil => rfl
  | cons c cs =>
    have hc : ¬ p c = true := by
      rw [h c rfl]
      exact Bool.false_ne_true
    exact List.dropWhile_cons_of_neg hc

/-- **What trimming leaves**: the text between two runs of `p`. -/
theorem exists_trimBy (p : Char → Bool) (s : String) :
    Trimmed p (trimBy p s).toList ∧ ∃ l r, s.toList = l ++ (trimBy p s).toList ++ r ∧
      (∀ c ∈ l, p c = true) ∧ ∀ c ∈ r, p c = true := by
  let m := s.toList.dropWhile p
  let t := m.reverse.dropWhile p
  have hcore : (trimBy p s).toList = t.reverse := String.toList_ofList
  have hm : m = t.reverse ++ (m.reverse.takeWhile p).reverse := by
    rw [← List.reverse_append, List.takeWhile_append_dropWhile, List.reverse_reverse]
  have hhead : ∀ c ∈ m.head?, p c = false := fun c hc => by
    have h := List.head?_dropWhile_not p s.toList
    rw [show s.toList.dropWhile p = m from rfl, show m.head? = some c from hc] at h
    exact h
  have hlast : ∀ c ∈ t.head?, p c = false := fun c hc => by
    have h := List.head?_dropWhile_not p m.reverse
    rw [show m.reverse.dropWhile p = t from rfl, show t.head? = some c from hc] at h
    exact h
  rw [hcore]
  refine ⟨⟨fun c hc => hhead c ?_, fun c hc => hlast c ?_⟩, s.toList.takeWhile p,
    (m.reverse.takeWhile p).reverse, ?_, fun c hc => ?_, fun c hc => ?_⟩
  · rw [hm]
    exact List.mem_head?_append_of_mem_head? hc
  · rwa [List.getLast?_reverse] at hc
  · rw [List.append_assoc, ← hm, List.takeWhile_append_dropWhile]
  · exact List.mem_takeWhile_imp hc
  · exact List.mem_takeWhile_imp (List.mem_reverse.mp hc)

/-- **Trimming a text with only `p` around it.** -/
theorem toList_trimBy {p : Char → Bool} {s : String} {l cs r : List Char}
    (hs : s.toList = l ++ cs ++ r) (hcs : Trimmed p cs) (hl : ∀ c ∈ l, p c = true)
    (hr : ∀ c ∈ r, p c = true) : (trimBy p s).toList = cs := by
  unfold trimBy
  rw [String.toList_ofList, hs, List.append_assoc, List.dropWhile_append_of_pos hl]
  by_cases h0 : cs = []
  · have hall : r.dropWhile p = [] := List.dropWhile_eq_nil_iff.mpr hr
    rw [h0, List.nil_append, hall]
    rfl
  · have hhead : ∀ c ∈ (cs ++ r).head?, p c = false := fun c hc => by
      rw [List.head?_append_of_ne_nil _ h0] at hc
      exact hcs.1 c hc
    have hlast : ∀ c ∈ cs.reverse.head?, p c = false := fun c hc => by
      rw [List.head?_reverse] at hc
      exact hcs.2 c hc
    rw [dropWhile_of_head? hhead, List.reverse_append,
      List.dropWhile_append_of_pos fun c hc => hr c (List.mem_reverse.mp hc),
      dropWhile_of_head? hlast, List.reverse_reverse]

theorem trimBy_of_trimmed {p : Char → Bool} {s : String} (h : Trimmed p s.toList) :
    trimBy p s = s := by
  apply String.toList_inj.mp
  exact toList_trimBy (l := []) (r := []) (by simp) h (by simp) (by simp)

/-! ## separators -/

/-- **The part after the last separator is determined by the text.** -/
theorem sep_inj {α : Type*} {x x' t t' : List α} {c : α} (ht : c ∉ t) (ht' : c ∉ t')
    (h : x ++ c :: t = x' ++ c :: t') : x = x' ∧ t = t' := by
  rcases List.append_eq_append_iff.mp h with ⟨a, hx, ha⟩ | ⟨a, hx, ha⟩
  · cases a with
    | nil =>
      rw [List.append_nil] at hx
      rw [List.nil_append] at ha
      exact ⟨hx.symm, (List.cons.inj ha).2⟩
    | cons b a =>
      have ht2 : t = a ++ c :: t' := (List.cons.inj ha).2
      exact absurd (by rw [ht2]; simp) ht
  · cases a with
    | nil =>
      rw [List.append_nil] at hx
      rw [List.nil_append] at ha
      exact ⟨hx, (List.cons.inj ha).2.symm⟩
    | cons b a =>
      have ht2 : t' = a ++ c :: t := (List.cons.inj ha).2
      exact absurd (by rw [ht2]; simp) ht'

theorem sep_inj_string {x x' t t' : String} {c : Char} (ht : c ∉ t.toList) (ht' : c ∉ t'.toList)
    (h : x ++ (String.singleton c ++ t) = x' ++ (String.singleton c ++ t')) : x = x' ∧ t = t' := by
  have hl : x.toList ++ c :: t.toList = x'.toList ++ c :: t'.toList := by
    have h1 := congrArg String.toList h
    simpa using h1
  obtain ⟨h1, h2⟩ := sep_inj ht ht' hl
  exact ⟨String.toList_inj.mp h1, String.toList_inj.mp h2⟩

/-- **Two ways to cut a text at a separator**: the same one, or the text between the two cuts belongs
to the last part of the one and to the first part of the other. -/
theorem cut_sep {c : Char} {o p o' p' : String} :
    o ++ String.singleton c ++ p = o' ++ String.singleton c ++ p' ↔
      (o = o' ∧ p = p') ∨
      (∃ x, o' = o ++ String.singleton c ++ x ∧ p = x ++ String.singleton c ++ p') ∨
      ∃ x, o = o' ++ String.singleton c ++ x ∧ p' = x ++ String.singleton c ++ p := by
  constructor
  · intro h
    have hl : o.toList ++ (c :: p.toList) = o'.toList ++ (c :: p'.toList) := by
      simpa using congrArg String.toList h
    rcases List.append_eq_append_iff.mp hl with ⟨a, ho, hp⟩ | ⟨a, ho, hp⟩
    · cases a with
      | nil =>
        rw [List.append_nil] at ho
        exact Or.inl ⟨String.toList_inj.mp ho.symm, String.toList_inj.mp (List.cons.inj hp).2⟩
      | cons d a =>
        obtain ⟨rfl, hp⟩ := List.cons.inj hp
        refine Or.inr (Or.inl ⟨String.ofList a, ?_, ?_⟩)
        · exact String.toList_inj.mp (by simpa using ho)
        · exact String.toList_inj.mp (by simpa using hp)
    · cases a with
      | nil =>
        rw [List.append_nil] at ho
        exact Or.inl ⟨String.toList_inj.mp ho, String.toList_inj.mp (List.cons.inj hp).2.symm⟩
      | cons d a =>
        obtain ⟨rfl, hp⟩ := List.cons.inj hp
        refine Or.inr (Or.inr ⟨String.ofList a, ?_, ?_⟩)
        · exact String.toList_inj.mp (by simpa using ho)
        · exact String.toList_inj.mp (by simpa using hp)
  · rintro (⟨rfl, rfl⟩ | ⟨x, rfl, rfl⟩ | ⟨x, rfl, rfl⟩)
    · rfl
    · simp only [String.append_assoc]
    · simp only [String.append_assoc]

/-- the pieces of a text between the separators `c` -/
def fields (c : Char) : List Char → List (List Char)
  | [] => [[]]
  | x :: s =>
    if x = c then [] :: fields c s
    else match fields c s with
      | [] => [[x]]
      | w :: ws => (x :: w) :: ws

/-- SQL `split_part(s, c, n)`, counted from 1; the empty text when there is no such part -/
def splitPart (s : String) (c : Char) (n : Nat) : String :=
  String.ofList ((fields c s.toList).getD (n - 1) [])

/-- the text before the first `c`, the whole text when there is none -/
def before (c : Char) (s : String) : String :=
  String.ofList (s.toList.takeWhile fun x => decide (x ≠ c))

theorem fields_append_sep {c : Char} {a : List Char} (ha : c ∉ a) (s : List Char) :
    fields c (a ++ c :: s) = a :: fields c s := by
  induction a with
  | nil => rw [List.nil_append, fields, if_pos rfl]
  | cons x a ih =>
    have hx : x ≠ c := fun h => ha (h ▸ List.mem_cons_self)
    rw [List.cons_append, fields, if_neg hx, ih fun h => ha (List.mem_cons_of_mem _ h)]

theorem fields_head (c : Char) (s : List Char) :
    (fields c s).getD 0 [] = s.takeWhile fun x => decide (x ≠ c) := by
  induction s with
  | nil => rfl
  | cons x s ih =>
    by_cases hx : x = c
    · rw [fields, if_pos hx, List.takeWhile_cons_of_neg (by simpa using hx)]
      rfl
    · rw [fields, if_neg hx, List.takeWhile_cons_of_pos (by simpa using hx), ← ih]
      cases fields c s <;> rfl

theorem fields_ne_nil (c : Char) (s : List Char) : fields c s ≠ [] := by
  cases s with
  | nil => exact List.cons_ne_nil _ _
  | cons x s =>
    rw [fields]
    split
    · exact List.cons_ne_nil _ _
    · split <;> exact List.cons_ne_nil _ _

theorem before_eq_self {c : Char} {s : String} : before c s = s ↔ c ∉ s.toList := by
  unfold before
  rw [← String.toList_inj, String.toList_ofList, List.takeWhile_eq_self_iff]
  refine ⟨fun h hc => of_decide_eq_true (h c hc) rfl, fun h x hx => decide_eq_true ?_⟩
  rintro rfl
  exact h hx

/-- **The second piece of a text whose first piece is known** ends at the next separator. -/
theorem splitPart_two {c : Char} {a r t : String} (ha : c ∉ a.toList) :
    splitPart (a ++ String.singleton c ++ r ++ String.singleton c ++ t) c 2 = before c r := by
  have hl : (a ++ String.singleton c ++ r ++ String.singleton c ++ t).toList =
      a.toList ++ c :: (r.toList ++ c :: t.toList) := by simp
  unfold splitPart before
  rw [hl, fields_append_sep ha]
  show String.ofList ((fields c (r.toList ++ c :: t.toList)).getD 0 []) = _
  rw [fields_head]
  congr 1
  induction r.toList with
  | nil => simp
  | cons x s ih =>
    by_cases hx : x = c
    · rw [List.cons_append, List.takeWhile_cons_of_neg (by simpa using hx),
        List.takeWhile_cons_of_neg (by simpa using hx)]
    · rw [List.cons_append, List.takeWhile_cons_of_pos (by simpa using hx),
        List.takeWhile_cons_of_pos (by simpa using hx), ih]

/-! ## `LIKE` -/

def likeChars : List Char → List Char → Bool
  | [], s => s.isEmpty
  | p :: pat, s =>
    if p = '%' then s.tails.any (likeChars pat)
    else match s with
      | [] => false
      | c :: s' => (p = '_' || p = c) && likeChars pat s'

def like (pat s : String) : Bool := likeChars pat.toList s.toList

theorem likeChars_any (pat s : List Char) :
    likeChars ('%' :: pat) s = s.tails.any (likeChars pat) := by
  cases s <;> rfl

theorem likeChars_cons {p : Char} (hp : p ≠ '%') (pat : List Char) (c : Char) (s : List Char) :
    likeChars (p :: pat) (c :: s) = ((p = '_' || p = c) && likeChars pat s) := by
  rw [likeChars, if_neg hp]

theorem likeChars_percent (s : List Char) : likeChars ['%'] s = true := by
  rw [likeChars_any, List.any_eq_true]
  exact ⟨[], (List.mem_tails _ _).mpr List.nil_suffix, rfl⟩

theorem likeChars_append {pre pat s : List Char} (h : ∀ c ∈ pre, c ≠ '%' ∧ c ≠ '_') :
    likeChars (pre ++ pat) (pre ++ s) = likeChars pat s := by
  induction pre with
  | nil => rfl
  | cons c pre ih =>
    obtain ⟨h1, h2⟩ := h c List.mem_cons_self
    rw [List.cons_append, List.cons_append, likeChars_cons h1,
      ih fun d hd => h d (List.mem_cons_of_mem _ hd)]
    simp

end Text
