import Fractura.Lib.Text
import Fractura.Routers
import Mathlib.Data.Finset.Insert

/-!
# `components/GlobeGraph.tsx`: what a click highlights

A click on a node collects the ids of its neighbours and of its links.  A link of the backend has no id,
and the ids of its two ends with a dash between them stand for it.

* `dim_iff`              the nodes that are not dimmed are the clicked one and those adjacent to it;
* `destaca_iff`          the highlighted links are those of the node exactly when no other link can be
                         read as one of them, cut at another dash (`SinMezcla`).
-/

namespace Fractura

/-- an end of a link: an id, or the node that the force layout puts in its place -/
inductive Extremo where
  | id (x : String)
  | nodo (n : GraphNode)

structure Enlace where
  id : Option String
  source : Extremo
  target : Extremo

structure GraphData where
  nodes : List GraphNode
  links : List Enlace

structure HighlightState where
  nodeId : Option String
  neighborIds : Finset String
  linkIds : Finset String

/-- `typeof end === 'object' ? end.id : end` -/
def Extremo.extremoId : Extremo → String
  | .id x => x
  | .nodo n => n.id

def Enlace.srcId (link : Enlace) : String := link.source.extremoId
def Enlace.tgtId (link : Enlace) : String := link.target.extremoId

/-- what stands for a link in `linkIds` -/
def Enlace.linkId (link : Enlace) : String := link.id.getD (link.srcId ++ "-" ++ link.tgtId)

section
variable (node : GraphNode)

def Toca (link : Enlace) : Prop := link.srcId = node.id ∨ link.tgtId = node.id

instance (link : Enlace) : Decidable (Toca node link) := inferInstanceAs (Decidable (_ ∨ _))

/-- a round of the loop of `handleNodeClick`, on `neighborIds` and `linkIds` -/
def marcar (sets : Finset String × Finset String) (link : Enlace) : Finset String × Finset String :=
  if Toca node link then
    (insert link.tgtId (insert link.srcId sets.1), insert link.linkId sets.2)
  else sets

/-- `fgRef` tells whether the canvas is mounted -/
def handleNodeClick (fgRef : Bool) (dataRef : Option GraphData) (highlight : HighlightState) :
    HighlightState :=
  match fgRef, dataRef with
  | true, some currentData =>
    let sets := currentData.links.foldl (marcar node) (∅, ∅)
    ⟨some node.id, sets.1, sets.2⟩
  | _, _ => highlight

end

def linkColor (highlight : HighlightState) (link : Enlace) : String :=
  if link.linkId ∈ highlight.linkIds then "rgba(0,229,255,0.9)" else "rgba(255,255,255,0.12)"

def linkWidth (highlight : HighlightState) (link : Enlace) : Rat :=
  if link.linkId ∈ highlight.linkIds then 3 else 4 / 5

def isDimmed (highlight : HighlightState) (node : GraphNode) : Bool :=
  highlight.nodeId.isSome && decide (highlight.nodeId ≠ some node.id) &&
    decide (node.id ∉ highlight.neighborIds)

/-! ## what a click should highlight -/

/-- a link between the two -/
def Adyacente (g : GraphData) (n m : GraphNode) : Prop :=
  ∃ l ∈ g.links, (l.srcId = n.id ∧ l.tgtId = m.id) ∨ (l.srcId = m.id ∧ l.tgtId = n.id)

/-- the links of the node, the node and its neighbours -/
structure Destaca (g : GraphData) (n : GraphNode) (h : HighlightState) : Prop where
  color : ∀ l ∈ g.links, linkColor h l = "rgba(0,229,255,0.9)" ↔ Toca n l
  width : ∀ l ∈ g.links, linkWidth h l = 3 ↔ Toca n l
  nodos : ∀ m, isDimmed h m = false ↔ m.id = n.id ∨ Adyacente g n m

/-- no link of the node is another link with a part `u` moved from the one end to the other -/
def SinMezcla (g : GraphData) (n : GraphNode) : Prop :=
  ∀ a ∈ g.links, Toca n a → ∀ b ∈ g.links, ¬ Toca n b → ∀ u,
    ¬ (a.srcId = b.srcId ++ "-" ++ u ∧ b.tgtId = u ++ "-" ++ a.tgtId) ∧
    ¬ (b.srcId = a.srcId ++ "-" ++ u ∧ a.tgtId = u ++ "-" ++ b.tgtId)

section
variable {g : GraphData} {n m : GraphNode} {h : HighlightState} {x : String}

/-! ## the loop -/

theorem foldl_iff {α σ : Type} {step : σ → α → σ} {P : σ → Prop} {Q : α → Prop}
    (hstep : ∀ s a, P (step s a) ↔ P s ∨ Q a) (l : List α) (s : σ) :
    P (l.foldl step s) ↔ P s ∨ ∃ a ∈ l, Q a := by
  induction l generalizing s with
  | nil => simp
  | cons a l ih => rw [List.foldl_cons, ih, hstep, List.exists_mem_cons_iff, or_assoc]

theorem mem_marcar_neighborIds (sets : Finset String × Finset String) (l : Enlace) :
    x ∈ (marcar n sets l).1 ↔ x ∈ sets.1 ∨ Toca n l ∧ (x = l.srcId ∨ x = l.tgtId) := by
  unfold marcar
  split
  · next ht =>
    rw [Finset.mem_insert, Finset.mem_insert]
    tauto
  · next ht => simp [ht]

theorem mem_marcar_linkIds (sets : Finset String × Finset String) (l : Enlace) :
    x ∈ (marcar n sets l).2 ↔ x ∈ sets.2 ∨ Toca n l ∧ x = l.linkId := by
  unfold marcar
  split
  · next ht =>
    rw [Finset.mem_insert]
    tauto
  · next ht => simp [ht]

/-- **What a click leaves.** -/
theorem mem_linkIds :
    x ∈ (handleNodeClick n true (some g) h).linkIds ↔ ∃ l ∈ g.links, Toca n l ∧ x = l.linkId := by
  refine (foldl_iff (P := fun sets => x ∈ sets.2) mem_marcar_linkIds g.links (∅, ∅)).trans ?_
  simp

theorem mem_neighborIds : x ∈ (handleNodeClick n true (some g) h).neighborIds ↔
    ∃ l ∈ g.links, Toca n l ∧ (x = l.srcId ∨ x = l.tgtId) := by
  refine (foldl_iff (P := fun sets => x ∈ sets.1) mem_marcar_neighborIds g.links (∅, ∅)).trans ?_
  simp

/-! ## nodes -/

/-- **The nodes that are not dimmed.** -/
theorem dim_iff :
    isDimmed (handleNodeClick n true (some g) h) m = false ↔ m.id = n.id ∨ Adyacente g n m := by
  have hdim : isDimmed (handleNodeClick n true (some g) h) m = false ↔
      m.id = n.id ∨ m.id ∈ (handleNodeClick n true (some g) h).neighborIds := by
    show (decide (some n.id ≠ some m.id) && decide (m.id ∉ _)) = false ↔ _
    rw [Bool.and_eq_false_iff, decide_eq_false_iff_not, decide_eq_false_iff_not, not_not, not_not,
      Option.some.injEq, eq_comm]
  rw [hdim, mem_neighborIds]
  constructor
  · rintro (hm | ⟨l, hl, ht | ht, hm | hm⟩)
    · exact Or.inl hm
    · exact Or.inl (hm.trans ht)
    · exact Or.inr ⟨l, hl, Or.inl ⟨ht, hm.symm⟩⟩
    · exact Or.inr ⟨l, hl, Or.inr ⟨hm.symm, ht⟩⟩
    · exact Or.inl (hm.trans ht)
  · rintro (hm | ⟨l, hl, ⟨hs, ht⟩ | ⟨hs, ht⟩⟩)
    · exact Or.inl hm
    · exact Or.inr ⟨l, hl, Or.inl hs, Or.inr ht.symm⟩
    · exact Or.inr ⟨l, hl, Or.inr ht, Or.inl hs.symm⟩

/-! ## links -/

/-- two links with one text have the same ends, or a part of the text moves from the one end to the
other -/
theorem linkId_eq_iff {a b : Enlace} (ha : a.id = none) (hb : b.id = none) :
    b.linkId = a.linkId ↔ (b.srcId = a.srcId ∧ b.tgtId = a.tgtId) ∨
      (∃ u, a.srcId = b.srcId ++ "-" ++ u ∧ b.tgtId = u ++ "-" ++ a.tgtId) ∨
      ∃ u, b.srcId = a.srcId ++ "-" ++ u ∧ a.tgtId = u ++ "-" ++ b.tgtId := by
  unfold Enlace.linkId
  rw [ha, hb]
  exact Text.cut_sep (c := '-')

theorem linkColor_eq_iff {l : Enlace} : linkColor h l = "rgba(0,229,255,0.9)" ↔ l.linkId ∈ h.linkIds := by
  unfold linkColor
  split
  · next hl => exact iff_of_true rfl hl
  · next hl => exact iff_of_false (by decide) hl

theorem linkWidth_eq_iff {l : Enlace} : linkWidth h l = 3 ↔ l.linkId ∈ h.linkIds := by
  unfold linkWidth
  split
  · next hl => exact iff_of_true rfl hl
  · next hl => exact iff_of_false (by decide +kernel) hl

theorem mem_linkIds_iff_of_sinMezcla (hid : ∀ l ∈ g.links, l.id = none) (hg : SinMezcla g n) {b : Enlace}
    (hb : b ∈ g.links) : b.linkId ∈ (handleNodeClick n true (some g) h).linkIds ↔ Toca n b := by
  rw [mem_linkIds]
  constructor
  · rintro ⟨a, ha, ht, heq⟩
    by_contra hnb
    rcases (linkId_eq_iff (hid a ha) (hid b hb)).mp heq with ⟨hs, hd⟩ | ⟨u, hu⟩ | ⟨u, hu⟩
    · -- parallel links
      exact hnb (by unfold Toca at ht ⊢; rwa [hs, hd])
    · exact (hg a ha ht b hb hnb u).1 hu
    · exact (hg a ha ht b hb hnb u).2 hu
  · exact fun ht => ⟨b, hb, ht, rfl⟩

/-- **A click highlights the links of the node exactly when no other link has the text of one of
them.** -/
theorem destaca_iff (hid : ∀ l ∈ g.links, l.id = none) :
    Destaca g n (handleNodeClick n true (some g) h) ↔ SinMezcla g n := by
  constructor
  · intro hd a ha ht b hb hnb
    have hne : b.linkId ≠ a.linkId := fun heq =>
      hnb ((hd.color b hb).mp (linkColor_eq_iff.mpr (mem_linkIds.mpr ⟨a, ha, ht, heq⟩)))
    rw [Ne, linkId_eq_iff (hid a ha) (hid b hb)] at hne
    exact fun u => ⟨fun hu => hne (Or.inr (Or.inl ⟨u, hu⟩)), fun hu => hne (Or.inr (Or.inr ⟨u, hu⟩))⟩
  · intro hg
    exact ⟨fun l hl => linkColor_eq_iff.trans (mem_linkIds_iff_of_sinMezcla hid hg hl),
      fun l hl => linkWidth_eq_iff.trans (mem_linkIds_iff_of_sinMezcla hid hg hl), fun m => dim_iff⟩

end

/-! ## concrete graphs -/

def organismo61 : GraphNode := ⟨"61", "Hospital", "Organismo"⟩

/-- a supplier of the organism, whose end is already the node -/
def unEnlace : GraphData :=
  ⟨[organismo61, ⟨"76-1", "Acme", "Empresa"⟩],
    [⟨none, .nodo organismo61, .id "76-1"⟩]⟩

theorem destaca_unEnlace :
    Destaca unEnlace organismo61 (handleNodeClick organismo61 true (some unEnlace) ⟨none, ∅, ∅⟩) := by
  refine (destaca_iff (by decide)).mpr fun a _ _ b hb hnb => ?_
  obtain rfl := List.mem_singleton.mp hb
  exact absurd (by decide) hnb

/-- the links of two organisms have the text `61-1-76` -/
def enlacesCruzados : GraphData :=
  ⟨[organismo61, ⟨"1-76", "Acme", "Empresa"⟩, ⟨"61-1", "Municipalidad", "Organismo"⟩,
      ⟨"76", "Beta", "Empresa"⟩],
    [⟨none, .id "61", .id "1-76"⟩, ⟨none, .id "61-1", .id "76"⟩]⟩

theorem destaca_ajeno : ¬ ∀ (g : GraphData) (n : GraphNode) (h : HighlightState),
    (∀ l ∈ g.links, l.id = none) → Destaca g n (handleNodeClick n true (some g) h) := by
  intro hall
  have hd := hall enlacesCruzados organismo61 ⟨none, ∅, ∅⟩ (by decide)
  have ht := (hd.color ⟨none, .id "61-1", .id "76"⟩ (List.mem_cons_of_mem _ List.mem_cons_self)).mp
    (by decide)
  revert ht
  decide

end Fractura
