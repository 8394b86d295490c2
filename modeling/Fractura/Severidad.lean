import Fractura.Lib.Join
import Fractura.Casos

/-!
# The severity of a case

`run_detection_corrupcion` searches the joined text of three fields (`combined`) for the keywords.

* `severityDe_eq`         what it finds there is what it finds in one of the fields, except for the one
                          keyword with blanks, which may run over the end of a field (`cruza`);
* `severidad_por_campos`  so a detection inserts, for each case of the table, one alert of that
                          severity or none.
-/

namespace Fractura

open Db Join

/-- Python `str.lower`: what it does with a letter depends on the letters next to it (a final sigma),
never across a blank -/
structure LeyLower (M : Motor) : Prop where
  vacio : M.pyLower "" = ""
  none : M.pyLower "None" = "none"
  blanco : ∀ a b, M.pyLower (a ++ " " ++ b) = M.pyLower a ++ " " ++ M.pyLower b

/-! ## field by field -/

/-- the three fields of a case that are searched -/
def textosDe (c : Caso) : List (Option String) := [c.conclusion, c.estado, c.delitos]

/-- one of the fields has a text: the query reads the case -/
def leida (c : Caso) : Bool := conTexto c.conclusion || conTexto c.estado || conTexto c.delitos

/-- one of the fields contains one of the keywords -/
def enUnCampo (M : Motor) (keys : List String) (c : Caso) : Bool :=
  keys.any fun k => (textosDe c).any fun x => x.any fun t => contiene k (M.pyLower t)

def termina (k s : String) : Bool := k.toList.isSuffixOf s.toList
def empieza (k s : String) : Bool := k.toList.isPrefixOf s.toList

/-- `abandono de deberes` starts at the end of a field and goes on in the ones after it -/
def cruza : List String → Bool
  | a :: b :: fs =>
    termina "abandono" a && empieza "de deberes" b ||
      termina "abandono de" a && empieza "deberes" b ||
      termina "abandono" a && decide (b = "de") && fs.head?.any (empieza "deberes") ||
      cruza (b :: fs)
  | _ => false

section
variable (M : Motor)

/-- the fields as they are joined: a NULL as `none`, empty ones left out -/
def piezas (c : Caso) : List String :=
  (((textosDe c).map combined.pyStr).filter fun s => decide (s ≠ "")).map M.pyLower

/-- the severity of a case by its fields -/
def severidadDe (c : Caso) : Option String :=
  if enUnCampo M KEYWORDS_ALTA c then some "high"
  else if enUnCampo M KEYWORDS_MEDIA c || cruza (piezas M c) then some "medium"
  else none

end

section
variable {M : Motor} {k : String} {l : List String} {c : Caso}

theorem contiene_iff {s : String} : contiene k s = true ↔ k.toList <:+: s.toList := by
  unfold contiene
  rw [List.any_eq_true, List.infix_iff_prefix_suffix]
  refine exists_congr fun t => ?_
  rw [List.mem_tails, List.isPrefixOf_iff_prefix, and_comm]

/-! ## the joined text -/

theorem pyLower_intercalate (hM : LeyLower M) (l : List String) :
    M.pyLower (" ".intercalate l) = " ".intercalate (l.map M.pyLower) := by
  induction l with
  | nil => exact hM.vacio
  | cons a l ih =>
    cases l with
    | nil => rw [List.map_singleton, String.intercalate_singleton, String.intercalate_singleton]
    | cons b l =>
      rw [String.intercalate_cons_cons, hM.blanco, ih, List.map_cons, List.map_cons, List.map_cons,
        String.intercalate_cons_cons]

theorem combined_eq (hM : LeyLower M) (c : Caso) :
    combined M c = " ".intercalate (piezas M c) := pyLower_intercalate hM _

theorem contiene_intercalate (h0 : k.toList ≠ []) :
    contiene k (" ".intercalate l) = true ↔
      (∃ s ∈ l, contiene k s = true) ∨ Crosses ' ' k.toList (l.map String.toList) := by
  have hsep : " ".toList = [' '] := rfl
  rw [contiene_iff, String.toList_intercalate, hsep, infix_intercalate h0]
  refine or_congr_left ?_
  simp only [contiene_iff, List.mem_map, exists_exists_and_eq_and]

theorem abandono_eq {u v : List Char} : "abandono de deberes".toList = u ++ ' ' :: v ↔
    (u = "abandono".toList ∧ v = "de deberes".toList) ∨
      (u = "abandono de".toList ∧ v = "deberes".toList) := by
  have hcuts : cuts ' ' "abandono de deberes".toList =
      [("abandono".toList, "de deberes".toList), ("abandono de".toList, "deberes".toList)] := by
    decide
  rw [← mem_cuts, hcuts, List.mem_cons, List.mem_singleton, Prod.mk.injEq, Prod.mk.injEq]

theorem de_deberes_eq {u v : List Char} : "de deberes".toList = u ++ ' ' :: v ↔
    u = "de".toList ∧ v = "deberes".toList := by
  have hcuts : cuts ' ' "de deberes".toList = [("de".toList, "deberes".toList)] := by decide
  rw [← mem_cuts, hcuts, List.mem_singleton, Prod.mk.injEq]

theorem termina_iff {s : String} : termina k s = true ↔ k.toList <:+ s.toList :=
  List.isSuffixOf_iff_suffix

theorem empieza_iff {s : String} : empieza k s = true ↔ k.toList <+: s.toList :=
  List.isPrefixOf_iff_prefix

theorem prefix_deberes {b : String} {fs : List String} :
    "deberes".toList <+: [' '].intercalate ((b :: fs).map String.toList) ↔
      empieza "deberes" b = true := by
  rw [empieza_iff, List.map_cons]
  exact prefix_intercalate_of_not_mem (by decide)

theorem prefix_de_deberes {b : String} {fs : List String} :
    "de deberes".toList <+: [' '].intercalate ((b :: fs).map String.toList) ↔
      empieza "de deberes" b = true ∨ (b = "de" ∧ fs.head?.any (empieza "deberes") = true) := by
  rw [empieza_iff]
  cases fs with
  | nil => simp [List.intercalate_singleton]
  | cons d fs =>
    rw [List.map_cons, List.map_cons, prefix_intercalate_cons_cons, ← List.map_cons]
    refine or_congr_right ⟨fun h => ?_, fun h => ?_⟩
    · obtain ⟨w, hw, hd⟩ := h
      obtain ⟨hb, rfl⟩ := de_deberes_eq.mp hw
      exact ⟨String.toList_inj.mp hb, prefix_deberes.mp hd⟩
    · obtain ⟨rfl, hd⟩ := h
      exact ⟨_, de_deberes_eq.mpr ⟨rfl, rfl⟩, prefix_deberes.mpr hd⟩

/-- **The one keyword with blanks** over the end of a text. -/
theorem crosses_abandono :
    Crosses ' ' "abandono de deberes".toList (l.map String.toList) ↔ cruza l = true := by
  induction l with
  | nil => simp [Crosses, cruza]
  | cons a l ih =>
    cases l with
    | nil => simp [Crosses, cruza]
    | cons b fs =>
      rw [List.map_cons] at ih
      rw [List.map_cons, List.map_cons, crosses_cons, ih, ← List.map_cons, cruza]
      simp only [Bool.or_eq_true, Bool.and_eq_true, decide_eq_true_eq, termina_iff]
      refine or_congr_left ⟨fun h => ?_, fun h => ?_⟩
      · obtain ⟨u, v, huv, hu, hv⟩ := h
        rcases abandono_eq.mp huv with ⟨rfl, rfl⟩ | ⟨rfl, rfl⟩
        · rcases prefix_de_deberes.mp hv with hv | hv
          · exact Or.inl (Or.inl ⟨hu, hv⟩)
          · exact Or.inr ⟨⟨hu, hv.1⟩, hv.2⟩
        · exact Or.inl (Or.inr ⟨hu, prefix_deberes.mp hv⟩)
      · rcases h with (⟨hu, hv⟩ | ⟨hu, hv⟩) | ⟨⟨hu, hb⟩, hd⟩
        · exact ⟨_, _, abandono_eq.mpr (Or.inl ⟨rfl, rfl⟩), hu, prefix_de_deberes.mpr (Or.inl hv)⟩
        · exact ⟨_, _, abandono_eq.mpr (Or.inr ⟨rfl, rfl⟩), hu, prefix_deberes.mpr hv⟩
        · exact ⟨_, _, abandono_eq.mpr (Or.inl ⟨rfl, rfl⟩), hu,
            prefix_de_deberes.mpr (Or.inr ⟨hb, hd⟩)⟩

/-! ## the severity -/

theorem mem_piezas {s : String} : s ∈ piezas M c ↔
    ∃ x ∈ textosDe c, combined.pyStr x ≠ "" ∧ M.pyLower (combined.pyStr x) = s := by
  simp only [piezas, List.mem_map, List.mem_filter, decide_eq_true_eq, exists_exists_and_eq_and,
    and_assoc, exists_exists_and_eq_and]

theorem contiene_piezas (hM : LeyLower M) (h0 : k.toList ≠ []) (hn : contiene k "none" = false) :
    (∃ s ∈ piezas M c, contiene k s = true) ↔
      ((textosDe c).any fun x => x.any fun t => contiene k (M.pyLower t)) = true := by
  have hvacio : contiene k "" ≠ true := by
    rw [ne_eq, contiene_iff, String.toList_empty, List.infix_nil]
    exact h0
  rw [List.any_eq_true]
  refine ⟨fun h => ?_, fun h => ?_⟩
  · obtain ⟨s, hs, hks⟩ := h
    obtain ⟨x, hx, -, rfl⟩ := mem_piezas.mp hs
    refine ⟨x, hx, ?_⟩
    cases x with
    | none =>
      rw [combined.pyStr, Option.getD_none, hM.none, hn] at hks
      cases hks
    | some t => exact hks
  · obtain ⟨x, hx, hkx⟩ := h
    cases x with
    | none => cases hkx
    | some t =>
      refine ⟨_, mem_piezas.mpr ⟨_, hx, fun h => ?_, rfl⟩, hkx⟩
      obtain rfl : t = "" := h
      rw [Option.any_some, hM.vacio] at hkx
      exact hvacio hkx

/-- **A keyword in the joined text** is in one of the fields, or it is the one with blanks. -/
theorem contiene_combined (hM : LeyLower M) (hk : k ∈ KEYWORDS_ALTA ++ KEYWORDS_MEDIA) :
    contiene k (combined M c) = true ↔
      ((textosDe c).any fun x => x.any fun t => contiene k (M.pyLower t)) = true ∨
        (k = "abandono de deberes" ∧ cruza (piezas M c) = true) := by
  obtain ⟨h0, hn, hb⟩ : k.toList ≠ [] ∧ contiene k "none" = false ∧
      (k = "abandono de deberes" ∨ ' ' ∉ k.toList) := by
    revert k
    decide
  rw [combined_eq hM, contiene_intercalate h0, contiene_piezas hM h0 hn]
  refine or_congr_right ?_
  rcases hb with rfl | hb
  · rw [crosses_abandono]
    exact (and_iff_right rfl).symm
  · refine iff_of_false (not_crosses hb) fun h => hb ?_
    rw [h.1]
    decide

/-- **The severity by the joined text** is the one by the fields. -/
theorem severityDe_eq (hM : LeyLower M) (c : Caso) : severityDe M c = severidadDe M c := by
  have halta : (KEYWORDS_ALTA.any fun k => contiene k (combined M c)) =
      enUnCampo M KEYWORDS_ALTA c := by
    refine Bool.eq_iff_iff.mpr ?_
    unfold enUnCampo
    rw [List.any_eq_true, List.any_eq_true]
    refine exists_congr fun k => and_congr_right fun hk => ?_
    rw [contiene_combined hM (List.mem_append_left _ hk)]
    refine or_iff_left fun h => ?_
    rw [h.1] at hk
    revert hk
    decide
  have hmedia : (KEYWORDS_MEDIA.any fun k => contiene k (combined M c)) =
      (enUnCampo M KEYWORDS_MEDIA c || cruza (piezas M c)) := by
    refine Bool.eq_iff_iff.mpr ?_
    unfold enUnCampo
    rw [Bool.or_eq_true, List.any_eq_true, List.any_eq_true]
    refine ⟨fun h => ?_, fun h => ?_⟩
    · obtain ⟨k, hk, hkc⟩ := h
      rcases (contiene_combined hM (List.mem_append_right _ hk)).mp hkc with h | ⟨-, h⟩
      · exact Or.inl ⟨k, hk, h⟩
      · exact Or.inr h
    · rcases h with ⟨k, hk, h⟩ | h
      · exact ⟨k, hk, (contiene_combined hM (List.mem_append_right _ hk)).mpr (Or.inl h)⟩
      · refine ⟨"abandono de deberes", by decide, ?_⟩
        exact (contiene_combined hM (by decide)).mpr (Or.inr ⟨rfl, h⟩)
  unfold severityDe severidadDe
  rw [halta, hmedia]

theorem cruza_none (h : ∀ x ∈ l, x = "none") : cruza l = false := by
  induction l with
  | nil => rfl
  | cons a l ih =>
    cases l with
    | nil => rfl
    | cons b fs =>
      obtain rfl := h a List.mem_cons_self
      have hfin : termina "abandono" "none" = false ∧ termina "abandono de" "none" = false := by
        decide
      rw [cruza, hfin.1, hfin.2, ih fun x hx => h x (List.mem_cons_of_mem _ hx)]
      simp only [Bool.false_and, Bool.or_false]

/-- **A case that the query leaves out** has no severity. -/
theorem severidadDe_of_not_leida (hM : LeyLower M) (h : leida c = false) :
    severidadDe M c = none := by
  have hx : ∀ x ∈ textosDe c, x = none ∨ x = some "" := by
    simp only [leida, Bool.or_eq_false_iff] at h
    intro x hx
    have hcon : conTexto x = false := by
      simp only [textosDe, List.mem_cons, List.not_mem_nil, or_false] at hx
      rcases hx with rfl | rfl | rfl
      · exact h.1.1
      · exact h.1.2
      · exact h.2
    by_contra hne
    exact of_decide_eq_false hcon (not_or.mp hne)
  have hno (keys : List String) (h0 : ∀ k ∈ keys, contiene k "" = false) :
      enUnCampo M keys c = false := by
    rw [enUnCampo, List.any_eq_false]
    intro k hk hany
    obtain ⟨x, hxc, hkx⟩ := List.any_eq_true.mp hany
    rcases hx x hxc with rfl | rfl
    · cases hkx
    · rw [Option.any_some, hM.vacio, h0 k hk] at hkx
      cases hkx
  have hcruza : cruza (piezas M c) = false := by
    refine cruza_none fun s hs => ?_
    obtain ⟨x, hxc, hne, rfl⟩ := mem_piezas.mp hs
    rcases hx x hxc with rfl | rfl
    · exact hM.none
    · exact absurd rfl hne
  unfold severidadDe
  rw [hno KEYWORDS_ALTA (by decide), hno KEYWORDS_MEDIA (by decide), hcruza]
  rfl

/-! ## a detection -/

/-- no alert has the id of an alert of a case -/
def SinAlertasDeCasos (s : Db) : Prop :=
  ∀ a ∈ s.alerta.rows, ∀ c ∈ s.caso.rows, a.id ≠ "alert_" ++ c.id ++ "_cc"

/-- the alerts about a case -/
def alertasDeCaso (l : List Alerta) (c : Caso) : List Alerta :=
  l.filter fun a => decide (a.casoId = some c.id)

variable {s : Db}

theorem mem_casosLeidos (hc : c ∈ casosLeidos M s) : c ∈ s.caso.rows :=
  List.mem_of_mem_filter ((Motor.mem_orden M).mp hc)

theorem filter_casosLeidos (hc : c ∈ s.caso.rows) :
    (casosLeidos M s).filter (fun d => decide (d.id = c.id)) = if leida c then [c] else [] := by
  have hfind : s.caso.find c.id = some c := KeyTable.find_eq_some.mpr ⟨hc, rfl⟩
  have hkey : s.caso.rows.filter (fun d => decide (d.id = c.id)) = [c] := by
    rw [KeyTable.filter_key, hfind]
    rfl
  have hperm : ((casosLeidos M s).filter fun d => decide (d.id = c.id)).Perm ([c].filter leida) := by
    rw [← hkey, List.filter_comm]
    exact (M.orden_perm (s.caso.rows.filter leida)).filter _
  by_cases ht : leida c = true
  · rw [if_pos ht]
    rw [List.filter_cons_of_pos ht, List.filter_nil] at hperm
    exact List.perm_singleton.mp hperm
  · rw [if_neg ht]
    rw [List.filter_cons_of_neg ht, List.filter_nil] at hperm
    exact List.perm_nil.mp hperm

/-- **The alerts about a case**: one of its severity, or none. -/
theorem alertasDeCaso_alertasCasos (hM : LeyLower M) (hc : c ∈ s.caso.rows) :
    alertasDeCaso (alertasCasos M (casosLeidos M s)) c =
      ((severidadDe M c).map (alertaCaso c)).toList := by
  have hfil : alertasDeCaso (alertasCasos M (casosLeidos M s)) c =
      alertasCasos M ((casosLeidos M s).filter fun d => decide (d.id = c.id)) := by
    unfold alertasDeCaso alertasCasos
    rw [List.filter_filterMap, List.filterMap_filter]
    refine List.filterMap_congr fun d _ => ?_
    cases severityDe M d with
    | none => simp
    | some sev =>
      by_cases hd : d.id = c.id
      · simp [hd, alertaCaso]
      · simp [hd, alertaCaso]
  rw [hfil, filter_casosLeidos hc]
  cases ht : leida c with
  | true =>
    rw [if_pos rfl, alertasCasos, List.filterMap_cons, severityDe_eq hM]
    cases severidadDe M c <;> rfl
  | false =>
    rw [if_neg Bool.false_ne_true, severidadDe_of_not_leida hM ht]
    rfl

theorem nodup_alertasCasos : ((alertasCasos M (casosLeidos M s)).map Alerta.id).Nodup := by
  have hsub (l : List Caso) : ((alertasCasos M l).map Alerta.id).Sublist
      ((l.map Caso.id).map fun i => "alert_" ++ i ++ "_cc") := by
    induction l with
    | nil => exact List.Sublist.slnil
    | cons d l ih =>
      unfold alertasCasos at ih ⊢
      rw [List.filterMap_cons, List.map_cons, List.map_cons]
      cases severityDe M d with
      | none => exact ih.cons _
      | some sev => exact ih.cons_cons _
  refine (hsub _).nodup (List.Nodup.map (fun i j h => ?_) ?_)
  · exact String.append_right_inj _ |>.mp (String.append_left_inj _ |>.mp h)
  · have hperm := (M.orden_perm (s.caso.rows.filter leida)).map Caso.id
    exact hperm.nodup_iff.mpr (s.caso.nodup.sublist (List.filter_sublist.map Caso.id))

/-- the moment of an alert says nothing about its case and severity -/
theorem alertasDeCaso_sellar (n : Nat) (l : List Alerta) (c : Caso) :
    (alertasDeCaso (sellar n l) c).map Alerta.severity =
      (alertasDeCaso l c).map Alerta.severity := by
  unfold alertasDeCaso
  induction l generalizing n with
  | nil => rfl
  | cons a l ih =>
    have hst : decide ((a.stamp n).casoId = some c.id) = decide (a.casoId = some c.id) := rfl
    rw [sellar, List.filter_cons, List.filter_cons, hst]
    split
    · rw [List.map_cons, List.map_cons, ih]
      rfl
    · exact ih _

/-- **A detection decides each case by its fields**, up to the keyword that runs over the end of one. -/
theorem severidad_por_campos (hM : LeyLower M) (hs : SinAlertasDeCasos s) :
    ∃ l t nuevas, Prog.run (exec M) (runDetectionCorrupcion M) s = (.ok l, t) ∧
      t.alerta.rows = s.alerta.rows ++ nuevas ∧
      (∀ a ∈ nuevas, ∃ c ∈ s.caso.rows, a ∈ alertasDeCaso nuevas c) ∧
      ∀ c ∈ s.caso.rows,
        (alertasDeCaso nuevas c).map Alerta.severity = (severidadDe M c).toList.map some := by
  have hfree : ∀ a ∈ alertasCasos M (casosLeidos M s), a.id ∉ s.alerta.keys := by
    intro a ha hk
    obtain ⟨c, hc, sev, rfl⟩ := mem_alertasCasos ha
    obtain ⟨b, hb, hid⟩ := KeyTable.mem_keys.mp hk
    exact hs b hb c (mem_casosLeidos hc) hid
  obtain ⟨t, ht, hins⟩ := run_insertarAlertas_ok M nodup_alertasCasos hfree
  refine ⟨_, t, _, Prog.run_bind_ok _ ht, hins.rows, fun a ha => ?_, fun c hc => ?_⟩
  · obtain ⟨b, hb, n, rfl⟩ := mem_sellar ha
    obtain ⟨c, hc, sev, rfl⟩ := mem_alertasCasos hb
    exact ⟨c, mem_casosLeidos hc, List.mem_filter.mpr ⟨ha, decide_eq_true rfl⟩⟩
  · rw [alertasDeCaso_sellar, alertasDeCaso_alertasCasos hM hc]
    cases severidadDe M c <;> rfl

end

/-! ## concrete cases -/

theorem leyLower_motorConcreto : LeyLower motorConcreto where
  vacio := rfl
  none := by decide
  blanco := by
    intro a b
    show Concreto.lower _ = Concreto.lower _ ++ " " ++ Concreto.lower _
    apply String.toList_inj.mp
    have hb : Concreto.minuscula ' ' = ' ' := by decide
    simp [Concreto.lower, hb]

/-- the store of a file with one case, by its state and its conclusion -/
def tiendaCaso (estado conclusion : String) : Db :=
  Op.despues motorConcreto .empty
    (.cargarCasos (some [filaDict "Milicogate" "1000" estado ++ [("Conclusión", some conclusion)]]))

theorem severidad_por_campos_fraude : ∃ l t nuevas,
    Prog.run (exec motorConcreto) (runDetectionCorrupcion motorConcreto)
      (tiendaCaso "Fraude al fisco" "Impunidad") = (.ok l, t) ∧
    t.alerta.rows = nuevas ∧ ∀ c ∈ (tiendaCaso "Fraude al fisco" "Impunidad").caso.rows,
      (alertasDeCaso nuevas c).map Alerta.severity = [some "high"] := by
  have hnada : (tiendaCaso "Fraude al fisco" "Impunidad").alerta.rows = [] := by decide +kernel
  have hsev : ∀ c ∈ (tiendaCaso "Fraude al fisco" "Impunidad").caso.rows,
      severidadDe motorConcreto c = some "high" := by decide +kernel
  obtain ⟨l, t, nuevas, hrun, hrows, -, hcasos⟩ := severidad_por_campos leyLower_motorConcreto
    (s := tiendaCaso "Fraude al fisco" "Impunidad") (by rw [SinAlertasDeCasos, hnada]; simp)
  refine ⟨l, t, nuevas, hrun, by rw [hrows, hnada, List.nil_append], fun c hc => ?_⟩
  rw [hcasos c hc, hsev c hc]
  rfl

/-- **A keyword that no field contains**: one field ends in its first word, the next one is the rest. -/
theorem severidad_entre_campos :
    let s := tiendaCaso "de deberes" "Abandono"
    let t := (Prog.run (exec motorConcreto) (runDetectionCorrupcion motorConcreto) s).2
    s.alerta.rows = [] ∧ ∃ c ∈ s.caso.rows,
      enUnCampo motorConcreto (KEYWORDS_ALTA ++ KEYWORDS_MEDIA) c = false ∧
      (alertasDeCaso t.alerta.rows c).map Alerta.severity = [some "medium"] := by
  decide +kernel

end Fractura
