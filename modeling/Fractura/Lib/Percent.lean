import Mathlib.Data.List.Basic

/-!
# Percent-encoding

Texts inside a URL.  `encode keep` writes every character outside `keep` as the bytes of its UTF-8
form, `%XX` for a byte; `decode` reads the bytes back.

* `utf8_decode_encode`   the round trip, for any set of characters without `%`;
* `parse_query`          the round trip of the pairs of a query string, whose spaces are written `+`.
-/

namespace Percent

/-! ## bytes -/

def hexDigit (n : Nat) : Char := Char.ofNat (if n < 10 then 48 + n else 55 + n)

def hexValue (c : Char) : Option Nat :=
  if '0' ≤ c ∧ c ≤ '9' then some (c.toNat - 48)
  else if 'A' ≤ c ∧ c ≤ 'F' then some (c.toNat - 55)
  else if 'a' ≤ c ∧ c ≤ 'f' then some (c.toNat - 87)
  else none

theorem hexValue_hexDigit : ∀ n < 16, hexValue (hexDigit n) = some n := by decide

def escape (b : UInt8) : List Char := ['%', hexDigit (b.toNat / 16), hexDigit (b.toNat % 16)]

/-- the bytes of a text -/
def bytes (cs : List Char) : List UInt8 := cs.flatMap String.utf8EncodeChar

theorem bytes_append (cs ds : List Char) : bytes (cs ++ ds) = bytes cs ++ bytes ds :=
  List.flatMap_append

/-- the text of bytes; `replaced` are the texts of bytes that are no UTF-8 -/
def utf8 (replaced : List UInt8 → String) (bs : List UInt8) : String :=
  (String.fromUTF8? bs.toByteArray).getD (replaced bs)

theorem utf8_bytes (replaced : List UInt8 → String) (s : String) :
    utf8 replaced (bytes s.toList) = s := by
  have hbytes : (bytes s.toList).toByteArray = s.toByteArray := by
    rw [← String.ofList_toList (s := s), String.toByteArray_ofList, String.ofList_toList]
    rfl
  unfold utf8 String.fromUTF8?
  rw [hbytes, dif_pos s.isValidUTF8]
  rfl

theorem bytes_inj {s t : String} (h : bytes s.toList = bytes t.toList) : s = t := by
  rw [← utf8_bytes (fun _ => "") s, h, utf8_bytes]

/-! ## characters -/

def encode (keep : Char → Bool) (cs : List Char) : List Char :=
  cs.flatMap fun c => if keep c then [c] else (String.utf8EncodeChar c).flatMap escape

/-- a `%` without two hexadecimal digits stands for itself -/
def decode : List Char → List UInt8
  | '%' :: a :: b :: cs =>
    match hexValue a, hexValue b with
    | some x, some y => UInt8.ofNat (16 * x + y) :: decode cs
    | _, _ => String.utf8EncodeChar '%' ++ decode (a :: b :: cs)
  | c :: cs => String.utf8EncodeChar c ++ decode cs
  | [] => []

theorem decode_cons {c : Char} (hc : c ≠ '%') (cs : List Char) :
    decode (c :: cs) = String.utf8EncodeChar c ++ decode cs := by
  rw [decode]
  rintro _ _ _ h -
  exact hc h

theorem decode_append {pre : List Char} (h : '%' ∉ pre) (cs : List Char) :
    decode (pre ++ cs) = bytes pre ++ decode cs := by
  induction pre with
  | nil => rfl
  | cons c pre ih =>
    obtain ⟨hc, hpre⟩ := not_or.mp (mt List.mem_cons.mpr h)
    rw [List.cons_append, decode_cons (Ne.symm hc), ih hpre, ← List.append_assoc]
    rfl

theorem decode_escape (b : UInt8) (cs : List Char) : decode (escape b ++ cs) = b :: decode cs := by
  have hb : b.toNat < 256 := b.toNat_lt
  show decode ('%' :: hexDigit (b.toNat / 16) :: hexDigit (b.toNat % 16) :: cs) = _
  rw [decode, hexValue_hexDigit _ (by omega), hexValue_hexDigit _ (by omega)]
  dsimp only
  rw [Nat.div_add_mod, UInt8.ofNat_toNat]

theorem decode_escapes (bs : List UInt8) (cs : List Char) :
    decode (bs.flatMap escape ++ cs) = bs ++ decode cs := by
  induction bs with
  | nil => rfl
  | cons b bs ih =>
    rw [List.flatMap_cons, List.append_assoc, decode_escape, ih]
    rfl

section
variable {keep : Char → Bool}

/-- **What is encoded decodes to the bytes of the text.** -/
theorem decode_encode (h : keep '%' = false) (cs ds : List Char) :
    decode (encode keep cs ++ ds) = bytes cs ++ decode ds := by
  induction cs with
  | nil => rfl
  | cons c cs ih =>
    unfold encode bytes at *
    rw [List.flatMap_cons, List.flatMap_cons, List.append_assoc, List.append_assoc]
    split
    · rename_i hk
      have hc : c ≠ '%' := fun e => by rw [e, h] at hk; cases hk
      rw [List.singleton_append, decode_cons hc, ih]
    · rw [decode_escapes, ih]

theorem utf8_decode_encode (h : keep '%' = false) (replaced : List UInt8 → String) (s : String) :
    utf8 replaced (decode (encode keep s.toList)) = s := by
  have hd := decode_encode h s.toList []
  rw [List.append_nil] at hd
  rw [hd]
  show utf8 replaced (bytes s.toList ++ []) = s
  rw [List.append_nil, utf8_bytes]

theorem mem_escapes {bs : List UInt8} {c : Char} (h : c ∈ bs.flatMap escape) :
    c = '%' ∨ ∃ n < 16, c = hexDigit n := by
  obtain ⟨b, -, hc⟩ := List.mem_flatMap.mp h
  have hb : b.toNat < 256 := b.toNat_lt
  unfold escape at hc
  rcases List.mem_cons.mp hc with rfl | hc
  · exact .inl rfl
  · rcases List.mem_cons.mp hc with rfl | hc
    · exact .inr ⟨_, by omega, rfl⟩
    · exact .inr ⟨_, by omega, List.mem_singleton.mp hc⟩

/-- a character that is written neither as itself nor in an escape -/
def Absent (keep : Char → Bool) (c : Char) : Prop :=
  keep c = false ∧ c ≠ '%' ∧ ∀ n < 16, c ≠ hexDigit n

instance (c : Char) : Decidable (Absent keep c) := by unfold Absent; infer_instance

theorem Absent.not_mem_escapes {c : Char} (h : Absent keep c) (bs : List UInt8) :
    c ∉ bs.flatMap escape := by
  intro hc
  rcases mem_escapes hc with rfl | ⟨n, hn, rfl⟩
  · exact h.2.1 rfl
  · exact h.2.2 n hn rfl

theorem Absent.not_mem_encode {c : Char} (h : Absent keep c) (cs : List Char) :
    c ∉ encode keep cs := by
  intro hc
  obtain ⟨d, -, hd⟩ := List.mem_flatMap.mp hc
  split at hd
  · rename_i hk
    rw [← List.mem_singleton.mp hd, h.1] at hk
    cases hk
  · exact h.not_mem_escapes _ hd

end

/-! ## forms -/

section
variable {keep : Char → Bool}

/-- `application/x-www-form-urlencoded` -/
def formEncode (keep : Char → Bool) (cs : List Char) : List Char :=
  cs.flatMap fun c =>
    if c = ' ' then ['+'] else if keep c then [c] else (String.utf8EncodeChar c).flatMap escape

def formDecode (cs : List Char) : List UInt8 := decode (cs.map fun c => if c = '+' then ' ' else c)

theorem map_plus {cs : List Char} (h : '+' ∉ cs) :
    (cs.map fun c => if c = '+' then ' ' else c) = cs := by
  refine (List.map_congr_left fun c hc => ?_).trans (List.map_id _)
  have hne : c ≠ '+' := fun e => h (e ▸ hc)
  rw [if_neg hne]
  rfl

/-- with the spaces back, a form is the text with its spaces kept -/
theorem map_plus_formEncode (h : Absent keep '+') (cs : List Char) :
    ((formEncode keep cs).map fun c => if c = '+' then ' ' else c) =
      encode (fun c => decide (c = ' ') || keep c) cs := by
  induction cs with
  | nil => rfl
  | cons c cs ih =>
    unfold formEncode encode at *
    rw [List.flatMap_cons, List.flatMap_cons, List.map_append, ih]
    congr 1
    by_cases hc : c = ' '
    · subst hc
      rfl
    · rw [if_neg hc]
      by_cases hk : keep c = true
      · have hplus : '+' ∉ [c] := fun e => by
          rw [← List.mem_singleton.mp e, h.1] at hk
          cases hk
        simpa [hc, hk] using map_plus hplus
      · simpa [hc, hk] using map_plus (h.not_mem_escapes (String.utf8EncodeChar c))

theorem utf8_formDecode (hpct : keep '%' = false) (hplus : Absent keep '+')
    (replaced : List UInt8 → String) (s : String) :
    utf8 replaced (formDecode (formEncode keep s.toList)) = s := by
  unfold formDecode
  rw [map_plus_formEncode hplus]
  exact utf8_decode_encode (by simpa using hpct) replaced s

theorem Absent.not_mem_formEncode {c : Char} (h : Absent keep c) (hc : c ≠ '+') (cs : List Char) :
    c ∉ formEncode keep cs := by
  intro hm
  obtain ⟨d, -, hd⟩ := List.mem_flatMap.mp hm
  split at hd
  · exact hc (List.mem_singleton.mp hd)
  · split at hd
    · rename_i hk
      rw [← List.mem_singleton.mp hd, h.1] at hk
      cases hk
    · exact h.not_mem_escapes _ hd

/-! ## query strings -/

def pair (keep : Char → Bool) (p : String × String) : List Char :=
  formEncode keep p.1.toList ++ '=' :: formEncode keep p.2.toList

def query (keep : Char → Bool) (ps : List (String × String)) : List Char :=
  ['&'].intercalate (ps.map (pair keep))

/-- a pair ends its name at the first `=`; without one the value is empty -/
def readPair (replaced : List UInt8 → String) (cs : List Char) : String × String :=
  (utf8 replaced (formDecode (cs.takeWhile fun c => decide (c ≠ '='))),
    utf8 replaced (formDecode ((cs.dropWhile fun c => decide (c ≠ '=')).drop 1)))

/-- the pairs of a query string; an empty piece is none -/
def parse (replaced : List UInt8 → String) (cs : List Char) : List (String × String) :=
  ((cs.splitOn '&').filter fun nv => decide (nv ≠ [])).map (readPair replaced)

theorem takeWhile_append_sep {sep : Char} {as : List Char} (h : sep ∉ as) (bs : List Char) :
    (as ++ sep :: bs).takeWhile (fun c => decide (c ≠ sep)) = as := by
  have ha : ∀ c ∈ as, decide (c ≠ sep) = true := fun c hc => decide_eq_true fun e => h (e ▸ hc)
  rw [List.takeWhile_append_of_pos ha, List.takeWhile_cons_of_neg (by simp), List.append_nil]

theorem dropWhile_append_sep {sep : Char} {as : List Char} (h : sep ∉ as) (bs : List Char) :
    (as ++ sep :: bs).dropWhile (fun c => decide (c ≠ sep)) = sep :: bs := by
  have ha : ∀ c ∈ as, decide (c ≠ sep) = true := fun c hc => decide_eq_true fun e => h (e ▸ hc)
  rw [List.dropWhile_append_of_pos ha, List.dropWhile_cons_of_neg (by simp)]

/-- the set of a form: what separates the pairs is escaped -/
structure Form (keep : Char → Bool) : Prop where
  percent : keep '%' = false
  plus : Absent keep '+'
  amp : Absent keep '&'
  eq : Absent keep '='

theorem readPair_pair (hk : Form keep) (replaced : List UInt8 → String) (p : String × String) :
    readPair replaced (pair keep p) = p := by
  have heq := hk.eq.not_mem_formEncode (by decide) p.1.toList
  unfold readPair pair
  rw [takeWhile_append_sep heq, dropWhile_append_sep heq, List.drop_one, List.tail_cons,
    utf8_formDecode hk.percent hk.plus, utf8_formDecode hk.percent hk.plus]

/-- **The pairs of a query string are read back.** -/
theorem parse_query (hk : Form keep) (replaced : List UInt8 → String) (ps : List (String × String)) :
    parse replaced (query keep ps) = ps := by
  unfold parse query
  cases ps with
  | nil => rfl
  | cons p ps =>
    have hamp : ∀ l ∈ (p :: ps).map (pair keep), '&' ∉ l := by
      intro l hl hc
      obtain ⟨q, -, rfl⟩ := List.mem_map.mp hl
      unfold pair at hc
      rcases List.mem_append.mp hc with hc | hc
      · exact hk.amp.not_mem_formEncode (by decide) _ hc
      · exact hk.amp.not_mem_formEncode (by decide) _ ((List.mem_cons.mp hc).resolve_left (by decide))
    have hne : ∀ l ∈ (p :: ps).map (pair keep), decide (l ≠ []) = true := by
      intro l hl
      obtain ⟨q, -, rfl⟩ := List.mem_map.mp hl
      exact decide_eq_true (by simp [pair])
    rw [List.splitOn_intercalate '&' hamp (by simp), List.filter_eq_self.mpr hne, List.map_map]
    refine (List.map_congr_left fun q _ => ?_).trans (List.map_id _)
    exact readPair_pair hk replaced q

end

end Percent
