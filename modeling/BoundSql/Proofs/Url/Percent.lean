import BoundSql.Proofs.Text.Split
import BoundSql.Proofs.Text.Utf8
import BoundSql.Url.Form

/-!
# Encoded texts

If percent signs are among the characters that are written by their bytes, then decoding what has
been encoded gives the bytes of the text (`decode_encode`).  Encoding strictly, all but the letters
and digits of ASCII, leaves no other characters than those and percent signs (`isWord_of_mem`).
-/

namespace BoundSql.Url

/-! ## Decoding -/

theorem hexValue?_hexDigit {n : Nat} (h : n < 16) : hexValue? (hexDigit n) = some n := by
  have hall : ∀ n < 16, hexValue? (hexDigit n) = some n := by decide
  exact hall n h

theorem decode_escapeByte (b : UInt8) (rest : List Char) :
    decode (escapeByte b ++ rest) = b :: decode rest := by
  have hb := b.toNat_lt
  have hsum : 16 * (b.toNat / 16) + b.toNat % 16 = b.toNat := by omega
  rw [escapeByte, List.cons_append, List.cons_append, List.cons_append, List.nil_append, decode,
    hexValue?_hexDigit (by omega), hexValue?_hexDigit (by omega)]
  simp only [hsum, UInt8.ofNat_toNat]

theorem decode_escapeBytes (bs : List UInt8) (rest : List Char) :
    decode (bs.flatMap escapeByte ++ rest) = bs ++ decode rest := by
  induction bs with
  | nil => rfl
  | cons b bs ih =>
    rw [List.flatMap_cons, List.append_assoc, decode_escapeByte, ih, List.cons_append]

theorem decode_cons {c : Char} (h : c ≠ '%') (rest : List Char) :
    decode (c :: rest) = Text.charBytes c ++ decode rest := by
  rw [decode]
  exact fun _ _ _ hc => absurd hc h

/-- Decoding what has been encoded gives the bytes of the text. -/
theorem decode_encode {escaped : Char → Bool} (h : escaped '%' = true) (cs : List Char) :
    decode (encode escaped cs) = cs.flatMap Text.charBytes := by
  induction cs with
  | nil => rfl
  | cons c cs ih =>
    rw [encode, List.flatMap_cons, ← encode, List.flatMap_cons]
    cases hc : escaped c with
    | true => rw [if_pos rfl, decode_escapeBytes, ih]
    | false =>
      have hne : c ≠ '%' := fun heq => by rw [heq, h] at hc; cases hc
      rw [if_neg (by decide), List.singleton_append, decode_cons hne, ih]

theorem encode_eq_self {escaped : Char → Bool} {cs : List Char}
    (h : ∀ c ∈ cs, escaped c = false) : encode escaped cs = cs := by
  induction cs with
  | nil => rfl
  | cons c cs ih =>
    obtain ⟨hc, hcs⟩ := List.forall_mem_cons.mp h
    rw [encode, List.flatMap_cons, ← encode, ih hcs, hc]
    rfl

/-! ## Strict encoding -/

/-- The text with every byte written by number but the letters and digits of ASCII. -/
def strict (s : String) : String := String.ofList (encode (fun c => !c.isAlphanum) s.toList)

/-- A letter or digit of ASCII or a percent sign. -/
def isWord (c : Char) : Bool := c.isAlphanum || c == '%'

theorem isWord_hexDigit {n : Nat} (h : n < 16) : isWord (hexDigit n) = true := by
  have hall : ∀ n < 16, isWord (hexDigit n) = true := by decide
  exact hall n h

theorem isWord_of_mem {s : String} {c : Char} (h : c ∈ (strict s).toList) : isWord c = true := by
  rw [strict, String.toList_ofList] at h
  obtain ⟨d, -, hc⟩ := List.mem_flatMap.mp h
  split at hc
  next =>
    obtain ⟨b, -, hc⟩ := List.mem_flatMap.mp hc
    have hb := b.toNat_lt
    simp only [escapeByte, List.mem_cons, List.not_mem_nil, or_false] at hc
    rcases hc with rfl | rfl | rfl
    · rfl
    · exact isWord_hexDigit (by omega)
    · exact isWord_hexDigit (by omega)
  next hd =>
    rw [List.mem_singleton.mp hc, isWord, Bool.or_eq_true]
    exact .inl (by simpa using hd)

theorem not_mem_strict {c : Char} (h : isWord c = false) (s : String) :
    c ∉ (strict s).toList := by
  intro hc
  rw [isWord_of_mem hc] at h
  cases h

theorem decode_strict (s : String) : decode (strict s).toList = Text.bytes s := by
  rw [strict, String.toList_ofList]
  exact decode_encode rfl s.toList

/-- What is encoded in the same way is the same. -/
theorem eq_of_decode_strict {s t : String} (h : decode (strict s).toList = Text.bytes t) :
    s = t :=
  Text.bytes_inj ((decode_strict s).symm.trans h)

theorem eq_empty_of_strict {s : String} (h : (strict s).toList = []) : s = "" :=
  eq_of_decode_strict (by rw [h]; rfl)

theorem isEmpty_strict {s : String} (h : s ≠ "") : (strict s).isEmpty = false := by
  cases hempty : (strict s).isEmpty with
  | false => rfl
  | true => exact absurd (eq_empty_of_strict (by simpa using hempty)) h

/-- A name or value of a query is read back. -/
theorem decodeFormPart_strict (s : String) : decodeFormPart (strict s).toList = s := by
  have hplus : (strict s).toList.map (fun c => if c = '+' then ' ' else c) = (strict s).toList := by
    refine (List.map_congr_left fun c hc => ?_).trans (List.map_id _)
    exact if_neg fun heq => not_mem_strict (by decide) s (heq ▸ hc)
  rw [decodeFormPart, hplus, decode_strict, Text.ofBytesLenient_bytes]

/-! ## The query -/

/-- A name and a value. -/
def pairChars (e : String × String) : List Char :=
  (strict e.1).toList ++ '=' :: (strict e.2).toList

theorem decodeFormPair_pairChars (e : String × String) : decodeFormPair (pairChars e) = e := by
  rw [decodeFormPair, pairChars, Text.cutAt_append (not_mem_strict (by decide) e.1)]
  simp only [Option.getD_some, decodeFormPart_strict]

theorem not_mem_pairChars {c : Char} (hword : isWord c = false) (hc : c ≠ '=')
    (e : String × String) : c ∉ pairChars e := by
  rw [pairChars, List.mem_append, List.mem_cons]
  rintro (hmem | heq | hmem)
  · exact not_mem_strict hword e.1 hmem
  · exact hc heq
  · exact not_mem_strict hword e.2 hmem

/-- The pairs of a query are read back. -/
theorem decodeForm_pairs (e : String × String) (es : List (String × String)) :
    decodeForm (pairChars e ++ (es.map pairChars).flatMap ('&' :: ·)) = e :: es := by
  have hamp : ∀ e, ∀ c ∈ pairChars e, (c == '&') = false := by
    intro e c hc
    rw [beq_eq_false_iff_ne]
    rintro rfl
    exact not_mem_pairChars (by decide) (by decide) e hc
  have hsplit : Text.splitWhere (· == '&') (pairChars e ++ (es.map pairChars).flatMap ('&' :: ·))
      = (e :: es).map pairChars := by
    refine Text.splitWhere_joined rfl (hamp e) fun part hpart => ?_
    obtain ⟨e', -, rfl⟩ := List.mem_map.mp hpart
    exact hamp e'
  have hfilter : ((e :: es).map pairChars).filter (!·.isEmpty) = (e :: es).map pairChars := by
    refine List.filter_eq_self.mpr fun part hpart => ?_
    obtain ⟨e', -, rfl⟩ := List.mem_map.mp hpart
    rw [pairChars, Bool.not_eq_true', List.isEmpty_eq_false_iff]
    exact List.append_ne_nil_of_right_ne_nil _ (List.cons_ne_nil _ _)
  have hpairs : decodeFormPair ∘ pairChars = id := funext decodeFormPair_pairChars
  rw [decodeForm, hsplit, hfilter, List.map_map, hpairs, List.map_id]

end BoundSql.Url
