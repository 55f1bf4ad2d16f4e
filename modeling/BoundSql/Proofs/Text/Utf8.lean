import BoundSql.Text.Utf8
import Mathlib.Data.List.Forall2

/-!
# Texts and their bytes

The bytes of a text are read back as the text, strictly (`ofBytes_bytes`) and leniently
(`ofBytesLenient_bytes`), since the bytes of a character are a whole piece whatever follows them
(`bytePiece_charBytes`).  Hence different texts have different bytes (`bytes_inj`).
-/

namespace BoundSql.Text

/-! ## Characters -/

/-- The byte lies in the range. -/
def Fits (b : UInt8) (r : UInt8 × UInt8) : Prop := r.1 ≤ b ∧ b ≤ r.2

theorem fitting_append {bs : List UInt8} {ranges : List (UInt8 × UInt8)}
    (h : List.Forall₂ Fits bs ranges) (rest : List UInt8) :
    fitting ranges (bs ++ rest) = ranges.length := by
  induction h with
  | nil => cases rest <;> rfl
  | @cons b r bs ranges hb _ ih =>
    rw [List.cons_append, fitting, if_pos (by simpa [Fits] using hb), ih, List.length_cons]

/-- A first byte with all the bytes that have to follow it is a character. -/
theorem bytePiece_of_fits {b : UInt8} {bs : List UInt8} {ranges : List (UInt8 × UInt8)} {c : Char}
    (hb : followers? b = some ranges) (hbs : List.Forall₂ Fits bs ranges)
    (hpoint : codePoint b bs = c.toNat) (rest : List UInt8) :
    bytePiece b (bs ++ rest) = .char c (bs.length + 1) := by
  rw [bytePiece, hb]
  simp only [fitting_append hbs rest, if_true, ← hbs.length_eq, List.take_left, hpoint,
    Char.ofNat_toNat]

theorem fits_ofNat {n : Nat} {lo hi : UInt8} (h : lo.toNat ≤ n ∧ n ≤ hi.toNat) :
    Fits (.ofNat n) (lo, hi) := by
  have hn : (UInt8.ofNat n).toNat = n :=
    UInt8.toNat_ofNat_of_lt' (Nat.lt_of_le_of_lt h.2 hi.toNat_lt)
  constructor
  · rw [UInt8.le_iff_toNat_le, hn]
    exact h.1
  · rw [UInt8.le_iff_toNat_le, hn]
    exact h.2

theorem fits_ite {p : Prop} [Decidable p] {b : UInt8} {r r' : UInt8 × UInt8}
    (h : p → Fits b r) (h' : ¬ p → Fits b r') : Fits b (if p then r else r') := by
  split
  next hp => exact h hp
  next hp => exact h' hp

/-! ## First bytes -/

section

variable {n : Nat}

theorem followers?_one (h : n < 0x80) : followers? (.ofNat n) = some [] := by
  simp only [followers?, UInt8.lt_iff_toNat_lt, UInt8.toNat_ofNat']
  exact if_pos (Nat.lt_of_le_of_lt (Nat.mod_le _ _) h)

theorem followers?_two (h : 0xC2 ≤ n) (h' : n < 0xE0) :
    followers? (.ofNat n) = some [(0x80, 0xBF)] := by
  have hn : (UInt8.ofNat n).toNat = n := UInt8.toNat_ofNat_of_lt' (Nat.lt_trans h' (by decide))
  simp only [followers?, UInt8.lt_iff_toNat_lt, ← UInt8.toNat_inj, hn]
  rw [if_neg, if_neg, if_pos] <;> simp <;> omega

theorem followers?_three (h : 0xE0 ≤ n) (h' : n < 0xF0) :
    followers? (.ofNat n) = some
      [if n = 0xE0 then (0xA0, 0xBF) else if n = 0xED then (0x80, 0x9F) else (0x80, 0xBF),
        (0x80, 0xBF)] := by
  have hn : (UInt8.ofNat n).toNat = n := UInt8.toNat_ofNat_of_lt' (Nat.lt_trans h' (by decide))
  simp only [followers?, UInt8.lt_iff_toNat_lt, ← UInt8.toNat_inj, hn, UInt8.reduceToNat]
  rw [if_neg (by omega), if_neg (by omega), if_neg (by omega)]
  by_cases hfirst : n = 0xE0
  · rw [if_pos hfirst, if_pos hfirst]
  by_cases hlast : n = 0xED
  · rw [if_neg hfirst, if_pos hlast, if_neg hfirst, if_pos hlast]
  · rw [if_neg hfirst, if_neg hlast, if_pos h', if_neg hfirst, if_neg hlast]

theorem followers?_four (h : 0xF0 ≤ n) (h' : n ≤ 0xF4) :
    followers? (.ofNat n) = some
      [if n = 0xF0 then (0x90, 0xBF) else if n = 0xF4 then (0x80, 0x8F) else (0x80, 0xBF),
        (0x80, 0xBF), (0x80, 0xBF)] := by
  have hn : (UInt8.ofNat n).toNat = n :=
    UInt8.toNat_ofNat_of_lt' (Nat.lt_of_le_of_lt h' (by decide))
  simp only [followers?, UInt8.lt_iff_toNat_lt, ← UInt8.toNat_inj, hn, UInt8.reduceToNat]
  rw [if_neg (by omega), if_neg (by omega), if_neg (by omega), if_neg (by omega),
    if_neg (by omega), if_neg (by omega)]
  by_cases hfirst : n = 0xF0
  · rw [if_pos hfirst, if_pos hfirst]
  by_cases hlast : n = 0xF4
  · rw [if_neg hfirst, if_neg (by omega), if_pos hlast, if_neg hfirst, if_pos hlast]
  · rw [if_neg hfirst, if_pos (by omega), if_neg hfirst, if_neg hlast]

end

/-! ## Whole characters -/

theorem bytePiece_charBytes (c : Char) :
    ∃ b bs, charBytes c = b :: bs ∧ ∀ rest, bytePiece b (bs ++ rest) = .char c (bs.length + 1) := by
  have hvalid : c.toNat < 0xD800 ∨ 0xDFFF < c.toNat ∧ c.toNat < 0x110000 := c.valid
  have hany : ∀ n, Fits (.ofNat (n % 64 + 128)) (0x80, 0xBF) := fun n =>
    fits_ofNat (by simp only [UInt8.reduceToNat]; omega)
  -- The first byte tells how many follow, and may narrow the range of the second.
  rw [charBytes, String.utf8EncodeChar, Char.toNat_val]
  split
  next h =>
    refine ⟨_, _, rfl, bytePiece_of_fits (followers?_one (by omega)) .nil ?_⟩
    simp [codePoint, leadBits]
    omega
  next h =>
    split
    next h' =>
      refine ⟨_, _, rfl, bytePiece_of_fits (followers?_two (by omega) (by omega))
        (.cons (hany _) .nil) ?_⟩
      simp [codePoint, leadBits, twoPow]
      omega
    next h' =>
      split
      next h'' =>
        refine ⟨_, _, rfl, bytePiece_of_fits (followers?_three (by omega) (by omega))
          (.cons ?_ (.cons (hany _) .nil)) ?_⟩
        · refine fits_ite (fun _ => fits_ofNat ?_) fun _ =>
            fits_ite (fun _ => fits_ofNat ?_) fun _ => hany _
          · simp only [UInt8.reduceToNat]
            omega
          · simp only [UInt8.reduceToNat]
            omega
        · simp [codePoint, leadBits, twoPow]
          omega
      next h'' =>
        refine ⟨_, _, rfl, bytePiece_of_fits (followers?_four (by omega) (by omega))
          (.cons ?_ (.cons (hany _) (.cons (hany _) .nil))) ?_⟩
        · refine fits_ite (fun _ => fits_ofNat ?_) fun _ =>
            fits_ite (fun _ => fits_ofNat ?_) fun _ => hany _
          · simp only [UInt8.reduceToNat]
            omega
          · simp only [UInt8.reduceToNat]
            omega
        · simp [codePoint, leadBits, twoPow]
          omega

/-! ## Texts -/

/-- The pieces of a text are its characters. -/
theorem bytePieces_bytes (cs : List Char) :
    bytePieces (cs.flatMap charBytes) = cs.map fun c => .char c (charBytes c).length := by
  have hskip : ∀ bs rest, bytePiecesFrom bs.length (bs ++ rest) = bytePiecesFrom 0 rest := by
    intro bs rest
    induction bs with
    | nil => rfl
    | cons b bs ih => exact ih
  rw [bytePieces]
  induction cs with
  | nil => rfl
  | cons c cs ih =>
    obtain ⟨b, bs, hc, hpiece⟩ := bytePiece_charBytes c
    rw [List.flatMap_cons, List.map_cons, hc, List.cons_append, bytePiecesFrom, hpiece]
    simp only [BytePiece.size, Nat.add_sub_cancel, hskip, ih, List.length_cons]

theorem charsFrom_chars (index : Nat) (cs : List Char) (size : Char → Nat) :
    charsFrom index (cs.map fun c => .char c (size c)) = .ok cs := by
  induction cs generalizing index with
  | nil => rfl
  | cons c cs ih =>
    rw [List.map_cons, charsFrom, ih]
    rfl

/-- The bytes of a text are read as the text. -/
theorem ofBytes_bytes (s : String) : ofBytes (bytes s) = .ok s := by
  rw [ofBytes, bytes, bytePieces_bytes, charsFrom_chars]
  exact congrArg Except.ok String.ofList_toList

theorem ofBytesLenient_bytes (s : String) : ofBytesLenient (bytes s) = s := by
  rw [ofBytesLenient, bytes, bytePieces_bytes, List.map_map]
  have hshown : (BytePiece.shown ∘ fun c => .char c (charBytes c).length) = id := rfl
  rw [hshown, List.map_id, String.ofList_toList]

/-- Different texts have different bytes. -/
theorem bytes_inj {s t : String} (h : bytes s = bytes t) : s = t := by
  have hs := ofBytes_bytes s
  rw [h, ofBytes_bytes t] at hs
  exact (Except.ok.inj hs).symm

end BoundSql.Text
