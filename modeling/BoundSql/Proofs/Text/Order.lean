import BoundSql.Text.Utf8
import Mathlib.Data.String.Basic

/-!
# The order of texts is the order of their bytes

Texts are compared character by character.  Their bytes give the same order
(`bytes_lt_iff`), since the bytes of a character begin with one that grows with the number of bytes
that follow it, and go on with the digits of the code point to the base 64 (`charBytes_eq`).
-/

namespace BoundSql.Text

/-! ## Digits -/

/-- The lowest digits of a number to the base 64, as bytes that follow a first one. -/
def digitBytes : Nat → Nat → List UInt8
  | 0, _ => []
  | k + 1, n => .ofNat (n / 64 ^ k % 64 + 128) :: digitBytes k n

theorem cons_ofNat_lt {m n : Nat} (h : m < n) (hn : n < 256) (as bs : List UInt8) :
    UInt8.ofNat m :: as < UInt8.ofNat n :: bs := by
  refine List.cons_lt_cons_iff.mpr (.inl ?_)
  rw [UInt8.lt_iff_toNat_lt, UInt8.toNat_ofNat_of_lt' (Nat.lt_trans h hn),
    UInt8.toNat_ofNat_of_lt' hn]
  exact h

/-- Of two numbers with the same higher digits, the smaller one has the smaller lower digits. -/
theorem digitBytes_append_lt {k m n : Nat} (h : m < n) (hhigh : m / 64 ^ k = n / 64 ^ k)
    (as bs : List UInt8) : digitBytes k m ++ as < digitBytes k n ++ bs := by
  induction k with
  | zero => simp only [Nat.pow_zero, Nat.div_one] at hhigh; omega
  | succ k ih =>
    rw [digitBytes, digitBytes, List.cons_append, List.cons_append]
    rw [Nat.pow_succ, ← Nat.div_div_eq_div_mul, ← Nat.div_div_eq_div_mul] at hhigh
    rcases Nat.lt_or_eq_of_le (Nat.div_le_div_right (c := 64 ^ k) (Nat.le_of_lt h)) with hlt | heq
    · exact cons_ofNat_lt (by omega) (by omega) _ _
    · rw [heq]
      exact List.cons_lt_cons_iff.mpr (.inr ⟨rfl, ih heq⟩)

/-! ## Characters -/

/-- The number of bytes that follow the first byte of a code point. -/
def followerCount (n : Nat) : Nat :=
  if n ≤ 0x7F then 0 else if n ≤ 0x7FF then 1 else if n ≤ 0xFFFF then 2 else 3

/-- The first byte of a code point: which ones it is tells how many follow, and what it has
above that is the highest digit. -/
def firstByte (n : Nat) : Nat :=
  if n ≤ 0x7F then n else if n ≤ 0x7FF then n / 0x40 + 0xC0
    else if n ≤ 0xFFFF then n / 0x1000 + 0xE0 else n / 0x40000 + 0xF0

theorem charBytes_eq (c : Char) :
    charBytes c = .ofNat (firstByte c.toNat) :: digitBytes (followerCount c.toNat) c.toNat := by
  have hvalid : c.toNat < 0xD800 ∨ 0xDFFF < c.toNat ∧ c.toNat < 0x110000 := c.valid
  simp only [charBytes, String.utf8EncodeChar, Char.toNat_val, followerCount, firstByte]
  split
  next => rfl
  next =>
    split
    next h =>
      rw [Nat.mod_eq_of_lt (by omega : c.toNat / 64 < 32)]
      simp [digitBytes]
    next =>
      split
      next h =>
        rw [Nat.mod_eq_of_lt (by omega : c.toNat / 4096 < 16)]
        simp [digitBytes]
      next h =>
        rw [Nat.mod_eq_of_lt (by omega : c.toNat / 262144 < 8)]
        simp [digitBytes]

/-- Of two code points the smaller one has the smaller first byte, or else they have the same
first byte and only their lower digits tell them apart. -/
theorem firstByte_lt_or_eq {m n : Nat} (h : m < n) :
    firstByte m < firstByte n ∨ firstByte m = firstByte n ∧ followerCount m = followerCount n
      ∧ m / 64 ^ followerCount m = n / 64 ^ followerCount n := by
  unfold firstByte followerCount
  split_ifs <;> simp <;> omega

theorem firstByte_lt_256 {n : Nat} (h : n < 0x110000) : firstByte n < 256 := by
  unfold firstByte
  split_ifs <;> omega

theorem charBytes_append_lt {c d : Char} (h : c < d) (as bs : List UInt8) :
    charBytes c ++ as < charBytes d ++ bs := by
  have hd : d.toNat < 0x110000 := d.valid.elim (fun h => Nat.lt_trans h (by decide)) And.right
  have hcd : c.toNat < d.toNat := h
  rw [charBytes_eq, charBytes_eq, List.cons_append, List.cons_append]
  rcases firstByte_lt_or_eq hcd with hlt | ⟨hfirst, hcount, hhigh⟩
  · exact cons_ofNat_lt hlt (firstByte_lt_256 hd) _ _
  · rw [hfirst, ← hcount]
    rw [← hcount] at hhigh
    exact List.cons_lt_cons_iff.mpr (.inr ⟨rfl, digitBytes_append_lt hcd hhigh as bs⟩)

/-! ## Texts -/

theorem bytes_lt_of_lt {s t : String} (h : s < t) : bytes s < bytes t := by
  rw [String.lt_iff_toList_lt] at h
  unfold bytes
  generalize s.toList = cs at h ⊢
  generalize t.toList = ds at h ⊢
  induction cs generalizing ds with
  | nil =>
    cases ds with
    | nil => exact absurd h (List.lt_irrefl _)
    | cons d ds =>
      rw [List.flatMap_nil, List.flatMap_cons, charBytes_eq]
      exact List.nil_lt_cons _ _
  | cons c cs ih =>
    cases ds with
    | nil => exact absurd h (List.not_lt_nil _)
    | cons d ds =>
      rw [List.flatMap_cons, List.flatMap_cons]
      rcases List.cons_lt_cons_iff.mp h with hlt | ⟨rfl, htail⟩
      · exact charBytes_append_lt hlt _ _
      · exact List.append_left_lt (ih ds htail)

/-- The order of texts is the order of their bytes. -/
theorem bytes_lt_iff {s t : String} : bytes s < bytes t ↔ s < t := by
  refine ⟨fun h => ?_, bytes_lt_of_lt⟩
  rcases lt_trichotomy s t with hlt | rfl | hgt
  · exact hlt
  · exact absurd h (List.lt_irrefl _)
  · exact absurd (bytes_lt_of_lt hgt) (List.lt_asymm h)

theorem bytes_le_iff {s t : String} : bytes s ≤ bytes t ↔ s ≤ t := not_congr bytes_lt_iff

end BoundSql.Text
