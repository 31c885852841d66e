import Mathlib.Data.String.Basic

/-!
# The order of bytes

Texts are ordered by the code points of their characters. The order of their bytes is the same
(`Text.bytes_lt_bytes_iff`): of two characters, the larger one has the larger byte at the first
place where their bytes differ, and there is such a place in both.
-/

namespace ViewGlue.Text

/-- The bytes of a text. -/
def bytes (s : String) : List UInt8 :=
  s.toUTF8.data.toList

/-- The bytes of a text are those of its characters. -/
theorem bytes_eq (s : String) : bytes s = s.toList.flatMap String.utf8EncodeChar := by
  have whole : s.toByteArray = s.toList.utf8Encode := by
    rw [← String.toByteArray_ofList, String.ofList_toList]
  rw [bytes, String.toUTF8_eq_toByteArray, whole, List.utf8Encode]
  simp

/-! ## Bytes of characters -/

/-- Numbers are ordered by what is left without their last six bits, and then by these. -/
theorem sixBits_lt {m n : Nat} (less : m < n) :
    m / 64 < n / 64 ∨ m / 64 = n / 64 ∧ m % 64 < n % 64 := by
  omega

/-- Numbers are ordered by their groups of six bits, the highest ones first. -/
theorem groups_lt {m n : Nat} (less : m < n) :
    m / 262144 < n / 262144 ∨ m / 262144 = n / 262144 ∧
      (m / 4096 % 64 < n / 4096 % 64 ∨ m / 4096 % 64 = n / 4096 % 64 ∧
        (m / 64 % 64 < n / 64 % 64 ∨ m / 64 % 64 = n / 64 % 64 ∧ m % 64 < n % 64)) := by
  have shifted (code : Nat) :
      code / 4096 = code / 64 / 64 ∧ code / 262144 = code / 64 / 64 / 64 := by
    omega
  simp only [shifted]
  rcases sixBits_lt less with more | ⟨same, last⟩
  · rcases sixBits_lt more with more | ⟨same, last⟩
    · rcases sixBits_lt more with more | ⟨same, last⟩
      · exact .inl more
      · exact .inr ⟨same, .inl last⟩
    · exact .inr ⟨by rw [same], .inr ⟨by rw [same], .inl last⟩⟩
  · exact .inr ⟨by rw [same], .inr ⟨by rw [same], .inr ⟨by rw [same], last⟩⟩⟩

/-- Bytes are compared by their numbers. -/
theorem cons_lt_cons_of_lt_256 {m n : Nat} (first : m < 256) (second : n < 256)
    (rest other : List UInt8) :
    UInt8.ofNat m :: rest < UInt8.ofNat n :: other ↔ m < n ∨ m = n ∧ rest < other := by
  rw [List.cons_lt_cons_iff, UInt8.lt_iff_toNat_lt, ← UInt8.toNat_inj, UInt8.toNat_ofNat',
    UInt8.toNat_ofNat', Nat.mod_eq_of_lt first, Nat.mod_eq_of_lt second]

/-- Whatever follows, a larger character has larger bytes. -/
theorem encode_append_lt {c d : Char} (less : c < d) (rest other : List UInt8) :
    String.utf8EncodeChar c ++ rest < String.utf8EncodeChar d ++ other := by
  have codes : c.val.toNat < d.val.toNat := less
  have most : d.val.toNat < 1114112 := by
    have valid := d.valid
    simp only [UInt32.isValidChar, Nat.isValidChar] at valid
    omega
  have first : c.val.toNat / 262144 % 8 = c.val.toNat / 262144 := Nat.mod_eq_of_lt (by omega)
  have second : d.val.toNat / 262144 % 8 = d.val.toNat / 262144 := Nat.mod_eq_of_lt (by omega)
  have groups := groups_lt codes
  simp only [String.utf8EncodeChar]
  -- each of the two has one, two, three or four bytes
  split_ifs <;>
    simp (disch := omega) only [List.cons_append, cons_lt_cons_of_lt_256] <;> omega

/-- Bytes behind those of the same character are ordered as they are without it. -/
theorem append_lt_append_iff (front rest other : List UInt8) :
    front ++ rest < front ++ other ↔ rest < other := by
  induction front with
  | nil => rfl
  | cons byte front ih => simp [ih]

/-- Characters are ordered as their bytes. -/
theorem flatMap_encode_lt_iff {s t : List Char} :
    s.flatMap String.utf8EncodeChar < t.flatMap String.utf8EncodeChar ↔ s < t := by
  induction s generalizing t with
  | nil =>
    cases t with
    | nil => simp
    | cons d t =>
      obtain ⟨byte, others, encoded⟩ :=
        List.exists_cons_of_ne_nil (show String.utf8EncodeChar d ≠ [] by simp)
      simp [encoded]
  | cons c s ih =>
    cases t with
    | nil => simp
    | cons d t =>
      rw [List.flatMap_cons, List.flatMap_cons, List.cons_lt_cons_iff]
      rcases lt_trichotomy c d with less | rfl | greater
      · exact iff_of_true (encode_append_lt less _ _) (.inl less)
      · simp [append_lt_append_iff, ih]
      · have behind := encode_append_lt greater (t.flatMap String.utf8EncodeChar)
          (s.flatMap String.utf8EncodeChar)
        refine iff_of_false (List.lt_asymm behind) ?_
        rintro (less | ⟨rfl, -⟩)
        · exact lt_asymm less greater
        · exact lt_irrefl c greater

/-- Texts are ordered as their bytes. -/
theorem bytes_lt_bytes_iff {s t : String} : bytes s < bytes t ↔ s < t := by
  rw [bytes_eq, bytes_eq, flatMap_encode_lt_iff, String.lt_iff_toList_lt]

end ViewGlue.Text
