import Mathlib.Data.List.Basic
import Mathlib.Order.Basic

/-!
# Bytes — the order of texts

Texts are compared character by character. Their bytes come in the same order:
the encoding of a character never begins another one, and a later character has
the greater byte where the two encodings first differ.

* `encode_lt`    — the bytes of characters come in the order of the characters.
* `bytes_lt_iff` — the bytes of texts come in the order of the texts.
-/

namespace ReviewPanel.Text

/-- The bytes of a text in UTF-8. -/
def bytes (s : String) : List UInt8 := s.toUTF8.data.toList

/-- The bytes of a text are those of its characters, one behind the other. -/
theorem bytes_eq_flatMap (s : String) : bytes s = s.toList.flatMap String.utf8EncodeChar := by
  have hText : s.toUTF8 = s.toList.utf8Encode := by
    rw [String.toUTF8_eq_toByteArray, ← String.toByteArray_ofList, String.ofList_toList]
  rw [bytes, hText, List.utf8Encode, List.toList_data_toByteArray]

/-- Of two numbers the smaller one has the smaller digit, to the base 64, where
the two first differ. -/
theorem digits_lt {v w : Nat} (hLt : v < w) :
    v / 262144 < w / 262144 ∨ v / 262144 = w / 262144 ∧
      (v / 4096 < w / 4096 ∨ v / 4096 = w / 4096 ∧
        (v / 64 < w / 64 ∨ v / 64 = w / 64 ∧ v % 64 < w % 64)) := by
  omega

theorem toNat_val_lt (c : Char) : c.val.toNat < 1114112 := by
  rcases c.valid with hLow | ⟨-, hHigh⟩
  · exact Nat.lt_trans hLow (by decide)
  · exact hHigh

/-- The bytes of a character come before those of a later one, whatever follows. -/
theorem encode_lt {c d : Char} (hLt : c < d) (s t : List UInt8) :
    String.utf8EncodeChar c ++ s < String.utf8EncodeChar d ++ t := by
  have hVal : c.val.toNat < d.val.toNat := hLt
  have hBound := toNat_val_lt d
  -- only the codes of the two characters matter from here on
  unfold String.utf8EncodeChar
  generalize c.val.toNat = v at hVal
  generalize d.val.toNat = w at hVal hBound
  by_cases hFour : 65535 < v
  · -- four bytes each: the first one that differs is that of the first digit that does
    have hLong : ∀ x, v ≤ x → ¬ x ≤ 127 ∧ ¬ x ≤ 2047 ∧ ¬ x ≤ 65535 := by omega
    simp only [hLong v (Nat.le_refl _), hLong w (Nat.le_of_lt hVal), if_false, List.cons_append,
      List.cons_lt_cons_iff, UInt8.lt_iff_toNat_lt, ← UInt8.toNat_inj, UInt8.toNat_ofNat']
    rcases digits_lt hVal with h₁ | ⟨h₁, h₂ | ⟨h₂, h₃ | ⟨h₃, h₄⟩⟩⟩
    · exact Or.inl (by omega)
    · exact Or.inr ⟨by omega, Or.inl (by omega)⟩
    · exact Or.inr ⟨by omega, Or.inr ⟨by omega, Or.inl (by omega)⟩⟩
    · exact Or.inr ⟨by omega, Or.inr ⟨by omega, Or.inr ⟨by omega, Or.inl (by omega)⟩⟩⟩
  · -- one case for each pair of lengths; a longer encoding has the greater first byte
    simp only
    split_ifs
    all_goals
      simp only [List.cons_append, List.nil_append, List.cons_lt_cons_iff, UInt8.lt_iff_toNat_lt,
        ← UInt8.toNat_inj, UInt8.toNat_ofNat']
      omega

theorem encode_ne_nil (c : Char) : String.utf8EncodeChar c ≠ [] := by
  unfold String.utf8EncodeChar
  simp only
  split_ifs <;> exact List.cons_ne_nil _ _

/-- The order of the first characters that differ is that of their bytes, as no code is the
beginning of another one. -/
theorem flatMap_encode_lt {cs ds : List Char} (hLt : cs < ds) :
    cs.flatMap String.utf8EncodeChar < ds.flatMap String.utf8EncodeChar := by
  induction cs generalizing ds with
  | nil =>
    cases ds with
    | nil => exact absurd hLt (List.lt_irrefl _)
    | cons d rest =>
      rw [List.flatMap_nil, List.flatMap_cons]
      obtain ⟨byte, more, hBytes⟩ := List.exists_cons_of_ne_nil (encode_ne_nil d)
      rw [hBytes]
      exact List.nil_lt_cons _ _
  | cons c rest ih =>
    cases ds with
    | nil => exact absurd hLt (List.not_lt_nil _)
    | cons d rest' =>
      rw [List.flatMap_cons, List.flatMap_cons]
      rcases List.cons_lt_cons_iff.mp hLt with hHead | ⟨rfl, hTail⟩
      · exact encode_lt hHead _ _
      · exact List.append_left_lt (ih hTail)

/-- The bytes of texts come in the order of the texts. -/
theorem bytes_lt_iff {a b : String} : bytes a < bytes b ↔ a < b := by
  have hForth : ∀ {a b : String}, a < b → bytes a < bytes b := by
    intro a b hLt
    rw [bytes_eq_flatMap, bytes_eq_flatMap]
    exact flatMap_encode_lt hLt
  refine ⟨fun hBytes => ?_, hForth⟩
  -- the other two ways in which the texts may lie are excluded by their bytes
  rcases Std.lt_trichotomy a b with hLt | rfl | hGt
  · exact hLt
  · exact absurd hBytes (List.lt_irrefl _)
  · exact absurd (hForth hGt) (List.lt_asymm hBytes)

/-- So is the order with equality. -/
theorem bytes_le_iff {a b : String} : bytes a ≤ bytes b ↔ ¬ b < a := by
  rw [← bytes_lt_iff]
  exact Iff.rfl

end ReviewPanel.Text
