import Mathlib.Data.String.Basic

/-! The order of texts, which is said of their characters, is the order of their bytes: a greater
character has the greater encoding, and no encoding begins another, so the first byte in which two
texts differ decides like the first character does. -/
namespace SourceAtlas.ByteOrder

/-- The bytes of a text in UTF-8. -/
def bytes (text : String) : List UInt8 :=
  text.toUTF8.data.toList

theorem bytes_eq (text : String) :
    bytes text = text.toList.flatMap String.utf8EncodeChar := by
  have encoded : text.toByteArray = (text.toList.flatMap String.utf8EncodeChar).toByteArray := by
    conv => lhs; rw [← String.ofList_toList (s := text)]
    rfl
  rw [bytes, String.toUTF8_eq_toByteArray, encoded, List.toList_data_toByteArray]

private theorem first_decides {m n : Nat} (less : m < n) (bound : n < 256) (x y : List UInt8) :
    UInt8.ofNat m :: x < UInt8.ofNat n :: y := by
  refine List.cons_lt_cons_iff.mpr (.inl ?_)
  rw [UInt8.lt_iff_toNat_lt, UInt8.toNat_ofNat', UInt8.toNat_ofNat']
  omega

private theorem rest_decides {m n : Nat} {x y : List UInt8} (le : m ≤ n) (bound : n < 256)
    (rest : m = n → x < y) : UInt8.ofNat m :: x < UInt8.ofNat n :: y := by
  rcases Nat.lt_or_eq_of_le le with less | same
  · exact first_decides less bound x y
  · exact List.cons_lt_cons_iff.mpr (.inr ⟨by rw [same], rest same⟩)

private theorem char_bound (c : Char) : c.val.toNat < 0x110000 := by
  rcases c.valid with low | ⟨_, high⟩
  · omega
  · exact high

/-- The encodings of two characters compare like the characters, whatever follows them. -/
theorem encode_lt {a b : Char} (less : a < b) (x y : List UInt8) :
    String.utf8EncodeChar a ++ x < String.utf8EncodeChar b ++ y := by
  have order : a.val.toNat < b.val.toNat := UInt32.lt_iff_toNat_lt.mp less
  have bound := char_bound b
  simp only [String.utf8EncodeChar]
  generalize a.val.toNat = m at order
  generalize b.val.toNat = n at order bound
  -- of two lengths the shorter one has the smaller first byte; in one length the bytes are digits
  by_cases one : n ≤ 0x7f
  · simp only [show m ≤ 0x7f by omega, one, if_true]
    exact first_decides order (by omega) _ _
  · by_cases two : n ≤ 0x7ff
    · simp only [one, two, if_true, if_false]
      split_ifs
      · exact first_decides (by omega) (by omega) _ _
      · exact rest_decides (by omega) (by omega) fun _ => first_decides (by omega) (by omega) _ _
      all_goals omega
    · by_cases three : n ≤ 0xffff
      · simp only [one, two, three, if_true, if_false]
        split_ifs
        · exact first_decides (by omega) (by omega) _ _
        · exact first_decides (by omega) (by omega) _ _
        · refine rest_decides (by omega) (by omega) fun _ => ?_
          refine rest_decides (by omega) (by omega) fun _ => ?_
          exact first_decides (by omega) (by omega) _ _
        · omega
      · simp only [one, two, three, if_false]
        split_ifs
        · exact first_decides (by omega) (by omega) _ _
        · exact first_decides (by omega) (by omega) _ _
        · exact first_decides (by omega) (by omega) _ _
        · refine rest_decides (by omega) (by omega) fun _ => ?_
          refine rest_decides (by omega) (by omega) fun _ => ?_
          refine rest_decides (by omega) (by omega) fun _ => ?_
          exact first_decides (by omega) (by omega) _ _

private theorem encodings_lt {cs ds : List Char} (less : cs < ds) :
    cs.flatMap String.utf8EncodeChar < ds.flatMap String.utf8EncodeChar := by
  induction cs generalizing ds with
  | nil =>
    cases ds with
    | nil => exact absurd less (List.not_lt_nil _)
    | cons d ds =>
      rw [List.flatMap_nil, List.flatMap_cons]
      cases encoded : String.utf8EncodeChar d with
      | nil => exact absurd encoded String.utf8EncodeChar_ne_nil
      | cons byte rest => exact List.nil_lt_cons _ _
  | cons c cs ih =>
    cases ds with
    | nil => exact absurd less (List.not_lt_nil _)
    | cons d ds =>
      rw [List.flatMap_cons, List.flatMap_cons]
      rcases List.cons_lt_cons_iff.mp less with first | ⟨rfl, rest⟩
      · exact encode_lt first _ _
      · exact List.append_left_lt (ih rest)

theorem bytes_lt {s t : String} (less : s < t) : bytes s < bytes t := by
  rw [bytes_eq, bytes_eq]
  exact encodings_lt less

/-- Comparing two texts is comparing them byte by byte. -/
theorem le_iff_bytes (s t : String) : s ≤ t ↔ bytes s ≤ bytes t := by
  constructor
  · intro le
    rcases lt_or_eq_of_le le with less | rfl
    · exact List.le_of_lt (bytes_lt less)
    · exact List.le_refl _
  · intro le
    by_contra greater
    exact le (bytes_lt (not_le.mp greater))

end SourceAtlas.ByteOrder
