import Mathlib

/-! The order of texts. Texts compare by their characters, and that is the order of their UTF-8 bytes: of two
different characters the smaller one has the smaller bytes, whatever is written behind them. -/
namespace Repartee.Text

def bytes (s : String) : List UInt8 := s.toByteArray.data.toList

theorem bytesChars (s : String) : bytes s = s.toList.flatMap String.utf8EncodeChar := by
  rw [bytes, ← String.utf8Encode_toList, List.utf8Encode, List.toList_data_toByteArray]

theorem encodedBelow {c d : Char} (below : c < d) (xs ys : List UInt8) :
    String.utf8EncodeChar c ++ xs < String.utf8EncodeChar d ++ ys := by
  have limit : d.val.toNat < 0x110000 := by
    rcases d.valid with low | high <;> omega
  rw [Char.lt_def, UInt32.lt_iff_toNat_lt] at below
  simp only [String.utf8EncodeChar]
  generalize c.val.toNat = v at *
  generalize d.val.toNat = w at *
  -- One case for each two lengths; no byte is cut off, so the bytes compare as the digits of the two codes.
  split_ifs <;>
    simp (disch := omega) only [List.cons_append, List.cons_lt_cons_iff, UInt8.lt_iff_toNat_lt, ← UInt8.toNat_inj,
      UInt8.toNat_ofNat', Nat.mod_eq_of_lt] <;>
    omega

theorem sharedFront (xs as bs : List UInt8) : xs ++ as < xs ++ bs ↔ as < bs := by
  induction xs with
  | nil => rfl
  | cons x xs ih => simp [ih]

theorem encodedOrder (cs ds : List Char) :
    cs.flatMap String.utf8EncodeChar < ds.flatMap String.utf8EncodeChar ↔ cs < ds := by
  induction cs generalizing ds with
  | nil =>
    cases ds with
    | nil => simp
    | cons d ds =>
      have filled : 0 < (String.utf8EncodeChar d ++ ds.flatMap String.utf8EncodeChar).length := by
        rw [List.length_append, String.length_utf8EncodeChar]
        exact Nat.add_pos_left d.utf8Size_pos _
      obtain ⟨x, xs, start⟩ := List.exists_cons_of_length_pos filled
      simp [start]
  | cons c cs ih =>
    cases ds with
    | nil => simp
    | cons d ds =>
      rw [List.flatMap_cons, List.flatMap_cons, List.cons_lt_cons_iff]
      rcases lt_trichotomy c d with below | rfl | above
      · exact iff_of_true (encodedBelow below _ _) (.inl below)
      · rw [sharedFront, ih]
        simp
      · refine iff_of_false (List.lt_asymm (encodedBelow above _ _)) ?_
        rintro (below | ⟨rfl, _⟩)
        · exact lt_asymm above below
        · exact lt_irrefl _ above

theorem bytesOrder (s t : String) : s < t ↔ bytes s < bytes t := by
  rw [bytesChars, bytesChars, encodedOrder, String.lt_iff_toList_lt]

end Repartee.Text
