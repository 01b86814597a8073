import Mathlib.Data.List.Basic
import ViewLayers.Text.Bytes

/-!
Texts and their bytes. UTF-8 keeps the order of characters, so texts are in the order of their
bytes. The bytes of a text are read as that text.
-/

namespace ViewLayers.Text

lemma bytesOf_eq (s : String) : bytesOf s = s.toList.flatMap String.utf8EncodeChar := by
  rw [bytesOf, String.toUTF8_eq_toByteArray, ← String.utf8Encode_toList, List.utf8Encode,
    List.data_toByteArray]

lemma utf8EncodeChar_append_lt {c d : Char} (h : c < d) (bs bs' : List UInt8) :
    String.utf8EncodeChar c ++ bs < String.utf8EncodeChar d ++ bs' := by
  have hlt : c.val.toNat < d.val.toNat := h
  have hmax : d.val.toNat < 0x110000 := by
    have hvalid := d.valid
    unfold UInt32.isValidChar Nat.isValidChar at hvalid
    omega
  have hmid : ∀ n, n / 4096 = n / 64 / 64 := fun n => (Nat.div_div_eq_div_mul n 64 64).symm
  have htop : ∀ n, n / 262144 = n / 64 / 64 / 64 := fun n => by
    rw [Nat.div_div_eq_div_mul, Nat.div_div_eq_div_mul]
  unfold String.utf8EncodeChar
  generalize c.val.toNat = v at hlt
  generalize d.val.toNat = w at hlt hmax
  simp only [hmid, htop]
  -- the first byte grows with the number of bytes; for equally many they are digits to base 64
  split_ifs <;>
    simp only [List.cons_append, List.nil_append, List.cons_lt_cons_iff, UInt8.lt_iff_toNat_lt,
      ← UInt8.toNat_inj, UInt8.toNat_ofNat'] <;> omega

lemma flatMap_utf8EncodeChar_lt {cs ds : List Char} (h : cs < ds) :
    cs.flatMap String.utf8EncodeChar < ds.flatMap String.utf8EncodeChar := by
  induction cs generalizing ds with
  | nil =>
    obtain ⟨d, ds, rfl⟩ := List.exists_cons_of_ne_nil (l := ds) (by rintro rfl; cases h)
    obtain ⟨b, bs, hb⟩ := List.exists_cons_of_ne_nil (String.utf8EncodeChar_ne_nil (c := d))
    rw [List.flatMap_nil, List.flatMap_cons, hb]
    exact List.nil_lt_cons ..
  | cons c cs ih =>
    cases ds with
    | nil => cases h
    | cons d ds =>
      rw [List.flatMap_cons, List.flatMap_cons]
      rcases List.cons_lt_cons_iff.1 h with hlt | ⟨rfl, hlt⟩
      · exact utf8EncodeChar_append_lt hlt _ _
      · exact List.append_left_lt (ih hlt)

/-- **Texts are in the order of their bytes.** -/
theorem bytesOf_lt {s s' : String} (h : s < s') : bytesOf s < bytesOf s' := by
  rw [bytesOf_eq, bytesOf_eq]
  exact flatMap_utf8EncodeChar_lt h

theorem bytesOf_lt_iff {s s' : String} : bytesOf s < bytesOf s' ↔ s < s' := by
  refine ⟨fun h => ?_, bytesOf_lt⟩
  by_contra hnot
  rcases eq_or_ne s' s with rfl | hne
  · exact List.lt_irrefl _ h
  · have hlt : s' < s := Std.lt_of_le_of_ne (String.not_lt.1 hnot) hne
    exact List.lt_asymm h (bytesOf_lt hlt)

/-! ### Bytes read back -/

lemma lossyAfter_append (bs bs' : List UInt8) :
    lossyAfter bs.length (bs ++ bs') = lossyAfter 0 bs' := by
  induction bs with
  | nil => rfl
  | cons b bs ih => exact ih

lemma lossyAfter_utf8EncodeChar (c : Char) (bs : List UInt8) :
    lossyAfter 0 (String.utf8EncodeChar c ++ bs) = c :: lossyAfter 0 bs := by
  obtain ⟨b, rest, hb⟩ := List.exists_cons_of_ne_nil (String.utf8EncodeChar_ne_nil (c := c))
  have hdecode : (b :: (rest ++ bs)).toByteArray.utf8DecodeChar? 0 = some c := by
    rw [← List.cons_append, ← hb, List.toByteArray_append]
    exact ByteArray.utf8DecodeChar?_utf8EncodeChar_append
  have hlength : c.utf8Size - 1 = rest.length := by
    rw [← String.length_utf8EncodeChar, hb, List.length_cons, Nat.add_sub_cancel]
  rw [hb, List.cons_append, lossyAfter, hdecode]
  dsimp only
  rw [hlength, lossyAfter_append]

/-- **The bytes of a text are read as that text.** -/
theorem lossy_bytesOf (s : String) : lossy (bytesOf s) = s := by
  have hall : ∀ cs : List Char, lossyAfter 0 (cs.flatMap String.utf8EncodeChar) = cs := by
    intro cs
    induction cs with
    | nil => rfl
    | cons c cs ih => rw [List.flatMap_cons, lossyAfter_utf8EncodeChar, ih]
  rw [lossy, bytesOf_eq, hall, String.ofList_toList]

lemma bytesOf_inj {s s' : String} : bytesOf s = bytesOf s' ↔ s = s' :=
  ⟨fun h => by rw [← lossy_bytesOf s, h, lossy_bytesOf], congrArg bytesOf⟩

end ViewLayers.Text
