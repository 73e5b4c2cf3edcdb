import Cartograph.Text.Utf8
import Mathlib.Data.List.Basic

/-!
# Bytes of a text

The bytes of a text tell the text, those of two texts are put together as the texts are, and a byte
that begins a character never stands within another one: where it stands, the text can be cut.
-/

namespace Cartograph

/-- The loop that lists bytes has listed those before its place. -/
lemma loop_toList (bytes : ByteArray) (i : Nat) (met : List UInt8) :
    ByteArray.toList.loop bytes i met = met.reverse ++ bytes.data.toList.drop i := by
  fun_induction ByteArray.toList.loop bytes i met with
  | case1 i met hlt ih =>
    have hlist : i < bytes.data.toList.length := hlt
    have hget : bytes.get! i = bytes.data.toList[i] := getElem!_pos bytes.data i hlt
    rw [ih, List.drop_eq_getElem_cons hlist, hget, List.reverse_cons, List.append_assoc,
      List.singleton_append]
  | case2 i met hge =>
    have hlist : bytes.data.toList.length ≤ i := Nat.le_of_not_lt hge
    rw [List.drop_eq_nil_of_le hlist, List.append_nil]

/-- The list of bytes is the list of what the array holds. -/
lemma toList_byteArray (bytes : ByteArray) : bytes.toList = bytes.data.toList := by
  rw [ByteArray.toList, loop_toList]
  rfl

namespace Utf8

lemma encode_eq (s : String) : encode s = s.toByteArray.data.toList := by
  rw [encode, toList_byteArray, String.toUTF8_eq_toByteArray]

lemma encode_append (s t : String) : encode (s ++ t) = encode s ++ encode t := by
  simp [encode_eq]

lemma encode_inj {s t : String} : encode s = encode t ↔ s = t := by
  rw [encode_eq, encode_eq, Array.toList_inj, ← ByteArray.ext_iff, String.toByteArray_inj]

lemma length_encode (s : String) : (encode s).length = s.utf8ByteSize := by
  simp [encode_eq]

/-- A text can be cut before a byte that begins a character. -/
lemma exists_append_of_firstByte {s : String} {front back : List UInt8} {b : UInt8}
    (hb : b.IsUTF8FirstByte) (hs : encode s = front ++ b :: back) :
    ∃ left right, s = left ++ right ∧ encode left = front ∧ encode right = b :: back := by
  let place : String.Pos.Raw := ⟨front.length⟩
  have hlt : place < s.rawEndPos := by
    rw [String.Pos.Raw.lt_iff, String.byteIdx_rawEndPos, ← length_encode, hs, List.length_append,
      List.length_cons]
    exact Nat.lt_add_of_pos_right (Nat.succ_pos _)
  have hbyte : s.getUTF8Byte place hlt = b := by
    have hget : (encode s)[front.length]? = some b := by simp [hs]
    rw [encode_eq, Array.getElem?_toList, Array.getElem?_eq_some_iff] at hget
    exact hget.2
  have hvalid : place.IsValid s :=
    String.Pos.Raw.isValid_iff_isUTF8FirstByte.mpr (.inr ⟨hlt, hbyte.symm ▸ hb⟩)
  obtain ⟨left, right, rfl, hleft⟩ := String.Pos.Raw.isValid_iff_exists_append.mp hvalid
  have hlength : (encode left).length = front.length := by
    rw [length_encode, ← String.byteIdx_rawEndPos, ← hleft]
  rw [encode_append] at hs
  exact ⟨left, right, rfl, List.append_inj hs hlength⟩

end Utf8

end Cartograph
