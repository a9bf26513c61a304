import LintRoster.NameSet
import LintRoster.Text.Utf8
import Mathlib.Tactic.SplitIfs

/-!
# The order of texts is the order of their bytes

Texts are compared character by character, and the bytes of their UTF-8 encoding are compared byte
by byte. `lt_iff_encode_lt` shows that the two orders are one: the encoding of a smaller character
is smaller at the first byte in which it differs, whatever comes behind it.
-/

namespace LintRoster.Utf8

/-- The bytes from a position on are put behind those that were gathered before. -/
theorem toList_loop (bytes : ByteArray) (i : Nat) (gathered : List UInt8) :
    ByteArray.toList.loop bytes i gathered = gathered.reverse ++ bytes.data.toList.drop i := by
  fun_induction ByteArray.toList.loop bytes i gathered with
  | case1 i gathered h ih =>
      have hi : i < bytes.data.toList.length := h
      rw [ih, List.drop_eq_getElem_cons hi, List.reverse_cons, List.append_assoc]
      simp [ByteArray.get!, Array.getElem!_eq_getD, Array.getD_eq_getD_getElem?,
        getElem?_pos bytes.data i h]
  | case2 i gathered h =>
      have hi : bytes.data.toList.length ≤ i := Nat.le_of_not_lt h
      rw [List.drop_of_length_le hi, List.append_nil]

/-- The encoding of a text is that of its characters, one after the other. -/
theorem encode_eq_flatMap (s : String) : encode s = s.toList.flatMap String.utf8EncodeChar := by
  have hs : s.toUTF8 = (s.toList.flatMap String.utf8EncodeChar).toByteArray := by
    rw [String.toUTF8_eq_toByteArray, ← List.utf8Encode, ← String.toByteArray_ofList,
      String.ofList_toList]
  rw [encode, hs, ByteArray.toList, toList_loop, List.toList_data_toByteArray]
  rfl

/-- Bytes that are written from numbers below 256 are compared as the numbers are. -/
theorem ofNat_lt_ofNat_iff {m n : Nat} (hm : m < 256) (hn : n < 256) :
    UInt8.ofNat m < UInt8.ofNat n ↔ m < n := by
  rw [UInt8.lt_iff_toNat_lt, UInt8.toNat_ofNat', UInt8.toNat_ofNat', Nat.mod_eq_of_lt hm,
    Nat.mod_eq_of_lt hn]

/-- Bytes that are written from numbers below 256 are equal if and only if the numbers are. -/
theorem ofNat_eq_ofNat_iff {m n : Nat} (hm : m < 256) (hn : n < 256) :
    UInt8.ofNat m = UInt8.ofNat n ↔ m = n := by
  rw [← UInt8.toNat_inj, UInt8.toNat_ofNat', UInt8.toNat_ofNat', Nat.mod_eq_of_lt hm,
    Nat.mod_eq_of_lt hn]

/-- The bytes of a smaller character come first, whatever stands behind the two. -/
theorem utf8EncodeChar_append_lt {c d : Char} (h : c < d) (cs ds : List UInt8) :
    String.utf8EncodeChar c ++ cs < String.utf8EncodeChar d ++ ds := by
  have hval : c.val.toNat < d.val.toNat := UInt32.lt_iff_toNat_lt.mp (Char.lt_def.mp h)
  have hbound (e : Char) : e.val.toNat < 0x110000 := by
    obtain hlow | ⟨-, hhigh⟩ := e.valid
    · exact Nat.lt_trans hlow (by omega)
    · exact hhigh
  have hdiv {n : Nat} (h : n < 0x110000) :
      n / 64 / 64 = n / 4096 ∧ n / 4096 / 64 = n / 262144 ∧ n / 262144 % 8 = n / 262144 :=
    ⟨Nat.div_div_eq_div_mul n 64 64, Nat.div_div_eq_div_mul n 4096 64, by omega⟩
  have hc := hdiv (hbound c)
  have hd := hdiv (hbound d)
  simp only [String.utf8EncodeChar]
  -- The number of bytes grows with the character, and so does the first byte with their number.
  split_ifs <;>
    simp (disch := omega) only [List.cons_append, List.nil_append, List.cons_lt_cons_iff,
      ofNat_lt_ofNat_iff, ofNat_eq_ofNat_iff] <;>
    omega

/-- No bytes are in front of those of a character. -/
theorem nil_lt_utf8EncodeChar_append (c : Char) (cs : List UInt8) :
    [] < String.utf8EncodeChar c ++ cs := by
  cases h : String.utf8EncodeChar c with
  | nil => exact absurd h String.utf8EncodeChar_ne_nil
  | cons b bs => exact List.nil_lt_cons b (bs ++ cs)

/-- Smaller characters have the smaller bytes. -/
theorem flatMap_utf8EncodeChar_lt {cs ds : List Char} (h : cs < ds) :
    cs.flatMap String.utf8EncodeChar < ds.flatMap String.utf8EncodeChar := by
  induction cs generalizing ds with
  | nil =>
      cases ds with
      | nil => exact absurd h (List.lt_irrefl [])
      | cons d ds => exact nil_lt_utf8EncodeChar_append d _
  | cons c cs ih =>
      cases ds with
      | nil => exact absurd h (List.not_lt_nil _)
      | cons d ds =>
          rw [List.flatMap_cons, List.flatMap_cons]
          obtain hcd | ⟨rfl, hrest⟩ := List.cons_lt_cons_iff.mp h
          · exact utf8EncodeChar_append_lt hcd _ _
          · exact List.append_left_lt (ih hrest)

/-- Smaller texts have the smaller bytes. -/
theorem encode_lt_encode {a b : String} (h : a < b) : encode a < encode b := by
  rw [encode_eq_flatMap, encode_eq_flatMap]
  exact flatMap_utf8EncodeChar_lt (String.lt_iff.mp h)

/-- The order of texts is the order of the bytes of their UTF-8 encoding. -/
theorem lt_iff_encode_lt {a b : String} : a < b ↔ encode a < encode b := by
  refine ⟨encode_lt_encode, fun h ↦ ?_⟩
  by_cases hab : a < b
  · exact hab
  by_cases hba : b < a
  · exact absurd h (List.lt_asymm (encode_lt_encode hba))
  · rw [NameSet.eq_of_not_lt hab hba] at h
    exact absurd h (List.lt_irrefl _)

end LintRoster.Utf8
