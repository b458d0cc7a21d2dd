import Mathlib
/-!
# Texts as UTF-8 bytes

What the bytes of a text say about its characters. A line feed is the one character whose
bytes hold the byte 10, so lines and columns counted in bytes follow the characters
(`count_lf_flatMap`, `takeWhile_reverse_flatMap`). And the encoding keeps the order of code
points: comparing two texts byte by byte compares them character by character
(`toUTF8_lt_iff`), so sorting names by their bytes sorts them as texts.
-/

namespace DocSuite.Text

/-! ## Sizes and line feeds -/

/-- The bytes of a list of characters. -/
theorem toList_data_utf8Encode (cs : List Char) :
    cs.utf8Encode.data.toList = cs.flatMap String.utf8EncodeChar :=
  List.toList_data_toByteArray

theorem toList_data_toUTF8 (s : String) :
    s.toUTF8.data.toList = s.toList.flatMap String.utf8EncodeChar := by
  rw [String.toUTF8_eq_toByteArray, ← String.utf8Encode_toList, toList_data_utf8Encode]

theorem utf8ByteSize_ofList (cs : List Char) :
    (String.ofList cs).utf8ByteSize = (cs.flatMap String.utf8EncodeChar).length := by
  rw [← String.size_toByteArray, String.toByteArray_ofList, ← ByteArray.size_data,
    ← Array.length_toList, toList_data_utf8Encode]

theorem lf_eq_ofNat_iff (n : Nat) : (10 : UInt8) = UInt8.ofNat n ↔ n % 256 = 10 := by
  rw [UInt8.ext_iff, UInt8.toNat_ofNat']
  show 10 = _ ↔ _
  omega

/-- A line feed is the one character whose UTF-8 bytes hold the byte 10: every byte of a
longer encoding is at least 128. -/
theorem lf_mem_utf8EncodeChar (c : Char) : (10 : UInt8) ∈ String.utf8EncodeChar c ↔ c = '\n' := by
  have hc : c = '\n' ↔ c.val.toNat = 10 := by
    rw [Char.ext_iff, UInt32.ext_iff]
    rfl
  rw [hc]
  unfold String.utf8EncodeChar
  dsimp only
  split_ifs <;> simp only [List.mem_cons, List.not_mem_nil, or_false, lf_eq_ofNat_iff] <;> omega

theorem utf8EncodeChar_lf : String.utf8EncodeChar '\n' = [10] := rfl

/-- The line feeds among the bytes of a text are its line feed characters. -/
theorem count_lf_flatMap (cs : List Char) :
    (cs.flatMap String.utf8EncodeChar).count 10 = cs.count '\n' := by
  induction cs with
  | nil => rfl
  | cons c cs ih =>
    rw [List.flatMap_cons, List.count_append, ih, List.count_cons]
    by_cases hc : c = '\n'
    · subst hc
      simp [utf8EncodeChar_lf, Nat.add_comm]
    · have hnot : (10 : UInt8) ∉ String.utf8EncodeChar c := fun h => hc ((lf_mem_utf8EncodeChar c).1 h)
      simp [List.count_eq_zero_of_not_mem hnot, hc]

theorem utf8ByteSize_ofList_cons (c : Char) (cs : List Char) :
    (String.ofList (c :: cs)).utf8ByteSize = c.utf8Size + (String.ofList cs).utf8ByteSize := by
  rw [utf8ByteSize_ofList, utf8ByteSize_ofList, List.flatMap_cons, List.length_append,
    String.length_utf8EncodeChar]

/-- The bytes after the last line feed of a text are those of its characters after the last
line feed. -/
theorem takeWhile_reverse_flatMap (cs : List Char) :
    (cs.flatMap String.utf8EncodeChar).reverse.takeWhile (· != 10) =
      ((cs.reverse.takeWhile (· != '\n')).reverse.flatMap String.utf8EncodeChar).reverse := by
  -- walk the text from its end
  rw [← List.reverse_reverse cs]
  induction cs.reverse with
  | nil => rfl
  | cons c rest ih =>
    rw [List.reverse_reverse] at ih ⊢
    rw [List.reverse_cons, List.flatMap_append, List.reverse_append, List.flatMap_singleton]
    by_cases hc : c = '\n'
    · subst hc
      simp [utf8EncodeChar_lf]
    · have hbytes : ∀ b ∈ (String.utf8EncodeChar c).reverse, (b != 10) = true := by
        intro b hb
        have hb' : b ∈ String.utf8EncodeChar c := List.mem_reverse.1 hb
        simp only [bne_iff_ne, ne_eq]
        rintro rfl
        exact hc ((lf_mem_utf8EncodeChar c).1 hb')
      rw [List.takeWhile_append_of_pos hbytes, ih]
      simp [hc]

theorem utf8ByteSize_eq_size (cs : List Char) :
    (String.ofList cs).utf8ByteSize = cs.utf8Encode.size := by
  rw [← String.size_toByteArray, String.toByteArray_ofList]

/-! ## Order -/

theorem ofNat_lt_ofNat_iff {m n : Nat} (hm : m < 256) (hn : n < 256) :
    UInt8.ofNat m < UInt8.ofNat n ↔ m < n := by
  rw [UInt8.lt_iff_toNat_lt, UInt8.toNat_ofNat', UInt8.toNat_ofNat']
  show m % 256 < n % 256 ↔ m < n
  omega

theorem ofNat_eq_ofNat_iff {m n : Nat} (hm : m < 256) (hn : n < 256) :
    UInt8.ofNat m = UInt8.ofNat n ↔ m = n := by
  rw [UInt8.ext_iff, UInt8.toNat_ofNat', UInt8.toNat_ofNat']
  show m % 256 = n % 256 ↔ m = n
  omega

/-- Comparing two numbers is comparing their last digits in base 64 after the digits
before. -/
theorem lt_or_eq_and_iff_div_mod (v w : Nat) (P : Prop) :
    (v < w ∨ v = w ∧ P) ↔
      (v / 64 < w / 64 ∨ v / 64 = w / 64 ∧ (v % 64 < w % 64 ∨ v % 64 = w % 64 ∧ P)) := by
  by_cases hP : P <;> simp only [hP, and_true, and_false, or_false] <;> omega

/-- Code points compare as their four digits in base 64 do, the first below 8: the order of
four-byte encodings. -/
theorem lt_or_eq_and_iff_digits4 {v w : Nat} (hv : v < 0x110000) (hw : w < 0x110000) (P : Prop) :
    (v / 262144 % 8 < w / 262144 % 8 ∨ v / 262144 % 8 = w / 262144 % 8 ∧
      (v / 4096 % 64 < w / 4096 % 64 ∨ v / 4096 % 64 = w / 4096 % 64 ∧
        (v / 64 % 64 < w / 64 % 64 ∨ v / 64 % 64 = w / 64 % 64 ∧
          (v % 64 < w % 64 ∨ v % 64 = w % 64 ∧ P)))) ↔ v < w ∨ v = w ∧ P := by
  rw [lt_or_eq_and_iff_div_mod v w, lt_or_eq_and_iff_div_mod (v / 64) (w / 64),
    lt_or_eq_and_iff_div_mod (v / 64 / 64) (w / 64 / 64)]
  simp only [Nat.div_div_eq_div_mul]
  rw [Nat.mod_eq_of_lt (a := v / 262144) (by omega), Nat.mod_eq_of_lt (a := w / 262144) (by omega)]

theorem toNat_val_lt (c : Char) : c.val.toNat < 0x110000 := by
  rcases c.valid with h | ⟨-, h⟩ <;> omega

/-- The bytes of one character, and whatever follows them, compare as the characters do, and
then as what follows: the encoding keeps the order of code points, and no encoding is the
start of another. -/
theorem utf8EncodeChar_append_lt_iff (c d : Char) (xs ys : List UInt8) :
    String.utf8EncodeChar c ++ xs < String.utf8EncodeChar d ++ ys ↔ c < d ∨ c = d ∧ xs < ys := by
  have hlt : c < d ↔ c.val.toNat < d.val.toNat := by rw [Char.lt_def, UInt32.lt_iff_toNat_lt]
  have heq : c = d ↔ c.val.toNat = d.val.toNat := by rw [Char.ext_iff, UInt32.ext_iff]
  have hc := toNat_val_lt c
  have hd := toNat_val_lt d
  rw [hlt, heq]
  unfold String.utf8EncodeChar
  dsimp only
  -- one case for each pair of lengths; the bytes are digits under a lead that gives the length
  split_ifs <;>
    simp (disch := omega) only [List.cons_append, List.nil_append, List.cons_lt_cons_iff,
      ofNat_lt_ofNat_iff, ofNat_eq_ofNat_iff, Nat.add_lt_add_iff_right, Nat.add_right_cancel_iff,
      lt_or_eq_and_iff_digits4 hc hd] <;>
    by_cases hxy : xs < ys <;> simp only [hxy, and_true, and_false, or_false] <;> omega

/-- The bytes of two texts compare as the texts do, character by character. -/
theorem flatMap_utf8EncodeChar_lt_iff (l m : List Char) :
    l.flatMap String.utf8EncodeChar < m.flatMap String.utf8EncodeChar ↔ l < m := by
  induction l generalizing m with
  | nil =>
    cases m with
    | nil => simp [List.not_lt_nil]
    | cons d m =>
      obtain ⟨b, bs, hb⟩ := List.exists_cons_of_ne_nil (String.utf8EncodeChar_ne_nil (c := d))
      simp [hb, List.nil_lt_cons]
  | cons c l ih =>
    cases m with
    | nil =>
      obtain ⟨b, bs, hb⟩ := List.exists_cons_of_ne_nil (String.utf8EncodeChar_ne_nil (c := c))
      simp [hb, List.not_lt_nil]
    | cons d m =>
      rw [List.flatMap_cons, List.flatMap_cons, utf8EncodeChar_append_lt_iff, ih,
        List.cons_lt_cons_iff]

/-- Byte order is the order of texts. -/
theorem toUTF8_lt_iff (a b : String) : a.toUTF8.data.toList < b.toUTF8.data.toList ↔ a < b := by
  rw [toList_data_toUTF8, toList_data_toUTF8, flatMap_utf8EncodeChar_lt_iff]
  rfl

theorem toUTF8_le_iff (a b : String) : a.toUTF8.data.toList ≤ b.toUTF8.data.toList ↔ a ≤ b :=
  not_congr (toUTF8_lt_iff b a)

end DocSuite.Text
