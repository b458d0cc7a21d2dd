import Mathlib
import DocSuite.Dialect
import DocSuite.Proofs.Fence
/-!
# The dialect of a file name

The dialect of a file is read off the extension of its path, and the extension is matched
after lower-casing it. Both steps have more corners than the rule suggests.

* The extension of a path (`ExtensionOf`) belongs to its last component that names
  something, with repeated separators and `.` components ignored and `..` naming nothing; it
  is the text after the last dot of that component, and a component whose only dot is its
  first character (a hidden file such as `.ts`) has none. `pathExtension?_eq_some_iff`.
* Lower-casing follows the full Unicode case mapping, which reaches far beyond ASCII and
  even maps the Kelvin sign onto `k`. It still matches an extension exactly when the text
  equals it up to ASCII case (`ofExtension?_eq_some_iff`): no character outside ASCII is
  lowered into ASCII but the Kelvin sign, and no extension has a `k`
  (`lowercasePairs_stay_outside`).
-/

namespace DocSuite

/-! ## The last dot of a name -/

/-- A list of characters has no dot, or it splits at its last one. -/
theorem no_dot_or_last_dot (l : List Char) :
    '.' ∉ l ∨ ∃ s e, l = s ++ '.' :: e ∧ '.' ∉ e := by
  induction l with
  | nil => exact .inl List.not_mem_nil
  | cons c l ih =>
    rcases ih with hl | ⟨s, e, rfl, he⟩
    · by_cases hc : c = '.'
      · exact .inr ⟨[], l, by simp [hc], hl⟩
      · exact .inl (by simp [List.mem_cons, hl, Ne.symm hc])
    · exact .inr ⟨c :: s, e, rfl, he⟩

/-- Split at dots, a name ending in a dot and a dot-free `e` ends in the piece `e`. -/
theorem splitOn_last_dot (s e : List Char) (he : '.' ∉ e) :
    (s ++ '.' :: e).splitOn '.' = s.splitOn '.' ++ [e] := by
  rw [List.splitOn_append_cons_self, List.splitOn_eq_singleton he]

/-- Only the empty name splits into one empty piece. -/
theorem splitOn_dot_eq_nil_iff (s : List Char) : s.splitOn '.' = [[]] ↔ s = [] := by
  constructor
  · intro h
    have hjoin : ['.'].intercalate (s.splitOn '.') = s := List.intercalate_splitOn '.'
    simpa [h] using hjoin.symm
  · rintro rfl
    rfl

/-- A name without a dot has no extension. -/
theorem fileExtension?_of_no_dot {name : String} (h : '.' ∉ name.toList) :
    fileExtension? name = none := by
  unfold fileExtension?
  rw [List.splitOn_eq_singleton h]
  split <;> simp

/-- A name that splits at its last dot into `s` and `e` has the extension `e`, unless `s` is
empty or the name is `..`. -/
theorem fileExtension?_of_last_dot {name : String} {s e : List Char}
    (h : name.toList = s ++ '.' :: e) (he : '.' ∉ e) :
    fileExtension? name = if name = ".." ∨ s = [] then none else some (String.ofList e) := by
  obtain ⟨p, ps, hps⟩ := List.exists_cons_of_ne_nil
    (List.reverse_ne_nil_iff.2 (List.splitOn_ne_nil '.' s))
  -- the empty name is the one that splits into a single empty piece
  have hempty : (ps = [] ∧ p = []) ↔ s = [] := by
    rw [← splitOn_dot_eq_nil_iff s, ← @List.reverse_inj _ (s.splitOn '.') [[]], hps]
    simp [and_comm]
  unfold fileExtension?
  rw [h, splitOn_last_dot s e he, List.reverse_append, hps]
  by_cases hdd : name = ".."
  · simp [hdd]
  · simp only [beq_iff_eq, hdd, if_false, List.reverse_singleton, List.singleton_append,
      List.isEmpty_iff, Bool.and_eq_true, hempty, false_or]

/-- The extension of a file name is the text after its last dot, when that dot is not the
first character and the name is not `..`. -/
theorem fileExtension?_eq_some_iff (name e : String) :
    fileExtension? name = some e ↔
      name ≠ ".." ∧ ∃ stem, stem ≠ "" ∧ '.' ∉ e.toList ∧ name = stem ++ "." ++ e := by
  constructor
  · intro hext
    rcases no_dot_or_last_dot name.toList with hno | ⟨s, e', hsplit, he'⟩
    · simp [fileExtension?_of_no_dot hno] at hext
    · rw [fileExtension?_of_last_dot hsplit he'] at hext
      split_ifs at hext with hcond
      obtain ⟨hdd, hs⟩ := not_or.1 hcond
      cases hext
      refine ⟨hdd, String.ofList s, by simpa [String.ofList_eq_empty_iff] using hs,
        by simpa using he', String.toList_injective ?_⟩
      simp [hsplit, String.toList_append]
  · rintro ⟨hdd, stem, hstem, hdot, rfl⟩
    have hsplit : (stem ++ "." ++ e).toList = stem.toList ++ '.' :: e.toList := by
      simp [String.toList_append]
    rw [fileExtension?_of_last_dot hsplit hdot, if_neg]
    · simp
    · simpa [String.toList_eq_nil_iff] using And.intro hdd hstem

/-! ## The extension of a path -/

/-- The last component of a path that names something, unless it is `..`. -/
theorem pathFileName?_eq_some_iff (f n : String) :
    pathFileName? f = some n ↔ (pathComponents f).getLast? = some n ∧ n ≠ ".." := by
  unfold pathFileName?
  split
  · next hdd =>
    rw [hdd]
    constructor
    · intro h
      cases h
    · rintro ⟨h, hne⟩
      exact absurd (Option.some.inj h).symm hne
  · next p hp hlast =>
    simp only [hlast, Option.some.injEq]
    exact ⟨fun h => ⟨h, h ▸ hp⟩, And.left⟩
  · next hnone => simp [hnone]

/-- `e` is the extension of the path `f`: the last component of `f` that names something is
a stem, a dot and `e`, where the stem is not empty, `e` has no dot, and the component is not
`..`. -/
def ExtensionOf (f e : String) : Prop :=
  ∃ stem, (pathComponents f).getLast? = some (stem ++ "." ++ e) ∧ stem ≠ "" ∧
    stem ++ "." ++ e ≠ ".." ∧ '.' ∉ e.toList

theorem pathExtension?_eq_some_iff (f e : String) :
    pathExtension? f = some e ↔ ExtensionOf f e := by
  simp only [pathExtension?, Option.bind_eq_some_iff, pathFileName?_eq_some_iff,
    fileExtension?_eq_some_iff, ExtensionOf]
  constructor
  · rintro ⟨n, ⟨hlast, -⟩, hdd, stem, hstem, hdot, rfl⟩
    exact ⟨stem, hlast, hstem, hdd, hdot⟩
  · rintro ⟨stem, hlast, hstem, hdd, hdot⟩
    exact ⟨_, ⟨hlast, hdd⟩, hdd, stem, hstem, hdot, rfl⟩

example : pathExtension? "Makefile" = none ∧ pathExtension? ".ts" = none ∧
    pathExtension? "a." = some "" ∧ pathExtension? "a.ts/" = some "ts" ∧
    pathExtension? "a.ts/." = some "ts" ∧ pathExtension? "a.ts/.." = none := by
  decide +kernel

/-! ## Lower case outside ASCII -/

namespace Text

/-- Every entry of the case table maps to a character, and no character outside ASCII is
lowered into ASCII but the Kelvin sign (U+212A). -/
theorem lowercasePairs_stay_outside :
    ∀ p ∈ lowercasePairs, p.2.isValidChar ∧ (0x80 ≤ p.2 ∨ p.1 = 0x212A) := by
  decide +kernel

theorem lowercasePairs_kelvin : lowercasePairs.lookup 0x212A = some 0x6B := by
  decide +kernel

theorem lowerChar_of_lt {c : Char} (h : c.toNat < 0x80) : lowerChar c = [c.toLower] := by
  simp [lowerChar, h]

/-- A character outside ASCII is lowered to a text that has a character outside ASCII, or to
the `k` of the Kelvin sign. -/
theorem exists_mem_lowerChar {c : Char} (h : 0x80 ≤ c.toNat) :
    ∃ d ∈ lowerChar c, 0x80 ≤ d.toNat ∨ d = 'k' := by
  unfold lowerChar
  rw [if_neg (by omega)]
  split_ifs with hdotted
  · exact ⟨'\u0307', by simp, .inl (by decide)⟩
  split
  · rename_i l hl
    obtain ⟨l₁, l₂, hsplit, -⟩ := List.lookup_eq_some_iff.1 hl
    have hmem : (c.toNat, l) ∈ lowercasePairs := by simp [hsplit]
    obtain ⟨hvalid, hout | hkelvin⟩ := lowercasePairs_stay_outside _ hmem
    · exact ⟨Char.ofNat l, by simp, .inl (by simpa [Char.toNat_ofNat, hvalid] using hout)⟩
    · have hl' : l = 0x6B := by
        simp only at hkelvin
        rw [hkelvin, lowercasePairs_kelvin] at hl
        exact (Option.some.inj hl).symm
      exact ⟨Char.ofNat l, by simp, .inr (by rw [hl'])⟩
  · exact ⟨c, by simp, .inl h⟩

/-- ASCII lower-casing leaves characters outside ASCII alone. -/
theorem toLower_of_le {c : Char} (h : 0x80 ≤ c.toNat) : c.toLower = c := by
  apply Char.toLower_eq_of_not_isUpper
  simp [Char.isUpper, UInt32.le_iff_toNat_le]
  omega

theorem lowerSigma_outside (before after : List Char) :
    0x80 ≤ (lowerSigma before after).toNat := by
  unfold lowerSigma
  split <;> decide

/-- An ASCII text is lowered letter by letter, whatever precedes it. -/
theorem lowercaseFrom_of_ascii (before : List Char) {cs : List Char}
    (h : ∀ c ∈ cs, c.toNat < 0x80) : lowercaseFrom before cs = cs.map Char.toLower := by
  induction cs generalizing before with
  | nil => rfl
  | cons c cs ih =>
    have hc : c.toNat < 0x80 := h c (by simp)
    have hsigma : c ≠ 'Σ' := by
      rintro rfl
      exact absurd hc (by decide)
    rw [lowercaseFrom, if_neg hsigma, lowerChar_of_lt hc, ih _ fun d hd => h d (by simp [hd])]
    rfl

/-- A text with a character outside ASCII is lowered to one with a character outside ASCII or
a `k`. -/
theorem exists_mem_lowercaseFrom (before : List Char) {cs : List Char}
    (h : ∃ c ∈ cs, 0x80 ≤ c.toNat) :
    ∃ d ∈ lowercaseFrom before cs, 0x80 ≤ d.toNat ∨ d = 'k' := by
  induction cs generalizing before with
  | nil => simp at h
  | cons c cs ih =>
    rw [lowercaseFrom]
    by_cases hc : 0x80 ≤ c.toNat
    · -- the first character already leaves its trace
      have : ∃ d ∈ (if c = 'Σ' then [lowerSigma before cs] else lowerChar c),
          0x80 ≤ d.toNat ∨ d = 'k' := by
        split_ifs
        · exact ⟨_, List.mem_singleton_self _, .inl (lowerSigma_outside _ _)⟩
        · exact exists_mem_lowerChar hc
      obtain ⟨d, hd, hout⟩ := this
      exact ⟨d, List.mem_append_left _ hd, hout⟩
    · have hrest : ∃ c ∈ cs, 0x80 ≤ c.toNat := by
        obtain ⟨c', hc', hout⟩ := h
        rcases List.mem_cons.1 hc' with rfl | hc'
        · exact absurd hout hc
        · exact ⟨c', hc', hout⟩
      obtain ⟨d, hd, hout⟩ := ih (c :: before) hrest
      exact ⟨d, List.mem_append_right _ hd, hout⟩

theorem lowercase_of_ascii {s : String} (h : ∀ c ∈ s.toList, c.toNat < 0x80) :
    lowercase s = String.ofList (s.toList.map Char.toLower) := by
  rw [lowercase, lowercaseFrom_of_ascii [] h]

theorem exists_mem_lowercase {s : String} (h : ∃ c ∈ s.toList, 0x80 ≤ c.toNat) :
    ∃ d ∈ (lowercase s).toList, 0x80 ≤ d.toNat ∨ d = 'k' := by
  simpa [lowercase, String.toList_ofList] using exists_mem_lowercaseFrom [] h

end Text

/-! ## Matching an extension -/

namespace Dialect

/-- Every extension is written in lower-case ASCII letters other than `k`. -/
theorem extension_letters (d : Dialect) :
    ∀ x ∈ d.extensions, ∀ c ∈ x.toList, c.toNat < 0x80 ∧ c ≠ 'k' ∧ c.toLower = c := by
  cases d <;> simp [extensions]

theorem ofExtension?_eq_some_iff_lowercase (e : String) (d : Dialect) :
    ofExtension? e = some d ↔ Text.lowercase e ∈ d.extensions := by
  unfold ofExtension?
  generalize Text.lowercase e = t
  split <;> cases d <;> simp_all [extensions]

/-- Lower-casing a text with a character outside ASCII gives no extension. -/
theorem lowercase_not_mem_extensions {e : String} (h : ∃ c ∈ e.toList, 0x80 ≤ c.toNat)
    (d : Dialect) : Text.lowercase e ∉ d.extensions := by
  intro hmem
  obtain ⟨c, hc, hbad⟩ := Text.exists_mem_lowercase h
  have hletter := extension_letters d _ hmem c hc
  rcases hbad with hbad | rfl
  · omega
  · exact hletter.2.1 rfl

theorem toLower_eq_toLower_iff (e x : String) :
    e.toLower = x.toLower ↔ e.toList.map Char.toLower = x.toList.map Char.toLower := by
  rw [← String.toList_inj, String.toLower, String.toLower, String.toList_map, String.toList_map]

theorem ofExtension?_eq_some_iff (e : String) (d : Dialect) :
    ofExtension? e = some d ↔ ∃ x ∈ d.extensions, e.toLower = x.toLower := by
  simp only [ofExtension?_eq_some_iff_lowercase, toLower_eq_toLower_iff]
  by_cases hout : ∃ c ∈ e.toList, 0x80 ≤ c.toNat
  · -- a character outside ASCII survives both lower-casings, and no extension has one
    obtain ⟨c, hc, hc80⟩ := hout
    constructor
    · exact fun hmem => absurd hmem (lowercase_not_mem_extensions ⟨c, hc, hc80⟩ d)
    · rintro ⟨x, hx, hmap⟩
      have : c ∈ x.toList.map Char.toLower :=
        hmap ▸ Text.toLower_of_le hc80 ▸ List.mem_map_of_mem hc
      obtain ⟨c', hc', rfl⟩ := List.mem_map.1 this
      have hletter := extension_letters d x hx c' hc'
      rw [hletter.2.2] at hc80
      omega
  · -- an ASCII text is lowered letter by letter, and extensions are lower case already
    have hascii : ∀ c ∈ e.toList, c.toNat < 0x80 := fun c hc =>
      Nat.lt_of_not_le fun h => hout ⟨c, hc, h⟩
    rw [Text.lowercase_of_ascii hascii]
    constructor
    · intro hmem
      refine ⟨_, hmem, ?_⟩
      simp [String.toList_ofList, List.map_map, Function.comp_def]
    · rintro ⟨x, hx, hmap⟩
      have hlow : x.toList.map Char.toLower = x.toList := by
        have hid : ∀ c ∈ x.toList, c.toLower = id c := fun c hc =>
          (extension_letters d x hx c hc).2.2
        rw [List.map_congr_left hid, List.map_id]
      rw [hmap, hlow, String.ofList_toList]
      exact hx

end Dialect

/-! ## The dialect of a file -/

/-- The dialect of a file is the one whose extension its path's extension matches, up to ASCII
case, and TSX when there is no such dialect or no extension; full Unicode lower-casing lowers
no text with a character outside ASCII onto an extension. -/
theorem dialect_of_filename :
    (∀ f e, ExtensionOf f e → Dialect.ofFilename f = (Dialect.ofExtension? e).getD .tsx) ∧
    (∀ f, (∀ e, ¬ ExtensionOf f e) → Dialect.ofFilename f = .tsx) ∧
    (∀ e (d : Dialect), Dialect.ofExtension? e = some d ↔
      ∃ x ∈ d.extensions, e.toLower = x.toLower) ∧
    (∀ e, (∃ c ∈ e.toList, 0x80 ≤ c.toNat) →
      ∀ d : Dialect, Text.lowercase e ∉ d.extensions) := by
  refine ⟨fun f e hext => ?_, fun f hnone => ?_, Dialect.ofExtension?_eq_some_iff,
    fun e h => Dialect.lowercase_not_mem_extensions h⟩
  · rw [Dialect.ofFilename, (pathExtension?_eq_some_iff f e).2 hext]
    rfl
  · have : pathExtension? f = none := by
      rcases h : pathExtension? f with _ | e
      · rfl
      · exact absurd ((pathExtension?_eq_some_iff f e).1 h) (hnone e)
    rw [Dialect.ofFilename, this]
    rfl

/-- A test module reads as TypeScript by its last extension; a file name without a dot has no
extension and reads as TSX; a full-width extension lowers to no extension of any dialect, so it
reads as TSX too. -/
theorem testModule_reads_as_typeScript :
    (ExtensionOf "src/a.test.mts" "mts" ∧ Dialect.ofFilename "src/a.test.mts" = .typeScript) ∧
    ((∀ e, ¬ ExtensionOf "src/Makefile" e) ∧ Dialect.ofFilename "src/Makefile" = .tsx) ∧
    ((∃ c ∈ "ＴＳ".toList, 0x80 ≤ c.toNat) ∧ (∀ d : Dialect, Text.lowercase "ＴＳ" ∉ d.extensions) ∧
      ExtensionOf "a.ＴＳ" "ＴＳ" ∧ Dialect.ofFilename "a.ＴＳ" = .tsx) :=
  have hext : ExtensionOf "src/a.test.mts" "mts" :=
    ⟨"a.test", by decide +kernel, by decide +kernel, by decide +kernel, by decide +kernel⟩
  have hnone : ∀ e, ¬ ExtensionOf "src/Makefile" e := fun e he => by
    have hnil : pathExtension? "src/Makefile" = none := by decide +kernel
    rw [← pathExtension?_eq_some_iff, hnil] at he
    cases he
  have hwide : ∃ c ∈ "ＴＳ".toList, 0x80 ≤ c.toNat := ⟨'Ｔ', by decide +kernel, by decide⟩
  have hwideExt : ExtensionOf "a.ＴＳ" "ＴＳ" :=
    ⟨"a", by decide +kernel, by decide +kernel, by decide +kernel, by decide +kernel⟩
  ⟨⟨hext, (dialect_of_filename.1 _ _ hext).trans (by decide +kernel)⟩,
    ⟨hnone, dialect_of_filename.2.1 _ hnone⟩,
    ⟨hwide, dialect_of_filename.2.2.2 _ hwide, hwideExt,
      (dialect_of_filename.1 _ _ hwideExt).trans (by decide +kernel)⟩⟩

end DocSuite
