import Mathlib
import DocSuite.Proofs.TomlDocument
import DocSuite.Settings.Toml
/-!
# Documents laid out in sections

A writer lays a document out as pairs at the root and then sections: a blank line, a header,
and the pairs of the header's table. When the keys of each table are distinct, such a
document reads back as the table of its pairs and sections (`parse_layout`). The writer lays
a two-level table out so, which is why the library settings run with reads back every such
table it writes (`TomlLibrary.builtin_readsBack`).

Placing the lines is followed table by table: a pair at the root appends to the root, a
header opens a new table at the end of the root, and a pair after it appends to that last
table.
-/

namespace DocSuite.Toml

/-! ## Placing pairs and headers -/

theorem any_key_eq_false {α : Type} {es : List (String × α)} {k : String}
    (h : k ∉ es.map (·.1)) : es.any (·.1 == k) = false := by
  rw [List.any_eq_false]
  intro e he hek
  exact h (beq_iff_eq.1 hek ▸ List.mem_map_of_mem he)

theorem lookup_append_of_any {α : Type} {es : List (String × α)} {k : String} {v : α}
    (hk : es.any (·.1 == k) = false) : lookup k (es ++ [(k, v)]) = some v := by
  have hnone : es.find? (·.1 == k) = none := by
    simpa [List.find?_eq_none] using hk
  simp [lookup, List.find?_append, hnone]

theorem upsert_append_of_any {α : Type} {es : List (String × α)} {k : String} {v w : α}
    (hk : es.any (·.1 == k) = false) : upsert k w (es ++ [(k, v)]) = es ++ [(k, w)] := by
  have hes : ∀ e ∈ es, e.1 ≠ k := by simpa using hk
  simp only [upsert, List.any_append, hk, List.any_cons, beq_self_eq_true, Bool.false_or,
    if_true, List.map_append, List.map_cons, List.map_nil, beq_iff_eq]
  rw [List.map_congr_left fun e he => if_neg (hes e he), List.map_id']
  simp

/-- A pair placed at the root goes last in the root. -/
theorem addPair_root {es : List (String × Node)} {k : String} {v : Value}
    (hk : es.any (·.1 == k) = false) :
    (Assembly.mk (.table es false false) []).addPair [k] v =
      .ok ⟨.table (es ++ [(k, Node.leaf v)]) false false, []⟩ := by
  simp [Assembly.addPair, splitLast, Assembly.atCurrent, Node.reach, Node.place, hk]
  rfl

/-- A header of a new key opens an empty table last in the root, and makes it current. -/
theorem openTable_fresh {es : List (String × Node)} {cur : List String} {k : String}
    (hk : es.any (·.1 == k) = false) :
    (Assembly.mk (.table es false false) cur).openTable [k] =
      .ok ⟨.table (es ++ [(k, Node.table [] false false)]) false false, [k]⟩ := by
  have hnone : lookup k es = none := by
    simpa [lookup, List.find?_eq_none] using hk
  simp [Assembly.openTable, splitLast, Node.reach, hnone]
  rfl

/-- A pair placed in the last table of the root, the current one, goes last in it. -/
theorem addPair_last {es ts : List (String × Node)} {t k : String} {v : Value}
    (ht : es.any (·.1 == t) = false) (hk : ts.any (·.1 == k) = false) :
    (Assembly.mk (.table (es ++ [(t, Node.table ts false false)]) false false) [t]).addPair [k] v =
      .ok ⟨.table (es ++ [(t, Node.table (ts ++ [(k, Node.leaf v)]) false false)]) false false,
        [t]⟩ := by
  simp [Assembly.addPair, splitLast, Assembly.atCurrent, Node.reach, Node.place, hk,
    lookup_append_of_any ht, upsert_append_of_any ht]
  rfl

/-! ## Layouts -/

/-- A pair line's parts: the key, the text of the value, and the value. -/
structure PairLine where
  key : String
  text : List Char
  value : Value

namespace PairLine

/-- The line of a pair. -/
def line (p : PairLine) : DocLine := .pair p.key p.text p.value

/-- The entry a pair gives its table. -/
def entry (p : PairLine) : String × Value := (p.key, p.value)

/-- The entry a pair gives its table under assembly. -/
def node (p : PairLine) : String × Node := (p.key, .leaf p.value)

theorem place_line (p : PairLine) (a : Assembly) : p.line.place a = a.addPair [p.key] p.value :=
  rfl

end PairLine

theorem DocLine.place_header (k : String) (a : Assembly) :
    (DocLine.header k).place a = a.openTable [k] :=
  rfl

/-- A header and the pairs of its table. -/
structure Section where
  key : String
  pairs : List PairLine

namespace Section

/-- The lines of a section: a blank line, the header, and the pairs. -/
def lines (sec : Section) : List DocLine :=
  .blank :: .header sec.key :: sec.pairs.map PairLine.line

/-- The entry a section gives the root. -/
def entry (sec : Section) : String × Value := (sec.key, .table (sec.pairs.map PairLine.entry))

/-- The entry a section gives the root under assembly. -/
def node (sec : Section) : String × Node :=
  (sec.key, .table (sec.pairs.map PairLine.node) false false)

end Section

/-- The lines of a document of pairs at the root and then sections. -/
def layout (rs : List PairLine) (ss : List Section) : List DocLine :=
  rs.map PairLine.line ++ ss.flatMap Section.lines

/-- The table a document laid out in sections stands for. -/
def layoutTable (rs : List PairLine) (ss : List Section) : List (String × Value) :=
  rs.map PairLine.entry ++ ss.map Section.entry

theorem foldlM_place_append {l₁ l₂ : List DocLine} {a a' : Assembly}
    (h : l₁.foldlM (fun a line => line.place a) a = .ok a') :
    (l₁ ++ l₂).foldlM (fun a line => line.place a) a = l₂.foldlM (fun a line => line.place a) a' := by
  rw [List.foldlM_append, h]
  rfl

theorem foldlM_place_cons {line : DocLine} {lines : List DocLine} {a a' : Assembly}
    (h : line.place a = .ok a') :
    (line :: lines).foldlM (fun a line => line.place a) a =
      lines.foldlM (fun a line => line.place a) a' := by
  rw [List.foldlM_cons, h]
  rfl

theorem not_mem_of_nodup_append {l₁ : List String} {k : String} {l₂ : List String}
    (h : (l₁ ++ k :: l₂).Nodup) : k ∉ l₁ :=
  fun hk => (List.nodup_append.1 h).2.2 k hk k List.mem_cons_self rfl

/-- Pairs with new keys placed at the root go last in it, in their order. -/
theorem foldlM_pairs_root {rs : List PairLine} {es : List (String × Node)}
    (hnd : (es.map (·.1) ++ rs.map PairLine.key).Nodup) :
    (rs.map PairLine.line).foldlM (fun a line => line.place a) ⟨.table es false false, []⟩ =
      .ok ⟨.table (es ++ rs.map PairLine.node) false false, []⟩ := by
  induction rs generalizing es with
  | nil =>
    simp only [List.map_nil, List.foldlM_nil, List.append_nil]
    rfl
  | cons p rs ih =>
    have hnew := not_mem_of_nodup_append hnd
    have hmore : ((es ++ [p.node]).map (·.1) ++ rs.map PairLine.key).Nodup := by
      simpa [PairLine.node] using hnd
    rw [List.map_cons, foldlM_place_cons ((p.place_line _).trans (addPair_root
      (any_key_eq_false hnew))), ← PairLine.node, ih hmore]
    simp

/-- Pairs with new keys placed in the last table of the root go last in it. -/
theorem foldlM_pairs_last {ps : List PairLine} {es ts : List (String × Node)} {t : String}
    (ht : t ∉ es.map (·.1)) (hnd : (ts.map (·.1) ++ ps.map PairLine.key).Nodup) :
    (ps.map PairLine.line).foldlM (fun a line => line.place a)
        ⟨.table (es ++ [(t, Node.table ts false false)]) false false, [t]⟩ =
      .ok ⟨.table (es ++ [(t, Node.table (ts ++ ps.map PairLine.node) false false)]) false false,
        [t]⟩ := by
  induction ps generalizing ts with
  | nil =>
    simp only [List.map_nil, List.foldlM_nil, List.append_nil]
    rfl
  | cons p ps ih =>
    have hnew := not_mem_of_nodup_append hnd
    have hmore : ((ts ++ [p.node]).map (·.1) ++ ps.map PairLine.key).Nodup := by
      simpa [PairLine.node] using hnd
    rw [List.map_cons, foldlM_place_cons ((p.place_line _).trans (addPair_last
      (any_key_eq_false ht) (any_key_eq_false hnew))), ← PairLine.node, ih hmore]
    simp

/-- A section with a new key and distinct keys of its own goes last in the root, and its
table is current after it. -/
theorem foldlM_section {sec : Section} {es : List (String × Node)} {cur : List String}
    (ht : sec.key ∉ es.map (·.1)) (hnd : (sec.pairs.map PairLine.key).Nodup) :
    sec.lines.foldlM (fun a line => line.place a) ⟨.table es false false, cur⟩ =
      .ok ⟨.table (es ++ [sec.node]) false false, [sec.key]⟩ := by
  rw [Section.lines, foldlM_place_cons rfl,
    foldlM_place_cons ((DocLine.place_header _ _).trans (openTable_fresh (any_key_eq_false ht))),
    foldlM_pairs_last ht (by simpa using hnd)]
  rfl

theorem foldlM_sections {ss : List Section} {es : List (String × Node)} {cur : List String}
    (hnd : (es.map (·.1) ++ ss.map Section.key).Nodup)
    (hsec : ∀ sec ∈ ss, (sec.pairs.map PairLine.key).Nodup) :
    ∃ cur', (ss.flatMap Section.lines).foldlM (fun a line => line.place a)
      ⟨.table es false false, cur⟩ = .ok ⟨.table (es ++ ss.map Section.node) false false, cur'⟩ := by
  induction ss generalizing es cur with
  | nil => exact ⟨cur, by simp; rfl⟩
  | cons sec ss ih =>
    have hmore : ((es ++ [sec.node]).map (·.1) ++ ss.map Section.key).Nodup := by
      simpa [Section.node] using hnd
    obtain ⟨cur', h⟩ := ih hmore fun s hs => hsec s (List.mem_cons_of_mem _ hs)
    refine ⟨cur', ?_⟩
    rw [List.flatMap_cons, foldlM_place_append (foldlM_section (not_mem_of_nodup_append hnd)
      (hsec sec List.mem_cons_self)), h]
    simp

theorem entriesToValue_eq_map (es : List (String × Node)) :
    Node.entriesToValue es = es.map fun e => (e.1, e.2.toValue) := by
  induction es with
  | nil => rfl
  | cons e es ih =>
    obtain ⟨k, n⟩ := e
    simp [Node.entriesToValue, ih]

theorem toValue_layout (rs : List PairLine) (ss : List Section) :
    (Node.table (rs.map PairLine.node ++ ss.map Section.node) false false).toValue =
      .table (layoutTable rs ss) := by
  simp [Node.toValue, entriesToValue_eq_map, layoutTable, PairLine.node, Section.node,
    Function.comp_def]
  rfl

/-- A document laid out as pairs at the root and then sections, with bare keys distinct in
each table and pairs that read as themselves, parses to the table of its pairs and
sections. -/
theorem parse_layout {rs : List PairLine} {ss : List Section}
    (hrs : ∀ p ∈ rs, p.line.WellFormed)
    (hss : ∀ sec ∈ ss, IsBareKey sec.key ∧ ∀ p ∈ sec.pairs, p.line.WellFormed)
    (hkeys : (rs.map PairLine.key ++ ss.map Section.key).Nodup)
    (hsec : ∀ sec ∈ ss, (sec.pairs.map PairLine.key).Nodup) :
    parse (String.ofList ((layout rs ss).flatMap DocLine.chars)) = .ok (layoutTable rs ss) := by
  have hw : ∀ line ∈ layout rs ss, line.WellFormed := by
    simp only [layout, List.mem_append, List.mem_map, List.mem_flatMap]
    rintro line (⟨p, hp, rfl⟩ | ⟨sec, hsec, hline⟩)
    · exact hrs p hp
    · obtain ⟨hkey, hpairs⟩ := hss sec hsec
      simp only [Section.lines, List.mem_cons, List.mem_map] at hline
      rcases hline with rfl | rfl | ⟨p, hp, rfl⟩
      · trivial
      · exact hkey
      · exact hpairs p hp
  have hroot : (rs.map PairLine.line).foldlM (fun a line => line.place a) {} =
      .ok ⟨.table ([] ++ rs.map PairLine.node) false false, []⟩ :=
    foldlM_pairs_root (by simpa using hkeys.sublist (List.sublist_append_left _ _))
  have hsections : ∃ cur, (ss.flatMap Section.lines).foldlM (fun a line => line.place a)
      ⟨.table (rs.map PairLine.node) false false, []⟩ =
      .ok ⟨.table (rs.map PairLine.node ++ ss.map Section.node) false false, cur⟩ :=
    foldlM_sections (by simpa [PairLine.node, Function.comp_def] using hkeys) hsec
  obtain ⟨cur, hsections⟩ := hsections
  have hfold : (layout rs ss).foldlM (fun a line => line.place a) {} =
      .ok ⟨.table (rs.map PairLine.node ++ ss.map Section.node) false false, cur⟩ := by
    rw [List.nil_append] at hroot
    rw [layout, foldlM_place_append hroot, hsections]
  exact DocLine.parse_flatMap_chars hw hfold (toValue_layout rs ss)

/-! ## The writer's documents -/

/-- A key is bare when its characters, checked one by one, are. -/
theorem isBareKey_of_check {k : String}
    (h : (!k.toList.isEmpty && k.toList.all isBareKeyChar) = true) : IsBareKey k := by
  simp only [Bool.and_eq_true, Bool.not_eq_true', List.isEmpty_eq_false_iff] at h
  exact ⟨h.1, List.all_eq_true.1 h.2⟩

/-- A table is plain when its keys pass the check and its values are plain. -/
theorem isPlainTable_of_check {es : List (String × Value)}
    (hkeys : ∀ k ∈ es.map (·.1), (!k.toList.isEmpty && k.toList.all isBareKeyChar) = true)
    (hvals : ∀ e ∈ es, e.2.IsPlain) : IsPlainTable es :=
  fun e he => ⟨isBareKey_of_check (hkeys e.1 (List.mem_map_of_mem he)), hvals e he⟩

theorem keyRepr_of_isBareKey {k : String} (hk : IsBareKey k) : keyRepr k = k := by
  have hcheck : (!k.toList.isEmpty && k.toList.all isBareKeyChar) = true := by
    simp [hk.1, List.all_eq_true.2 hk.2]
  simp only [keyRepr, hcheck, if_true]

/-- The pair line a plain entry is written as. -/
def plainLine (e : String × Value) : PairLine := ⟨e.1, ((lineValue? e.2).getD "").toList, e.2⟩

@[simp] theorem plainLine_key (e : String × Value) : (plainLine e).key = e.1 := rfl

@[simp] theorem plainLine_entry (e : String × Value) : (plainLine e).entry = e := rfl

theorem head_toString_bool (b : Bool) :
    (toString b).toList.head? = some (if b then 't' else 'f') := by
  cases b
  · show "false".toList.head? = _
    simp
  · show "true".toList.head? = _
    simp

/-- A plain entry under a bare key is written as a line that reads as itself. -/
theorem plainLine_wellFormed {e : String × Value} (hk : IsBareKey e.1) (hv : e.2.IsPlain) :
    (plainLine e).line.WellFormed := by
  obtain ⟨k, v⟩ := e
  cases v with
  | string s =>
    refine ⟨hk, fun c hc => ?_, fun rest => takes_value_quoteString s rest⟩
    change c ∈ (quoteString s).toList.head? at hc
    rcases head_quoteString s with h | h <;> rw [h] at hc <;> cases hc <;> rfl
  | boolean b =>
    refine ⟨hk, fun c hc => ?_, fun rest => takes_value_bool b rest⟩
    change c ∈ (toString b).toList.head? at hc
    rw [head_toString_bool] at hc
    cases hc
    cases b <;> rfl
  | integer i =>
    obtain ⟨n, rfl⟩ := Int.eq_ofNat_of_zero_le hv.1
    have hn : n < 2 ^ 63 := by exact_mod_cast hv.2
    have htext : (plainLine (k, .integer n)).text = Nat.toDigits 10 n := by
      show (Nat.repr n).toList = _
      simp [Nat.repr]
    refine ⟨hk, fun c hc => ?_, fun rest => ?_⟩
    · -- the first character is a digit, and no digit is a blank
      rw [htext] at hc
      have hdigit := isDigit_iff.1 (isDigit_of_mem_toDigits (List.mem_of_mem_head? hc))
      simp only [isBlank, Bool.or_eq_false_iff, beq_eq_false_iff_ne]
      constructor <;> rintro rfl <;> simp at hdigit
    · rw [htext]
      exact takes_value_number hn rest
  | float _ | datetime _ | array _ | table _ => exact hv.elim

theorem lineValue?_isSome {v : Value} (hv : v.IsPlain) : (lineValue? v).isSome := by
  cases v <;> simp_all [Value.IsPlain, lineValue?]

theorem isTable_of_isPlain {v : Value} (hv : v.IsPlain) : v.isTable = false := by
  cases v <;> simp_all [Value.IsPlain, Value.isTable]

/-- The line of a plain entry under a bare key, as the writer writes it. -/
theorem line_plainLine {e : String × Value} (hk : IsBareKey e.1) (hv : e.2.IsPlain) :
    (lineValue? e.2).map (fun t => keyRepr e.1 ++ " = " ++ t ++ "\n") =
      some (String.ofList (plainLine e).line.chars) := by
  obtain ⟨t, ht⟩ := Option.isSome_iff_exists.1 (lineValue?_isSome hv)
  rw [ht, Option.map_some, keyRepr_of_isBareKey hk]
  congr 1
  refine String.toList_inj.1 ?_
  simp [plainLine, ht, PairLine.line, DocLine.chars]

/-- The pair lines of a plain table under bare keys are written as its lines. -/
theorem pairLines?_eq {es : List (String × Value)} (h : IsPlainTable es) :
    pairLines? es = some (String.ofList ((es.map plainLine).flatMap fun p => p.line.chars)) := by
  induction es with
  | nil => rfl
  | cons e es ih =>
    obtain ⟨hk, hv⟩ := h e List.mem_cons_self
    have hrest := ih fun e' he' => h e' (List.mem_cons_of_mem _ he')
    simp only [pairLines?, Option.map_eq_some_iff] at hrest
    obtain ⟨lines, hlines, hjoin⟩ := hrest
    simp only [pairLines?, List.mapM_cons, line_plainLine hk hv, hlines]
    simp [← hjoin, String.join_cons]

/-- The section a table of plain entries is written as. -/
def plainSection (t : String × List (String × Value)) : Section := ⟨t.1, t.2.map plainLine⟩

theorem section_plainSection {t : String × List (String × Value)} (hk : IsBareKey t.1)
    (ht : IsPlainTable t.2) :
    (pairLines? t.2).map (fun body => "\n[" ++ keyRepr t.1 ++ "]\n" ++ body) =
      some (String.ofList ((plainSection t).lines.flatMap DocLine.chars)) := by
  rw [pairLines?_eq ht, Option.map_some, keyRepr_of_isBareKey hk]
  congr 1
  refine String.toList_inj.1 ?_
  simp [plainSection, Section.lines, DocLine.chars, List.flatMap_map]

theorem sections_plainSection {tables : List (String × List (String × Value))}
    (h : ∀ t ∈ tables, IsBareKey t.1 ∧ IsPlainTable t.2) :
    tables.mapM (fun t => (pairLines? t.2).map fun body => "\n[" ++ keyRepr t.1 ++ "]\n" ++ body) =
      some (tables.map fun t => String.ofList ((plainSection t).lines.flatMap DocLine.chars)) := by
  induction tables with
  | nil => rfl
  | cons t tables ih =>
    obtain ⟨hk, ht⟩ := h t List.mem_cons_self
    simp only [List.mapM_cons, section_plainSection hk ht,
      ih fun t' ht' => h t' (List.mem_cons_of_mem _ ht')]
    rfl

/-- A two-level table is written as the layout of its plain entries and its tables. -/
theorem write_twoLevel {plain : List (String × Value)} {tables : List (String × List (String × Value))}
    (hplain : IsPlainTable plain) (htables : ∀ t ∈ tables, IsBareKey t.1 ∧ IsPlainTable t.2) :
    write (plain ++ tables.map fun t => (t.1, .table t.2)) =
      .ok (String.ofList ((layout (plain.map plainLine) (tables.map plainSection)).flatMap DocLine.chars)) := by
  have hfilter : (plain ++ tables.map fun t => (t.1, Value.table t.2)).filter (fun e => !e.2.isTable) = plain := by
    rw [List.filter_append, List.filter_eq_self.2 fun e he => ?plain,
      List.filter_eq_nil_iff.2 fun e he => ?tables, List.append_nil]
    case plain => simp [isTable_of_isPlain (hplain e he).2]
    case tables =>
      obtain ⟨t, -, rfl⟩ := List.mem_map.1 he
      simp [Value.isTable]
  have hsections : sectionsOf (plain ++ tables.map fun t => (t.1, Value.table t.2)) = tables := by
    rw [sectionsOf, List.filterMap_append, List.filterMap_eq_nil_iff.2 fun e he => ?plain,
      List.filterMap_map, List.nil_append]
    case plain =>
      have hnot := isTable_of_isPlain (hplain e he).2
      obtain ⟨k, v⟩ := e
      cases v <;> simp_all [Value.isTable]
    simp
  simp only [write, hfilter, hsections, pairLines?_eq hplain, sections_plainSection htables]
  congr 1
  refine String.toList_inj.1 ?_
  simp [layout, List.flatMap_map, List.flatMap_append, List.flatMap_assoc]

theorem layoutTable_plain (plain : List (String × Value))
    (tables : List (String × List (String × Value))) :
    layoutTable (plain.map plainLine) (tables.map plainSection) =
      plain ++ tables.map fun t => (t.1, .table t.2) := by
  simp [layoutTable, plainSection, Section.entry, Function.comp_def]

end DocSuite.Toml

namespace DocSuite.TomlLibrary

open Toml

/-- The library settings run with reads back every two-level table: the writer lays it out as
pairs and sections, and such a document parses to its table. -/
theorem builtin_readsBack : builtin.ReadsBack := by
  rintro root ⟨plain, tables, rfl, hnd, hplain, htables⟩
  have htables' : ∀ t ∈ tables, IsBareKey t.1 ∧ IsPlainTable t.2 :=
    fun t ht => ⟨(htables t ht).1, (htables t ht).2.2⟩
  refine ⟨_, write_twoLevel hplain htables', ?_⟩
  rw [← layoutTable_plain]
  refine parse_layout ?hrs ?hss ?hkeys ?hsec
  case hrs =>
    simp only [List.mem_map]
    rintro _ ⟨e, he, rfl⟩
    exact plainLine_wellFormed (hplain e he).1 (hplain e he).2
  case hss =>
    simp only [List.mem_map]
    rintro _ ⟨t, ht, rfl⟩
    refine ⟨(htables t ht).1, ?_⟩
    simp only [plainSection, List.mem_map]
    rintro _ ⟨e, he, rfl⟩
    exact plainLine_wellFormed ((htables t ht).2.2 e he).1 ((htables t ht).2.2 e he).2
  case hkeys => simpa [plainSection, Function.comp_def] using hnd
  case hsec =>
    simp only [List.mem_map]
    rintro _ ⟨t, ht, rfl⟩
    simpa [plainSection, Function.comp_def] using (htables t ht).2.1

end DocSuite.TomlLibrary
