import DocSuite.Fence
import Mathlib.Data.List.DropRight
/-!
# Fenced blocks pair the marker lines of a text

The fence scanner reads a text one line at a time and carries its state from one call to the
next. A reader of the documentation applies a rule to the whole text at once instead: split
it into lines, cut the lines at the marker lines into segments, and pair the markers in
order. The segment between the first and the second marker is a block, the one between the
third and the fourth the next block, and so on; an unpaired last marker and every line after
it give nothing. `codeBlocks_pair_markers` says the two agree, and with it that a text has
half as many blocks as marker lines and that no block holds a marker line.

A marker line is one whose text, trimmed at both ends, starts with the fence marker. The
scanner only trims the front; `isMarkerLine_eq_opensFence` shows the end cannot matter.
-/

namespace DocSuite

open DocSuite.Text

/-! ## The rule over the whole text -/

/-- Whether a line, trimmed of blanks at both ends, starts with the fence marker. -/
def opensFence (line : String) : Bool :=
  fenceMarker.toList.isPrefixOf (trimBlanks line).toList

/-- Of the segments between marker lines, those that form blocks: the second, the fourth and
so on, each only when a closing marker follows it. -/
def pairSegments : List (List String) → List (List String)
  | _ :: inner :: rest => if rest.isEmpty then [] else inner :: pairSegments rest
  | _ => []

/-- The blocks of a list of lines read from outside any block. -/
def pairedBlocks (lines : List String) : List String :=
  (pairSegments (lines.splitOnP opensFence)).map ("\n".intercalate ·)

/-! ## Trimming the end of a line does not make or break a marker -/

theorem isMarkerLine_eq_isPrefixOf (line : String) :
    isMarkerLine line = fenceMarker.toList.isPrefixOf (dropBlanks line.toList) := by
  unfold isMarkerLine
  split
  · rename_i tail h
    rw [h]
    rfl
  · rename_i h
    symm
    rw [Bool.eq_false_iff]
    intro hp
    obtain ⟨t, ht⟩ := List.isPrefixOf_iff_prefix.1 hp
    exact h t ht.symm

/-- Dropping the trailing blanks of a text keeps a leading fence marker, and cannot create
one: what is left is a prefix of the text. -/
theorem fence_isPrefixOf_trimEnd (x : List Char) :
    fenceMarker.toList.isPrefixOf (dropBlanks x.reverse).reverse =
      fenceMarker.toList.isPrefixOf x := by
  have hm : fenceMarker.toList = ['`', '`', '`'] := rfl
  apply Bool.eq_iff_iff.2
  rw [List.isPrefixOf_iff_prefix, List.isPrefixOf_iff_prefix]
  constructor
  · intro h
    exact h.trans (List.rdropWhile_prefix (p := isBlank) (l := x))
  · rintro ⟨r, rfl⟩
    -- the marker is a palindrome of non-blanks, so it survives at the front either way
    rw [hm, List.reverse_append, dropBlanks, List.dropWhile_append]
    split
    · exact ⟨[], by simp [isBlank]⟩
    · exact ⟨(List.dropWhile isBlank r.reverse).reverse, by simp⟩

theorem isMarkerLine_eq_opensFence (line : String) : isMarkerLine line = opensFence line := by
  rw [isMarkerLine_eq_isPrefixOf, opensFence, trimBlanks, String.toList_ofList,
    fence_isPrefixOf_trimEnd]

theorem opensFence_eq_isMarkerLine : opensFence = isMarkerLine :=
  funext fun line => (isMarkerLine_eq_opensFence line).symm

/-! ## One call of the scanner -/

namespace Fences

@[simp] theorem scan_nil (st : FenceState) (buf : List String) :
    scan st buf [] = (none, st, []) := by
  cases st <;> rfl

/-- Outside a block, lines that are not markers are passed over. -/
theorem scan_outside_append {pre : List String} (hpre : ∀ l ∈ pre, isMarkerLine l = false)
    (buf rest : List String) : scan .outside buf (pre ++ rest) = scan .outside buf rest := by
  induction pre with
  | nil => rfl
  | cons l pre ih =>
    have hl : isMarkerLine l = false := hpre l (by simp)
    simp only [List.cons_append, scan, hl, Bool.false_eq_true, if_false]
    exact ih fun l' h' => hpre l' (by simp [h'])

/-- Inside a block, lines that are not markers are collected, latest first. -/
theorem scan_inside_append {pre : List String} (hpre : ∀ l ∈ pre, isMarkerLine l = false)
    (buf rest : List String) :
    scan .insideFence buf (pre ++ rest) = scan .insideFence (pre.reverse ++ buf) rest := by
  induction pre generalizing buf with
  | nil => rfl
  | cons l pre ih =>
    have hl : isMarkerLine l = false := hpre l (by simp)
    simp only [List.cons_append, scan, hl, Bool.false_eq_true, if_false]
    rw [ih (fun l' h' => hpre l' (by simp [h'])) (l :: buf)]
    simp

theorem scan_outside_marker {m : String} (hm : isMarkerLine m = true) (buf rest : List String) :
    scan .outside buf (m :: rest) = scan .insideFence buf rest := by
  simp [scan, hm]

theorem scan_inside_marker {m : String} (hm : isMarkerLine m = true) (buf rest : List String) :
    scan .insideFence buf (m :: rest) = (some ("\n".intercalate buf.reverse), .outside, rest) := by
  simp [scan, hm]

/-! ## Running the scanner to the end -/

theorem blocks_of_scan_some {f : Fences} {b : String} {st : FenceState} {rest : List String}
    (h : scan f.state [] f.lines = (some b, st, rest)) : f.blocks = b :: blocks ⟨rest, st⟩ := by
  rw [blocks]
  split <;> simp_all

theorem blocks_of_scan_none {f : Fences} (h : (scan f.state [] f.lines).1 = none) :
    f.blocks = [] := by
  rw [blocks]
  split <;> simp_all

/-- From outside any block, the scanner finds exactly the paired segments of the lines left. -/
theorem blocks_outside (ls : List String) :
    blocks ⟨ls, .outside⟩ =
      (pairSegments (ls.splitOnP isMarkerLine)).map ("\n".intercalate ·) := by
  -- split at the first marker, then at the first marker after it
  cases hfirst : ls.find? isMarkerLine with
  | none =>
    have hpre : ∀ l ∈ ls, isMarkerLine l = false := by simpa using List.find?_eq_none.1 hfirst
    have hrun := scan_outside_append hpre [] []
    rw [List.append_nil, scan_nil] at hrun
    rw [List.splitOnP_eq_singleton hpre, blocks_of_scan_none (by simp [hrun])]
    simp [pairSegments]
  | some m =>
    obtain ⟨hm, pre, post, rfl, hpre⟩ := List.find?_eq_some_iff_append.1 hfirst
    have hpre : ∀ l ∈ pre, isMarkerLine l = false := by simpa using hpre
    have hopen : scan .outside [] (pre ++ m :: post) = scan .insideFence [] post := by
      rw [scan_outside_append hpre, scan_outside_marker hm]
    rw [List.splitOnP_append_cons_of_forall_mem hpre m hm]
    cases hclose : post.find? isMarkerLine with
    | none =>
      -- an unpaired marker: the open block is dropped with the rest of the text
      have hin : ∀ l ∈ post, isMarkerLine l = false := by
        simpa using List.find?_eq_none.1 hclose
      have hrun := scan_inside_append hin [] []
      rw [List.append_nil, scan_nil] at hrun
      rw [List.splitOnP_eq_singleton hin, blocks_of_scan_none (by simp [hopen, hrun])]
      simp [pairSegments]
    | some m' =>
      obtain ⟨hm', inner, rest, rfl, hinner⟩ := List.find?_eq_some_iff_append.1 hclose
      have hinner : ∀ l ∈ inner, isMarkerLine l = false := by simpa using hinner
      have hscan : scan .outside [] (pre ++ m :: (inner ++ m' :: rest)) =
          (some ("\n".intercalate inner), .outside, rest) := by
        rw [hopen, scan_inside_append hinner, scan_inside_marker hm']
        simp
      obtain ⟨s, ss, hs⟩ := List.exists_cons_of_ne_nil (List.splitOnP_ne_nil isMarkerLine rest)
      rw [blocks_of_scan_some hscan, blocks_outside rest,
        List.splitOnP_append_cons_of_forall_mem hinner m' hm', hs, pairSegments]
      rfl
termination_by ls.length
decreasing_by
  subst_vars
  simp only [List.length_append, List.length_cons]
  omega

end Fences

/-! ## Counting blocks, and what a block holds -/

theorem length_splitOnP {α : Type} (p : α → Bool) (xs : List α) :
    (xs.splitOnP p).length = xs.countP p + 1 := by
  induction xs with
  | nil => rfl
  | cons x xs ih =>
    rw [List.splitOnP_cons_eq_if_modifyHead, List.countP_cons]
    split <;> simp_all

/-- A segment of a split holds elements of the list that the predicate rejects. -/
theorem mem_splitOnP {α : Type} (p : α → Bool) (xs : List α) :
    ∀ seg ∈ xs.splitOnP p, ∀ x ∈ seg, x ∈ xs ∧ p x = false := by
  induction xs with
  | nil => simp
  | cons y xs ih =>
    rw [List.splitOnP_cons_eq_if_modifyHead]
    obtain ⟨s, ss, hs⟩ := List.exists_cons_of_ne_nil (List.splitOnP_ne_nil p xs)
    rw [hs] at ih ⊢
    intro seg hseg x hx
    split at hseg
    · -- `y` separates: an empty segment, then those of `xs`
      rcases List.mem_cons.1 hseg with rfl | hseg
      · simp at hx
      · exact ⟨List.mem_cons_of_mem y (ih seg hseg x hx).1, (ih seg hseg x hx).2⟩
    · -- `y` joins the first segment of `xs`
      rename_i hy
      rw [List.modifyHead_cons] at hseg
      rcases List.mem_cons.1 hseg with rfl | hseg
      · rcases List.mem_cons.1 hx with rfl | hx
        · simpa using hy
        · exact ⟨List.mem_cons_of_mem y (ih s (by simp) x hx).1, (ih s (by simp) x hx).2⟩
      · exact ⟨List.mem_cons_of_mem y (ih seg (by simp [hseg]) x hx).1,
          (ih seg (by simp [hseg]) x hx).2⟩

theorem length_pairSegments (segs : List (List String)) :
    (pairSegments segs).length = (segs.length - 1) / 2 := by
  fun_induction pairSegments segs with
  | case1 _ _ rest h => simp_all
  | case2 _ _ rest h ih =>
    have : rest ≠ [] := by simpa using h
    have := List.length_pos_iff.2 this
    simp only [List.length_cons, ih]
    omega
  | case3 segs h =>
    match segs, h with
    | [], _ | [_], _ => simp
    | _ :: _ :: _, h => exact absurd rfl (h _ _ _)

theorem pairSegments_subset (segs : List (List String)) : pairSegments segs ⊆ segs := by
  fun_induction pairSegments segs with
  | case1 => simp
  | case2 _ inner rest _ ih =>
    intro seg hseg
    simp only [List.mem_cons] at hseg ⊢
    rcases hseg with rfl | hseg
    · simp
    · exact Or.inr (Or.inr (ih hseg))
  | case3 => simp

theorem not_mem_newline_splitLines (text : String) :
    ∀ l ∈ splitLines text, '\n' ∉ l.toList := by
  intro l hl hn
  obtain ⟨piece, hpiece, rfl⟩ := List.mem_map.1 hl
  rw [String.toList_ofList] at hn
  simpa using (mem_splitOnP (· == '\n') text.toList piece hpiece '\n' hn).2

/-- Joining lines that hold no newline and splitting the result again gives the lines back. -/
theorem splitLines_intercalate {seg : List String} (hseg : ∀ l ∈ seg, '\n' ∉ l.toList)
    (hne : seg ≠ []) : splitLines ("\n".intercalate seg) = seg := by
  have hsplit : (['\n'].intercalate (seg.map String.toList)).splitOn '\n' = seg.map String.toList :=
    List.splitOn_intercalate '\n' (by simpa using hseg) (by simpa using hne)
  rw [splitLines, String.toList_intercalate]
  simp only [show "\n".toList = ['\n'] from rfl, hsplit, List.map_map]
  simp [Function.comp_def, String.ofList_toList]

theorem length_pairedBlocks (lines : List String) :
    (pairedBlocks lines).length = lines.countP opensFence / 2 := by
  rw [pairedBlocks, List.length_map, length_pairSegments, length_splitOnP, Nat.add_sub_cancel]

/-- A block joins lines that are not markers; split again, it gives those lines back. -/
theorem not_opensFence_of_mem_pairedBlocks {lines : List String}
    (hlines : ∀ l ∈ lines, '\n' ∉ l.toList) {b : String} (hb : b ∈ pairedBlocks lines) :
    ∀ l ∈ splitLines b, opensFence l = false := by
  obtain ⟨seg, hseg, rfl⟩ := List.mem_map.1 hb
  have hsplit : seg ∈ lines.splitOnP opensFence := pairSegments_subset _ hseg
  cases seg with
  | nil =>
    -- two adjacent markers: the block is empty, a single empty line
    intro l hl
    simp only [String.intercalate_nil, List.mem_singleton, show splitLines "" = [""] from rfl] at hl
    subst hl
    rfl
  | cons l ls =>
    have hfree := mem_splitOnP opensFence lines _ hsplit
    rw [splitLines_intercalate (fun l hl => hlines l (hfree l hl).1) (List.cons_ne_nil l ls)]
    exact fun l hl => (hfree l hl).2

theorem codeBlocks_eq (text : String) : codeBlocks text = pairedBlocks (splitLines text) := by
  rw [codeBlocks, Fences.ofText, Fences.blocks_outside, pairedBlocks, opensFence_eq_isMarkerLine]

/-- The fenced blocks of a text pair its marker lines in order: one block per pair, holding
the lines between the two markers as they are; there are half as many blocks as markers,
rounded down, and no block holds a marker line. -/
theorem codeBlocks_pair_markers (text : String) :
    codeBlocks text = pairedBlocks (splitLines text) ∧
      (codeBlocks text).length = (splitLines text).countP opensFence / 2 ∧
      ∀ b ∈ codeBlocks text, ∀ l ∈ splitLines b, opensFence l = false := by
  refine ⟨codeBlocks_eq text, ?_, ?_⟩
  · rw [codeBlocks_eq, length_pairedBlocks]
  · rw [codeBlocks_eq]
    exact fun b hb => not_opensFence_of_mem_pairedBlocks (not_mem_newline_splitLines text) hb

example : pairedBlocks (splitLines "```\nkept();\n```\n  ```js\nlost();\n") = ["kept();"] := by
  decide

end DocSuite
