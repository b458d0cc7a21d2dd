import DocSuite.Diagnostics
import DocSuite.Proofs.Fence
import Mathlib
/-!
# Reading compiler diagnostics back

An error stream written the way the compiler writes it — for each error a header
`✘ [ERROR] message`, a blank line, and for an error with a location an indented
`file:line:column:` line and excerpt lines, then a summary line — is read back by
`readDiagnostics` as the list of its errors, with 1-based columns (`readDiagnostics_render`),
and `compilationError` reports the first of them and how many more there were. Two kinds of
line break this: a location line that is itself a header (a file name starting with
`[ERROR]`), and a summary line that reads as a location after an error that has none.

Reading is one fold of `readLine` over the lines. A location is attached by one step only,
so every diagnostic of any stream is unlocated or located by one of its lines, with the column
moved to 1-based by a wrapping increment: a column of `2³² − 1` becomes 0
(`diagnostic_column_wraps`).

The patterns end in blanks to the end of the line, so a carriage return left before a line
feed changes nothing (`errorHeader?_dropReturn`, `location?_dropReturn`).
-/

namespace DocSuite

open DocSuite.Text

/-! ## Lines -/

/-- Lines each ended by a line feed read back as they are, less a carriage return before the
line feed. -/
theorem textLines_intercalate {ls : List String} (hls : ∀ l ∈ ls, '\n' ∉ l.toList) :
    textLines ("\n".intercalate (ls ++ [""])) = ls.map dropReturn := by
  have hseg : ∀ l ∈ ls ++ [""], '\n' ∉ l.toList := by
    intro l hl
    rcases List.mem_append.1 hl with hl | hl
    · exact hls l hl
    · rw [List.mem_singleton.1 hl]
      simp
  rw [textLines, splitLines_intercalate hseg (by simp)]
  simp

theorem dropReturn_of_getLast? {l : String} (h : l.toList.getLast? ≠ some '\r') :
    dropReturn l = l := by
  simp [dropReturn, h]

/-- A line loses nothing, or the one carriage return it ends with. -/
theorem dropReturn_cases (l : String) :
    dropReturn l = l ∨ ∃ xs, l = String.ofList (xs ++ ['\r']) ∧ dropReturn l = String.ofList xs := by
  by_cases h : l.toList.getLast? = some '\r'
  · refine .inr ⟨l.toList.dropLast, ?_, by simp [dropReturn, h]⟩
    rw [List.dropLast_append_getLast? '\r' h, String.ofList_toList]
  · exact .inl (dropReturn_of_getLast? h)

/-! ## A carriage return at the end changes no pattern -/

theorem isBlank_return : isBlank '\r' = true := by decide

theorem dropBlanks_append_return (xs : List Char) :
    dropBlanks (xs ++ ['\r']) = if dropBlanks xs = [] then [] else dropBlanks xs ++ ['\r'] := by
  unfold dropBlanks
  rw [List.dropWhile_append]
  by_cases h : xs.dropWhile isBlank = []
  · simp [h, isBlank_return]
  · simp [h]

theorem trimBlanks_append_return (r : List Char) :
    trimBlanks (String.ofList (r ++ ['\r'])) = trimBlanks (String.ofList r) := by
  unfold trimBlanks
  rw [String.toList_ofList, String.toList_ofList, dropBlanks_append_return]
  by_cases h : dropBlanks r = []
  · rw [if_pos h, h]
  · rw [if_neg h, List.reverse_append]
    simp [dropBlanks, isBlank_return]

theorem afterMark_append_return (xs : List Char) :
    afterMark (xs ++ ['\r']) = if afterMark xs = [] then [] else afterMark xs ++ ['\r'] := by
  unfold afterMark
  rw [dropBlanks_append_return]
  by_cases h : dropBlanks xs = []
  · simp [h]
  · obtain ⟨y, ys, hy⟩ := List.exists_cons_of_ne_nil h
    rw [if_neg h, hy, List.cons_append]
    by_cases hmark : y = '✘' ∨ y = 'X'
    · -- after the mark, the blanks are dropped once more
      rcases hmark with rfl | rfl <;> simp [dropBlanks_append_return]
    · obtain ⟨h1, h2⟩ := not_or.1 hmark
      split <;> split <;> simp_all

/-- `headerMessage?` is a test for the prefix `[ERROR]`. -/
theorem headerMessage?_eq (zs : List Char) :
    headerMessage? zs =
      if ['[', 'E', 'R', 'R', 'O', 'R', ']'] <+: zs then
        some (trimBlanks (String.ofList (zs.drop 7)))
      else none := by
  unfold headerMessage?
  split
  case h_1 r => simp
  case h_2 hno =>
    rw [if_neg]
    rintro ⟨r, rfl⟩
    exact hno r rfl

theorem headerMessage?_append_return (zs : List Char) :
    headerMessage? (zs ++ ['\r']) = headerMessage? zs := by
  rw [headerMessage?_eq, headerMessage?_eq]
  by_cases hp : ['[', 'E', 'R', 'R', 'O', 'R', ']'] <+: zs
  · have h7 : 7 ≤ zs.length := by simpa using hp.length_le
    rw [if_pos (List.prefix_concat_iff.2 (.inr hp)), if_pos hp,
      List.drop_append_of_le_length h7, trimBlanks_append_return]
  · -- `[ERROR]` does not end with a carriage return
    have hnot : ¬ ['[', 'E', 'R', 'R', 'O', 'R', ']'] <+: zs ++ ['\r'] := by
      rw [List.prefix_concat_iff]
      rintro (h | h)
      · have := congrArg List.getLast? h
        simp at this
      · exact hp h
    rw [if_neg hnot, if_neg hp]

theorem errorHeader?_append_return (xs : List Char) :
    errorHeader? (String.ofList (xs ++ ['\r'])) = errorHeader? (String.ofList xs) := by
  unfold errorHeader?
  rw [String.toList_ofList, String.toList_ofList, afterMark_append_return]
  by_cases h : afterMark xs = []
  · rw [if_pos h, h]
  · rw [if_neg h, headerMessage?_append_return]

theorem errorHeader?_dropReturn (l : String) : errorHeader? (dropReturn l) = errorHeader? l := by
  rcases dropReturn_cases l with h | ⟨xs, rfl, h⟩
  · rw [h]
  · rw [h, errorHeader?_append_return]

/-! ## Location tails -/

theorem isDecimalDigit_colon : isDecimalDigit ':' = false := by decide +kernel

/-- A run of digits splits off whole before a character that is no digit. -/
theorem digitRun_append {ds : List Char} (hds : ∀ x ∈ ds, isDecimalDigit x) {y : Char}
    (hy : isDecimalDigit y = false) (rest : List Char) :
    digitRun (ds ++ y :: rest) = (ds, y :: rest) := by
  simp [digitRun, List.takeWhile_append_of_pos hds, List.dropWhile_append_of_pos hds, hy]

/-- A location tail is `:line:column:` then blanks, both numbers non-empty runs of digits. -/
theorem locationTail?_eq_some_iff {ys l c : List Char} :
    locationTail? ys = some (l, c) ↔
      ∃ r, ys = ':' :: (l ++ ':' :: (c ++ ':' :: r)) ∧ l ≠ [] ∧ c ≠ [] ∧
        (∀ x ∈ l, isDecimalDigit x) ∧ (∀ x ∈ c, isDecimalDigit x) ∧ ∀ x ∈ r, isBlank x := by
  constructor
  · intro h
    unfold locationTail? at h
    split at h
    case h_2 => cases h
    case h_1 r0 =>
      simp only [digitRun] at h
      split at h
      case h_2 => cases h
      case h_1 r1 hr1 =>
        split at h
        case h_2 => cases h
        case h_1 r2 hr2 =>
          obtain ⟨hcond, h⟩ := Option.ite_none_right_eq_some.1 h
          simp only [Option.some.injEq, Prod.mk.injEq] at h
          obtain ⟨rfl, rfl⟩ := h
          simp only [Bool.and_eq_true, Bool.not_eq_true', List.isEmpty_eq_false_iff,
            List.all_eq_true] at hcond
          refine ⟨r2, ?_, hcond.1.1, hcond.1.2, fun x hx => List.mem_takeWhile_imp hx,
            fun x hx => List.mem_takeWhile_imp hx, hcond.2⟩
          -- each run of digits and the colon after it put the text back together
          have e1 : r1 = r1.takeWhile isDecimalDigit ++ ':' :: r2 := by
            rw [← hr2, List.takeWhile_append_dropWhile]
          have e0 : r0 = r0.takeWhile isDecimalDigit ++ ':' :: r1 := by
            rw [← hr1, List.takeWhile_append_dropWhile]
          rw [← e1, ← e0]
  · rintro ⟨r, rfl, hl, hc, hld, hcd, hr⟩
    simp [locationTail?, digitRun_append hld isDecimalDigit_colon,
      digitRun_append hcd isDecimalDigit_colon, hl, hc, List.all_eq_true.2 hr]

theorem locationTail?_append_return (ys : List Char) :
    locationTail? (ys ++ ['\r']) = locationTail? ys := by
  apply Option.ext
  rintro ⟨l, c⟩
  rw [locationTail?_eq_some_iff, locationTail?_eq_some_iff]
  constructor
  · rintro ⟨r, hys, hl, hc, hld, hcd, hr⟩
    -- the carriage return is the last of the trailing blanks
    have hr0 : r ≠ [] := by
      rintro rfl
      have hlast := congrArg List.getLast? hys
      simp [List.getLast?_cons, List.getLast?_append] at hlast
    refine ⟨r.dropLast, ?_, hl, hc, hld, hcd, fun x hx => hr x (List.dropLast_subset r hx)⟩
    have hdrop := congrArg List.dropLast hys
    rw [List.dropLast_concat] at hdrop
    rw [hdrop, List.dropLast_cons_of_ne_nil (by simp), List.dropLast_append_of_ne_nil (by simp),
      List.dropLast_cons_of_ne_nil (by simp), List.dropLast_append_of_ne_nil (by simp),
      List.dropLast_cons_of_ne_nil hr0]
  · rintro ⟨r, rfl, hl, hc, hld, hcd, hr⟩
    refine ⟨r ++ ['\r'], by simp, hl, hc, hld, hcd, fun x hx => ?_⟩
    rcases List.mem_append.1 hx with hx | hx
    · exact hr x hx
    · rw [List.mem_singleton.1 hx]
      exact isBlank_return

theorem splitLocation_append_return (acc cs : List Char) :
    splitLocation acc (cs ++ ['\r']) = splitLocation acc cs := by
  induction cs generalizing acc with
  | nil => simp [splitLocation, locationTail?]
  | cons c cs ih =>
    have htail := locationTail?_append_return (c :: cs)
    rw [List.cons_append] at htail
    rw [List.cons_append, splitLocation, splitLocation, htail]
    simp only [ih]

theorem location?_append_return (xs : List Char) :
    location? (String.ofList (xs ++ ['\r'])) = location? (String.ofList xs) := by
  unfold location?
  rw [String.toList_ofList, String.toList_ofList]
  cases xs with
  | nil => simp [isBlank_return, dropBlanks]
  | cons b rest =>
    rw [List.cons_append]
    by_cases hb : isBlank b
    · simp only [hb, if_true, dropBlanks_append_return]
      by_cases hd : dropBlanks rest = []
      · simp [hd]
      · obtain ⟨f, more, hf⟩ := List.exists_cons_of_ne_nil hd
        simp [hf, splitLocation_append_return]
    · simp [hb]

theorem location?_dropReturn (l : String) : location? (dropReturn l) = location? l := by
  rcases dropReturn_cases l with h | ⟨xs, rfl, h⟩
  · rw [h]
  · rw [h, location?_append_return]

/-! ## Numbers -/

/-- The ASCII digits are decimal digits. -/
theorem isDecimalDigit_of_isDigit {c : Char} (h : c.isDigit) : isDecimalDigit c := by
  have hascii : ∀ k < 10, Ranges.contains decimalDigitRanges (48 + k) = true := by
    decide +kernel
  have hc : 48 ≤ c.toNat ∧ c.toNat ≤ 57 := by
    simpa [Char.isDigit, UInt32.le_iff_toNat_le] using h
  have hk := hascii (c.toNat - 48) (by omega)
  rwa [Nat.add_sub_cancel' hc.1] at hk

theorem isDigit_of_mem_toString {n : Nat} {x : Char} (hx : x ∈ (toString n).toList) :
    x.isDigit := by
  rw [Nat.toString_eq_ofList_toDigits, String.toList_ofList] at hx
  exact Nat.isDigit_of_mem_toDigits (by decide) (by decide) hx

/-- Reading the decimal digits of `n` gives `n`. -/
theorem foldl_toDigits (n : Nat) :
    (Nat.toDigits 10 n).foldl (fun n d => 10 * n + (d.toNat - 48)) 0 = n := by
  induction n using Nat.strong_induction_on with
  | _ n ih =>
    by_cases hn : n < 10
    · simp [Nat.toDigits_of_lt_base hn, Nat.toNat_digitChar_of_lt_ten hn]
    · -- the last digit is read last, after the digits of `n / 10`
      rw [Nat.toDigits_of_base_le (by decide) (by omega), List.foldl_append,
        ih (n / 10) (by omega)]
      simp [Nat.toNat_digitChar_of_lt_ten (Nat.mod_lt n (by decide))]
      omega

/-- A number that fits in a word reads back from its decimal digits. -/
theorem readWord?_toString {n : Nat} (hn : n < 2 ^ 32) :
    readWord? (toString n).toList = some n := by
  rw [readWord?, if_pos (List.all_eq_true.2 fun x hx => isDigit_of_mem_toString hx),
    Nat.toString_eq_ofList_toDigits, String.toList_ofList, foldl_toDigits]
  exact if_pos hn

/-- What reads as a number fits in a word. -/
theorem readWord?_lt {ds : List Char} {n : Nat} (h : readWord? ds = some n) : n < 2 ^ 32 := by
  unfold readWord? at h
  split at h
  case isTrue =>
    obtain ⟨hlt, hn⟩ := Option.ite_none_right_eq_some.1 h
    rw [← Option.some.inj hn]
    exact hlt
  case isFalse => cases h

theorem toString_toList_ne_nil (n : Nat) : (toString n).toList ≠ [] := by
  rw [Nat.toString_eq_ofList_toDigits, String.toList_ofList]
  exact Nat.toDigits_ne_nil

/-! ## The file of a location line -/

/-- A location tail holds exactly three colons: the digits and the trailing blanks hold none. -/
theorem count_colon_of_locationTail? {ys l c : List Char} (h : locationTail? ys = some (l, c)) :
    ys.count ':' = 3 := by
  obtain ⟨r, rfl, -, -, hld, hcd, hr⟩ := locationTail?_eq_some_iff.1 h
  have hl : l.count ':' = 0 :=
    List.count_eq_zero_of_not_mem fun hm => by simpa [isDecimalDigit_colon] using hld _ hm
  have hc : c.count ':' = 0 :=
    List.count_eq_zero_of_not_mem fun hm => by simpa [isDecimalDigit_colon] using hcd _ hm
  have hr0 : r.count ':' = 0 :=
    List.count_eq_zero_of_not_mem fun hm => absurd (hr _ hm) (by decide)
  simp [List.count_append, hl, hc, hr0]

/-- The file is the shortest one before a location tail, and no shorter split of a file
followed by a tail leaves a tail: that would start with a colon of the file and hold four. -/
theorem splitLocation_append {tail l c : List Char} (ht : locationTail? tail = some (l, c))
    (acc fs : List Char) : splitLocation acc (fs ++ tail) = some (acc ++ fs, l, c) := by
  induction fs generalizing acc with
  | nil =>
    obtain ⟨r, rfl, -⟩ := locationTail?_eq_some_iff.1 ht
    rw [List.nil_append, splitLocation, ht, List.append_nil]
  | cons x fs ih =>
    have hnone : locationTail? (x :: (fs ++ tail)) = none := by
      cases hsome : locationTail? (x :: (fs ++ tail)) with
      | none => rfl
      | some lc =>
        obtain ⟨r, hr, -⟩ := locationTail?_eq_some_iff.1 hsome
        have hx : x = ':' := (List.cons.inj hr).1
        have hcount := count_colon_of_locationTail? hsome
        rw [← List.cons_append, List.count_append, count_colon_of_locationTail? ht, hx,
          List.count_cons_self] at hcount
        omega
    rw [List.cons_append, splitLocation, hnone, ih, List.append_assoc, List.singleton_append]

/-! ## An error stream as the compiler writes it -/

/-- Where an error is: a file, a 1-based line, a 0-based column, and the excerpt lines shown
under it. -/
structure Location where
  file : String
  line : Nat
  column : Nat
  excerpt : List String

/-- One error as the compiler reports it. -/
structure Report where
  message : String
  location : Option Location

/-- The location line of an error: indented, then `file:line:column:`. -/
def Location.text (loc : Location) : String :=
  "    " ++ loc.file ++ ":" ++ toString loc.line ++ ":" ++ toString loc.column ++ ":"

/-- The lines of one error: its header, a blank line, then its location line and excerpt. -/
def Report.lines (r : Report) : List String :=
  ("✘ [ERROR] " ++ r.message) :: "" ::
    match r.location with
    | some loc => loc.text :: loc.excerpt
    | none => []

/-- The diagnostic an error reads back as: its column made 1-based. -/
def Report.diagnostic (r : Report) : Diagnostic :=
  ⟨r.message, r.location.map (·.file), (r.location.map (·.line)).getD 0,
    (r.location.map (·.column + 1)).getD 0⟩

/-- An error stream: the lines of each error, then a summary line, each ended by a line feed. -/
def renderReports (rs : List Report) (summary : String) : String :=
  "\n".intercalate (rs.flatMap Report.lines ++ [summary, ""])

/-- A location that reads back: a one-line file name starting with a non-blank, numbers that
fit in a word once the column is made 1-based, a location line that is no header, and excerpt
lines that are each one line and no header. -/
structure Location.Readable (loc : Location) : Prop where
  file_oneLine : '\n' ∉ loc.file.toList
  file_ne : loc.file ≠ ""
  file_start : ∀ x ∈ loc.file.toList.head?, isBlank x = false
  line_lt : loc.line < 2 ^ 32
  column_lt : loc.column + 1 < 2 ^ 32
  text_not_header : errorHeader? loc.text = none
  excerpt_oneLine : ∀ l ∈ loc.excerpt, '\n' ∉ l.toList
  excerpt_not_header : ∀ l ∈ loc.excerpt, errorHeader? l = none

/-- An error that reads back: a one-line message with no blank at either end, and a readable
location if it has one. -/
structure Report.Readable (r : Report) : Prop where
  message_oneLine : '\n' ∉ r.message.toList
  message_start : ∀ x ∈ r.message.toList.head?, isBlank x = false
  message_end : ∀ x ∈ r.message.toList.getLast?, isBlank x = false
  location : ∀ loc ∈ r.location, loc.Readable

/-- A summary line that reads as nothing: one line, no header, and no location line when the
last error has none. -/
structure SummaryFits (rs : List Report) (summary : String) : Prop where
  oneLine : '\n' ∉ summary.toList
  not_header : errorHeader? summary = none
  not_location : ∀ r ∈ rs.getLast?, r.location = none → location? summary = none

/-! ## Each written line reads as written -/

/-- Nothing is dropped before a character that is no blank. -/
theorem dropBlanks_of_head? {cs : List Char} (h : ∀ x ∈ cs.head?, isBlank x = false) :
    dropBlanks cs = cs := by
  cases cs with
  | nil => rfl
  | cons x xs => exact List.dropWhile_cons_of_neg (by simp [h x rfl])

theorem trimBlanks_space {m : String} (hs : ∀ x ∈ m.toList.head?, isBlank x = false)
    (he : ∀ x ∈ m.toList.getLast?, isBlank x = false) :
    trimBlanks (String.ofList (' ' :: m.toList)) = m := by
  have hfront : dropBlanks (' ' :: m.toList) = m.toList := by
    rw [dropBlanks, List.dropWhile_cons_of_pos (by decide)]
    exact dropBlanks_of_head? hs
  have hback : dropBlanks m.toList.reverse = m.toList.reverse :=
    dropBlanks_of_head? (by rwa [List.head?_reverse])
  rw [trimBlanks, String.toList_ofList, hfront, hback, List.reverse_reverse,
    String.ofList_toList]

/-- The header of a message with no blank at either end gives the message back. -/
theorem errorHeader?_header {m : String} (hs : ∀ x ∈ m.toList.head?, isBlank x = false)
    (he : ∀ x ∈ m.toList.getLast?, isBlank x = false) :
    errorHeader? ("✘ [ERROR] " ++ m) = some m := by
  have hline : ("✘ [ERROR] " ++ m).toList =
      '✘' :: ' ' :: '[' :: 'E' :: 'R' :: 'R' :: 'O' :: 'R' :: ']' :: ' ' :: m.toList := by
    simp
  -- the mark and the blank after it are dropped
  have hafter : afterMark ('✘' :: ' ' :: '[' :: 'E' :: 'R' :: 'R' :: 'O' :: 'R' :: ']' :: ' ' ::
      m.toList) = '[' :: 'E' :: 'R' :: 'R' :: 'O' :: 'R' :: ']' :: ' ' :: m.toList := rfl
  rw [errorHeader?, hline, hafter, headerMessage?, trimBlanks_space hs he]

/-- A location line names its file and the digits of its line and column. -/
theorem location?_text {loc : Location} (h : loc.Readable) :
    location? loc.text = some (loc.file, (toString loc.line).toList, (toString loc.column).toList) := by
  have hne : loc.file.toList ≠ [] := by simpa using h.file_ne
  obtain ⟨f, fs, hfile⟩ := List.exists_cons_of_ne_nil hne
  have hf : isBlank f = false := h.file_start f (by simp [hfile])
  have hdigits : ∀ n : Nat, ∀ x ∈ (toString n).toList, isDecimalDigit x := fun _ _ hx =>
    isDecimalDigit_of_isDigit (isDigit_of_mem_toString hx)
  have htail : locationTail? (':' :: ((toString loc.line).toList ++
      ':' :: ((toString loc.column).toList ++ [':']))) =
      some ((toString loc.line).toList, (toString loc.column).toList) :=
    locationTail?_eq_some_iff.2 ⟨[], rfl, toString_toList_ne_nil _, toString_toList_ne_nil _,
      hdigits _, hdigits _, by simp⟩
  have htext : loc.text.toList = ' ' :: ' ' :: ' ' :: ' ' :: f :: (fs ++ ':' ::
      ((toString loc.line).toList ++ ':' :: ((toString loc.column).toList ++ [':']))) := by
    simp [Location.text, hfile]
  generalize ':' :: ((toString loc.line).toList ++ ':' :: ((toString loc.column).toList ++
    [':'])) = tail at htail htext
  -- the indent is dropped up to the file's first character, which is no blank
  have hindent : dropBlanks (' ' :: ' ' :: ' ' :: f :: (fs ++ tail)) = f :: (fs ++ tail) := by
    rw [dropBlanks, List.dropWhile_cons_of_pos (by decide), List.dropWhile_cons_of_pos (by decide),
      List.dropWhile_cons_of_pos (by decide)]
    exact dropBlanks_of_head? (by simpa using hf)
  rw [location?, htext]
  dsimp only
  rw [if_pos (by decide), hindent]
  dsimp only
  rw [if_neg (by simp [hf]), splitLocation_append htail]
  simp [← hfile]

theorem newline_not_mem_toDigits (n : Nat) : '\n' ∉ Nat.toDigits 10 n := fun h =>
  absurd (Nat.isDigit_of_mem_toDigits (by decide) (by decide) h) (by decide)

/-- Every line of a readable error is one line. -/
theorem newline_not_mem_lines {r : Report} (hr : r.Readable) :
    ∀ l ∈ r.lines, '\n' ∉ l.toList := by
  intro l hl
  simp only [Report.lines, List.mem_cons] at hl
  rcases hl with rfl | rfl | hl
  · simpa using hr.message_oneLine
  · simp
  · cases hloc : r.location with
    | none => simp [hloc] at hl
    | some loc =>
      have h := hr.location loc hloc
      simp only [hloc, List.mem_cons] at hl
      rcases hl with rfl | hl
      · simp [Location.text, h.file_oneLine, newline_not_mem_toDigits]
      · exact h.excerpt_oneLine l hl

/-! ## One line read -/

theorem readLine_of_header (acc : List Diagnostic) {line msg : String}
    (h : errorHeader? line = some msg) : readLine acc line = ⟨msg, none, 0, 0⟩ :: acc := by
  simp [readLine, h]

theorem readLine_of_not_header (d : Diagnostic) (rest : List Diagnostic) {line : String}
    (h : errorHeader? line = none) : readLine (d :: rest) line = d.locate line :: rest := by
  simp [readLine, h]

theorem readLine_nil_of_not_header {line : String} (h : errorHeader? line = none) :
    readLine [] line = [] := by
  simp [readLine, h]

theorem locate_of_isSome {d : Diagnostic} (h : d.file.isSome) (line : String) :
    d.locate line = d := by
  simp [Diagnostic.locate, h]

theorem locate_of_location?_eq_none (d : Diagnostic) {line : String} (h : location? line = none) :
    d.locate line = d := by
  simp [Diagnostic.locate, h]

/-- A carriage return before the line feed changes nothing read. -/
theorem readLine_dropReturn (acc : List Diagnostic) (line : String) :
    readLine acc (dropReturn line) = readLine acc line := by
  simp only [readLine, Diagnostic.locate, errorHeader?_dropReturn, location?_dropReturn]

theorem readLine_blank (acc : List Diagnostic) : readLine acc "" = acc := by
  cases acc with
  | nil => rfl
  | cons d rest => rw [readLine_of_not_header d rest rfl, locate_of_location?_eq_none d rfl]

/-- The wrapping increment of a word. -/
theorem succ_mod_word {n : Nat} (hn : n < 2 ^ 32) :
    (n + 1) % Nat.pow 2 32 = if n + 1 < 2 ^ 32 then n + 1 else 0 := by
  rw [Nat.pow_eq]
  split
  case isTrue h => exact Nat.mod_eq_of_lt h
  case isFalse h =>
    rw [show n + 1 = 2 ^ 32 by omega, Nat.mod_self]

/-- The location line of a readable location locates the diagnostic of the header before it. -/
theorem locate_text {loc : Location} (h : loc.Readable) (msg : String) :
    (⟨msg, none, 0, 0⟩ : Diagnostic).locate loc.text =
      ⟨msg, some loc.file, loc.line, loc.column + 1⟩ := by
  have hc : loc.column < 2 ^ 32 := by
    have := h.column_lt
    omega
  rw [Diagnostic.locate, if_neg (by simp), location?_text h]
  dsimp only
  rw [readWord?_toString h.line_lt, readWord?_toString hc]
  simp only [Option.map_some, Option.getD_some, succ_mod_word hc, if_pos h.column_lt]

/-! ## A whole stream read -/

/-- Lines that are no header leave a located diagnostic as it is. -/
theorem foldl_readLine_located {d : Diagnostic} (hd : d.file.isSome) (rest : List Diagnostic)
    {ls : List String} (hls : ∀ l ∈ ls, errorHeader? l = none) :
    ls.foldl readLine (d :: rest) = d :: rest := by
  induction ls with
  | nil => rfl
  | cons l ls ih =>
    rw [List.foldl_cons, readLine_of_not_header d rest (hls l (by simp)), locate_of_isSome hd,
      ih fun l' hl' => hls l' (by simp [hl'])]

/-- The lines of a readable error read as its diagnostic. -/
theorem foldl_readLine_report {r : Report} (hr : r.Readable) (acc : List Diagnostic) :
    r.lines.foldl readLine acc = r.diagnostic :: acc := by
  have hhead := errorHeader?_header hr.message_start hr.message_end
  cases hloc : r.location with
  | none =>
    simp [Report.lines, hloc, readLine_of_header acc hhead, readLine_blank, Report.diagnostic]
  | some loc =>
    have hl := hr.location loc hloc
    simp only [Report.lines, hloc, List.foldl_cons, readLine_of_header acc hhead, readLine_blank,
      readLine_of_not_header _ _ hl.text_not_header, locate_text hl]
    rw [foldl_readLine_located rfl acc hl.excerpt_not_header]
    simp [Report.diagnostic, hloc]

/-- The run over the errors: each error's lines push its diagnostic. -/
theorem foldl_readLine_reports {rs : List Report} (hrs : ∀ r ∈ rs, r.Readable)
    (acc : List Diagnostic) :
    (rs.flatMap Report.lines).foldl readLine acc = (rs.map Report.diagnostic).reverse ++ acc := by
  induction rs generalizing acc with
  | nil => rfl
  | cons r rs ih =>
    rw [List.flatMap_cons, List.foldl_append, foldl_readLine_report (hrs r (by simp)),
      ih (fun x hx => hrs x (by simp [hx]))]
    simp

/-- A fitting summary line changes nothing read. -/
theorem readLine_summary {rs : List Report} {summary : String} (hs : SummaryFits rs summary) :
    readLine (rs.map Report.diagnostic).reverse summary = (rs.map Report.diagnostic).reverse := by
  rcases List.eq_nil_or_concat rs with rfl | ⟨rs', r, rfl⟩
  · exact readLine_nil_of_not_header hs.not_header
  · simp only [List.concat_eq_append, List.map_append, List.map_cons, List.map_nil,
      List.reverse_append, List.reverse_cons, List.reverse_nil, List.nil_append,
      List.singleton_append]
    rw [readLine_of_not_header _ _ hs.not_header]
    congr 1
    cases hloc : r.location with
    | none => exact locate_of_location?_eq_none _ (hs.not_location r (by simp) hloc)
    | some loc => exact locate_of_isSome (by simp [Report.diagnostic, hloc]) summary

/-- An error stream of readable errors and a fitting summary reads back as their
diagnostics, in order. -/
theorem readDiagnostics_render {rs : List Report} {summary : String}
    (hrs : ∀ r ∈ rs, r.Readable) (hs : SummaryFits rs summary) :
    readDiagnostics (renderReports rs summary) = rs.map Report.diagnostic := by
  have hlines : ∀ l ∈ rs.flatMap Report.lines ++ [summary], '\n' ∉ l.toList := by
    intro l hl
    rcases List.mem_append.1 hl with hl | hl
    · obtain ⟨r, hr, hl⟩ := List.mem_flatMap.1 hl
      exact newline_not_mem_lines (hrs r hr) l hl
    · rw [List.mem_singleton.1 hl]
      exact hs.oneLine
  have hsplit : textLines (renderReports rs summary) =
      (rs.flatMap Report.lines ++ [summary]).map dropReturn := by
    rw [renderReports, ← textLines_intercalate hlines]
    simp
  rw [readDiagnostics, readDiagnosticsRev, hsplit, List.foldl_map]
  simp only [readLine_dropReturn]
  rw [List.foldl_append, foldl_readLine_reports hrs, List.append_nil, List.foldl_cons,
    List.foldl_nil, readLine_summary hs, List.reverse_reverse]

/-- The error of a compilation that wrote such a stream is its first error, naming how many
more followed. -/
theorem compilationError_render {r : Report} {more : List Report} {summary : String}
    (filename : String) (hrs : ∀ x ∈ r :: more, x.Readable) (hs : SummaryFits (r :: more) summary) :
    compilationError filename (renderReports (r :: more) summary) =
      .compilation (r.diagnostic.file.getD filename) r.diagnostic.line r.diagnostic.column
        (if more = [] then r.message
          else r.message ++ " (and " ++ toString more.length ++ " more error(s))") := by
  rw [compilationError, readDiagnostics_render hrs hs, List.map_cons]
  cases more with
  | nil => simp [Report.diagnostic]
  | cons x xs =>
    simp [Report.diagnostic, String.append_assoc]
    -- the interpolation puts the literal pieces through the identity `toString`
    rfl

theorem readDiagnosticsRev_of_no_header {ls : List String} (h : ∀ l ∈ ls, errorHeader? l = none) :
    readDiagnosticsRev ls = [] := by
  induction ls with
  | nil => rfl
  | cons l ls ih =>
    rw [readDiagnosticsRev, List.foldl_cons, readLine_nil_of_not_header (h l (by simp))]
    exact ih fun l' hl' => h l' (by simp [hl'])

/-- A stream with no header is reported whole, trimmed. -/
theorem compilationError_of_no_header (filename stderr : String)
    (h : ∀ l ∈ textLines stderr, errorHeader? l = none) :
    compilationError filename stderr =
      .compilation filename 0 0 (if (trimBlanks stderr).isEmpty then "compiler exited without output"
        else trimBlanks stderr) := by
  rw [compilationError, readDiagnostics, readDiagnosticsRev_of_no_header h, List.reverse_nil]

/-- Readable errors and a fitting summary read back as their diagnostics, the first of which
the compilation error reports; a stream with no header is reported whole. -/
theorem diagnostics_read_back (filename : String) (rs : List Report) (summary : String)
    (hrs : ∀ r ∈ rs, r.Readable) (hs : SummaryFits rs summary) :
    readDiagnostics (renderReports rs summary) = rs.map Report.diagnostic ∧
    (∀ r more, rs = r :: more →
      compilationError filename (renderReports rs summary) =
        .compilation (r.diagnostic.file.getD filename) r.diagnostic.line r.diagnostic.column
          (if more = [] then r.message
            else r.message ++ " (and " ++ toString more.length ++ " more error(s))")) ∧
    ∀ stderr, (∀ l ∈ textLines stderr, errorHeader? l = none) →
      compilationError filename stderr =
        .compilation filename 0 0 (if (trimBlanks stderr).isEmpty
          then "compiler exited without output" else trimBlanks stderr) := by
  refine ⟨readDiagnostics_render hrs hs, ?_, compilationError_of_no_header filename⟩
  rintro r more rfl
  exact compilationError_render filename hrs hs

/-- The two errors of a compilation of `hello-world.ts`, each with a two-line excerpt and a
blank line after it. -/
def twoErrors : List Report :=
  [⟨"Expected \";\" but found \"y\"",
      some ⟨"hello-world.ts", 3, 6, ["      3 │ let x y = 1;", "        ╵       ^", ""]⟩⟩,
    ⟨"Unexpected \"\x7d\"", some ⟨"hello-world.ts", 9, 0, ["      9 │ \x7d", "        ╵ ^", ""]⟩⟩]

theorem twoErrors_read_back :
    (∀ r ∈ twoErrors, r.Readable) ∧ SummaryFits twoErrors "2 errors" ∧
    readDiagnostics (renderReports twoErrors "2 errors") = twoErrors.map Report.diagnostic ∧
    (∀ r more, twoErrors = r :: more →
      compilationError "fallback.ts" (renderReports twoErrors "2 errors") =
        .compilation (r.diagnostic.file.getD "fallback.ts") r.diagnostic.line r.diagnostic.column
          (if more = [] then r.message
            else r.message ++ " (and " ++ toString more.length ++ " more error(s))")) ∧
    ∀ stderr, (∀ l ∈ textLines stderr, errorHeader? l = none) →
      compilationError "fallback.ts" stderr =
        .compilation "fallback.ts" 0 0 (if (trimBlanks stderr).isEmpty
          then "compiler exited without output" else trimBlanks stderr) := by
  have hrs : ∀ r ∈ twoErrors, r.Readable := by
    intro r hr
    simp only [twoErrors, List.mem_cons, List.not_mem_nil, or_false] at hr
    rcases hr with rfl | rfl <;>
      refine ⟨by decide +kernel, by simp [isBlank], by simp [isBlank], ?_⟩ <;>
      rintro loc ⟨⟩ <;>
      exact ⟨by decide +kernel, by decide +kernel, by simp [isBlank], by decide +kernel,
        by decide +kernel, by decide +kernel, by decide +kernel, by decide +kernel⟩
  have hs : SummaryFits twoErrors "2 errors" :=
    ⟨by decide +kernel, by decide +kernel, by simp [twoErrors]⟩
  exact ⟨hrs, hs, diagnostics_read_back "fallback.ts" twoErrors "2 errors" hrs hs⟩

/-- A location line after an error that has none is taken as its location, and a location
line naming a file `[ERROR]` is a header. -/
theorem summary_and_header_locations_misread :
    readDiagnostics (renderReports [⟨"a", none⟩] "  x.ts:1:0:") ≠
      [(⟨"a", none⟩ : Report)].map Report.diagnostic ∧
    readDiagnostics (renderReports [⟨"a", some ⟨"[ERROR]", 1, 0, []⟩⟩] "1 error") ≠
      [(⟨"a", some ⟨"[ERROR]", 1, 0, []⟩⟩ : Report)].map Report.diagnostic := by
  decide +kernel

/-! ## Every diagnostic comes from the lines read -/

/-- A diagnostic is unlocated, or carries the file and numbers of a location line among
`lines`: the line number read as a word (0 if it is none), and the column read as a word and
moved to 1-based by a wrapping increment, so that `2³² − 1` becomes 0. -/
def LocatedBy (lines : List String) (d : Diagnostic) : Prop :=
  (d.file = none ∧ d.line = 0 ∧ d.column = 0) ∨
    ∃ line ∈ lines, ∃ file l c, location? line = some (file, l, c) ∧ d.file = some file ∧
      d.line = (readWord? l).getD 0 ∧
      d.column = ((readWord? c).map fun n => if n + 1 < 2 ^ 32 then n + 1 else 0).getD 0

/-- Locating by a line among `lines` keeps a diagnostic located by `lines`. -/
theorem LocatedBy.locate {lines : List String} {d : Diagnostic} (hd : LocatedBy lines d)
    {line : String} (hl : line ∈ lines) : LocatedBy lines (d.locate line) := by
  unfold Diagnostic.locate
  split
  case isTrue => exact hd
  case isFalse hnone =>
    rcases hd with hd | ⟨_, _, file, _, _, _, hfile, _⟩
    · split
      case h_1 file l c hloc =>
        refine .inr ⟨line, hl, file, l, c, hloc, rfl, rfl, ?_⟩
        cases hc : readWord? c with
        | none => rfl
        | some n => simp [succ_mod_word (readWord?_lt hc)]
      case h_2 => exact .inl hd
    · simp [hfile] at hnone

/-- The step: reading a line among `lines` keeps every diagnostic located by `lines`. -/
theorem locatedBy_readLine {lines : List String} {acc : List Diagnostic}
    (hacc : ∀ d ∈ acc, LocatedBy lines d) {line : String} (hl : line ∈ lines) :
    ∀ d ∈ readLine acc line, LocatedBy lines d := by
  unfold readLine
  split
  case h_1 msg _ =>
    -- a header starts an unlocated diagnostic
    intro d hd
    rcases List.mem_cons.1 hd with rfl | hd
    · exact .inl ⟨rfl, rfl, rfl⟩
    · exact hacc d hd
  case h_2 =>
    cases acc with
    | nil => simp
    | cons d0 rest =>
      intro d hd
      rcases List.mem_cons.1 hd with rfl | hd
      · exact (hacc d0 (by simp)).locate hl
      · exact hacc d (by simp [hd])

/-- The run: reading lines among `lines` keeps every diagnostic located by `lines`. -/
theorem locatedBy_foldl {lines ls : List String} (hls : ∀ l ∈ ls, l ∈ lines)
    {acc : List Diagnostic} (hacc : ∀ d ∈ acc, LocatedBy lines d) :
    ∀ d ∈ ls.foldl readLine acc, LocatedBy lines d := by
  induction ls generalizing acc with
  | nil => exact hacc
  | cons l ls ih =>
    exact ih (fun l' hl' => hls l' (by simp [hl'])) (locatedBy_readLine hacc (hls l (by simp)))

/-- Every diagnostic of any error stream is unlocated or located by one of its lines, its
column one more than the one written unless that is `2³² − 1`, which wraps to 0. -/
theorem diagnostic_column_wraps (stderr : String) :
    ∀ d ∈ readDiagnostics stderr, LocatedBy (textLines stderr) d := by
  intro d hd
  rw [readDiagnostics, List.mem_reverse] at hd
  exact locatedBy_foldl (fun _ h => h) (by simp) d hd

/-- The diagnostic of a location at the last column is located by that line, with column 0. -/
theorem maxColumn_located :
    (⟨"x", some "a.ts", 1, 0⟩ : Diagnostic) ∈
        readDiagnostics "✘ [ERROR] x\n\n    a.ts:1:4294967295:\n" ∧
      LocatedBy (textLines "✘ [ERROR] x\n\n    a.ts:1:4294967295:\n") ⟨"x", some "a.ts", 1, 0⟩ := by
  have hmem : (⟨"x", some "a.ts", 1, 0⟩ : Diagnostic) ∈
      readDiagnostics "✘ [ERROR] x\n\n    a.ts:1:4294967295:\n" := by
    decide +kernel
  exact ⟨hmem, diagnostic_column_wraps _ _ hmem⟩

/-- The compiler's last column reads as unknown. -/
theorem maxColumn_reads_as_unknown :
    readDiagnostics "✘ [ERROR] x\n\n    a.ts:1:4294967295:\n" = [⟨"x", some "a.ts", 1, 0⟩] := by
  decide +kernel

end DocSuite
