import Mathlib
import DocSuite.Proofs.TomlStrings
/-!
# Reading documents of lines

A document that a writer lays out line by line, a bare key and a value's text on each pair
line, a bare key between brackets on each header line, and blank lines between, reads back
as the table that placing its lines one by one builds (`DocLine.parse_flatMap_chars`).

A line is described by `DocLine`: its characters, what it does to the assembly, and what it
takes for it to read as itself (`DocLine.WellFormed`). The values a writer puts on pair lines,
numbers, booleans and strings, are each read back by a lemma here, strings through
`takes_string_quoteString`. The loop of line items is followed line by line, with a line
of fuel for each (`DocLine.takes_lineItems`).
-/

namespace DocSuite.Toml

open Reader

variable {ahead rest : List Char}

/-! ## Numbers -/

theorem isDigit_eq (c : Char) : isDigit c = c.isDigit := by
  simp [isDigit, Char.isDigit, Char.le_def]

theorem isDigit_of_mem_toDigits {n : Nat} {d : Char} (h : d ∈ Nat.toDigits 10 n) :
    isDigit d = true := by
  rw [isDigit_eq]
  exact Nat.isDigit_of_mem_toDigits (by decide) (by decide) h

theorem decimalNumber_toDigits (n : Nat) : decimalNumber (Nat.toDigits 10 n) = n :=
  Nat.ofDigitChars_ten_toDigits

/-- The digits of a number, and a line feed after them. -/
theorem takeWhile_isDigit_toDigits (n : Nat) (l : List Char) :
    (Nat.toDigits 10 n ++ '\n' :: l).takeWhile isDigit = Nat.toDigits 10 n := by
  rw [List.takeWhile_append_of_pos fun d hd => isDigit_of_mem_toDigits hd]
  simp [isDigit]

theorem decimalText_eq : decimalText = label "integer" (get >>= fun start =>
    (Functor.discard (attempt (satisfy (fun c => c == '+' || c == '-'))) >>= fun _ =>
      orElse (do discard (satisfy (fun c => '1' ≤ c && c ≤ '9'))
                 discard (many (digitsOrUnderscore isDigit)))
        (discard (satisfy isDigit))) >>= fun _ => sliceFrom start) := by
  unfold decimalText
  simp only [← bind_assoc]

theorem refuses_digitsOrUnderscore_newline (l : List Char) :
    Refuses (digitsOrUnderscore isDigit) ('\n' :: l) :=
  (refuses_span1 (by simp [isDigit])).discard.orElse (refuses_char (by simp)).bind

theorem isDigit_iff {c : Char} : isDigit c = true ↔ 48 ≤ c.toNat ∧ c.toNat ≤ 57 := by
  simp only [isDigit, Bool.and_eq_true, decide_eq_true_eq, Char.le_def, UInt32.le_iff_toNat_le,
    Char.toNat_val]
  rfl

/-- A positive number's decimal digits do not start with `0`. -/
theorem head_toDigits_ne_zero {n : Nat} (hn : 0 < n) {d : Char} {ds : List Char}
    (h : Nat.toDigits 10 n = d :: ds) : d ≠ '0' := by
  induction n using Nat.strong_induction_on generalizing d ds with
  | _ n ih =>
    by_cases h10 : n < 10
    · rw [Nat.toDigits_of_lt_base h10, List.cons_eq_cons] at h
      rw [← h.1]
      interval_cases n <;> decide
    · -- the first digit is that of `n / 10`
      rw [Nat.toDigits_of_base_le (by decide) (by omega)] at h
      obtain ⟨e, es, he⟩ := List.exists_cons_of_ne_nil (Nat.toDigits_ne_nil (n := n / 10) (b := 10))
      rw [he, List.cons_append, List.cons_eq_cons] at h
      rw [← h.1]
      exact ih (n / 10) (by omega) (by omega) he

/-- The first digit of a number is `0` only for zero itself. -/
theorem toDigits_eq_zero {n : Nat} {ds : List Char} (h : Nat.toDigits 10 n = '0' :: ds) :
    ds = [] := by
  rcases Nat.eq_zero_or_pos n with rfl | hpos
  · rw [Nat.toDigits_zero, List.cons.injEq] at h
    exact h.2.symm
  · exact absurd rfl (head_toDigits_ne_zero hpos h)

/-- The digits of a number read as a decimal integer's text. -/
theorem takes_decimalText (n : Nat) (l : List Char) :
    Takes decimalText (Nat.toDigits 10 n ++ '\n' :: l) (String.ofList (Nat.toDigits 10 n))
      ('\n' :: l) := by
  rw [decimalText_eq]
  refine (takes_slice ?_).label _
  obtain ⟨d, ds, hds⟩ := List.exists_cons_of_ne_nil (Nat.toDigits_ne_nil (n := n) (b := 10))
  have hdigits : ∀ x ∈ d :: ds, 48 ≤ x.toNat ∧ x.toNat ≤ 57 := fun x hx =>
    isDigit_iff.1 (isDigit_of_mem_toDigits (hds ▸ hx))
  have hd := hdigits d List.mem_cons_self
  rw [hds]
  have hsign : Refuses (satisfy (fun c => c == '+' || c == '-')) ((d :: ds) ++ '\n' :: l) :=
    refuses_satisfy fun c hc => by
      simp only [List.cons_append, List.head?_cons, Option.mem_def, Option.some.injEq] at hc
      subst hc
      simp only [Bool.or_eq_false_iff, beq_eq_false_iff_ne, ne_eq, ← Char.toNat_inj]
      simp
      omega
  refine hsign.attempt.discard.bind ?_
  by_cases h0 : d = '0'
  · -- zero is its own digit
    subst h0
    obtain rfl := toDigits_eq_zero hds
    have hone : Refuses (satisfy (fun c => '1' ≤ c && c ≤ '9')) (['0'] ++ '\n' :: l) :=
      refuses_satisfy fun c hc => by
        obtain rfl := Option.some.inj hc
        decide
    exact (hone.discard.bind).orElse_takes (takes_satisfy (by decide) _).discard
  · -- a leading digit other than zero, then the others in one run
    have hd' : ('1' ≤ d && d ≤ '9') = true := by
      have h48 : d.toNat ≠ 48 := fun h => h0 (Char.toNat_inj.1 h)
      simp only [Bool.and_eq_true, decide_eq_true_eq, Char.le_def, UInt32.le_iff_toNat_le,
        Char.toNat_val]
      exact ⟨by show 49 ≤ d.toNat; omega, by show d.toNat ≤ 57; omega⟩
    refine ((takes_satisfy hd' _).discard.bind ?_).orElse _
    obtain ⟨us, hmore⟩ : ∃ us, Pieces (digitsOrUnderscore isDigit) (ds ++ '\n' :: l) us
        ('\n' :: l) := by
      cases ds with
      | nil => exact ⟨[], .stop (refuses_digitsOrUnderscore_newline l)⟩
      | cons e es =>
        have hall : ∀ x ∈ e :: es, isDigit x = true := fun x hx =>
          isDigit_iff.2 (hdigits x (List.mem_cons_of_mem _ hx))
        have hspan : Takes (span1 isDigit) ((e :: es) ++ '\n' :: l) (e :: es) ('\n' :: l) :=
          takes_span1_of_all (List.cons_ne_nil _ _) hall (by simp [isDigit])
        exact ⟨[()], .step (hspan.discard.orElse _) (by simp)
          (.stop (refuses_digitsOrUnderscore_newline l))⟩
    exact hmore.takes_many.discard


/-- After some of a number's digits comes a digit or the line feed. -/
theorem head_drop_toDigits (n k : Nat) (l : List Char) :
    ∀ x ∈ ((Nat.toDigits 10 n).drop k ++ '\n' :: l).head?, isDigit x = true ∨ x = '\n' := by
  intro x hx
  cases hd : (Nat.toDigits 10 n).drop k with
  | nil =>
    rw [hd] at hx
    simp only [List.nil_append, List.head?_cons, Option.mem_def, Option.some.injEq] at hx
    exact .inr hx.symm
  | cons y ys =>
    rw [hd] at hx
    simp only [List.cons_append, List.head?_cons, Option.mem_def, Option.some.injEq] at hx
    subst hx
    exact .inl (isDigit_of_mem_toDigits (List.mem_of_mem_drop (hd ▸ List.mem_cons_self)))

/-- A character that is a digit or the line feed is none of `c`, a character of neither kind. -/
theorem refuses_char_after_digits {c : Char} (hc : isDigit c = false) (hn : c ≠ '\n') (n k : Nat)
    (l : List Char) : Refuses (char c) ((Nat.toDigits 10 n).drop k ++ '\n' :: l) := by
  refine refuses_char fun h => ?_
  rcases head_drop_toDigits n k l c h with h' | h'
  · rw [hc] at h'
    exact Bool.false_ne_true h'
  · exact hn h'

theorem length_take_takeWhile_toDigits (n k : Nat) (l : List Char) :
    (((Nat.toDigits 10 n ++ '\n' :: l).takeWhile isDigit).take k).length =
      min k (Nat.toDigits 10 n).length := by
  rw [takeWhile_isDigit_toDigits, List.length_take]

theorem drop_toDigits_append (n k : Nat) (l : List Char) (hk : k ≤ (Nat.toDigits 10 n).length) :
    (Nat.toDigits 10 n ++ '\n' :: l).drop k = (Nat.toDigits 10 n).drop k ++ '\n' :: l :=
  List.drop_append_of_le_length hk

/-- A field of `k` digits is read or refused, but never read past. -/
theorem field_takes_or_refuses {k lo hi : Nat} (hk : k ≤ ((ahead.takeWhile isDigit).take k).length) :
    (∃ v, Takes (Toml.field k lo hi) ahead v (ahead.drop k)) ∨ Refuses (Toml.field k lo hi) ahead := by
  have hspan : Takes (spanBetween k k isDigit) ahead _ _ := takes_spanBetween hk
  have hlen : ((ahead.takeWhile isDigit).take k).length = k :=
    le_antisymm (List.length_take_le _ _) hk
  rw [hlen] at hspan
  by_cases hv : (lo ≤ decimalNumber ((ahead.takeWhile isDigit).take k) &&
      decimalNumber ((ahead.takeWhile isDigit).take k) ≤ hi) = true
  · refine .inl ⟨decimalNumber ((ahead.takeWhile isDigit).take k),
      Takes.get_bind fun _ => hspan.bind ?_⟩
    simp only [hv, if_true]
    exact takes_pure _
  · refine .inr (Refuses.get_bind fun _ => hspan.bind_refuses ?_)
    simp only [hv, if_false, Bool.false_eq_true]
    exact refuses_throw rfl

theorem isDigit_minus : isDigit '-' = false := by decide

theorem isDigit_colon : isDigit ':' = false := by decide

/-- No date starts with a number and the line feed after it: a year has four digits and a
dash after them. -/
theorem refuses_date (n : Nat) (l : List Char) : Refuses date (Nat.toDigits 10 n ++ '\n' :: l) := by
  unfold date
  by_cases h4 : 4 ≤ (Nat.toDigits 10 n).length
  · have hspan : Takes (spanBetween 4 4 isDigit) (Nat.toDigits 10 n ++ '\n' :: l) _ _ :=
      takes_spanBetween (by rw [length_take_takeWhile_toDigits]; omega)
    rw [length_take_takeWhile_toDigits, min_eq_left h4, drop_toDigits_append n 4 l h4] at hspan
    exact hspan.bind_refuses (refuses_char_after_digits isDigit_minus (by decide) n 4 l).bind
  · exact (refuses_spanBetween (by rw [length_take_takeWhile_toDigits]; omega)).bind

/-- No time starts with a number and the line feed after it: an hour has two digits and a
colon after them. -/
theorem refuses_time (n : Nat) (l : List Char) : Refuses time (Nat.toDigits 10 n ++ '\n' :: l) := by
  unfold time
  by_cases h2 : 2 ≤ (Nat.toDigits 10 n).length
  · have hf : (∃ v, Takes (Toml.field 2 0 23) (Nat.toDigits 10 n ++ '\n' :: l) v
        ((Nat.toDigits 10 n ++ '\n' :: l).drop 2)) ∨
        Refuses (Toml.field 2 0 23) (Nat.toDigits 10 n ++ '\n' :: l) :=
      field_takes_or_refuses (by rw [length_take_takeWhile_toDigits]; omega)
    rcases hf with ⟨v, hv⟩ | hr
    · rw [drop_toDigits_append n 2 l h2] at hv
      exact hv.discard.bind_refuses (refuses_char_after_digits isDigit_colon (by decide) n 2 l).bind
    · exact hr.discard.bind
  · have hspan : Refuses (spanBetween 2 2 isDigit) (Nat.toDigits 10 n ++ '\n' :: l) :=
      refuses_spanBetween (by rw [length_take_takeWhile_toDigits]; omega)
    exact (Refuses.get_bind fun _ => hspan.bind).discard.bind

theorem refuses_dateTime (n : Nat) (l : List Char) :
    Refuses dateTime (Nat.toDigits 10 n ++ '\n' :: l) :=
  Refuses.get_bind fun _ =>
    (((refuses_date n l).bind.label _).orElse ((refuses_time n l).label _)).bind


/-- A number is no float: neither a fraction nor an exponent follows its digits, and it is no
word. -/
theorem refuses_float (n : Nat) (l : List Char) : Refuses float (Nat.toDigits 10 n ++ '\n' :: l) := by
  have hexp : Refuses exponentPart ('\n' :: l) :=
    (refuses_satisfy fun c hc => by
      obtain rfl := Option.some.inj hc
      decide).discard.bind
  have hfraction : Refuses fraction ('\n' :: l) := (refuses_char (by simp)).bind
  have hfinite : Refuses finiteFloat (Nat.toDigits 10 n ++ '\n' :: l) :=
    Refuses.get_bind fun _ =>
      (takes_decimalText n l).discard.bind_refuses (hexp.orElse hfraction.bind).bind
  obtain ⟨d, ds, hds⟩ := List.exists_cons_of_ne_nil (Nat.toDigits_ne_nil (n := n) (b := 10))
  have hd := isDigit_iff.1 (isDigit_of_mem_toDigits (hds ▸ List.mem_cons_self))
  -- the words start with letters, the number with a digit
  have hword : ∀ (s : String) (e : Char) (es : List Char), s.toList = e :: es →
      ¬ (48 ≤ e.toNat ∧ e.toNat ≤ 57) → Refuses (literal s) (Nat.toDigits 10 n ++ '\n' :: l) := by
    intro s e es hs he
    refine refuses_literal fun ⟨t, ht⟩ => he ?_
    rw [hs, hds] at ht
    simp only [List.cons_append, List.cons.injEq] at ht
    rw [ht.1]
    exact hd
  have hsign : Refuses (satisfy (fun c => c == '+' || c == '-')) (Nat.toDigits 10 n ++ '\n' :: l) :=
    refuses_satisfy fun c hc => by
      rw [hds] at hc
      simp only [List.cons_append, List.head?_cons, Option.mem_def, Option.some.injEq] at hc
      subst hc
      simp only [Bool.or_eq_false_iff, beq_eq_false_iff_ne, ne_eq, ← Char.toNat_inj]
      simp
      omega
  have hspecial : Refuses specialFloat (Nat.toDigits 10 n ++ '\n' :: l) :=
    hsign.attempt.bind_refuses ((hword "inf" 'i' ['n', 'f'] (by simp) (by simp)).bind.orElse
      (hword "nan" 'n' ['a', 'n'] (by simp) (by simp)).bind)
  exact (hfinite.orElse hspecial).label _


/-- The text of a number below 2⁶³ has that number as its value. -/
theorem signedValue_toDigits {n : Nat} (hn : n < 2 ^ 63) :
    signedValue (String.ofList (Nat.toDigits 10 n)) = .ok n := by
  have hfilter : (Nat.toDigits 10 n).filter (· != '_') = Nat.toDigits 10 n :=
    List.filter_eq_self.2 fun d hd => by
      have := isDigit_iff.1 (isDigit_of_mem_toDigits hd)
      simp only [bne_iff_ne, ne_eq, ← Char.toNat_inj]
      simp
      omega
  obtain ⟨d, ds, hds⟩ := List.exists_cons_of_ne_nil (Nat.toDigits_ne_nil (n := n) (b := 10))
  have hd := isDigit_iff.1 (isDigit_of_mem_toDigits (hds ▸ List.mem_cons_self))
  unfold signedValue
  simp only [String.toList_ofList, hfilter]
  rw [hds]
  split
  · rename_i h
    simp only [List.cons.injEq] at h
    rw [h.1] at hd
    simp at hd
  · rename_i h
    simp only [List.cons.injEq] at h
    rw [h.1] at hd
    simp at hd
  · have hlt : n < Nat.pow 2 63 := hn
    simp only [Bool.false_eq_true, if_false]
    rw [← hds, decimalNumber_toDigits, if_pos hlt]


/-- A number below 2⁶³ and the line feed after it read as that integer: it starts with no base
prefix. -/
theorem takes_integer {n : Nat} (hn : n < 2 ^ 63) (l : List Char) :
    Takes integer (Nat.toDigits 10 n ++ '\n' :: l) (n : Int) ('\n' :: l) := by
  intro input i hi
  obtain ⟨d, ds, hds⟩ := List.exists_cons_of_ne_nil (Nat.toDigits_ne_nil (n := n) (b := 10))
  have hsecond : ∀ x ∈ (ds ++ '\n' :: l).head?, isDigit x = true ∨ x = '\n' := by
    have h := head_drop_toDigits n 1 l
    rwa [hds, List.drop_one, List.tail_cons] at h
  have hext : (input.extract i (i + 2)).toList = (d :: (ds ++ '\n' :: l)).take 2 := by
    rw [extract_toList hi 2, hds]
    rfl
  unfold integer
  rw [run_read_bind, run_get_bind, hext]
  split
  case h_4 =>
    refine ((takes_decimalText n l).bind ?_) input i hi
    rw [signedValue_toDigits hn]
    exact takes_pure _
  -- the two characters ahead are no base prefix: the second is a digit or the line feed
  all_goals
    rename_i h
    cases ds with
    | nil => simp at h
    | cons e es =>
      simp only [List.cons_append, List.take_succ_cons, List.take_zero, List.cons.injEq,
        and_true] at h
      obtain ⟨-, rfl⟩ := h
      simp [isDigit] at hsecond

theorem takes_numberOrDate {n : Nat} (hn : n < 2 ^ 63) (l : List Char) :
    Takes numberOrDate (Nat.toDigits 10 n ++ '\n' :: l) (.integer n) ('\n' :: l) :=
  Refuses.firstOf_cons (by simp) ((refuses_dateTime n l).map _)
    (Refuses.firstOf_cons (by simp) ((refuses_float n l).map _)
      (Takes.firstOf_cons _ ((takes_integer hn l).map _)))

/-- A number below 2⁶³ is read as an integer value. -/
theorem takes_value_number {depth n : Nat} (hn : n < 2 ^ 63) (l : List Char) :
    Takes (value depth) (Nat.toDigits 10 n ++ '\n' :: l) (.integer n) ('\n' :: l) := by
  rw [value]
  refine (takes_peek _).bind ?_
  obtain ⟨c, cs, hcs⟩ := List.exists_cons_of_ne_nil (Nat.toDigits_ne_nil (n := n) (b := 10))
  have hc := isDigit_of_mem_toDigits (hcs ▸ List.mem_cons_self)
  have hhead : (Nat.toDigits 10 n ++ '\n' :: l).head? = some c := by rw [hcs]; rfl
  rw [hhead]
  split
  -- a digit starts none of the other values
  any_goals (rename_i heq; obtain rfl := Option.some.inj heq; simp [isDigit] at hc; done)
  · rename_i heq
    obtain rfl := Option.some.inj heq
    rw [if_pos (by simp [hc])]
    exact takes_numberOrDate hn l
  · rename_i heq
    exact absurd heq (by simp)

theorem takes_word {α : Type} (w : String) (v : α) (hw : ∀ c ∈ w.toList, isBareKeyChar c)
    {l : List Char} (hl : ∀ c ∈ l.head?, isBareKeyChar c = false) :
    Takes (word w v) (w.toList ++ l) v l := by
  have hstop : l.takeWhile isBareKeyChar = [] ∧ l.dropWhile isBareKeyChar = l := by
    cases l with
    | nil => exact ⟨rfl, rfl⟩
    | cons d l => simp [hl d rfl]
  have hspan := takes_span isBareKeyChar (w.toList ++ l)
  rw [List.takeWhile_append_of_pos hw, List.dropWhile_append_of_pos hw, hstop.1, hstop.2,
    List.append_nil] at hspan
  refine Takes.get_bind fun _ => hspan.bind ?_
  rw [beq_self_eq_true, if_pos rfl]
  exact takes_pure v

/-- A truth value is read as the word that writes it. -/
theorem takes_value_bool {depth : Nat} (b : Bool) (l : List Char) :
    Takes (value depth) ((toString b).toList ++ '\n' :: l) (.boolean b) ('\n' :: l) := by
  rw [value]
  refine (takes_peek _).bind ?_
  have hl : ∀ c ∈ ('\n' :: l).head?, isBareKeyChar c = false := fun c hc => by
    obtain rfl := Option.some.inj hc
    decide
  cases b with
  | true =>
    have hw : "true".toList = ['t', 'r', 'u', 'e'] := by simp
    have hbare : "true".toList.all isBareKeyChar = true := by decide +kernel
    have h := takes_word "true" (Value.boolean true) (List.all_eq_true.1 hbare) hl
    rw [hw] at h
    exact ((h.label _).expecting _).expecting _
  | false =>
    have hw : "false".toList = ['f', 'a', 'l', 's', 'e'] := by simp
    have hbare : "false".toList.all isBareKeyChar = true := by decide +kernel
    have h := takes_word "false" (Value.boolean false) (List.all_eq_true.1 hbare) hl
    rw [hw] at h
    exact ((h.label _).expecting _).expecting _


theorem takes_value_string {depth : Nat} {t : String} (h : Takes string ahead t rest)
    (hhead : ahead.head? = some '"' ∨ ahead.head? = some '\'') :
    Takes (value depth) ahead (.string t) rest := by
  rw [value]
  refine (takes_peek _).bind ?_
  rcases hhead with hh | hh <;> rw [hh] <;> exact h.map _

/-- A written string starts with a quote. -/
theorem head_quoteString (text : String) :
    (quoteString text).toList.head? = some '"' ∨ (quoteString text).toList.head? = some '\'' := by
  cases hform : (StringTraits.of text.toList).form <;> simp [quoteString, hform]

/-- A text written as a string, and the line feed after it, is read as the text. -/
theorem takes_value_quoteString {depth : Nat} (text : String) (l : List Char) :
    Takes (value depth) ((quoteString text).toList ++ '\n' :: l) (.string text) ('\n' :: l) := by
  have hhead : ∀ c, (quoteString text).toList.head? = some c →
      ((quoteString text).toList ++ '\n' :: l).head? = some c := fun c hc => by
    rw [List.head?_append, hc]
    rfl
  refine takes_value_string (takes_string_quoteString text (by simp) (by simp)) ?_
  rcases head_quoteString text with h | h
  · exact .inl (hhead _ h)
  · exact .inr (hhead _ h)

/-! ## Keys -/

theorem isBlank_of_isBareKeyChar {c : Char} (h : isBareKeyChar c = true) : isBlank c = false := by
  revert h
  simp only [isBareKeyChar, isBlank, Bool.or_eq_true, Bool.and_eq_true, decide_eq_true_eq,
    beq_iff_eq, Char.le_def, UInt32.le_iff_toNat_le, Char.toNat_val, Bool.or_eq_false_iff,
    beq_eq_false_iff_ne, ne_eq, ← Char.toNat_inj]
  simp
  omega

section Keys

variable {k : List Char} (hk : k ≠ []) (hbare : ∀ c ∈ k, isBareKeyChar c)
include hk hbare

theorem takes_simpleKey_bare {l : List Char} (hl : ∀ c ∈ l.head?, isBareKeyChar c = false) :
    Takes simpleKey (k ++ l) (String.ofList k) l := by
  obtain ⟨c, k', rfl⟩ := List.exists_cons_of_ne_nil hk
  have hc := hbare c List.mem_cons_self
  have hspan : Takes (span1 isBareKeyChar) ((c :: k') ++ l) (c :: k') l :=
    takes_span1_of_all hk hbare hl
  refine (takes_peek _).bind ?_
  simp only [List.cons_append, List.head?_cons]
  split
  · rename_i heq
    obtain rfl := Option.some.inj heq
    simp [isBareKeyChar] at hc
  · rename_i heq
    obtain rfl := Option.some.inj heq
    simp [isBareKeyChar] at hc
  · exact hspan.map _

/-- A bare key, and the blanks after it, read as a key of one part. -/
theorem takes_key_bare {l : List Char} (hl : ∀ c ∈ l.head?, isBareKeyChar c = false)
    (hdot : (l.dropWhile isBlank).head? ≠ some '.') :
    Takes key (k ++ l) [String.ofList k] (l.dropWhile isBlank) := by
  obtain ⟨c, k', rfl⟩ := List.exists_cons_of_ne_nil hk
  have hpart : Takes (do blanks; let k ← simpleKey; blanks; pure k) ((c :: k') ++ l)
      (String.ofList (c :: k')) (l.dropWhile isBlank) :=
    (takes_blanks_none (isBlank_of_isBareKeyChar (hbare c List.mem_cons_self)) _).bind
      ((takes_simpleKey_bare hk hbare hl).bind ((takes_blanks l).bind (takes_pure _)))
  exact (Pieces.takes_separated1 hpart (.stop (refuses_char hdot).bind)).label _

theorem takes_boundedKey_bare {l : List Char} (hl : ∀ c ∈ l.head?, isBareKeyChar c = false)
    (hdot : (l.dropWhile isBlank).head? ≠ some '.') :
    Takes boundedKey (k ++ l) [String.ofList k] (l.dropWhile isBlank) := by
  obtain ⟨c, k', rfl⟩ := List.exists_cons_of_ne_nil hk
  refine (takes_blanks_none (isBlank_of_isBareKeyChar (hbare c List.mem_cons_self)) _).bind
    (Takes.get_bind fun _ => (takes_key_bare hk hbare hl hdot).bind ?_)
  rw [if_neg (by simp [nestingLimit])]
  exact takes_pure _

end Keys

/-! ## Lines -/

theorem dropWhile_isBlank_of_head {l : List Char} (h : ∀ c ∈ l.head?, isBlank c = false) :
    l.dropWhile isBlank = l := by
  cases l with
  | nil => rfl
  | cons c l => simp [h c rfl]

theorem takes_blanks_of_head {l : List Char} (h : ∀ c ∈ l.head?, isBlank c = false) :
    Takes blanks l () l := by
  simpa only [dropWhile_isBlank_of_head h] using takes_blanks l

section Lines

variable {k : List Char} (hk : k ≠ []) (hbare : ∀ c ∈ k, isBareKeyChar c)
include hk hbare

/-- A pair `k = v` on its line, with the value's text `vt` read as `v`. -/
theorem takes_pair {vt : List Char} {v : Value} (hvt : ∀ c ∈ vt.head?, isBlank c = false)
    (hv : Takes (value (nestingLimit - 1)) (vt ++ '\n' :: rest) v ('\n' :: rest)) :
    Takes pair (k ++ ' ' :: '=' :: ' ' :: (vt ++ '\n' :: rest)) ([String.ofList k], v) rest := by
  have hkey := takes_boundedKey_bare hk hbare (l := ' ' :: '=' :: ' ' :: (vt ++ '\n' :: rest))
    (by simp [isBareKeyChar]) (by simp [isBlank])
  have hrest : ∀ c ∈ (vt ++ '\n' :: rest).head?, isBlank c = false := by
    cases vt with
    | nil => simp [isBlank]
    | cons c vt => exact hvt
  have hsep : Takes blanks (' ' :: (vt ++ '\n' :: rest)) () (vt ++ '\n' :: rest) := by
    simpa [isBlank, dropWhile_isBlank_of_head hrest] using takes_blanks (' ' :: (vt ++ '\n' :: rest))
  simp only [List.dropWhile_cons, isBlank] at hkey
  refine hkey.bind (Takes.commit ?_)
  refine (((takes_char '=' _).expecting _).expecting _).bind (hsep.bind (hv.bind ?_))
  exact (takes_lineRestExpected_newline rest).bind (takes_pure _)

theorem takes_pairLine {vt : List Char} {v : Value} {a a' : Assembly}
    (hvt : ∀ c ∈ vt.head?, isBlank c = false)
    (hv : Takes (value (nestingLimit - 1)) (vt ++ '\n' :: rest) v ('\n' :: rest))
    (ha : a.addPair [String.ofList k] v = .ok a') :
    Takes (pairLine a) (k ++ ' ' :: '=' :: ' ' :: (vt ++ '\n' :: rest)) a' rest := by
  refine Takes.get_bind fun _ => (takes_pair hk hbare hvt hv).bind ?_
  simp only [ha]
  exact takes_pure _

theorem takes_headerRest :
    Takes (headerRest "]") (k ++ ']' :: '\n' :: rest) [String.ofList k] rest := by
  have hkey := takes_boundedKey_bare hk hbare (l := ']' :: '\n' :: rest)
    (by simp [isBareKeyChar]) (by simp [isBlank])
  have hclose : Takes (literal "]") (']' :: '\n' :: rest) () ('\n' :: rest) := by
    simpa using takes_literal "]" ('\n' :: rest)
  simp only [List.dropWhile_cons, isBlank] at hkey
  refine hkey.commit.bind (((hclose.commit.expecting _).expecting _).bind ?_)
  exact (takes_lineRestExpected_newline rest).commit.bind (takes_pure _)

/-- A header `[k]` on its line opens the table of `k`. -/
theorem takes_headerLine {a a' : Assembly} (ha : a.openTable [String.ofList k] = .ok a') :
    Takes (headerLine a) ('[' :: (k ++ ']' :: '\n' :: rest)) a' rest := by
  refine Takes.label _ ?_
  intro input i hi
  have hnext : input[i + 1]? = k.head? := by
    rw [getElem?_eq_head? (drop_succ_of_cons hi), List.head?_append_of_ne_nil _ hk]
  obtain ⟨c, k', rfl⟩ := List.exists_cons_of_ne_nil hk
  have hc : c ≠ '[' := by
    rintro rfl
    simp [isBareKeyChar] at hbare
  rw [run_get_bind, run_read_bind, hnext]
  simp only [List.head?_cons, Option.some.injEq, beq_iff_eq, hc, ↓reduceIte]
  refine ((takes_char '[' _).bind ((takes_headerRest hk hbare).bind ((takes_pure _).bind ?_)))
    input i hi
  rw [ha]
  exact takes_pure a'

end Lines

theorem takes_lineItem_header {a a' : Assembly} {l : List Char}
    (h : Takes (headerLine a) ('[' :: l) a' rest) : Takes (lineItem a) ('[' :: l) a' rest :=
  (takes_peek _).bind h.commit

theorem takes_lineItem_blank (a : Assembly) (l : List Char) :
    Takes (lineItem a) ('\n' :: l) a l :=
  (takes_peek _).bind ((takes_lineBreak l).bind (takes_pure a))

theorem takes_lineItem_pair {a a' : Assembly} {c : Char} {l : List Char}
    (hc : isBareKeyChar c = true) (h : Takes (pairLine a) (c :: l) a' rest) :
    Takes (lineItem a) (c :: l) a' rest := by
  -- a bare key character starts no comment, header or line break
  have hnot : ∀ d ∈ ['#', '[', '\n', '\r'], c ≠ d := by
    rintro d hd rfl
    simp only [List.mem_cons, List.not_mem_nil, or_false] at hd
    rcases hd with rfl | rfl | rfl | rfl <;> simp [isBareKeyChar] at hc
  refine (takes_peek _).bind ?_
  simp only [List.head?_cons]
  split
  next heq => exact absurd (Option.some.inj heq) (hnot _ (by simp))
  next heq => exact absurd (Option.some.inj heq) (hnot _ (by simp))
  next heq => exact absurd (Option.some.inj heq) (hnot _ (by simp))
  next heq => exact absurd (Option.some.inj heq) (hnot _ (by simp))
  next => exact h.commit
  next heq => cases heq

theorem refuses_lineItem_nil (a : Assembly) : Refuses (lineItem a) [] :=
  (takes_peek []).bind_refuses (refuses_failHere _)

/-! ## Documents of lines -/

/-- A line of a document as a writer lays it out: a pair of a bare key and the text of its
value, a header of a bare key, or a blank line. -/
inductive DocLine where
  | pair (key : String) (text : List Char) (v : Value)
  | header (key : String)
  | blank

namespace DocLine

/-- The characters of a line, its line feed included. -/
def chars : DocLine → List Char
  | pair k t _ => k.toList ++ ' ' :: '=' :: ' ' :: (t ++ ['\n'])
  | header k => '[' :: (k.toList ++ [']', '\n'])
  | blank => ['\n']

/-- What reading a line does to the assembly. -/
def place : DocLine → Assembly → Except Conflict Assembly
  | pair k _ v, a => a.addPair [k] v
  | header k, a => a.openTable [k]
  | blank, a => .ok a

/-- A line reads as itself: its keys are bare, and a pair's text is read as its value up to
the line feed, without blanks before it. -/
def WellFormed : DocLine → Prop
  | pair k t v => IsBareKey k ∧ (∀ c ∈ t.head?, isBlank c = false) ∧
      ∀ rest, Takes (value (nestingLimit - 1)) (t ++ '\n' :: rest) v ('\n' :: rest)
  | header k => IsBareKey k
  | blank => True

/-- A line starts with neither a blank nor a byte order mark. -/
theorem head_chars {line : DocLine} (hw : line.WellFormed) :
    ∃ c t, line.chars = c :: t ∧ isBlank c = false ∧ c ≠ '\uFEFF' := by
  cases line with
  | pair k t v =>
    obtain ⟨⟨hk, hbare⟩, -⟩ := hw
    obtain ⟨c, k', hck⟩ := List.exists_cons_of_ne_nil hk
    have hc := hbare c (by simp [hck])
    refine ⟨c, k' ++ ' ' :: '=' :: ' ' :: (t ++ ['\n']), by simp [chars, hck],
      isBlank_of_isBareKeyChar hc, ?_⟩
    rintro rfl
    simp [isBareKeyChar] at hc
  | header k => exact ⟨'[', _, rfl, by simp [isBlank], by simp⟩
  | blank => exact ⟨'\n', [], rfl, by simp [isBlank], by simp⟩

theorem takes_lineItem {line : DocLine} (hw : line.WellFormed) {a a' : Assembly}
    (ha : line.place a = .ok a') (rest : List Char) :
    Takes (lineItem a) (line.chars ++ rest) a' rest := by
  cases line with
  | pair k t v =>
    obtain ⟨⟨hk, hbare⟩, ht, hv⟩ := hw
    have h := takes_pairLine hk hbare ht (hv rest) (by rwa [String.ofList_toList])
    obtain ⟨c, k', hck⟩ := List.exists_cons_of_ne_nil hk
    simp only [chars, List.append_assoc, List.cons_append, List.nil_append]
    rw [hck] at h ⊢
    exact takes_lineItem_pair (hbare c (by simp [hck])) h
  | header k =>
    obtain ⟨hk, hbare⟩ := hw
    simp only [chars, List.cons_append, List.append_assoc, List.nil_append]
    exact takes_lineItem_header (takes_headerLine hk hbare (by rwa [String.ofList_toList]))
  | blank =>
    cases ha
    exact takes_lineItem_blank a rest

variable {lines : List DocLine} (hw : ∀ line ∈ lines, line.WellFormed)
include hw

theorem head_flatMap_chars :
    ∀ c ∈ (lines.flatMap chars).head?, isBlank c = false ∧ c ≠ '\uFEFF' := by
  cases lines with
  | nil => simp
  | cons line lines =>
    obtain ⟨c, t, hct, hb, hbom⟩ := head_chars (hw line List.mem_cons_self)
    simp [hct, hb, hbom]

theorem length_le_flatMap_chars : lines.length ≤ (lines.flatMap chars).length := by
  induction lines with
  | nil => simp
  | cons line lines ih =>
    obtain ⟨c, t, hct, -⟩ := head_chars (hw line List.mem_cons_self)
    have := ih fun l hl => hw l (List.mem_cons_of_mem _ hl)
    simp only [List.flatMap_cons, hct, List.length_cons, List.cons_append, List.length_append]
    omega

/-- The line items of well-formed lines build the assembly that placing the lines builds,
when there is fuel for every line. -/
theorem takes_lineItems {a a' : Assembly}
    (ha : lines.foldlM (fun a line => line.place a) a = .ok a') {fuel : Nat}
    (hfuel : lines.length ≤ fuel) : Takes (lineItems fuel a) (lines.flatMap chars) a' [] := by
  induction lines generalizing a fuel with
  | nil =>
    obtain rfl : a' = a := by
      simp only [List.foldlM_nil] at ha
      exact (Except.ok.inj ha).symm
    cases fuel with
    | zero => exact takes_pure _
    | succ f => exact (refuses_lineItem_nil _).bind.attempt.bind (takes_pure _)
  | cons line lines ih =>
    obtain ⟨f, rfl⟩ : ∃ f, fuel = f + 1 := ⟨fuel - 1, by simp at hfuel; omega⟩
    have hrest : ∀ l ∈ lines, l.WellFormed := fun l hl => hw l (List.mem_cons_of_mem _ hl)
    rw [List.foldlM_cons] at ha
    cases h₁ : line.place a with
    | error e =>
      rw [h₁] at ha
      cases ha
    | ok a₁ =>
      rw [h₁] at ha
      have hblanks : Takes blanks (lines.flatMap chars) () (lines.flatMap chars) :=
        takes_blanks_of_head fun c hc => (head_flatMap_chars hrest c hc).1
      have hstep : Takes (attempt (do let a ← lineItem a; blanks; pure a))
          (line.chars ++ lines.flatMap chars) (some a₁) (lines.flatMap chars) := ((takes_lineItem (hw line List.mem_cons_self) h₁ _).bind
        (hblanks.bind (takes_pure a₁))).attempt
      rw [List.flatMap_cons]
      exact hstep.bind (ih hrest ha (by simp at hfuel; omega))

theorem takes_document {a' : Assembly}
    (ha : lines.foldlM (fun a line => line.place a) {} = .ok a') :
    Takes document (lines.flatMap chars) a' [] := by
  have hhead := head_flatMap_chars hw
  have hbom : Refuses (char '\uFEFF') (lines.flatMap chars) :=
    refuses_char fun h => (hhead _ h).2 rfl
  refine hbom.attempt.discard.bind
    ((takes_blanks_of_head fun c hc => (hhead c hc).1).bind ?_)
  refine (takes_roundsLeft _).bind
    ((takes_lineItems hw ha (by have := length_le_flatMap_chars hw; omega)).bind ?_)
  exact takes_eof.bind (takes_pure a')

/-- A document laid out as well-formed lines parses to the table that placing its lines
builds. -/
theorem parse_flatMap_chars {a' : Assembly} {es : List (String × Value)}
    (ha : lines.foldlM (fun a line => line.place a) {} = .ok a')
    (hroot : a'.root.toValue = .table es) :
    parse (String.ofList (lines.flatMap chars)) = .ok es := by
  have hdoc : document.runOn (String.ofList (lines.flatMap chars)).toList.toArray = .ok a' := by
    obtain ⟨j, hrun, -⟩ := takes_document hw ha (String.ofList (lines.flatMap chars)).toList.toArray 0 (by simp)
    show (run document _ 0).map (·.1) = _
    rw [hrun]
    rfl
  -- `parse` is opened by `delta`: its equation lemma is slow to generate
  delta parse
  rw [hdoc]
  simp only [hroot]

end DocLine

end DocSuite.Toml
