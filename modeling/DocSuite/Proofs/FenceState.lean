import DocSuite.Proofs.Fence
import Mathlib.Algebra.Ring.Parity
/-!
# The fence scanner from one call to the next

`Fences.next` keeps its state between calls while each call starts with an empty buffer, so
what a caller can observe after any number of calls is the state and the lines left.

`scan_cases` says everything one call can do: read every line left and find no block, or stop
right after a marker that closes a block. Each marker line read toggles the state
(`FenceState.passOver`). From that, by induction on the number of calls, `afterCalls_reads`:
the lines read so far are a prefix of the text and the state is the one they toggle to.

`state_tracks_marker_parity` collects what follows: the scanner is inside a block exactly when
it has read an odd number of marker lines; a call that returns a block starts and ends
outside, after the marker that closes it; once a call returns nothing, so does every later
call, and the state stays as it was, inside a block exactly when the whole text has an odd
number of marker lines. That happens at the latest after as many calls as the text has lines.
-/

namespace DocSuite

open DocSuite.Text

/-! ## Marker lines toggle the state -/

namespace FenceState

/-- The other state: a marker line opens a block from outside and closes it from inside. -/
def toggle : FenceState → FenceState
  | .outside => .insideFence
  | .insideFence => .outside

@[simp] theorem toggle_toggle (st : FenceState) : st.toggle.toggle = st := by
  cases st <;> rfl

/-- The state after reading some lines from `st`: each marker line toggles it. -/
def passOver (st : FenceState) (ls : List String) : FenceState :=
  ls.foldl (fun st l => if isMarkerLine l then st.toggle else st) st

@[simp] theorem passOver_nil (st : FenceState) : st.passOver [] = st := rfl

theorem passOver_cons (st : FenceState) (l : String) (ls : List String) :
    st.passOver (l :: ls) = (if isMarkerLine l then st.toggle else st).passOver ls := rfl

theorem passOver_append (st : FenceState) (xs ys : List String) :
    st.passOver (xs ++ ys) = (st.passOver xs).passOver ys :=
  List.foldl_append

/-- Only the parity of the number of marker lines matters. -/
theorem passOver_eq (st : FenceState) (ls : List String) :
    st.passOver ls = if Even (ls.countP isMarkerLine) then st else st.toggle := by
  induction ls generalizing st with
  | nil => simp
  | cons l ls ih =>
    rw [passOver_cons, ih, List.countP_cons]
    by_cases hm : isMarkerLine l
    · simp only [hm, if_true, Nat.even_add_one]
      split <;> simp_all
    · simp [hm]

theorem outside_passOver_eq_insideFence (ls : List String) :
    outside.passOver ls = .insideFence ↔ Odd (ls.countP isMarkerLine) := by
  rw [passOver_eq, ← Nat.not_even_iff_odd]
  split <;> simp_all [toggle]

end FenceState

namespace Fences

/-! ## One call -/

/-- A line that does not close a block is read, and the call goes on after it. -/
theorem scan_cons_of_not_closing {st : FenceState} {l : String}
    (h : st = .outside ∨ isMarkerLine l = false) (buf ls : List String) :
    ∃ buf', scan st buf (l :: ls) = scan (st.passOver [l]) buf' ls := by
  rcases h with rfl | hl
  · by_cases hm : isMarkerLine l
    · exact ⟨buf, by simp [scan, hm, FenceState.passOver, FenceState.toggle]⟩
    · exact ⟨buf, by simp [scan, hm, FenceState.passOver]⟩
  · cases st with
    | outside => exact ⟨buf, by simp [scan, hl, FenceState.passOver]⟩
    | insideFence => exact ⟨l :: buf, by simp [scan, hl, FenceState.passOver]⟩

/-- Everything one call can do: read every line left and find no block, leaving the state
those lines toggle to; or return a block, stopping right after a marker `m` that closes it
(the lines `c` before `m` leave the scanner inside a block), and leave the scanner outside. -/
theorem scan_cases (st : FenceState) (buf ls : List String) :
    ((scan st buf ls).1 = none ∧ (scan st buf ls).2 = (st.passOver ls, [])) ∨
    ((scan st buf ls).1.isSome ∧ ∃ c m, ls = c ++ m :: (scan st buf ls).2.2 ∧
      isMarkerLine m = true ∧ st.passOver c = .insideFence ∧
      (scan st buf ls).2.1 = .outside) := by
  induction ls generalizing st buf with
  | nil => exact .inl ⟨by simp, by simp⟩
  | cons l ls ih =>
    by_cases hclose : st = .insideFence ∧ isMarkerLine l = true
    · -- the line closes the open block: the call ends here
      obtain ⟨rfl, hm⟩ := hclose
      refine .inr ⟨by simp [scan_inside_marker hm], [], l, ?_⟩
      simp [scan_inside_marker hm, hm]
    · have hnot : st = .outside ∨ isMarkerLine l = false := by
        cases st <;> simp_all
      obtain ⟨buf', hstep⟩ := scan_cons_of_not_closing hnot buf ls
      rw [hstep]
      rcases ih (st.passOver [l]) buf' with ⟨hnone, hrest⟩ | ⟨hsome, c, m, hls, hm, hc, hst⟩
      · refine .inl ⟨hnone, ?_⟩
        rw [hrest, ← FenceState.passOver_append, List.singleton_append]
      · refine .inr ⟨hsome, l :: c, m, by simp [← hls], hm, ?_, hst⟩
        rw [← List.singleton_append, FenceState.passOver_append, hc]

theorem next_eq (f : Fences) :
    f.next = ((scan f.state [] f.lines).1,
      ⟨(scan f.state [] f.lines).2.2, (scan f.state [] f.lines).2.1⟩) := rfl

/-- A call reads a prefix of the lines left, and the state is the one they toggle to. -/
theorem next_reads (f : Fences) :
    ∃ read, f.lines = read ++ f.next.2.lines ∧ f.next.2.state = f.state.passOver read := by
  rw [next_eq]
  rcases scan_cases f.state [] f.lines with ⟨-, hrest⟩ | ⟨-, c, m, hls, hm, hc, hst⟩
  · exact ⟨f.lines, by simp [hrest], by simp [hrest]⟩
  · refine ⟨c ++ [m], by simpa using hls, ?_⟩
    simp [hst, FenceState.passOver_append, hc, FenceState.passOver_cons, hm,
      FenceState.toggle]

/-- A call that returns a block ends outside, right after a marker `m` that closes the block:
the lines before `m` leave the scanner inside a block. -/
theorem next_some {f : Fences} {b : String} (h : f.next.1 = some b) :
    f.next.2.state = .outside ∧ ∃ c m, f.lines = c ++ m :: f.next.2.lines ∧
      isMarkerLine m = true ∧ f.state.passOver c = .insideFence := by
  rw [next_eq] at h ⊢
  rcases scan_cases f.state [] f.lines with ⟨hnone, -⟩ | ⟨-, c, m, hls, hm, hc, hst⟩
  · rw [hnone] at h
    cases h
  · exact ⟨hst, c, m, hls, hm, hc⟩

/-- A call that returns nothing has read every line left. -/
theorem next_none {f : Fences} (h : f.next.1 = none) :
    f.next.2.lines = [] ∧ f.next.2.state = f.state.passOver f.lines := by
  rw [next_eq] at h ⊢
  rcases scan_cases f.state [] f.lines with ⟨-, hrest⟩ | ⟨hsome, -⟩
  · simp [hrest]
  · simp only at h
    simp [h] at hsome

/-- With no lines left, a call returns nothing and changes nothing. -/
theorem next_of_lines_nil {f : Fences} (h : f.lines = []) : f.next = (none, f) := by
  obtain ⟨ls, st⟩ := f
  subst h
  rfl

/-- After any call the scanner is outside a block, or has read every line. -/
theorem next_outside_or_exhausted (f : Fences) :
    f.next.2.state = .outside ∨ f.next.2.lines = [] := by
  cases h : f.next.1 with
  | none => exact .inr (next_none h).1
  | some b => exact .inl (next_some h).1

/-! ## Many calls -/

/-- The scanner after `k` calls of `next`. -/
def afterCalls (k : Nat) (f : Fences) : Fences := (fun g : Fences => g.next.2)^[k] f

@[simp] theorem afterCalls_zero (f : Fences) : afterCalls 0 f = f := rfl

theorem afterCalls_succ (k : Nat) (f : Fences) :
    afterCalls (k + 1) f = (afterCalls k f).next.2 :=
  Function.iterate_succ_apply' _ k f

/-- The lines read by the first `k` calls are a prefix of the lines, and the state is the one
they toggle to. -/
theorem afterCalls_reads (k : Nat) (f : Fences) :
    ∃ read, f.lines = read ++ (afterCalls k f).lines ∧
      (afterCalls k f).state = f.state.passOver read := by
  induction k with
  | zero => exact ⟨[], by simp, by simp⟩
  | succ k ih =>
    obtain ⟨read, hlines, hstate⟩ := ih
    obtain ⟨more, hmore, hnext⟩ := next_reads (afterCalls k f)
    refine ⟨read ++ more, ?_, ?_⟩
    · rw [afterCalls_succ, hlines, hmore, List.append_assoc]
    · rw [afterCalls_succ, hnext, hstate, FenceState.passOver_append]

/-- A scanner with no lines left stays as it is. -/
theorem afterCalls_of_lines_nil {f : Fences} (h : f.lines = []) (k : Nat) :
    afterCalls k f = f := by
  induction k with
  | zero => rfl
  | succ k ih => rw [afterCalls_succ, ih, next_of_lines_nil h]

/-- Each call that returns a block reads at least one line, so after `k` calls either every
line has been read or at least `k` lines have. -/
theorem afterCalls_exhausted_or_read (f : Fences) (k : Nat) :
    (afterCalls k f).lines = [] ∨ (afterCalls k f).lines.length + k ≤ f.lines.length := by
  induction k with
  | zero => simp
  | succ k ih =>
    rw [afterCalls_succ]
    cases h : (afterCalls k f).next.1 with
    | none => exact .inl (next_none h).1
    | some b =>
      obtain ⟨-, c, m, hls, -⟩ := next_some h
      rcases ih with hnil | hle
      · simp [hnil] at hls
      · have hlen := congrArg List.length hls
        simp only [List.length_append, List.length_cons] at hlen
        exact .inr (by omega)

/-- After as many calls as there are lines, every line has been read. -/
theorem afterCalls_length_lines (f : Fences) : (afterCalls f.lines.length f).lines = [] := by
  rcases afterCalls_exhausted_or_read f f.lines.length with hnil | hle
  · exact hnil
  · exact List.eq_nil_of_length_eq_zero (by omega)

/-- The scanner of a text, after any number of calls, is outside a block or has read every
line. -/
theorem afterCalls_outside_or_exhausted (text : String) (k : Nat) :
    (afterCalls k (ofText text)).state = .outside ∨ (afterCalls k (ofText text)).lines = [] := by
  cases k with
  | zero => exact .inl rfl
  | succ k =>
    rw [afterCalls_succ]
    exact next_outside_or_exhausted _

/-- Every call up to the first one that returns nothing starts outside a block. -/
theorem afterCalls_outside (text : String) (k : Nat)
    (h : ∀ j < k, (afterCalls j (ofText text)).next.1 ≠ none) :
    (afterCalls k (ofText text)).state = .outside := by
  cases k with
  | zero => rfl
  | succ k =>
    obtain ⟨b, hb⟩ := Option.ne_none_iff_exists'.1 (h k (Nat.lt_succ_self k))
    rw [afterCalls_succ]
    exact (next_some hb).1

/-! ## What a caller sees -/

/-- What a caller of `next` on the scanner of a text can observe. After any number `k` of
calls, the lines read so far are a prefix of the text, and the scanner is inside a block
exactly when they hold an odd number of marker lines. A call that returns a block starts and
ends outside a block and has read up to a marker closing it: the lines it read before that
marker hold an odd number of markers. Every call up to the first that returns nothing starts
outside. Once a call returns nothing, every later call returns nothing and leaves the state
as it is, and that state is inside a block exactly when the whole text has an odd number of
marker lines. The call after as many calls as the text has lines returns nothing. -/
theorem state_tracks_marker_parity (text : String) (k : Nat) :
    let f := afterCalls k (ofText text)
    (∃ read, splitLines text = read ++ f.lines ∧
      (f.state = .insideFence ↔ Odd (read.countP opensFence))) ∧
    (∀ b, f.next.1 = some b →
      f.state = .outside ∧ f.next.2.state = .outside ∧
      ∃ before m, f.lines = before ++ m :: f.next.2.lines ∧ opensFence m = true ∧
        Odd (before.countP opensFence)) ∧
    ((∀ j < k, (afterCalls j (ofText text)).next.1 ≠ none) → f.state = .outside) ∧
    (f.next.1 = none →
      (∀ j, (afterCalls j f.next.2).next.1 = none ∧
        (afterCalls j f.next.2).state = f.next.2.state) ∧
      (f.next.2.state = .insideFence ↔ Odd ((splitLines text).countP opensFence))) ∧
    (afterCalls (splitLines text).length (ofText text)).next.1 = none := by
  intro f
  rw [opensFence_eq_isMarkerLine]
  obtain ⟨read, hlines, hstate⟩ := afterCalls_reads k (ofText text)
  refine ⟨⟨read, hlines, ?_⟩, fun b hb => ?_, afterCalls_outside text k, fun hnone => ?_, ?_⟩
  · rw [hstate]
    exact FenceState.outside_passOver_eq_insideFence read
  · -- a call with lines left starts outside, and reads to a closing marker
    obtain ⟨hout, c, m, hls, hm, hc⟩ := next_some hb
    have hstart : f.state = .outside := by
      rcases afterCalls_outside_or_exhausted text k with hst | hnil
      · exact hst
      · simp [f, hnil] at hls
    rw [hstart] at hc
    exact ⟨hstart, hout, c, m, hls, hm, (FenceState.outside_passOver_eq_insideFence c).1 hc⟩
  · -- exhausted: nothing changes any more, and every line has been read
    obtain ⟨hnil, hend⟩ := next_none hnone
    refine ⟨fun j => ?_, ?_⟩
    · rw [afterCalls_of_lines_nil hnil j, next_of_lines_nil hnil]
      exact ⟨rfl, rfl⟩
    · rw [hend, hstate, ← FenceState.passOver_append, ← hlines]
      exact FenceState.outside_passOver_eq_insideFence _
  · have hnil : (afterCalls (splitLines text).length (ofText text)).lines = [] :=
      afterCalls_length_lines (ofText text)
    rw [next_of_lines_nil hnil]

/-- The scanner of a text with three markers: one block, then nothing, inside a block. -/
example : (afterCalls 2 (ofText "```\nkept();\n```\n```\nlost();\n")).state = .insideFence := by
  decide

end Fences

end DocSuite
