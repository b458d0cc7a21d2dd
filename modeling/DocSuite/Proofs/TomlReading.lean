import Mathlib
import DocSuite.Toml.Document
/-!
# Reading TOML text

What the TOML readers take from well-written text. A run of a reader starts at an index of the
document's characters and either yields a value at a later index or fails. The reader lemmas
are stated by what a reader leaves, so that no index appears in them: `Takes p ahead a rest`
says that on every document whose characters from the current index on are `ahead`, `p`
yields `a` and stops before `rest`; `Refuses p ahead` says that it fails there without
committing, so that an alternative is tried from the same place. Sequencing is `Takes.bind`.

A loop runs its body while the body succeeds. `Pieces p ahead as rest` is a chain of runs of
`p`, each reading at least one character, that ends where `p` refuses; the loops' fuel, one
more than the characters left, always covers such a chain (`Pieces.takes_many`).
-/

namespace DocSuite.Toml

open Reader

/-! ## Runs -/

/-- A run of `p` on the characters `input` from index `i`. -/
def run {α : Type} (p : Reader α) (input : Array Char) (i : Nat) : Except Failure (α × Nat) :=
  (p.run input).run i

/-- `p` takes `a` from the characters `ahead` and leaves `rest`, whatever came before. -/
def Takes {α : Type} (p : Reader α) (ahead : List Char) (a : α) (rest : List Char) : Prop :=
  ∀ input i, input.toList.drop i = ahead →
    ∃ j, run p input i = .ok (a, j) ∧ input.toList.drop j = rest

/-- `p` fails on the characters `ahead` without committing, whatever came before. -/
def Refuses {α : Type} (p : Reader α) (ahead : List Char) : Prop :=
  ∀ input i, input.toList.drop i = ahead → ∃ f, run p input i = .error f ∧ f.committed = false

variable {α β : Type} {ahead mid rest : List Char}

theorem run_bind (p : Reader α) (f : α → Reader β) (input : Array Char) (i : Nat) :
    run (p >>= f) input i = (run p input i).bind fun r => run (f r.1) input r.2 := rfl

theorem run_tryCatch_ok {p : Reader α} {c : Failure → Reader α} {input : Array Char} {i : Nat}
    {r : α × Nat} (h : run p input i = .ok r) : run (tryCatch p c) input i = .ok r := by
  simp only [run, MonadExcept.tryCatch, tryCatchThe, MonadExceptOf.tryCatch, ReaderT.run,
    StateT.run] at h ⊢
  rw [h]
  rfl

theorem run_tryCatch_error {p : Reader α} {c : Failure → Reader α} {input : Array Char}
    {i : Nat} {f : Failure} (h : run p input i = .error f) :
    run (tryCatch p c) input i = run (c f) input i := by
  simp only [run, MonadExcept.tryCatch, tryCatchThe, MonadExceptOf.tryCatch, ReaderT.run,
    StateT.run] at h ⊢
  rw [h]
  rfl

theorem Takes.bind {p : Reader α} {f : α → Reader β} {a : α} {b : β}
    (hp : Takes p ahead a mid) (hf : Takes (f a) mid b rest) : Takes (p >>= f) ahead b rest := by
  intro input i hi
  obtain ⟨j, hpj, hj⟩ := hp input i hi
  obtain ⟨k, hfk, hk⟩ := hf input j hj
  exact ⟨k, by rw [run_bind, hpj]; exact hfk, hk⟩

theorem takes_pure (a : α) : Takes (pure a : Reader α) ahead a ahead :=
  fun _ i hi => ⟨i, rfl, hi⟩

theorem Takes.map {p : Reader α} {a : α} (f : α → β) (hp : Takes p ahead a rest) :
    Takes (f <$> p) ahead (f a) rest := by
  rw [← bind_pure_comp]
  exact hp.bind (takes_pure _)

theorem Takes.seq {p : Reader α} {q : Reader β} {a : α} {b : β}
    (hp : Takes p ahead a mid) (hq : Takes q mid b rest) : Takes (p *> q) ahead b rest := by
  rw [seqRight_eq_bind]
  exact hp.bind hq

theorem Refuses.bind {p : Reader α} {f : α → Reader β} (hp : Refuses p ahead) :
    Refuses (p >>= f) ahead := by
  intro input i hi
  obtain ⟨e, hpe, hc⟩ := hp input i hi
  exact ⟨e, by rw [run_bind, hpe]; rfl, hc⟩

theorem Takes.bind_refuses {p : Reader α} {f : α → Reader β} {a : α}
    (hp : Takes p ahead a mid) (hf : Refuses (f a) mid) : Refuses (p >>= f) ahead := by
  intro input i hi
  obtain ⟨j, hpj, hj⟩ := hp input i hi
  obtain ⟨e, hfe, hc⟩ := hf input j hj
  exact ⟨e, by rw [run_bind, hpj]; exact hfe, hc⟩

theorem Refuses.map {p : Reader α} (f : α → β) (hp : Refuses p ahead) :
    Refuses (f <$> p) ahead := by
  rw [← bind_pure_comp]
  exact hp.bind

/-! ## Catching failures -/

theorem Takes.tryCatch {p : Reader α} {a : α} (c : Failure → Reader α)
    (hp : Takes p ahead a rest) : Takes (tryCatch p c) ahead a rest := by
  intro input i hi
  obtain ⟨j, hpj, hj⟩ := hp input i hi
  exact ⟨j, run_tryCatch_ok hpj, hj⟩

theorem Takes.note {p : Reader α} {a : α} (n : Note) (hp : Takes p ahead a rest) :
    Takes (note n p) ahead a rest :=
  hp.tryCatch _

/-- A note leaves a failure uncommitted. -/
theorem Refuses.note {p : Reader α} (n : Note) (hp : Refuses p ahead) :
    Refuses (note n p) ahead := by
  intro input i hi
  obtain ⟨e, hpe, hc⟩ := hp input i hi
  exact ⟨_, (run_tryCatch_error hpe).trans rfl, hc⟩

theorem Takes.label {p : Reader α} {a : α} (s : String) (hp : Takes p ahead a rest) :
    Takes (label s p) ahead a rest :=
  hp.note _

theorem Refuses.label {p : Reader α} (s : String) (hp : Refuses p ahead) :
    Refuses (label s p) ahead :=
  hp.note _

theorem Takes.expecting {p : Reader α} {a : α} (e : Expectation) (hp : Takes p ahead a rest) :
    Takes (expecting e p) ahead a rest :=
  hp.note _

theorem Refuses.expecting {p : Reader α} (e : Expectation) (hp : Refuses p ahead) :
    Refuses (expecting e p) ahead :=
  hp.note _

theorem Takes.commit {p : Reader α} {a : α} (hp : Takes p ahead a rest) :
    Takes (commit p) ahead a rest :=
  hp.tryCatch _

theorem Takes.attempt {p : Reader α} {a : α} (hp : Takes p ahead a rest) :
    Takes (attempt p) ahead (some a) rest :=
  (hp.map some).tryCatch _

/-- An uncommitted failure is caught where the attempt began. -/
theorem Refuses.attempt {p : Reader α} (hp : Refuses p ahead) :
    Takes (attempt p) ahead none ahead := by
  intro input i hi
  obtain ⟨e, hpe, hc⟩ := hp input i hi
  refine ⟨i, ?_, hi⟩
  have hmap : run (some <$> p) input i = .error e := by
    rw [← bind_pure_comp, run_bind, hpe]
    rfl
  rw [Reader.attempt, run_tryCatch_error hmap, hc]
  rfl

theorem Takes.orElse {p : Reader α} {a : α} (q : Reader α) (hp : Takes p ahead a rest) :
    Takes (orElse p q) ahead a rest :=
  hp.attempt.bind (takes_pure a)

theorem Refuses.orElse_takes {p q : Reader α} {a : α} (hp : Refuses p ahead)
    (hq : Takes q ahead a rest) : Takes (orElse p q) ahead a rest :=
  hp.attempt.bind hq

theorem Refuses.orElse {p q : Reader α} (hp : Refuses p ahead) (hq : Refuses q ahead) :
    Refuses (orElse p q) ahead :=
  hp.attempt.bind_refuses hq

theorem Takes.firstOf_cons {p : Reader α} {a : α} (ps : List (Reader α))
    (hp : Takes p ahead a rest) : Takes (firstOf (p :: ps)) ahead a rest := by
  cases ps with
  | nil => exact hp
  | cons q qs => exact hp.orElse _

theorem Refuses.firstOf_cons {p : Reader α} {ps : List (Reader α)} {a : α} (hps : ps ≠ [])
    (hp : Refuses p ahead) (hrest : Takes (firstOf ps) ahead a rest) :
    Takes (firstOf (p :: ps)) ahead a rest := by
  cases ps with
  | nil => exact absurd rfl hps
  | cons q qs => exact hp.orElse_takes hrest

theorem run_discard (p : Reader α) (input : Array Char) (i : Nat) :
    run (Functor.discard p) input i = (run p input i).map (fun r => ((), r.2)) := by
  simp only [run, Functor.discard, Functor.mapConst]
  rfl

theorem Takes.discard {p : Reader α} {a : α} (hp : Takes p ahead a rest) :
    Takes (Functor.discard p) ahead () rest := by
  intro input i hi
  obtain ⟨j, hpj, hj⟩ := hp input i hi
  refine ⟨j, ?_, hj⟩
  rw [run_discard, hpj]
  rfl

theorem Refuses.discard {p : Reader α} (hp : Refuses p ahead) :
    Refuses (Functor.discard p) ahead := by
  intro input i hi
  obtain ⟨e, hpe, hc⟩ := hp input i hi
  refine ⟨e, ?_, hc⟩
  rw [run_discard, hpe]
  rfl

/-! ## Characters -/

theorem getElem?_eq_head? {input : Array Char} {i : Nat} (hi : input.toList.drop i = ahead) :
    input[i]? = ahead.head? := by
  rw [← hi, List.head?_drop, Array.getElem?_toList]

theorem drop_succ_of_cons {input : Array Char} {i : Nat} {c : Char}
    (hi : input.toList.drop i = c :: rest) : input.toList.drop (i + 1) = rest := by
  rw [← List.drop_drop, hi, List.drop_one, List.tail_cons]

theorem run_get_bind (f : Nat → Reader α) (input : Array Char) (i : Nat) :
    run (get >>= f) input i = run (f i) input i := rfl

theorem run_peek_bind (g : Option Char → Reader α) (input : Array Char) (i : Nat) :
    run (peek >>= g) input i = run (g input[i]?) input i := rfl

theorem takes_peek (ahead : List Char) : Takes peek ahead ahead.head? ahead :=
  fun input i hi => ⟨i, by rw [← getElem?_eq_head? hi]; rfl, hi⟩

theorem refuses_failHere (ahead : List Char) : Refuses (failHere : Reader α) ahead :=
  fun _ i _ => ⟨{ pos := i }, rfl, rfl⟩

theorem refuses_throw {f : Failure} (hf : f.committed = false) :
    Refuses (throw f : Reader α) ahead :=
  fun _ _ _ => ⟨f, rfl, hf⟩

theorem takes_satisfy {p : Char → Bool} {c : Char} (hc : p c = true) (l : List Char) :
    Takes (satisfy p) (c :: l) c l := by
  refine (takes_peek _).bind ?_
  simp only [List.head?_cons, hc, if_true]
  intro input i hi
  exact ⟨i + 1, rfl, drop_succ_of_cons hi⟩

theorem refuses_satisfy {p : Char → Bool} (h : ∀ c ∈ ahead.head?, p c = false) :
    Refuses (satisfy p) ahead := by
  refine (takes_peek _).bind_refuses ?_
  cases hhead : ahead.head? with
  | none => exact refuses_failHere _
  | some c =>
    simp only [hhead, Option.mem_def] at h
    simp only [h]
    exact refuses_failHere _

theorem takes_char (c : Char) (l : List Char) : Takes (char c) (c :: l) () l := by
  have h : Takes (satisfy (· == c)) (c :: l) c l :=
    @takes_satisfy (· == c) c (beq_self_eq_true c) l
  exact h.discard

theorem refuses_char {c : Char} (h : ahead.head? ≠ some c) : Refuses (char c) ahead := by
  have hs : Refuses (satisfy (· == c)) ahead := refuses_satisfy fun d hd => by
    simp only [beq_eq_false_iff_ne]
    rintro rfl
    exact h hd
  exact hs.discard

/-- The characters of an array between two indices, read from what lies ahead of the first. -/
theorem extract_toList {input : Array Char} {i : Nat} (hi : input.toList.drop i = ahead)
    (n : Nat) : (input.extract i (i + n)).toList = ahead.take n := by
  rw [Array.toList_extract, List.extract_eq_take_drop, hi, Nat.add_sub_cancel_left]

theorem takes_literal (s : String) (l : List Char) : Takes (literal s) (s.toList ++ l) () l := by
  intro input i hi
  refine ⟨i + s.length, ?_, ?_⟩
  · have htake : (input.extract i (i + s.length)).toList = s.toList := by
      rw [extract_toList hi, ← String.length_toList, List.take_left]
    have hrun : run (literal s) input i = run (if (input.extract i (i + s.length)).toList ==
        s.toList then set (i + s.length) else failHere) input i := rfl
    rw [hrun, htake, beq_self_eq_true, if_pos rfl]
    rfl
  · rw [← List.drop_drop, hi, ← String.length_toList, List.drop_left]

theorem refuses_literal {s : String} (h : ¬ s.toList <+: ahead) : Refuses (literal s) ahead := by
  intro input i hi
  refine ⟨{ pos := i }, ?_, rfl⟩
  have htake : ((input.extract i (i + s.length)).toList == s.toList) = false := by
    rw [extract_toList hi, beq_eq_false_iff_ne]
    intro heq
    exact h (heq ▸ List.take_prefix _ _)
  have hrun : run (literal s) input i = run (if (input.extract i (i + s.length)).toList ==
      s.toList then set (i + s.length) else failHere) input i := rfl
  rw [hrun, htake]
  rfl

theorem takes_spanUpTo (limit : Nat) (p : Char → Bool) (ahead : List Char) :
    Takes (spanUpTo limit p) ahead ((ahead.takeWhile p).take limit)
      (ahead.drop ((ahead.takeWhile p).take limit).length) := by
  intro input i hi
  refine ⟨i + ((ahead.takeWhile p).take limit).length, ?_, ?_⟩
  · have hall : (input.extract i input.size).toList = ahead := by
      rw [Array.toList_extract, List.extract_eq_take_drop, hi, List.take_of_length_le]
      rw [← hi, List.length_drop, Array.length_toList]
    have hrun : run (spanUpTo limit p) input i =
        run (let cs := (((input.extract i input.size).toList.takeWhile p).take limit)
          do set (i + cs.length); pure cs) input i := rfl
    rw [hrun, hall]
    rfl
  · rw [← List.drop_drop, hi]

theorem drop_length_takeWhile (p : Char → Bool) (l : List Char) :
    l.drop (l.takeWhile p).length = l.dropWhile p := by
  have h := @List.takeWhile_append_dropWhile _ p l
  calc l.drop (l.takeWhile p).length
      = (l.takeWhile p ++ l.dropWhile p).drop (l.takeWhile p).length := by rw [h]
    _ = l.dropWhile p := List.drop_left

/-- The longest run of characters that satisfy `p`, and what follows it. -/
theorem takes_span (p : Char → Bool) (ahead : List Char) :
    Takes (span p) ahead (ahead.takeWhile p) (ahead.dropWhile p) := by
  intro input i hi
  have hsize : (ahead.takeWhile p).length ≤ input.size := by
    have hle : (ahead.takeWhile p).length ≤ ahead.length := (List.takeWhile_prefix p).length_le
    have hlen : ahead.length ≤ input.size := by
      rw [← hi, List.length_drop, Array.length_toList]
      omega
    omega
  have h := takes_spanUpTo input.size p ahead input i hi
  rw [List.take_of_length_le hsize, drop_length_takeWhile] at h
  exact h

theorem takes_spanBetween {least most : Nat} {p : Char → Bool}
    (h : least ≤ ((ahead.takeWhile p).take most).length) :
    Takes (spanBetween least most p) ahead ((ahead.takeWhile p).take most)
      (ahead.drop ((ahead.takeWhile p).take most).length) := by
  intro input i hi
  obtain ⟨j, hrun, hj⟩ := takes_spanUpTo most p ahead input i hi
  refine ⟨j, ?_, hj⟩
  have hspan : run (spanBetween least most p) input i = (run (spanUpTo most p) input i).bind
      fun r => run (if r.1.length < least then do set i; failHere else pure r.1) input r.2 := rfl
  rw [hspan, hrun]
  simp only [Except.bind, Nat.not_lt.2 h, if_false]
  rfl

theorem refuses_spanBetween {least most : Nat} {p : Char → Bool}
    (h : ((ahead.takeWhile p).take most).length < least) :
    Refuses (spanBetween least most p) ahead := by
  intro input i hi
  obtain ⟨j, hrun, -⟩ := takes_spanUpTo most p ahead input i hi
  refine ⟨{ pos := i }, ?_, rfl⟩
  have hspan : run (spanBetween least most p) input i = (run (spanUpTo most p) input i).bind
      fun r => run (if r.1.length < least then do set i; failHere else pure r.1) input r.2 := rfl
  rw [hspan, hrun]
  simp only [Except.bind, h, if_true]
  rfl

/-- A non-empty run of characters that satisfy `p`, and what follows it. -/
theorem takes_span1 {p : Char → Bool} (h : ahead.takeWhile p ≠ []) :
    Takes (span1 p) ahead (ahead.takeWhile p) (ahead.dropWhile p) := by
  intro input i hi
  have hsize : (ahead.takeWhile p).length ≤ input.size := by
    have hle : (ahead.takeWhile p).length ≤ ahead.length := (List.takeWhile_prefix p).length_le
    have hlen : ahead.length ≤ input.size := by
      rw [← hi, List.length_drop, Array.length_toList]
      omega
    omega
  have hleast : 1 ≤ ((ahead.takeWhile p).take input.size).length := by
    rw [List.take_of_length_le hsize]
    exact List.length_pos_iff.2 h
  have hrun := takes_spanBetween hleast input i hi
  rw [List.take_of_length_le hsize, drop_length_takeWhile] at hrun
  exact hrun

theorem refuses_span1 {p : Char → Bool} (h : ∀ c ∈ ahead.head?, p c = false) :
    Refuses (span1 p) ahead := by
  intro input i hi
  have hnil : ahead.takeWhile p = [] := by
    cases ahead with
    | nil => rfl
    | cons c l => simp [h c rfl]
  have hleast : ((ahead.takeWhile p).take input.size).length < 1 := by
    simp [hnil]
  exact refuses_spanBetween hleast input i hi

/-- A non-empty run of characters that satisfy `p`, up to one that does not. -/
theorem takes_span1_of_all {p : Char → Bool} {pre l : List Char} (hpre : pre ≠ [])
    (hall : ∀ c ∈ pre, p c = true) (hl : ∀ c ∈ l.head?, p c = false) :
    Takes (span1 p) (pre ++ l) pre l := by
  have hstop : l.takeWhile p = [] ∧ l.dropWhile p = l := by
    cases l with
    | nil => exact ⟨rfl, rfl⟩
    | cons d l => simp [hl d rfl]
  have h : Takes (span1 p) (pre ++ l) ((pre ++ l).takeWhile p) ((pre ++ l).dropWhile p) :=
    takes_span1 (by rw [List.takeWhile_append_of_pos hall]; simp [hpre])
  rwa [List.takeWhile_append_of_pos hall, List.dropWhile_append_of_pos hall, hstop.1,
    hstop.2, List.append_nil] at h

theorem takes_eof : Takes eof [] () [] := by
  refine (takes_peek _).bind ?_
  exact takes_pure ()

theorem Takes.lookahead {p : Reader α} {a : α} (hp : Takes p ahead a mid) :
    Takes (Reader.lookahead p) ahead () ahead := by
  intro input i hi
  obtain ⟨j, hpj, -⟩ := hp.discard input i hi
  refine ⟨i, ?_, hi⟩
  have hrun : run (Reader.lookahead p) input i =
      (run (Functor.discard p) input i).bind fun r => run (set i : Reader Unit) input r.2 := rfl
  rw [hrun, hpj]
  rfl

theorem Refuses.lookahead {p : Reader α} (hp : Refuses p ahead) :
    Refuses (Reader.lookahead p) ahead := by
  intro input i hi
  obtain ⟨e, hpe, hc⟩ := hp.discard input i hi
  refine ⟨e, ?_, hc⟩
  have hrun : run (Reader.lookahead p) input i =
      (run (Functor.discard p) input i).bind fun r => run (set i : Reader Unit) input r.2 := rfl
  rw [hrun, hpe]
  rfl

theorem run_read_bind (f : Array Char → Reader α) (input : Array Char) (i : Nat) :
    run (read >>= f) input i = run (f input) input i := rfl

/-- A reader that starts by noting where it stands takes what it takes from every place. -/
theorem Takes.get_bind {f : Nat → Reader α} {a : α} (h : ∀ n, Takes (f n) ahead a rest) :
    Takes (get >>= f) ahead a rest := by
  intro input i hi
  rw [run_get_bind]
  exact h i input i hi

/-- A reader that starts by noting where it stands refuses when it refuses from every place. -/
theorem Refuses.get_bind {f : Nat → Reader α} (h : ∀ n, Refuses (f n) ahead) :
    Refuses (get >>= f) ahead := by
  intro input i hi
  rw [run_get_bind]
  exact h i input i hi

/-- What a reader reads, taken as text from where it began. -/
theorem takes_slice {q : Reader Unit} {pre : List Char} (hq : Takes q (pre ++ rest) () rest) :
    Takes (get >>= fun start => q >>= fun _ => sliceFrom start) (pre ++ rest)
      (String.ofList pre) rest := by
  intro input i hi
  obtain ⟨j, hj, hjrest⟩ := hq input i hi
  refine ⟨j, ?_, hjrest⟩
  -- the index may pass the end only when nothing is left
  have hslice : (input.extract i j).toList = pre := by
    have h₁ := congrArg List.length hi
    have h₂ := congrArg List.length hjrest
    simp only [List.length_drop, Array.length_toList, List.length_append] at h₁ h₂
    rw [Array.toList_extract, List.extract_eq_take_drop, hi]
    cases rest with
    | nil =>
      rw [List.append_nil, List.take_of_length_le]
      simp only [List.length_nil, Nat.add_zero] at h₁ h₂
      omega
    | cons c rest =>
      simp only [List.length_cons] at h₁ h₂
      rw [show j - i = pre.length by omega, List.take_left']
      rfl
  rw [run_get_bind, run_bind, hj]
  show Except.ok (String.ofList (input.extract i j).toList, j) = _
  rw [hslice]

/-- The rounds left are one more than the characters ahead. -/
theorem takes_roundsLeft (ahead : List Char) : Takes roundsLeft ahead (ahead.length + 1) ahead := by
  intro input i hi
  refine ⟨i, ?_, hi⟩
  have hsize : input.size - i = ahead.length := by
    rw [← hi, List.length_drop, Array.length_toList]
  show Except.ok (input.size - i + 1, i) = _
  rw [hsize]

/-! ## Loops -/

/-- A chain of runs of `p` from `ahead`, each reading at least one character, with the values
`as`, that stops before `rest`, where `p` refuses. -/
inductive Pieces (p : Reader α) : List Char → List α → List Char → Prop
  | stop {rest : List Char} (h : Refuses p rest) : Pieces p rest [] rest
  | step {ahead mid rest : List Char} {a : α} {as : List α} (hp : Takes p ahead a mid)
      (hlt : mid.length < ahead.length) (hrest : Pieces p mid as rest) :
      Pieces p ahead (a :: as) rest

theorem Pieces.length_le {p : Reader α} {as : List α} (h : Pieces p ahead as rest) :
    rest.length ≤ ahead.length := by
  induction h with
  | stop => exact le_rfl
  | step _ hlt _ ih => omega

/-- A chain runs through a loop with more rounds than the characters it reads. -/
theorem Pieces.takes_repeatUpTo {p : Reader α} {as : List α} (h : Pieces p ahead as rest) :
    ∀ fuel, ahead.length - rest.length < fuel → Takes (repeatUpTo p fuel) ahead as rest := by
  induction h with
  | stop hp =>
    intro fuel hfuel
    cases fuel with
    | zero => omega
    | succ fuel =>
      rw [repeatUpTo]
      exact hp.attempt.bind (takes_pure _)
  | step hp hlt hrest ih =>
    intro fuel hfuel
    have hle := hrest.length_le
    cases fuel with
    | zero => omega
    | succ fuel =>
      rw [repeatUpTo]
      exact hp.attempt.bind ((ih fuel (by omega)).bind (takes_pure _))

theorem Pieces.takes_many {p : Reader α} {as : List α} (h : Pieces p ahead as rest) :
    Takes (many p) ahead as rest :=
  (takes_roundsLeft ahead).bind (h.takes_repeatUpTo _ (by omega))

theorem Pieces.takes_many1 {p : Reader α} {a : α} {as : List α} (hp : Takes p ahead a mid)
    (h : Pieces p mid as rest) : Takes (many1 p) ahead (a :: as) rest :=
  hp.bind (h.takes_many.bind (takes_pure _))

theorem Refuses.many1 {p : Reader α} (hp : Refuses p ahead) : Refuses (many1 p) ahead :=
  hp.bind

theorem Pieces.takes_separated1 {p : Reader α} {sep : Reader Unit} {a : α} {as : List α}
    (hp : Takes p ahead a mid) (h : Pieces (do sep; p) mid as rest) :
    Takes (separated1 p sep) ahead (a :: as) rest :=
  hp.bind (h.takes_many.bind (takes_pure _))

/-! ## Blanks and line ends -/

theorem takes_blanks (ahead : List Char) : Takes blanks ahead () (ahead.dropWhile isBlank) :=
  (takes_span isBlank ahead).discard

/-- Blanks before a character that is no blank read nothing. -/
theorem takes_blanks_none {c : Char} (hc : isBlank c = false) (l : List Char) :
    Takes blanks (c :: l) () (c :: l) := by
  have h := takes_blanks (c :: l)
  rwa [List.dropWhile_cons_of_neg (by simp [hc])] at h

theorem takes_lineBreak (l : List Char) : Takes lineBreak ('\n' :: l) () l :=
  (takes_char '\n' l).orElse _

/-- A text that does not start with a line feed or a carriage return has no line break. -/
theorem refuses_lineBreak (hn : ahead.head? ≠ some '\n') (hr : ahead.head? ≠ some '\r') :
    Refuses lineBreak ahead := by
  refine (refuses_char hn).orElse (refuses_literal ?_)
  intro hpre
  obtain ⟨l, rfl⟩ := hpre
  exact hr rfl

theorem takes_lineEnd (l : List Char) : Takes lineEnd ('\n' :: l) () l :=
  (takes_lineBreak l).orElse _

/-- The rest of a line that ends right away, by a line break or the end of the text. -/
theorem takes_lineRest {l : List Char} (hl : l.head? = none ∨ l.head? = some '\n')
    (hend : Takes lineEnd l () rest) : Takes lineRest l () rest := by
  have hblank : ∀ c ∈ l.head?, isBlank c = false := by
    rcases hl with hl | hl <;> simp [hl, isBlank]
  have hcomment : Refuses comment l := (refuses_char (by rcases hl with hl | hl <;> simp [hl])).bind
  refine Takes.bind (a := ()) ?_ (hcomment.attempt.discard.bind hend)
  cases l with
  | nil => exact takes_blanks []
  | cons c l' => exact takes_blanks_none (hblank c rfl) l'

theorem takes_lineRestExpected_newline (l : List Char) :
    Takes lineRestExpected ('\n' :: l) () l :=
  ((takes_lineRest (.inr rfl) (takes_lineEnd l)).expecting _).expecting _

end DocSuite.Toml
