import Mathlib
import DocSuite.Proofs.TomlReading
/-!
# Reading written strings back

Every text, written as a TOML string by `quoteString`, reads back as the same text. The
writer picks one of four forms and the reader tries them in turn; each form is read back by
its own lemma here.

The body of a basic string is read in pieces: a run of plain characters whole, an escape,
and on several lines a line feed. `PieceReader` names what the two piece readers share, and
`PieceReader.pieces` reads a whole body with either. On several lines double quotes stand in
runs of one or two between the pieces; the loop that reads them is followed round by round
(`takes_multiBasicRounds`).
-/

namespace DocSuite.Toml

open Reader

variable {ahead rest : List Char}

/-! ## Escapes -/

/-- The escapes of one letter after a backslash, with the character each stands for. -/
def shortEscapes : List (Char × Char) :=
  [('b', '\x08'), ('f', '\x0c'), ('n', '\n'), ('r', '\r'), ('t', '\t'), ('\\', '\\'), ('"', '"')]

theorem takes_escapeCode_short {x c : Char} (hx : (x, c) ∈ shortEscapes) (l : List Char) :
    Takes escapeCode (x :: l) c l := by
  intro input i hi
  refine ⟨i + 1, ?_, drop_succ_of_cons hi⟩
  have h := getElem?_eq_head? hi
  unfold escapeCode
  rw [run_get_bind, run_peek_bind, h]
  simp only [shortEscapes, List.mem_cons, Prod.mk.injEq, List.not_mem_nil, or_false] at hx
  rcases hx with ⟨rfl, rfl⟩ | ⟨rfl, rfl⟩ | ⟨rfl, rfl⟩ | ⟨rfl, rfl⟩ | ⟨rfl, rfl⟩ | ⟨rfl, rfl⟩ |
    ⟨rfl, rfl⟩ <;> rfl

theorem takes_hexCode {n : Nat} {ds : List Char} (hlen : ds.length = n)
    (hhex : ∀ d ∈ ds, (hexValue d).isSome) (hv : hexNumber ds < 0xD800) (l : List Char) :
    Takes (hexCode n) (ds ++ l) (Char.ofNat (hexNumber ds)) l := by
  intro input i hi
  obtain ⟨j, hj, hrest⟩ := takes_spanUpTo n (fun c => (hexValue c).isSome) (ds ++ l) input i hi
  have htake : ((ds ++ l).takeWhile fun c => (hexValue c).isSome).take n = ds := by
    rw [List.takeWhile_append_of_pos hhex, ← hlen, List.take_left']
    rfl
  rw [htake, List.drop_left' rfl] at hrest
  rw [htake] at hj
  refine ⟨j, ?_, hrest⟩
  unfold hexCode
  rw [run_get_bind, run_bind, hj]
  simp only [Except.bind, hlen, hv, if_true, decide_true, Bool.true_or, ne_eq,
    not_true_eq_false, if_false]
  rfl

theorem takes_escapeCode_unicode {c : Char} (h : Takes (hexCode 4) ahead c rest) :
    Takes escapeCode ('u' :: ahead) c rest := by
  intro input i hi
  obtain ⟨j, hj, hrest⟩ := (h.commit.label _) input (i + 1) (drop_succ_of_cons hi)
  refine ⟨j, ?_, hrest⟩
  have hget := getElem?_eq_head? hi
  unfold escapeCode
  rw [run_get_bind, run_peek_bind, hget]
  exact hj

theorem hexValue_upperHexDigit : ∀ n < 16, hexValue (upperHexDigit n) = some n := by
  decide

/-- The four upper-case hex digits of a control character read back as its code. -/
theorem takes_hexCode_control {c : Char} (hc : c.toNat ≤ 0x7F) (l : List Char) :
    Takes (hexCode 4) ([12, 8, 4, 0].map (fun k => upperHexDigit (c.toNat / Nat.pow 2 k % 16)) ++ l) c l := by
  have hdigit : ∀ k, hexValue (upperHexDigit (c.toNat / Nat.pow 2 k % 16)) = some (c.toNat / Nat.pow 2 k % 16) :=
    fun k => hexValue_upperHexDigit _ (Nat.mod_lt _ (by decide))
  have hnum : hexNumber ([12, 8, 4, 0].map (fun k => upperHexDigit (c.toNat / Nat.pow 2 k % 16))) = c.toNat := by
    simp only [hexNumber, List.map_cons, List.map_nil, List.foldl_cons, List.foldl_nil, hdigit,
      Option.getD_some]
    have h12 : Nat.pow 2 12 = 4096 := rfl
    have h8 : Nat.pow 2 8 = 256 := rfl
    have h4 : Nat.pow 2 4 = 16 := rfl
    have h0 : Nat.pow 2 0 = 1 := rfl
    rw [h12, h8, h4, h0]
    omega
  have hhex : ∀ d ∈ [12, 8, 4, 0].map (fun k => upperHexDigit (c.toNat / Nat.pow 2 k % 16)),
      (hexValue d).isSome := by
    intro d hd
    obtain ⟨k, -, rfl⟩ := List.mem_map.1 hd
    rw [hdigit k]
    rfl
  have h := takes_hexCode (List.length_map _) hhex (by rw [hnum]; omega) l
  rwa [hnum, Char.ofNat_toNat] at h

def isPlain (c : Char) : Bool := isBasicChar c && c != '\t'

theorem isPlain_iff {c : Char} : isPlain c = true ↔
    0x20 ≤ c.toNat ∧ c.toNat ≠ 0x22 ∧ c.toNat ≠ 0x5C ∧ c.toNat ≠ 0x7F := by
  simp only [isPlain, isBasicChar, isBlank, Bool.and_eq_true, Bool.or_eq_true, beq_iff_eq,
    decide_eq_true_eq, bne_iff_ne, ne_eq, ← Char.toNat_inj]
  simp
  omega

theorem escapeBasic_of_isPlain {multi : Bool} {c : Char} (h : isPlain c = true) :
    escapeBasic multi c = [c] := by
  rw [isPlain_iff] at h
  unfold escapeBasic
  split
  all_goals try (simp at h; done)
  rw [if_neg (by simp; omega)]

theorem takes_escape_escapeBasic {multi : Bool} {c : Char} (hplain : isPlain c = false)
    (hquote : c ≠ '"') (hbreak : ¬ (multi = true ∧ c = '\n')) :
    ∃ x t, x ∈ escapeLetters ∧ escapeBasic multi c = '\\' :: x :: t ∧
      ∀ l, Takes escape (escapeBasic multi c ++ l) c l := by
  have hshort : ∀ x, (x, c) ∈ shortEscapes →
      ∀ l, Takes escape (['\\', x] ++ l) c l :=
    fun x hx l => (takes_char '\\' _).bind (takes_escapeCode_short hx l)
  unfold escapeBasic
  split
  · exact ⟨_, _, by decide, rfl, hshort 'b' (by decide)⟩
  · exact ⟨_, _, by decide, rfl, hshort 't' (by decide)⟩
  · cases multi with
    | true => exact absurd ⟨rfl, rfl⟩ hbreak
    | false => exact ⟨_, _, by decide, rfl, hshort 'n' (by decide)⟩
  · exact ⟨_, _, by decide, rfl, hshort 'f' (by decide)⟩
  · exact ⟨_, _, by decide, rfl, hshort 'r' (by decide)⟩
  · exact ⟨_, _, by decide, rfl, hshort '\\' (by decide)⟩
  · split
    · rename_i hcontrol
      have hc : c.toNat ≤ 0x7F := by simp at hcontrol; omega
      exact ⟨_, _, by decide, rfl, fun l =>
        (takes_char '\\' _).bind (takes_escapeCode_unicode (takes_hexCode_control hc l))⟩
    · -- a character that is no control and is not escaped would be plain
      rename_i hbackslash hcontrol
      have h34 : c.toNat ≠ 34 := fun h => hquote (Char.toNat_inj.1 h)
      have h92 : c.toNat ≠ 92 := fun h => hbackslash (Char.toNat_inj.1 h)
      simp only [Bool.or_eq_true, decide_eq_true_eq, beq_iff_eq, not_or, not_le] at hcontrol
      have : isPlain c = true := isPlain_iff.2 ⟨by omega, h34, h92, hcontrol.2⟩
      simp [this] at hplain

theorem ne_quote_of_isPlain {c : Char} (h : isPlain c = true) : c ≠ '"' := by
  rintro rfl
  simp [isPlain_iff] at h

theorem isBasicChar_of_isPlain {c : Char} (h : isPlain c = true) : isBasicChar c = true := by
  simp only [isPlain, Bool.and_eq_true] at h
  exact h.1

theorem basicBody_cons_of_ne {multi : Bool} {c : Char} (hc : c ≠ '"') (cs : List Char) (run : Nat) :
    basicBody multi (c :: cs) run = escapeBasic multi c ++ basicBody multi cs 0 := by
  rw [basicBody]
  intro h
  exact hc h

theorem basicBody_quote (multi : Bool) (cs : List Char) (run : Nat) :
    basicBody multi ('"' :: cs) run = if run < (if multi then 2 else 0) then
      '"' :: basicBody multi cs (run + 1) else '\\' :: '"' :: basicBody multi cs 0 := by
  rw [basicBody]

/-- A run of plain characters is written as it is. -/
theorem basicBody_plain_append {multi : Bool} {pre : List Char} (h : ∀ c ∈ pre, isPlain c)
    (cs : List Char) (run : Nat) : pre ≠ [] → basicBody multi (pre ++ cs) run = pre ++ basicBody multi cs 0 := by
  induction pre generalizing run with
  | nil => intro h; exact absurd rfl h
  | cons c pre ih =>
    intro _
    have hc := h c List.mem_cons_self
    rw [List.cons_append, basicBody_cons_of_ne (ne_quote_of_isPlain hc), escapeBasic_of_isPlain hc]
    cases pre with
    | nil => rfl
    | cons d pre => exact congrArg (c :: ·) (ih (fun x hx => h x (List.mem_cons_of_mem _ hx)) 0 (List.cons_ne_nil _ _))

theorem takes_span1_plain {pre l : List Char} (hpre : pre ≠ []) (hall : ∀ c ∈ pre, isPlain c)
    (hl : ∀ c ∈ l.head?, isBasicChar c = false) :
    Takes (span1 isBasicChar) (pre ++ l) pre l :=
  takes_span1_of_all hpre (fun c hc => isBasicChar_of_isPlain (hall c hc)) hl

/-- What a reader of the pieces of a basic string body does: it reads a run of plain
characters whole, an escape, and on several lines a line feed, and refuses a double quote. -/
structure PieceReader (p : Reader String) (multi : Bool) : Prop where
  plain {pre l : List Char} : pre ≠ [] → (∀ c ∈ pre, isPlain c) →
    (∀ c ∈ l.head?, isBasicChar c = false) → Takes p (pre ++ l) (String.ofList pre) l
  escaped {x c : Char} {l rest : List Char} : x ∈ escapeLetters →
    Takes escape ('\\' :: x :: l) c rest → Takes p ('\\' :: x :: l) c.toString rest
  lineFeed {l : List Char} : multi = true → Takes p ('\n' :: l) "\n" l
  quote {l : List Char} : Refuses p ('"' :: l)


theorem takes_escape_quote (l : List Char) : Takes escape ('\\' :: '"' :: l) '"' l :=
  (takes_char '\\' _).bind (takes_escapeCode_short (by decide) l)

/-- What follows a run of plain characters in a written body is no basic character. -/
theorem basicBody_head_not_basic {multi : Bool} {d : Char} (hd : isPlain d = false)
    (hq : d = '"' → multi = false) (ds tail : List Char) :
    ∀ x ∈ (basicBody multi (d :: ds) 0 ++ tail).head?, isBasicChar x = false := by
  by_cases hquote : d = '"'
  · subst hquote
    rw [basicBody_quote, hq rfl]
    simp [isBasicChar, isBlank]
  · by_cases hbreak : multi = true ∧ d = '\n'
    · obtain ⟨rfl, rfl⟩ := hbreak
      rw [basicBody_cons_of_ne hquote]
      simp [escapeBasic, isBasicChar, isBlank]
    · obtain ⟨x, t, -, hx, -⟩ := takes_escape_escapeBasic hd hquote hbreak
      rw [basicBody_cons_of_ne hquote, hx]
      simp [isBasicChar, isBlank]

/-- A body whose double quotes are all escaped reads back, piece by piece, up to the quote
after it. -/
theorem PieceReader.pieces {p : Reader String} {multi : Bool} (hp : PieceReader p multi)
    (cs : List Char) (hcs : ∀ c ∈ cs, c = '"' → multi = false) (l : List Char) :
    ∃ ps, Pieces p (basicBody multi cs 0 ++ '"' :: l) ps ('"' :: l) ∧
      String.join ps = String.ofList cs := by
  induction hn : cs.length using Nat.strong_induction_on generalizing cs with
  | _ n ih =>
  cases cs with
  | nil => exact ⟨[], .stop hp.quote, rfl⟩
  | cons c cs =>
    by_cases hc : isPlain c
    · -- a run of plain characters is one piece
      set pre := (c :: cs).takeWhile isPlain with hpre
      set post := (c :: cs).dropWhile isPlain with hpost
      have hsplit : pre ++ post = c :: cs := List.takeWhile_append_dropWhile
      have hne : pre ≠ [] := by simp [hpre, hc]
      have hall : ∀ x ∈ pre, isPlain x := fun x hx => List.mem_takeWhile_imp hx
      have hlen : post.length < n := by
        rw [← hn, ← hsplit, List.length_append]
        have := List.length_pos_iff.2 hne
        omega
      obtain ⟨ps, hps, hjoin⟩ := ih post.length hlen post
        (fun x hx => hcs x (hsplit ▸ List.mem_append_right _ hx)) rfl
      have hhead : ∀ x ∈ (basicBody multi post 0 ++ '"' :: l).head?, isBasicChar x = false := by
        cases hp' : post with
        | nil => simp [basicBody, isBasicChar, isBlank]
        | cons d ds =>
          have hd : isPlain d = false := by
            have := List.head?_dropWhile_not isPlain (c :: cs)
            rw [← hpost, hp'] at this
            simpa using this
          exact basicBody_head_not_basic hd (fun h => hcs d (hsplit ▸ hp' ▸ List.mem_append_right _ List.mem_cons_self) h) ds _
      refine ⟨String.ofList pre :: ps, ?_, ?_⟩
      · rw [← hsplit, basicBody_plain_append hall post 0 hne, List.append_assoc]
        refine .step (hp.plain hne hall hhead) ?_ hps
        have := List.length_pos_iff.2 hne
        simp only [List.length_append]
        omega
      · rw [String.join_cons, hjoin, ← hsplit, String.ofList_append]
    · -- one escape, or a line feed on several lines, is one piece
      have hrest : ∃ ps, Pieces p (basicBody multi cs 0 ++ '"' :: l) ps ('"' :: l) ∧
          String.join ps = String.ofList cs :=
        ih cs.length (by rw [← hn]; simp) cs (fun x hx => hcs x (List.mem_cons_of_mem _ hx)) rfl
      obtain ⟨ps, hps, hjoin⟩ := hrest
      have hstep : ∀ w, Takes p (w ++ basicBody multi cs 0 ++ '"' :: l) c.toString
          (basicBody multi cs 0 ++ '"' :: l) → w ≠ [] →
          basicBody multi (c :: cs) 0 = w ++ basicBody multi cs 0 →
          ∃ ps, Pieces p (basicBody multi (c :: cs) 0 ++ '"' :: l) ps ('"' :: l) ∧
            String.join ps = String.ofList (c :: cs) := by
        intro w hw hne hbody
        refine ⟨c.toString :: ps, ?_, ?_⟩
        · rw [hbody]
          refine .step hw ?_ hps
          have := List.length_pos_iff.2 hne
          simp only [List.length_append]
          omega
        · rw [String.join_cons, hjoin, String.ofList_cons]
          rfl
      by_cases hquote : c = '"'
      · subst hquote
        have hm := hcs '"' List.mem_cons_self rfl
        subst hm
        refine hstep ['\\', '"'] ?_ (by simp) (by rw [basicBody_quote]; rfl)
        exact hp.escaped (by decide) (takes_escape_quote _)
      · by_cases hbreak : multi = true ∧ c = '\n'
        · obtain ⟨rfl, rfl⟩ := hbreak
          exact hstep ['\n'] (hp.lineFeed rfl) (by simp) (basicBody_cons_of_ne hquote _ _)
        · obtain ⟨x, t, hx, hw, hesc⟩ := takes_escape_escapeBasic (Bool.eq_false_iff.2 hc) hquote hbreak
          refine hstep (escapeBasic multi c) ?_ (by simp [hw]) (basicBody_cons_of_ne hquote _ _)
          have h := hesc (basicBody multi cs 0 ++ '"' :: l)
          rw [hw] at h ⊢
          rw [List.append_assoc]
          exact hp.escaped hx h


theorem refuses_span1_escape (l : List Char) : Refuses (span1 isBasicChar) ('\\' :: l) :=
  refuses_span1 fun c hc => by
    obtain rfl := Option.some.inj hc
    decide

theorem refuses_escape {l : List Char} (h : l.head? ≠ some '\\') : Refuses escape l :=
  (refuses_char h).bind

theorem basicPiece_reader : PieceReader basicPiece false where
  plain hne hall hl := ((takes_span1_plain hne hall hl).map _).orElse _
  escaped _ hesc := (refuses_span1_escape _).map _ |>.orElse_takes (hesc.map _)
  lineFeed h := absurd h Bool.false_ne_true
  quote := ((refuses_span1 fun c hc => by
    obtain rfl := Option.some.inj hc
    decide).map _).orElse ((refuses_escape (by simp)).map _)

/-- After a backslash, an escape letter is no line break, so no trimmed break starts there. -/
theorem refuses_trimmedBreak {x : Char} (hx : x ∈ escapeLetters) (l : List Char) :
    Refuses trimmedBreak ('\\' :: x :: l) := by
  have hblank : isBlank x = false := by
    simp only [escapeLetters, List.mem_cons, List.not_mem_nil, or_false] at hx
    rcases hx with rfl | rfl | rfl | rfl | rfl | rfl | rfl | rfl | rfl <;> decide
  have hbreak : x ≠ '\n' ∧ x ≠ '\r' := by
    simp only [escapeLetters, List.mem_cons, List.not_mem_nil, or_false] at hx
    rcases hx with rfl | rfl | rfl | rfl | rfl | rfl | rfl | rfl | rfl <;> decide
  exact (takes_char '\\' _).bind_refuses ((takes_blanks_none hblank l).bind_refuses
    (refuses_lineBreak (by simpa using hbreak.1) (by simpa using hbreak.2)).bind)

theorem multiBasicPiece_eq : multiBasicPiece =
    orElse (String.ofList <$> span1 isBasicChar)
      (orElse (do discard (many1 trimmedBreak); pure "")
        (orElse (Char.toString <$> escape) (do lineBreak; pure "\n"))) := rfl

theorem multiBasicPiece_reader : PieceReader multiBasicPiece true where
  plain hne hall hl := by
    rw [multiBasicPiece_eq]
    exact ((takes_span1_plain hne hall hl).map _).orElse _
  escaped hx hesc := by
    rw [multiBasicPiece_eq]
    exact ((refuses_span1_escape _).map _).orElse_takes
      ((refuses_trimmedBreak hx _).many1.discard.bind.orElse_takes ((hesc.map _).orElse _))
  lineFeed {l} _ := by
    rw [multiBasicPiece_eq]
    have hspan : Refuses (span1 isBasicChar) ('\n' :: l) := refuses_span1 fun c hc => by
      obtain rfl := Option.some.inj hc
      decide
    have hslash : Refuses (char '\\') ('\n' :: l) := refuses_char (by simp)
    exact (hspan.map _).orElse_takes (hslash.bind.many1.discard.bind.orElse_takes
      ((refuses_escape (by simp)).map _ |>.orElse_takes ((takes_lineBreak _).bind (takes_pure _))))
  quote {l} := by
    rw [multiBasicPiece_eq]
    have hspan : Refuses (span1 isBasicChar) ('"' :: l) := refuses_span1 fun c hc => by
      obtain rfl := Option.some.inj hc
      decide
    have hslash : Refuses (char '\\') ('"' :: l) := refuses_char (by simp)
    exact (hspan.map _).orElse (hslash.bind.many1.discard.bind.orElse
      (((refuses_escape (by simp)).map _).orElse (refuses_lineBreak (by simp) (by simp)).bind))


/-! ## One-line strings -/

/-- A basic string reads back as the text whose body `basicBody` wrote. -/
theorem takes_basicString (cs l : List Char) :
    Takes basicString ('"' :: basicBody false cs 0 ++ '"' :: l) (String.ofList cs) l := by
  obtain ⟨ps, hps, hjoin⟩ := basicPiece_reader.pieces cs (fun _ _ _ => rfl) l
  rw [← hjoin]
  exact (takes_char '"' _).bind (hps.takes_many.bind
    (((takes_char '"' l).commit.label _).bind (takes_pure _)))

/-- A literal string reads back as its characters. -/
theorem takes_literalString {cs : List Char} (hcs : ∀ c ∈ cs, isLiteralChar c) (l : List Char) :
    Takes literalString ('\'' :: cs ++ '\'' :: l) (String.ofList cs) l := by
  have hspan := takes_span isLiteralChar (cs ++ '\'' :: l)
  have hq : isLiteralChar '\'' = false := by decide
  rw [List.takeWhile_append_of_pos hcs, List.dropWhile_append_of_pos hcs,
    List.takeWhile_cons_of_neg (by simp [hq]), List.dropWhile_cons_of_neg (by simp [hq]),
    List.append_nil] at hspan
  exact ((takes_char '\'' _).bind (hspan.bind
    ((takes_char '\'' l).commit.bind (takes_pure (String.ofList cs))))).label _

/-! ## Runs of quotes -/

section Quotes

variable {q : Char} {after : Reader Unit} {l m : List Char}

theorem takes_quoteRun_two (h : Takes after l () m) :
    Takes (quoteRun q after) (q :: q :: l) (String.ofList [q, q]) l :=
  ((takes_char q _).bind ((takes_char q _).bind
    (h.lookahead.bind (takes_pure (String.ofList [q, q]))))).orElse _

theorem takes_quoteRun_one (hl : l.head? ≠ some q) (h : Takes after l () m) :
    Takes (quoteRun q after) (q :: l) q.toString l :=
  ((takes_char q l).bind_refuses (refuses_char hl).bind).orElse_takes
    ((takes_char q l).bind (h.lookahead.bind (takes_pure q.toString)))

/-- One quote of two, when what follows the second does not suit `after`. -/
theorem takes_quoteRun_one_of_two (hl : Refuses after l) (h : Takes after (q :: l) () m) :
    Takes (quoteRun q after) (q :: q :: l) q.toString (q :: l) :=
  ((takes_char q _).bind_refuses ((takes_char q l).bind_refuses hl.lookahead.bind)).orElse_takes
    ((takes_char q _).bind (h.lookahead.bind (takes_pure q.toString)))

theorem refuses_quoteRun (h₂ : Refuses after l) (h₁ : Refuses after (q :: l)) :
    Refuses (quoteRun q after) (q :: q :: l) :=
  ((takes_char q _).bind_refuses ((takes_char q l).bind_refuses h₂.lookahead.bind)).orElse
    ((takes_char q _).bind_refuses h₁.lookahead.bind)

theorem takes_notQuote {x : Char} (hx : x ≠ q) (l : List Char) :
    Takes (Functor.discard (satisfy (· != q))) (x :: l) () l :=
  (@takes_satisfy (· != q) x (bne_iff_ne.2 hx) l).discard

theorem refuses_notQuote (l : List Char) : Refuses (Functor.discard (satisfy (· != q))) (q :: l) :=
  (refuses_satisfy fun c hc => by
    obtain rfl := Option.some.inj hc
    simp).discard

/-- Three quotes start no run of quotes that a character other than a quote follows. -/
theorem refuses_quoteRun_notQuote (l : List Char) :
    Refuses (quoteRun q (Functor.discard (satisfy (· != q)))) (q :: q :: q :: l) :=
  refuses_quoteRun (refuses_notQuote _) (refuses_notQuote _)

/-- The quotes a multi-line body may end with: none, one or two. -/
def ClosingTrail (q : Char) (trail : List Char) : Prop :=
  trail = [] ∨ trail = [q] ∨ trail = [q, q]

/-- The quotes that end a multi-line body, before the closing three quotes, read back as
they are. -/
theorem takes_closingTrail {s : String} (hs : s.toList = [q, q, q]) {trail : List Char}
    (htrail : ClosingTrail q trail) (hl : l.head? ≠ some q) :
    ∃ o : Option String, Takes (attempt (quoteRun q (literal s))) (trail ++ q :: q :: q :: l) o
      (q :: q :: q :: l) ∧ o.getD "" = String.ofList trail := by
  have hclose : ∀ l', Takes (literal s) (q :: q :: q :: l') () l' := fun l' => by
    have h := takes_literal s l'
    rwa [hs] at h
  have hopen : ∀ l', (l'.head? ≠ some q) → Refuses (literal s) (q :: l') := fun l' hl' => by
    refine refuses_literal ?_
    rw [hs]
    rintro ⟨t, ht⟩
    simp only [List.cons_append, List.cons.injEq, List.nil_append, true_and] at ht
    rw [← ht] at hl'
    exact hl' rfl
  have hopen₂ : Refuses (literal s) (q :: q :: l) := by
    refine refuses_literal ?_
    rw [hs]
    rintro ⟨t, ht⟩
    simp only [List.cons_append, List.cons.injEq, List.nil_append, true_and] at ht
    rw [← ht] at hl
    exact hl rfl
  rcases htrail with rfl | rfl | rfl
  · refine ⟨none, ?_, rfl⟩
    exact (refuses_quoteRun (hopen l hl) hopen₂).attempt
  · refine ⟨some q.toString, ?_, rfl⟩
    exact (takes_quoteRun_one_of_two hopen₂ (hclose l)).attempt
  · refine ⟨some (String.ofList [q, q]), ?_, rfl⟩
    exact (takes_quoteRun_two (hclose l)).attempt

end Quotes

/-! ## Multi-line basic strings -/

/-- What is left of a text after the characters other than `q` starts with `q`, if with
anything. -/
theorem head_dropWhile_ne (q : Char) (cs : List Char) :
    ∀ c ∈ (cs.dropWhile (· != q)).head?, c = q := fun c hc => by
  have h := List.head?_dropWhile_not (· != q) cs
  rw [hc] at h
  simpa using h

/-- A body splits before its first double quote, and the part before it is written alone. -/
theorem basicBody_split_quote (multi : Bool) (cs : List Char) :
    basicBody multi cs 0 = basicBody multi (cs.takeWhile (· != '"')) 0 ++
      basicBody multi (cs.dropWhile (· != '"')) 0 := by
  induction cs with
  | nil => rfl
  | cons c cs ih =>
    by_cases hc : c = '"'
    · subst hc
      simp [basicBody]
    · have hne : (fun x => x != '"') c = true := bne_iff_ne.2 hc
      rw [List.takeWhile_cons_of_pos (p := fun x => x != '"') hne,
        List.dropWhile_cons_of_pos (p := fun x => x != '"') hne,
        basicBody_cons_of_ne hc, basicBody_cons_of_ne hc, ih, List.append_assoc]

/-- Past a character other than a double quote, the quotes before it no longer count. -/
theorem basicBody_cons_run {multi : Bool} {c : Char} (hc : c ≠ '"') (cs : List Char) (run : Nat) :
    basicBody multi (c :: cs) run = basicBody multi (c :: cs) 0 := by
  rw [basicBody_cons_of_ne hc, basicBody_cons_of_ne hc]

/-- What starts with a double quote, or is empty, is written before the closing quotes as
something that starts with a double quote. -/
theorem basicBody_closing_head {cs : List Char} (hcs : ∀ c ∈ cs.head?, c = '"') (l : List Char) :
    ∃ l', basicBody true cs 0 ++ '"' :: '"' :: '"' :: l = '"' :: l' := by
  cases cs with
  | nil => exact ⟨_, rfl⟩
  | cons c cs =>
    obtain rfl := hcs c rfl
    exact ⟨_, by rw [basicBody_quote]; rfl⟩

/-- On several lines, the pieces before the first double quote read back the text before it. -/
theorem multiBasic_pieces (cs l : List Char) :
    ∃ ps, Pieces multiBasicPiece (basicBody true cs 0 ++ '"' :: '"' :: '"' :: l) ps
        (basicBody true (cs.dropWhile (· != '"')) 0 ++ '"' :: '"' :: '"' :: l) ∧
      String.join ps = String.ofList (cs.takeWhile (· != '"')) := by
  obtain ⟨l', hl'⟩ := basicBody_closing_head (head_dropWhile_ne '"' cs) l
  have hfree : ∀ c ∈ cs.takeWhile (· != '"'), c = '"' → true = false := fun c hc hq => by
    have := List.mem_takeWhile_imp hc
    simp [hq] at this
  obtain ⟨ps, hps, hjoin⟩ := multiBasicPiece_reader.pieces _ hfree l'
  refine ⟨ps, ?_, hjoin⟩
  rw [basicBody_split_quote, List.append_assoc, hl']
  exact hps

/-- A chain that reads something has a first piece. -/
theorem Pieces.first {α : Type} {p : Reader α} {as : List α} (h : Pieces p ahead as rest)
    (hlt : rest.length < ahead.length) :
    ∃ a as' mid, as = a :: as' ∧ Takes p ahead a mid ∧ mid.length < ahead.length ∧
      Pieces p mid as' rest := by
  cases h with
  | stop => exact absurd hlt (lt_irrefl _)
  | step hp hmid hrest => exact ⟨_, _, _, rfl, hp, hmid, hrest⟩

theorem escapeBasic_ne_nil (multi : Bool) (c : Char) : escapeBasic multi c ≠ [] := by
  unfold escapeBasic
  split <;> (try split) <;> simp

/-- A reader that takes something from a text does not refuse it. -/
theorem Takes.not_refuses {α : Type} {p : Reader α} {a : α} (h : Takes p ahead a rest)
    (h' : Refuses p ahead) : False := by
  obtain ⟨j, hj, -⟩ := h ahead.toArray 0 (by simp)
  obtain ⟨e, he, -⟩ := h' ahead.toArray 0 (by simp)
  rw [hj] at he
  cases he

/-- The pieces of one round on several lines, from a character that is not written as a raw
double quote: at least one piece, up to the next run of quotes or the closing ones. -/
theorem multiBasic_round_pieces {r : List Char} (hr : r ≠ []) {run : Nat}
    (hstart : (∀ c ∈ r.head?, c ≠ '"') ∨ 2 ≤ run) (l : List Char) :
    ∃ p more mid front y, Takes multiBasicPiece (basicBody true r run ++ '"' :: '"' :: '"' :: l) p mid ∧
      Pieces multiBasicPiece mid more (basicBody true y 0 ++ '"' :: '"' :: '"' :: l) ∧
      mid.length < (basicBody true r run ++ '"' :: '"' :: '"' :: l).length ∧
      p ++ String.join more = String.ofList front ∧ front ++ y = r ∧ (∀ c ∈ y.head?, c = '"') := by
  obtain ⟨c, r, rfl⟩ := List.exists_cons_of_ne_nil hr
  by_cases hc : c = '"'
  · -- a third quote, escaped, is the first piece
    subst hc
    have hrun : 2 ≤ run := hstart.resolve_left (by simp)
    obtain ⟨ps, hps, hjoin⟩ := multiBasic_pieces r l
    have hbody : basicBody true ('"' :: r) run = '\\' :: '"' :: basicBody true r 0 := by
      rw [basicBody_quote, if_neg (by simp; omega)]
    refine ⟨"\"", ps, _, '"' :: r.takeWhile (· != '"'), _, ?_, hps, ?_, ?_, ?_, head_dropWhile_ne '"' r⟩
    · rw [hbody]
      exact multiBasicPiece_reader.escaped (by decide) (takes_escape_quote _)
    · simp [hbody]
    · rw [hjoin, String.ofList_cons]
      rfl
    · rw [List.cons_append, List.takeWhile_append_dropWhile]
  · -- the pieces of the text before the next quote
    obtain ⟨ps, hps, hjoin⟩ := multiBasic_pieces (c :: r) l
    have hne : (fun x => x != '"') c = true := bne_iff_ne.2 hc
    have hlt : (basicBody true ((c :: r).dropWhile (· != '"')) 0 ++ '"' :: '"' :: '"' :: l).length <
        (basicBody true (c :: r) 0 ++ '"' :: '"' :: '"' :: l).length := by
      have hfront : (basicBody true ((c :: r).takeWhile (· != '"')) 0).length ≠ 0 := by
        rw [List.takeWhile_cons_of_pos (p := fun x => x != '"') hne, basicBody_cons_of_ne hc,
          List.length_append]
        have := escapeBasic_ne_nil true c
        simp_all
      rw [basicBody_split_quote true (c :: r)]
      simp only [List.length_append, List.length_cons] at hfront ⊢
      omega
    obtain ⟨p, more, mid, rfl, hp, hmid, hmore⟩ := hps.first hlt
    refine ⟨p, more, mid, (c :: r).takeWhile (· != '"'), _, ?_, hmore, ?_, ?_,
      List.takeWhile_append_dropWhile, head_dropWhile_ne '"' _⟩
    · rw [basicBody_cons_run hc]
      exact hp
    · rw [basicBody_cons_run hc]
      exact hmid
    · rw [← hjoin, String.join_cons]

theorem takes_multiBasicQuotes_stop
    (h : Refuses (quoteRun '"' (Functor.discard (satisfy (· != '"')))) ahead) (fuel : Nat)
    (acc : String) : Takes (multiBasicQuotes fuel acc) ahead acc ahead := by
  cases fuel with
  | zero => exact takes_pure acc
  | succ fuel =>
    rw [multiBasicQuotes]
    exact h.attempt.bind (takes_pure acc)

theorem takes_multiBasicQuotes_round {q p out : String} {more : List String}
    {mid₁ mid₂ mid₃ : List Char} {fuel : Nat} {acc : String}
    (hq : Takes (quoteRun '"' (Functor.discard (satisfy (· != '"')))) ahead q mid₁)
    (hp : Takes multiBasicPiece mid₁ p mid₂) (hmore : Pieces multiBasicPiece mid₂ more mid₃)
    (hnext : Takes (multiBasicQuotes fuel (acc ++ q ++ p ++ String.join more)) mid₃ out rest) :
    Takes (multiBasicQuotes (fuel + 1) acc) ahead out rest := by
  rw [multiBasicQuotes]
  exact hq.attempt.bind (hp.attempt.bind (hmore.takes_many.bind hnext))


/-- The rounds of the loop over runs of double quotes in a multi-line basic body: each reads
a run of quotes that a character other than a quote follows, and then pieces, at least one;
the loop stops where no such run starts. `t` is the text the rounds read. -/
inductive BasicRounds : List Char → List Char → List Char → Prop
  | stop {ahead : List Char}
      (h : Refuses (quoteRun '"' (Functor.discard (satisfy (· != '"')))) ahead) :
      BasicRounds ahead [] ahead
  | round {ahead mid₁ mid₂ mid₃ rest t t' : List Char} {q p : String} {more : List String}
      (hq : Takes (quoteRun '"' (Functor.discard (satisfy (· != '"')))) ahead q mid₁)
      (hp : Takes multiBasicPiece mid₁ p mid₂) (hmore : Pieces multiBasicPiece mid₂ more mid₃)
      (hlt : mid₃.length < ahead.length) (hnext : BasicRounds mid₃ t' rest)
      (ht : t = (q ++ p ++ String.join more).toList ++ t') : BasicRounds ahead t rest

/-- The loop runs through its rounds given more fuel than the characters ahead. -/
theorem BasicRounds.takes {t : List Char} (h : BasicRounds ahead t rest) :
    ∀ (acc : String) (fuel : Nat), ahead.length < fuel →
      Takes (multiBasicQuotes fuel acc) ahead (acc ++ String.ofList t) rest := by
  induction h with
  | stop hq =>
    intro acc fuel _
    simpa using takes_multiBasicQuotes_stop hq fuel acc
  | @round ahead mid₁ mid₂ mid₃ rest t t' q p more hq hp hmore hlt _ ht ih =>
    intro acc fuel hfuel
    obtain ⟨fuel, rfl⟩ : ∃ f, fuel = f + 1 := ⟨fuel - 1, by omega⟩
    have h := ih (acc ++ q ++ p ++ String.join more) fuel (by omega)
    rw [ht, String.ofList_append, String.ofList_toList]
    simp only [String.append_assoc] at h ⊢
    exact takes_multiBasicQuotes_round hq hp hmore (by simpa only [String.append_assoc] using h)


/-- What a piece reads on several lines starts with a character other than a double quote. -/
theorem head_ne_quote_of_piece {p : String} {mid : List Char}
    (h : Takes multiBasicPiece ahead p mid) (hne : ahead ≠ []) :
    ∃ x l', ahead = x :: l' ∧ x ≠ '"' := by
  obtain ⟨x, l', rfl⟩ := List.exists_cons_of_ne_nil hne
  refine ⟨x, l', rfl, ?_⟩
  rintro rfl
  exact h.not_refuses multiBasicPiece_reader.quote

/-- A multi-line basic body, from a run of double quotes or its end, is read by rounds up to
the quotes it ends with. -/
theorem basicRounds_of (cs : List Char) (hcs : ∀ c ∈ cs.head?, c = '"') (l : List Char) :
    ∃ body trail, BasicRounds (basicBody true cs 0 ++ '"' :: '"' :: '"' :: l) body
        (trail ++ '"' :: '"' :: '"' :: l) ∧ ClosingTrail '"' trail ∧ body ++ trail = cs := by
  induction hn : cs.length using Nat.strong_induction_on generalizing cs with
  | _ n ih =>
  -- one round: the quotes `qs`, read as `q`, then the pieces of `r`
  have round : ∀ (qs r : List Char) (run : Nat) (q : String), cs = qs ++ r → qs ≠ [] →
      q.toList = qs → basicBody true cs 0 = qs ++ basicBody true r run → r ≠ [] →
      ((∀ c ∈ r.head?, c ≠ '"') ∨ 2 ≤ run) →
      (∀ x l', x ≠ '"' → Takes (quoteRun '"' (Functor.discard (satisfy (· != '"'))))
        (qs ++ x :: l') q (x :: l')) →
      ∃ body trail, BasicRounds (basicBody true cs 0 ++ '"' :: '"' :: '"' :: l) body
        (trail ++ '"' :: '"' :: '"' :: l) ∧ ClosingTrail '"' trail ∧ body ++ trail = cs := by
    intro qs r run q hcs hqs hq hbody hr hstart hrun
    obtain ⟨p, more, mid, front, y, hp, hmore, hmid, hjoin, hfy, hy⟩ :=
      multiBasic_round_pieces hr hstart l
    obtain ⟨x, l', hxl, hx⟩ := head_ne_quote_of_piece hp (by simp)
    have hlen : y.length < n := by
      have := congrArg List.length hfy
      have := List.length_pos_iff.2 hqs
      rw [← hn, hcs, List.length_append]
      simp only [List.length_append] at *
      omega
    obtain ⟨body, trail, hrounds, htrail, hbt⟩ := ih y.length hlen y hy rfl
    have hahead : basicBody true cs 0 ++ '"' :: '"' :: '"' :: l = qs ++ x :: l' := by
      rw [hbody, List.append_assoc, hxl]
    rw [hahead]
    refine ⟨qs ++ front ++ body, trail, .round (hrun x l' hx) (hxl ▸ hp) hmore ?_ hrounds ?_,
      htrail, ?_⟩
    · have := hmore.length_le
      rw [hxl] at hmid
      simp only [List.length_append, List.length_cons] at *
      omega
    · rw [String.append_assoc, String.toList_append, hq, hjoin, String.toList_ofList,
        List.append_assoc]
    · rw [List.append_assoc, List.append_assoc, hbt, hfy, hcs]
  cases cs with
  | nil => exact ⟨[], [], .stop (refuses_quoteRun_notQuote l), Or.inl rfl, rfl⟩
  | cons c r =>
    obtain rfl := hcs c rfl
    cases r with
    | nil => exact ⟨[], ['"'], .stop (refuses_quoteRun_notQuote _), Or.inr (Or.inl rfl), rfl⟩
    | cons d r =>
      by_cases hd : d = '"'
      · subst hd
        cases r with
        | nil =>
          exact ⟨[], ['"', '"'], .stop (refuses_quoteRun_notQuote _), Or.inr (Or.inr rfl), rfl⟩
        | cons e r =>
          refine round ['"', '"'] (e :: r) 2 (String.ofList ['"', '"']) rfl (by simp)
            String.toList_ofList ?_ (by simp) (.inr le_rfl)
            fun x l' hx => takes_quoteRun_two (takes_notQuote hx l')
          rw [basicBody_quote, basicBody_quote]
          rfl
      · refine round ['"'] (d :: r) 1 '"'.toString rfl (by simp) rfl ?_ (by simp)
          (.inl (by simpa using hd))
          fun x l' hx => takes_quoteRun_one (by simpa using hx) (takes_notQuote hx l')
        rw [basicBody_quote]
        rfl


/-- The body of a multi-line basic string reads back as its text, up to the closing quotes. -/
theorem takes_multiBasicBody (cs : List Char) {l : List Char} (hl : l.head? ≠ some '"') :
    Takes multiBasicBody (basicBody true cs 0 ++ '"' :: '"' :: '"' :: l) (String.ofList cs)
      ('"' :: '"' :: '"' :: l) := by
  obtain ⟨ps, hps, hjoin⟩ := multiBasic_pieces cs l
  obtain ⟨body, trail, hrounds, htrail, hbt⟩ := basicRounds_of _ (head_dropWhile_ne '"' cs) l
  obtain ⟨o, ho, hog⟩ := takes_closingTrail (s := "\"\"\"") (by simp) htrail hl
  have hval : String.join ps ++ String.ofList body ++ o.getD "" = String.ofList cs := by
    rw [hjoin, hog, ← String.ofList_append, ← String.ofList_append, List.append_assoc, hbt,
      List.takeWhile_append_dropWhile]
  rw [← hval]
  exact hps.takes_many.bind ((takes_roundsLeft _).bind ((hrounds.takes _ _ (by omega)).bind
    (ho.bind (takes_pure (String.join ps ++ String.ofList body ++ o.getD "")))))

/-- A written body that has no line feed starts with no line break. -/
theorem basicBody_head_ne_break {cs : List Char} (hcs : '\n' ∉ cs) (l : List Char) :
    ∀ x ∈ (basicBody true cs 0 ++ '"' :: l).head?, x ≠ '\n' ∧ x ≠ '\r' := by
  cases cs with
  | nil => simp [basicBody]
  | cons c cs =>
    have hc : c ≠ '\n' := fun h => hcs (h ▸ List.mem_cons_self)
    by_cases hq : c = '"'
    · subst hq
      rw [basicBody_quote]
      simp
    · rw [basicBody_cons_of_ne hq]
      by_cases hplain : isPlain c
      · rw [escapeBasic_of_isPlain hplain]
        have hr : c.toNat ≠ 13 := by have := (isPlain_iff.1 hplain).1; omega
        simp only [List.cons_append, List.head?_cons, Option.mem_def, Option.some.injEq]
        rintro x rfl
        exact ⟨hc, fun h => hr (by rw [h]; rfl)⟩
      · obtain ⟨x, t, -, hx, -⟩ := takes_escape_escapeBasic (Bool.eq_false_iff.2 hplain) hq
          (fun h => hc h.2)
        rw [hx]
        simp

/-- A multi-line basic string reads back as its text, after a line feed that opens it when
the text has one. -/
theorem takes_multiBasicString (cs : List Char) {lead l : List Char}
    (hlead : lead = ['\n'] ∨ (lead = [] ∧ '\n' ∉ cs)) (hl : l.head? ≠ some '"') :
    Takes multiBasicString ('"' :: '"' :: '"' :: lead ++ basicBody true cs 0 ++ '"' :: '"' :: '"' :: l)
      (String.ofList cs) l := by
  have hquotes : ∀ r, Takes (literal "\"\"\"") ('"' :: '"' :: '"' :: r) () r := fun r => by
    simpa using takes_literal "\"\"\"" r
  have hbreak : Takes (Functor.discard (attempt lineBreak))
      (lead ++ basicBody true cs 0 ++ '"' :: '"' :: '"' :: l) ()
      (basicBody true cs 0 ++ '"' :: '"' :: '"' :: l) := by
    rcases hlead with rfl | ⟨rfl, hcs⟩
    · exact (takes_lineBreak _).attempt.discard
    · have hhead := basicBody_head_ne_break hcs ('"' :: '"' :: l)
      refine (refuses_lineBreak ?_ ?_).attempt.discard <;> intro h <;> simp_all
  refine ((hquotes _).bind (hbreak.bind ((takes_multiBasicBody cs hl).commit.bind
    ((hquotes l).commit.bind (takes_pure (String.ofList cs)))))).label _


/-! ## Multi-line literal strings -/

theorem takes_multiLiteralChar {c : Char} (hc : isLiteralChar c ∨ c = '\n') (l : List Char) :
    Takes multiLiteralChar (c :: l) c l := by
  rcases hc with hc | rfl
  · exact (takes_satisfy hc l).orElse _
  · have hsat : Refuses (satisfy isLiteralChar) ('\n' :: l) := refuses_satisfy fun c hc => by
      obtain rfl := Option.some.inj hc
      decide
    exact hsat.orElse_takes ((takes_lineBreak l).bind (takes_pure '\n'))

theorem refuses_multiLiteralChar_quote (l : List Char) : Refuses multiLiteralChar ('\'' :: l) := by
  have hsat : Refuses (satisfy isLiteralChar) ('\'' :: l) := refuses_satisfy fun c hc => by
    obtain rfl := Option.some.inj hc
    decide
  exact hsat.orElse (refuses_lineBreak (by simp) (by simp)).bind

/-- Characters of a multi-line literal string other than quotes read back one by one. -/
theorem pieces_multiLiteralChar {x : List Char} (hx : ∀ c ∈ x, isLiteralChar c ∨ c = '\n')
    (l : List Char) : Pieces multiLiteralChar (x ++ '\'' :: l) x ('\'' :: l) := by
  induction x with
  | nil => exact .stop (refuses_multiLiteralChar_quote l)
  | cons c x ih =>
    exact .step (takes_multiLiteralChar (hx c List.mem_cons_self) _) (by simp)
      (ih fun d hd => hx d (List.mem_cons_of_mem _ hd))

/-- A text that starts with `q`, if with anything, starts with `q` when `q` follows it. -/
theorem exists_append_eq_cons {q : Char} {y : List Char} (hy : ∀ d ∈ y.head?, d = q)
    (l : List Char) : ∃ l', y ++ q :: l = q :: l' := by
  cases y with
  | nil => exact ⟨_, rfl⟩
  | cons d y =>
    obtain rfl := hy d rfl
    exact ⟨_, rfl⟩

theorem takes_many1_multiLiteralChar {x : List Char} (hx : x ≠ [])
    (hchars : ∀ c ∈ x, isLiteralChar c ∨ c = '\n') (l : List Char) :
    Takes (many1 multiLiteralChar) (x ++ '\'' :: l) x ('\'' :: l) := by
  obtain ⟨c, x, rfl⟩ := List.exists_cons_of_ne_nil hx
  exact Pieces.takes_many1 (takes_multiLiteralChar (hchars c List.mem_cons_self) _)
    (pieces_multiLiteralChar (fun d hd => hchars d (List.mem_cons_of_mem _ hd)) l)

/-- A run of single quotes in a multi-line literal body with the characters after it. -/
def quotedLiteralRun : Reader String := do
  let q ← quoteRun '\'' (Functor.discard (satisfy (· != '\'')))
  let cs ← many1 multiLiteralChar
  pure (q ++ String.ofList cs)

theorem multiLiteralBody_eq : multiLiteralBody = do
    let first ← many multiLiteralChar
    let runs ← many quotedLiteralRun
    let last ← attempt (quoteRun '\'' (literal "'''"))
    return String.ofList first ++ String.join runs ++ last.getD "" := rfl

/-- A multi-line literal body, from a run of single quotes or its end, is read by runs of
quotes with the characters after them, up to the quotes it ends with; no three quotes stand
in a row in it. -/
theorem literalRuns_of (cs : List Char) (hcs : ∀ c ∈ cs.head?, c = '\'')
    (hchars : ∀ c ∈ cs, c = '\'' ∨ isLiteralChar c ∨ c = '\n')
    (hrun : ¬ ['\'', '\'', '\''] <:+: cs) (l : List Char) :
    ∃ runs trail, Pieces quotedLiteralRun (cs ++ '\'' :: '\'' :: '\'' :: l) runs
        (trail ++ '\'' :: '\'' :: '\'' :: l) ∧ ClosingTrail '\'' trail ∧
      (String.join runs).toList ++ trail = cs := by
  induction hn : cs.length using Nat.strong_induction_on generalizing cs with
  | _ n ih =>
  -- one run: the quotes `qs`, read as `q`, then the characters of `r` up to the next quote
  have round : ∀ (qs : List Char) (c : Char) (r : List Char) (q : String), cs = qs ++ c :: r →
      qs ≠ [] → q.toList = qs → c ≠ '\'' →
      (∀ l', Takes (quoteRun '\'' (Functor.discard (satisfy (· != '\'')))) (qs ++ c :: l') q
        (c :: l')) →
      ∃ runs trail, Pieces quotedLiteralRun (cs ++ '\'' :: '\'' :: '\'' :: l) runs
        (trail ++ '\'' :: '\'' :: '\'' :: l) ∧ ClosingTrail '\'' trail ∧
        (String.join runs).toList ++ trail = cs := by
    intro qs c r q hcs' hqs hq hc hquote
    set x := (c :: r).takeWhile (· != '\'') with hx
    set y := (c :: r).dropWhile (· != '\'') with hy
    have hxy : x ++ y = c :: r := List.takeWhile_append_dropWhile
    have hyhead : ∀ d ∈ y.head?, d = '\'' := head_dropWhile_ne '\'' (c :: r)
    have hsuffix : y <:+ cs := by
      rw [hcs', ← hxy, ← List.append_assoc]
      exact List.suffix_append _ _
    obtain ⟨l', hl'⟩ := exists_append_eq_cons hyhead ('\'' :: '\'' :: l)
    have hxchars : ∀ d ∈ x, isLiteralChar d ∨ d = '\n' := fun d hd => by
      have hne : d ≠ '\'' := by simpa using List.mem_takeWhile_imp hd
      have hmem : d ∈ cs := hcs' ▸ List.mem_append_right _ (hxy ▸ List.mem_append_left _ hd)
      exact (hchars d hmem).resolve_left hne
    have hxne : x ≠ [] := by simp [hx, bne_iff_ne.2 hc]
    have hmany := takes_many1_multiLiteralChar hxne hxchars l'
    rw [← hl'] at hmany
    have hlen : y.length < n := by
      have := congrArg List.length hxy
      have := List.length_pos_iff.2 hqs
      rw [← hn, hcs']
      simp only [List.length_append, List.length_cons] at *
      omega
    obtain ⟨runs, trail, hruns, htrail, hjoin⟩ := ih y.length hlen y hyhead
      (fun d hd => hchars d (hsuffix.subset hd)) (fun h => hrun (h.trans hsuffix.isInfix)) rfl
    obtain ⟨x', hx'⟩ : ∃ x', x = c :: x' := ⟨_, List.takeWhile_cons_of_pos (bne_iff_ne.2 hc)⟩
    have hahead : cs ++ '\'' :: '\'' :: '\'' :: l = qs ++ c :: (x' ++ (y ++ '\'' :: '\'' :: '\'' :: l)) := by
      rw [hcs', ← hxy, hx']
      simp
    refine ⟨(q ++ String.ofList x) :: runs, trail, .step ?_ ?_ hruns, htrail, ?_⟩
    · rw [hahead]
      rw [hx', List.cons_append] at hmany
      rw [hx']
      exact (hquote _).bind (hmany.bind (takes_pure (q ++ String.ofList (c :: x'))))
    · rw [hahead]
      simp only [List.length_append, List.length_cons]
      omega
    · rw [String.join_cons, String.toList_append, String.toList_append, hq, String.toList_ofList,
        List.append_assoc, List.append_assoc, hjoin, hxy, hcs']
  have hstop : ∀ l', Refuses quotedLiteralRun ('\'' :: '\'' :: '\'' :: l') := fun l' =>
    (refuses_quoteRun_notQuote l').bind
  cases cs with
  | nil => exact ⟨[], [], .stop (hstop l), Or.inl rfl, rfl⟩
  | cons c r =>
    obtain rfl := hcs c rfl
    cases r with
    | nil => exact ⟨[], ['\''], .stop (hstop _), Or.inr (Or.inl rfl), rfl⟩
    | cons d r =>
      by_cases hd : d = '\''
      · subst hd
        cases r with
        | nil => exact ⟨[], ['\'', '\''], .stop (hstop _), Or.inr (Or.inr rfl), rfl⟩
        | cons e r =>
          have he : e ≠ '\'' := by
            rintro rfl
            exact hrun (List.prefix_append _ _).isInfix
          exact round ['\'', '\''] e r (String.ofList ['\'', '\'']) rfl (by simp)
            String.toList_ofList he fun l' => takes_quoteRun_two (takes_notQuote he l')
      · exact round ['\''] d r '\''.toString rfl (by simp) rfl hd
          fun l' => takes_quoteRun_one (by simpa using hd) (takes_notQuote hd l')


/-- The body of a multi-line literal string reads back as its text, up to the closing
quotes. -/
theorem takes_multiLiteralBody {cs : List Char}
    (hchars : ∀ c ∈ cs, c = '\'' ∨ isLiteralChar c ∨ c = '\n')
    (hrun : ¬ ['\'', '\'', '\''] <:+: cs) {l : List Char} (hl : l.head? ≠ some '\'') :
    Takes multiLiteralBody (cs ++ '\'' :: '\'' :: '\'' :: l) (String.ofList cs)
      ('\'' :: '\'' :: '\'' :: l) := by
  set x := cs.takeWhile (· != '\'') with hx
  set y := cs.dropWhile (· != '\'') with hy
  have hxy : x ++ y = cs := List.takeWhile_append_dropWhile
  have hxchars : ∀ d ∈ x, isLiteralChar d ∨ d = '\n' := fun d hd =>
    (hchars d (hxy ▸ List.mem_append_left _ hd)).resolve_left
      (by simpa using List.mem_takeWhile_imp hd)
  obtain ⟨l', hl'⟩ := exists_append_eq_cons (head_dropWhile_ne '\'' cs) ('\'' :: '\'' :: l)
  have hfirst := pieces_multiLiteralChar hxchars l'
  rw [← hy] at hl'
  rw [← hl'] at hfirst
  have hsuffix : y <:+ cs := hxy ▸ List.suffix_append _ _
  obtain ⟨runs, trail, hruns, htrail, hjoin⟩ := literalRuns_of y (head_dropWhile_ne '\'' cs)
    (fun d hd => hchars d (hsuffix.subset hd)) (fun h => hrun (h.trans hsuffix.isInfix)) l
  obtain ⟨o, ho, hog⟩ := takes_closingTrail (s := "'''") (by simp) htrail hl
  have hval : String.ofList x ++ String.join runs ++ o.getD "" = String.ofList cs := by
    rw [hog, ← String.ofList_toList (s := String.join runs), ← String.ofList_append,
      ← String.ofList_append, List.append_assoc, hjoin, hxy]
  rw [multiLiteralBody_eq, ← hval, ← hxy, List.append_assoc]
  exact hfirst.takes_many.bind (hruns.takes_many.bind (ho.bind
    (takes_pure (String.ofList x ++ String.join runs ++ o.getD ""))))

/-- A multi-line literal string reads back as its text, after a line feed that opens it when
the text has one. -/
theorem takes_multiLiteralString {cs : List Char}
    (hchars : ∀ c ∈ cs, c = '\'' ∨ isLiteralChar c ∨ c = '\n')
    (hrun : ¬ ['\'', '\'', '\''] <:+: cs) {lead l : List Char}
    (hlead : lead = ['\n'] ∨ (lead = [] ∧ '\n' ∉ cs ∧ '\r' ∉ cs)) (hl : l.head? ≠ some '\'') :
    Takes multiLiteralString ('\'' :: '\'' :: '\'' :: lead ++ cs ++ '\'' :: '\'' :: '\'' :: l)
      (String.ofList cs) l := by
  have hquotes : ∀ r, Takes (literal "'''") ('\'' :: '\'' :: '\'' :: r) () r := fun r => by
    simpa using takes_literal "'''" r
  have hbreak : Takes (Functor.discard (attempt lineBreak))
      (lead ++ cs ++ '\'' :: '\'' :: '\'' :: l) () (cs ++ '\'' :: '\'' :: '\'' :: l) := by
    rcases hlead with rfl | ⟨rfl, hn, hr⟩
    · exact (takes_lineBreak _).attempt.discard
    · have hhead : ∀ x ∈ (cs ++ '\'' :: '\'' :: '\'' :: l).head?, x ≠ '\n' ∧ x ≠ '\r' := by
        cases cs with
        | nil => simp
        | cons c cs =>
          simp only [List.cons_append, List.head?_cons, Option.mem_def, Option.some.injEq]
          rintro x rfl
          exact ⟨fun h => hn (h ▸ List.mem_cons_self), fun h => hr (h ▸ List.mem_cons_self)⟩
      refine (refuses_lineBreak ?_ ?_).attempt.discard <;> intro h <;> simp_all
  refine ((hquotes _).bind (hbreak.bind ((takes_multiLiteralBody hchars hrun hl).commit.bind
    ((hquotes l).commit.bind (takes_pure (String.ofList cs)))))).label _


/-! ## The form a text is written in -/

theorem le_longestRun_fold (c : Char) (l : List Char) (r b : Nat) :
    b ≤ (l.foldl (fun (run, best) d => if d == c then (run + 1, max best (run + 1))
      else (0, best)) (r, b)).2 := by
  induction l generalizing r b with
  | nil => exact le_rfl
  | cons d l ih =>
    rw [List.foldl_cons]
    dsimp only
    split
    · exact (le_max_left _ _).trans (ih _ _)
    · exact ih _ _

/-- A character that occurs in a text makes a run. -/
theorem longestRun_pos {c : Char} {cs : List Char} (h : c ∈ cs) : 0 < longestRun c cs := by
  obtain ⟨a, b, rfl⟩ := List.append_of_mem h
  unfold longestRun
  rw [List.foldl_append, List.foldl_cons]
  generalize List.foldl _ (0, 0) a = s
  obtain ⟨r, best⟩ := s
  simp only [beq_self_eq_true, if_true]
  exact lt_of_lt_of_le (by omega) ((le_max_right _ _).trans (le_longestRun_fold c b _ _))

/-- Three of a character in a row make a run of three. -/
theorem three_le_longestRun {c : Char} {cs : List Char} (h : [c, c, c] <:+: cs) :
    3 ≤ longestRun c cs := by
  obtain ⟨a, b, rfl⟩ := h
  unfold longestRun
  rw [List.foldl_append, List.foldl_append]
  generalize List.foldl _ (0, 0) a = s
  obtain ⟨r, best⟩ := s
  simp only [List.foldl_cons, List.foldl_nil, beq_self_eq_true, if_true]
  exact le_trans (by omega) ((le_max_right _ _).trans (le_longestRun_fold c b _ _))

theorem StringTraits.form_literal {t : StringTraits} (h : t.form = .literal) :
    t.controls = false ∧ t.singles = 0 ∧ t.newline = false := by
  unfold StringTraits.form at h
  split_ifs at h
  simp_all

theorem StringTraits.form_multiLiteral {t : StringTraits} (h : t.form = .multiLiteral) :
    t.controls = false ∧ t.singles ≤ 2 := by
  unfold StringTraits.form at h
  split_ifs at h
  simp_all

/-- A character that is no control a literal string cannot hold is a single quote, a line
feed, or a character of a literal string. -/
theorem isLiteralChar_of_not_control {c : Char} (h : isEscapeControl c = false) :
    c = '\'' ∨ isLiteralChar c ∨ c = '\n' := by
  simp only [isEscapeControl, isLiteralChar, Bool.and_eq_false_iff, bne_eq_false_iff_eq,
    Bool.or_eq_true, decide_eq_true_eq, beq_iff_eq, Bool.and_eq_true, ← Char.toNat_inj] at h ⊢
  simp only [Bool.or_eq_false_iff, decide_eq_false_iff_not, beq_eq_false_iff_ne] at h
  simp at h ⊢
  omega


/-- A one-line basic body starts with no double quote. -/
theorem basicBody_false_head (cs : List Char) : ∀ x ∈ (basicBody false cs 0).head?, x ≠ '"' := by
  cases cs with
  | nil => simp [basicBody]
  | cons c cs =>
    by_cases hq : c = '"'
    · subst hq
      simp [basicBody_quote]
    · rw [basicBody_cons_of_ne hq]
      by_cases hplain : isPlain c
      · rw [escapeBasic_of_isPlain hplain]
        simpa using hq
      · obtain ⟨x, t, -, hx, -⟩ := takes_escape_escapeBasic (Bool.eq_false_iff.2 hplain) hq
          (fun h => Bool.false_ne_true h.1)
        rw [hx]
        simp

/-! ## Strings of any form -/

theorem refuses_multiBasicString (h : ¬ ['"', '"', '"'] <+: ahead) :
    Refuses multiBasicString ahead :=
  (refuses_literal (by simpa using h)).bind.label _

theorem refuses_basicString (h : ahead.head? ≠ some '"') : Refuses basicString ahead :=
  (refuses_char h).bind

theorem refuses_multiLiteralString (h : ¬ ['\'', '\'', '\''] <+: ahead) :
    Refuses multiLiteralString ahead :=
  (refuses_literal (by simpa using h)).bind.label _

/-- What starts with a character that is not `q` does not start with three of it. -/
theorem not_triple_prefix_of_head {q x : Char} (hx : x ≠ q) (l : List Char) :
    ¬ [q, q, q] <+: x :: l := by
  rintro ⟨t, ht⟩
  exact hx (List.cons.inj ht).1.symm

theorem StringTraits.not_escapeControl {cs : List Char}
    (h : (StringTraits.of cs).controls = false) : ∀ c ∈ cs, isEscapeControl c = false := by
  intro c hc
  simpa [StringTraits.of] using List.any_eq_false.1 h c hc

theorem StringTraits.newline_not_mem {cs : List Char} (h : (StringTraits.of cs).newline = false) :
    '\n' ∉ cs := by
  simpa [StringTraits.of] using h

/-- The line feed a multi-line string opens with, as characters. -/
theorem toList_lead (b : Bool) :
    (if b = true then "\n" else "").toList = if b then ['\n'] else [] := by
  cases b <;> simp

variable {text : String} {l : List Char}

/-- A text written as a basic string reads back, whatever follows but a double quote. -/
theorem takes_string_basic (hform : (StringTraits.of text.toList).form = .basic)
    (hq : l.head? ≠ some '"') : Takes string ((quoteString text).toList ++ l) text l := by
  have hone : "\"".toList = ['"'] := by simp
  unfold string
  simp only [quoteString, hform, String.toList_append, String.toList_ofList, List.append_assoc,
    hone, List.cons_append, List.nil_append]
  refine Refuses.firstOf_cons (by simp) (refuses_multiBasicString ?_)
    (Takes.firstOf_cons _ ?_)
  · -- the body never starts with a double quote, so no three of them open the string
    rintro ⟨t, ht⟩
    have hhead := basicBody_false_head text.toList
    cases hb : basicBody false text.toList 0 with
    | nil =>
      rw [hb] at ht
      simp only [List.cons_append, List.nil_append, List.cons.injEq, true_and] at ht
      exact hq (by rw [← ht]; rfl)
    | cons x b =>
      rw [hb] at ht hhead
      simp only [List.cons_append, List.cons.injEq] at ht
      exact hhead x rfl ht.2.1.symm
  · simpa using takes_basicString text.toList l

/-- A text written as a literal string reads back, whatever follows but a single quote. -/
theorem takes_string_literal (hform : (StringTraits.of text.toList).form = .literal)
    (hs : l.head? ≠ some '\'') : Takes string ((quoteString text).toList ++ l) text l := by
  have hsingle : "'".toList = ['\''] := by simp
  unfold string
  simp only [quoteString, hform, String.toList_append, List.append_assoc, hsingle,
    List.cons_append, List.nil_append]
  obtain ⟨hc, hs0, hn⟩ := StringTraits.form_literal hform
  have hquote : '\'' ∉ text.toList := fun h =>
    absurd hs0 (Nat.pos_iff_ne_zero.1 (longestRun_pos h))
  have hchars : ∀ c ∈ text.toList, isLiteralChar c := fun c hc' => by
    rcases isLiteralChar_of_not_control (StringTraits.not_escapeControl hc c hc') with
      rfl | h | rfl
    · exact absurd hc' hquote
    · exact h
    · exact absurd hc' (StringTraits.newline_not_mem hn)
  refine Refuses.firstOf_cons (by simp)
    (refuses_multiBasicString (not_triple_prefix_of_head (by decide) _))
    (Refuses.firstOf_cons (by simp) (refuses_basicString (by simp))
      (Refuses.firstOf_cons (by simp) (refuses_multiLiteralString ?_)
        (Takes.firstOf_cons _ ?_)))
  · -- the text has no single quote, so no three of them open the string
    cases ht : text.toList with
    | nil =>
      rintro ⟨t, h⟩
      simp only [List.nil_append, List.cons_append, List.cons.injEq, true_and] at h
      exact hs (by rw [← h]; rfl)
    | cons c cs =>
      have hc' : c ≠ '\'' := fun h => hquote (by rw [ht, h]; exact List.mem_cons_self)
      rintro ⟨t, h⟩
      simp only [List.cons_append, List.cons.injEq] at h
      exact hc' h.2.1.symm
  · simpa using takes_literalString hchars l

/-- A text written as a multi-line basic string reads back, whatever follows but a double
quote. -/
theorem takes_string_multiBasic (hform : (StringTraits.of text.toList).form = .multiBasic)
    (hq : l.head? ≠ some '"') : Takes string ((quoteString text).toList ++ l) text l := by
  have hthree : "\"\"\"".toList = ['"', '"', '"'] := by simp
  unfold string
  simp only [quoteString, hform, String.toList_append, String.toList_ofList, List.append_assoc,
    hthree, toList_lead, List.cons_append, List.nil_append]
  have hopen : (if (StringTraits.of text.toList).newline then ['\n'] else []) = ['\n'] ∨
      ((if (StringTraits.of text.toList).newline then ['\n'] else []) = [] ∧
        '\n' ∉ text.toList) := by
    cases hn : (StringTraits.of text.toList).newline
    · exact .inr ⟨rfl, StringTraits.newline_not_mem hn⟩
    · exact .inl rfl
  simpa using Takes.firstOf_cons _ (takes_multiBasicString text.toList hopen hq)

/-- A text written as a multi-line literal string reads back, whatever follows but a single
quote. -/
theorem takes_string_multiLiteral (hform : (StringTraits.of text.toList).form = .multiLiteral)
    (hs : l.head? ≠ some '\'') : Takes string ((quoteString text).toList ++ l) text l := by
  have hsingles : "'''".toList = ['\'', '\'', '\''] := by simp
  unfold string
  simp only [quoteString, hform, String.toList_append, List.append_assoc, hsingles, toList_lead,
    List.cons_append, List.nil_append]
  obtain ⟨hc, hs2⟩ := StringTraits.form_multiLiteral hform
  have hchars : ∀ c ∈ text.toList, c = '\'' ∨ isLiteralChar c ∨ c = '\n' := fun c hc' =>
    isLiteralChar_of_not_control (StringTraits.not_escapeControl hc c hc')
  have hrun : ¬ ['\'', '\'', '\''] <:+: text.toList := fun h =>
    absurd (three_le_longestRun h) (by simp [StringTraits.of] at hs2; omega)
  -- without a line break the text opens the string as it is, so it must not start with `\r`
  have hopen : (if (StringTraits.of text.toList).newline then ['\n'] else []) = ['\n'] ∨
      ((if (StringTraits.of text.toList).newline then ['\n'] else []) = [] ∧
        '\n' ∉ text.toList ∧ '\r' ∉ text.toList) := by
    cases hn : (StringTraits.of text.toList).newline
    · refine .inr ⟨rfl, StringTraits.newline_not_mem hn, fun hr => ?_⟩
      have := StringTraits.not_escapeControl hc '\r' hr
      simp [isEscapeControl] at this
    · exact .inl rfl
  refine Refuses.firstOf_cons (by simp)
    (refuses_multiBasicString (not_triple_prefix_of_head (by decide) _))
    (Refuses.firstOf_cons (by simp) (refuses_basicString (by simp))
      (Takes.firstOf_cons _ ?_))
  simpa using takes_multiLiteralString hchars hrun hopen hs

/-- Every text, written as a TOML string, reads back as itself, whatever follows it but a
quote. -/
theorem takes_string_quoteString (text : String) {l : List Char} (hq : l.head? ≠ some '"')
    (hs : l.head? ≠ some '\'') : Takes string ((quoteString text).toList ++ l) text l := by
  cases hform : (StringTraits.of text.toList).form with
  | basic => exact takes_string_basic hform hq
  | literal => exact takes_string_literal hform hs
  | multiBasic => exact takes_string_multiBasic hform hq
  | multiLiteral => exact takes_string_multiLiteral hform hs

end DocSuite.Toml
