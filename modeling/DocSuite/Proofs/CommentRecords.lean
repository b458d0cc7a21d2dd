import Mathlib
import DocSuite.Proofs.Comments
import DocSuite.Proofs.Bytes
/-!
# Comment records in source order

A parser's syntax tree nests: every node spans a range of the source, and its children lie
inside that range, in order and apart (`Node.Parsed`). The scan walks such a tree in pre-order
and stops at comments, so the comments it reports come out in the order of the source, their
ranges apart (`Node.comments_spread`).

Each record describes its comment in the bytes of the UTF-8 source (`Describes`): its byte
range is the comment's, the bytes in that range are the comment's text, which wraps the raw
value (`Wraps`), and the lines and columns are the parser's points of the two ends, rows and
byte columns counted from zero (`bytePoint`) and reported from one.

Main statement `scan_records_in_source_order`: a scan that succeeds reports, in order, one
record for each comment node whose text opens with `/*` or `//`, describing it, and the
records' byte ranges increase strictly and do not overlap.
-/

namespace DocSuite.Script

open Text

/-! ## Bytes of a text -/

/-- The byte offset of the character with index `i` of a text: the size of the characters
before it, or of the whole text past its end. -/
def byteIndex (code : String) (i : Nat) : Nat :=
  (String.ofList (code.toList.take i)).utf8ByteSize

/-- Where byte `i` of a text stands, as a parser reports a point: the row counts the line
feeds before it and the column the bytes since the last one, both from zero. -/
def bytePoint (bytes : ByteArray) (i : Nat) : Nat × Nat :=
  let before := bytes.data.toList.take i
  (before.count 10, (before.reverse.takeWhile (· != 10)).length)

/-- The byte offset of every character index of a text, and of its end past it. -/
theorem getElem?_offsetsOf (cs : List Char) (acc : Nat) {k : Nat} (hk : k ≤ cs.length) :
    (Source.offsetsOf cs acc)[k]? = some (acc + (String.ofList (cs.take k)).utf8ByteSize) := by
  induction cs generalizing acc k with
  | nil =>
    obtain rfl : k = 0 := by simpa using hk
    rfl
  | cons c cs ih =>
    cases k with
    | zero => simp [Source.offsetsOf]
    | succ k =>
      rw [Source.offsetsOf, List.getElem?_cons_succ, ih _ (by simpa using hk), List.take_succ_cons,
        utf8ByteSize_ofList_cons, Nat.add_assoc]

theorem byteOffset_ofString (s : String) (i : Nat) :
    (Source.ofString s).byteOffset i = byteIndex s i := by
  have hsize : (Source.ofString s).chars.size = s.toList.length := List.size_toArray
  have hoff : (Source.ofString s).offsets[min i s.toList.length]? =
      some (byteIndex s (min i s.toList.length)) := by
    simpa [Source.ofString, byteIndex] using getElem?_offsetsOf s.toList 0 (Nat.min_le_right i _)
  rw [Source.byteOffset, hsize, Array.getD_eq_getD_getElem?, hoff, Option.getD_some, byteIndex,
    byteIndex, ← List.take_eq_take_min]

theorem slice_ofString (s : String) (i j : Nat) :
    (Source.ofString s).slice i j = String.ofList ((s.toList.drop i).take (j - i)) := by
  simp [Source.slice, Source.ofString]

/-- The offset of a later character adds the bytes of the characters in between. -/
theorem byteIndex_add_slice (s : String) {i j : Nat} (hij : i ≤ j) :
    byteIndex s i + ((Source.ofString s).slice i j).utf8ByteSize = byteIndex s j := by
  rw [byteIndex, byteIndex, slice_ofString, ← String.utf8ByteSize_append, ← String.ofList_append,
    ← List.take_add, Nat.add_sub_cancel' hij]

/-- The bytes between the offsets of two character indices are those of the characters
between them. -/
theorem extract_byteIndex (s : String) {i j : Nat} (hij : i ≤ j) :
    s.toUTF8.extract (byteIndex s i) (byteIndex s j) = ((Source.ofString s).slice i j).toUTF8 := by
  -- the characters before `i`, the `j - i` from `i` on, and the rest
  have htake : s.toList.take j = s.toList.take i ++ (s.toList.drop i).take (j - i) := by
    rw [← List.take_add, Nat.add_sub_cancel' hij]
  have hbytes : s.toUTF8 = (s.toList.take i).utf8Encode ++
      (((s.toList.drop i).take (j - i)).utf8Encode ++ (s.toList.drop j).utf8Encode) := by
    rw [← ByteArray.append_assoc, ← List.utf8Encode_append, ← List.utf8Encode_append, ← htake,
      List.take_append_drop, String.utf8Encode_toList, String.toUTF8_eq_toByteArray]
  have hi : byteIndex s i = (s.toList.take i).utf8Encode.size + 0 := utf8ByteSize_eq_size _
  have hj : byteIndex s j =
      (s.toList.take i).utf8Encode.size + ((s.toList.drop i).take (j - i)).utf8Encode.size := by
    rw [← byteIndex_add_slice s hij, slice_ofString, byteIndex, utf8ByteSize_eq_size,
      utf8ByteSize_eq_size]
  rw [hbytes, hi, hj, ByteArray.extract_append_size_add, ByteArray.extract_append_eq_left rfl,
    slice_ofString, String.toUTF8_eq_toByteArray, String.toByteArray_ofList]

/-- The point of a character's byte offset: the line feeds before the character, and the bytes
of the characters after the last of them. -/
theorem bytePoint_byteIndex (s : String) (i : Nat) :
    bytePoint s.toUTF8 (byteIndex s i) =
      ((s.toList.take i).count '\n',
        (String.ofList ((s.toList.take i).reverse.takeWhile (· != '\n')).reverse).utf8ByteSize) := by
  have hbefore : s.toUTF8.data.toList.take (byteIndex s i) =
      (s.toList.take i).flatMap String.utf8EncodeChar := by
    rw [toList_data_toUTF8, ← List.take_append_drop i s.toList, List.flatMap_append, byteIndex,
      utf8ByteSize_ofList, List.take_append_drop, List.take_left' rfl]
  simp only [bytePoint, hbefore, count_lf_flatMap, takeWhile_reverse_flatMap, List.length_reverse,
    utf8ByteSize_ofList]

/-- The characters after the last line feed of a text end it. -/
theorem take_append_takeWhile_reverse (l : List Char) :
    l.take (l.length - (l.reverse.takeWhile (· != '\n')).length) ++
      (l.reverse.takeWhile (· != '\n')).reverse = l := by
  have hsuffix : (l.reverse.takeWhile (· != '\n')).reverse <:+ l := by
    simpa using (List.takeWhile_prefix (· != '\n') (l := l.reverse)).reverse
  rw [List.suffix_iff_eq_drop.1 hsuffix, List.length_reverse, List.take_append_drop]

/-- The scanner's line and column of a character are the parser's point of its byte offset,
counted from one. -/
theorem point_ofString (s : String) (i : Nat) :
    (Source.ofString s).point i =
      ((bytePoint s.toUTF8 (byteIndex s i)).1 + 1, (bytePoint s.toUTF8 (byteIndex s i)).2 + 1) := by
  have hbefore : ((Source.ofString s).chars.extract 0 i).toList = s.toList.take i := by
    simp [Source.ofString]
  have hle : (s.toList.take i).length -
      ((s.toList.take i).reverse.takeWhile (· != '\n')).length ≤ i := by
    have : (s.toList.take i).length ≤ i := List.length_take_le i _
    omega
  -- the line starts where the characters after the last line feed do
  have hstart : byteIndex s ((s.toList.take i).length -
        ((s.toList.take i).reverse.takeWhile (· != '\n')).length) +
      (String.ofList ((s.toList.take i).reverse.takeWhile (· != '\n')).reverse).utf8ByteSize =
      byteIndex s i := by
    rw [byteIndex, byteIndex, utf8ByteSize_eq_size, utf8ByteSize_eq_size, utf8ByteSize_eq_size,
      ← ByteArray.size_append, ← List.utf8Encode_append, ← Nat.min_eq_left hle, ← List.take_take,
      take_append_takeWhile_reverse]
  rw [Source.point, hbefore, byteOffset_ofString, byteOffset_ofString, bytePoint_byteIndex,
    List.count_eq_length_filter, Prod.mk.injEq]
  exact ⟨rfl, by omega⟩

/-! ## Trees that nest -/

namespace Node

/-- A node spans a range, and its children lie inside it, in order and apart. -/
def Nests (n : Node) : Prop :=
  n.start ≤ n.stop ∧ (∀ c ∈ n.children, n.start ≤ c.start ∧ c.stop ≤ n.stop) ∧
    n.children.Pairwise fun a b => a.stop ≤ b.start

/-- A syntax tree as a parser gives it: every node nests its children, and comments are
tokens. -/
def Parsed (t : Node) : Prop := t.CommentsAreTokens ∧ ∀ s ∈ t.sites, s.2.Nests

/-- The comment nodes of a tree, in pre-order. -/
def comments (t : Node) : List Node := (t.sites.map (·.2)).filter (·.kind == "comment")

theorem map_snd_sitesAll (ts : List Node) :
    (Node.sitesAll ts).map (·.2) = ts.flatMap fun t => t.sites.map (·.2) := by
  induction ts with
  | nil => rfl
  | cons t ts ih => rw [Node.sitesAll, List.map_append, ih, List.flatMap_cons]

/-- The comments of a tree: the node itself when it is one, then those of its children. -/
theorem comments_eq (t : Node) :
    t.comments = (if t.kind = "comment" then [t] else []) ++ t.children.flatMap comments := by
  rw [comments, sites_eq, List.map_cons, List.map_map]
  simp only [Function.comp_def, map_snd_sitesAll, List.filter_cons, List.filter_flatMap]
  split <;> simp_all <;> rfl

theorem mem_sites_of_child {t c : Node} (hc : c ∈ t.children) {s : List Node × Node}
    (hs : s ∈ c.sites) : (t :: s.1, s.2) ∈ t.sites := by
  rw [sites_eq]
  exact List.mem_cons_of_mem _ (List.mem_map.2 ⟨s, mem_sitesAll hc hs, rfl⟩)

theorem Parsed.child {t : Node} (ht : t.Parsed) {c : Node} (hc : c ∈ t.children) : c.Parsed :=
  ⟨ht.1.child hc, fun s hs => ht.2 (t :: s.1, s.2) (mem_sites_of_child hc hs)⟩

theorem Parsed.nests {t : Node} (ht : t.Parsed) : t.Nests :=
  ht.2 ([], t) (by rw [sites_eq]; exact List.mem_cons_self)

mutual

/-- The comments of a nesting tree lie inside it, in order and apart. -/
theorem comments_spread : ∀ t : Node, t.Parsed →
    t.comments.Pairwise (fun a b => a.stop ≤ b.start) ∧
      ∀ n ∈ t.comments, t.start ≤ n.start ∧ n.stop ≤ t.stop
  | ⟨kind, status, start, stop, children⟩, ht => by
    have hn := ht.nests
    rw [comments_eq]
    by_cases hk : kind = "comment"
    · -- a comment is a token: it is its only comment
      have hleaf : children = [] :=
        List.isEmpty_iff.1 (ht.1 ([], _) (by rw [sites_eq]; exact List.mem_cons_self) hk)
      subst hleaf
      simp [hk]
    · obtain ⟨hall, hin⟩ := commentsAll_spread children (fun c hc => ht.child hc) hn.2.2
      refine ⟨by simpa [hk] using hall, fun n hmem => ?_⟩
      simp only [hk, if_false, List.nil_append] at hmem
      obtain ⟨c, hc, hnc⟩ := hin n hmem
      have := hn.2.1 c hc
      exact ⟨by omega, by omega⟩

/-- `comments_spread` over siblings in order and apart. -/
theorem commentsAll_spread : ∀ ts : List Node, (∀ t ∈ ts, t.Parsed) →
    ts.Pairwise (fun a b => a.stop ≤ b.start) →
    (ts.flatMap comments).Pairwise (fun a b => a.stop ≤ b.start) ∧
      ∀ n ∈ ts.flatMap comments, ∃ t ∈ ts, t.start ≤ n.start ∧ n.stop ≤ t.stop
  | [], _, _ => by simp
  | t :: ts, h, hp => by
    obtain ⟨hhead, hheadIn⟩ := comments_spread t (h t List.mem_cons_self)
    obtain ⟨hrest, hrestIn⟩ := commentsAll_spread ts (fun u hu => h u (List.mem_cons_of_mem _ hu))
      (List.pairwise_cons.1 hp).2
    rw [List.flatMap_cons]
    refine ⟨List.pairwise_append.2 ⟨hhead, hrest, fun a ha b hb => ?_⟩, fun n hmem => ?_⟩
    · -- a comment of the first sibling ends before any of a later one starts
      obtain ⟨u, hu, hbu⟩ := hrestIn b hb
      have htu := (List.pairwise_cons.1 hp).1 u hu
      have hta := hheadIn a ha
      omega
    · rcases List.mem_append.1 hmem with hmem | hmem
      · exact ⟨t, List.mem_cons_self, hheadIn n hmem⟩
      · obtain ⟨u, hu, hnu⟩ := hrestIn n hmem
        exact ⟨u, List.mem_cons_of_mem _ hu, hnu⟩

end

/-- A comment node opens with `/*` or `//`: the forms the scan records. -/
def Delimited (src : Source) (n : Node) : Prop :=
  ['/', '*'] <+: (n.text src).toList ∨ ['/', '/'] <+: (n.text src).toList

instance (n : Node) : Decidable n.Nests := inferInstanceAs (Decidable (_ ∧ _ ∧ _))

instance (t : Node) : Decidable t.Parsed := inferInstanceAs (Decidable (_ ∧ _))

instance (src : Source) (n : Node) : Decidable (n.Delimited src) :=
  inferInstanceAs (Decidable (_ ∨ _))

end Node

/-! ## What a record says -/

/-- How a comment's text wraps its raw value: a block comment is `/*`, the value and `*/`, or
`/*` and a value that does not end with `*/`; a line comment is `//` and the value. -/
def Wraps : CommentKind → String → String → Prop
  | .block, raw, text =>
    text = "/*" ++ raw ++ "*/" ∨ (text = "/*" ++ raw ∧ ¬ ['*', '/'] <:+ raw.toList)
  | .line, raw, text => text = "//" ++ raw

/-- What the record of a comment node of the source `code` says about it: its byte range is
the node's, the bytes in that range are a text wrapping the raw value, and its lines and columns
are the points of the two ends, counted from one. -/
structure Describes (code : String) (n : Node) (r : CommentRecord) : Prop where
  startByte : r.range.startByte = byteIndex code n.start
  endByte : r.range.endByte = byteIndex code n.stop
  wraps : ∃ text, code.toUTF8.extract r.range.startByte r.range.endByte = text.toUTF8 ∧
    Wraps r.kind r.rawValue text
  startPoint : r.range.startLine = (bytePoint code.toUTF8 r.range.startByte).1 + 1 ∧
    r.range.startColumn = (bytePoint code.toUTF8 r.range.startByte).2 + 1
  endPoint : r.range.endLine = (bytePoint code.toUTF8 r.range.endByte).1 + 1 ∧
    r.range.endColumn = (bytePoint code.toUTF8 r.range.endByte).2 + 1

/-- A block comment's body without a closing `*/`, when it has one. -/
theorem wraps_block (body : List Char) :
    Wraps .block (String.ofList (if body.length ≥ 2 && body.drop (body.length - 2) == ['*', '/'] then
      body.take (body.length - 2) else body)) (String.ofList ('/' :: '*' :: body)) := by
  split
  case isTrue hclose =>
    simp only [Bool.and_eq_true, decide_eq_true_eq, beq_iff_eq] at hclose
    obtain ⟨pre, rfl⟩ : ∃ pre, body = pre ++ ['*', '/'] :=
      ⟨_, by rw [← hclose.2, List.take_append_drop]⟩
    have hpre : (pre ++ ['*', '/']).take ((pre ++ ['*', '/']).length - 2) = pre := by simp
    rw [hpre]
    exact .inl (String.toList_inj.1 (by simp))
  case isFalse hopen =>
    refine .inr ⟨String.toList_inj.1 (by simp), fun hsuffix => hopen ?_⟩
    -- a body ending with `*/` has at least two characters, the last two those
    rw [String.toList_ofList] at hsuffix
    have hlen : 2 ≤ body.length := by simpa using hsuffix.length_le
    have hdrop : body.drop (body.length - 2) = ['*', '/'] := (List.suffix_iff_eq_drop.1 hsuffix).symm
    simp [hlen, hdrop]

/-- A record gives the node's ends as its range, and a kind and raw value that its text
wraps. -/
theorem commentRecord_some {src : Source} {n : Node} {r : CommentRecord}
    (h : commentRecord src n = some r) :
    r.range = ⟨src.byteOffset n.start, src.byteOffset n.stop, (src.point n.start).1,
      (src.point n.start).2, (src.point n.stop).1, (src.point n.stop).2⟩ ∧
    Wraps r.kind r.rawValue (n.text src) := by
  have htext : n.text src = String.ofList (n.text src).toList := (String.ofList_toList).symm
  unfold commentRecord at h
  rcases hp : src.point n.start with ⟨l1, c1⟩
  rcases hq : src.point n.stop with ⟨l2, c2⟩
  simp only [hp, hq] at h
  split at h
  case h_1 body hbody =>
    cases h
    rw [htext, hbody]
    exact ⟨rfl, wraps_block body⟩
  case h_2 body hbody =>
    cases h
    refine ⟨rfl, String.toList_inj.1 ?_⟩
    rw [hbody]
    simp
  case h_3 => cases h

theorem Wraps.ne_empty {k : CommentKind} {raw text : String} (h : Wraps k raw text) :
    text ≠ "" := by
  intro hempty
  subst hempty
  cases k with
  | block => rcases h with h | ⟨h, -⟩ <;> simpa using congrArg String.toList h
  | line => simpa using congrArg String.toList h

/-- The record of a comment node of a source describes it. -/
theorem commentRecord_describes (code : String) {n : Node} (hn : n.start ≤ n.stop)
    {r : CommentRecord} (h : commentRecord (Source.ofString code) n = some r) :
    Describes code n r := by
  obtain ⟨hrange, hwraps⟩ := commentRecord_some h
  simp only [byteOffset_ofString, point_ofString] at hrange
  have hstart : r.range.startByte = byteIndex code n.start := by rw [hrange]
  have hend : r.range.endByte = byteIndex code n.stop := by rw [hrange]
  refine ⟨hstart, hend, ⟨n.text (Source.ofString code), ?_, hwraps⟩, ?_, ?_⟩
  · rw [hstart, hend, extract_byteIndex code hn]
    rfl
  · rw [hrange]
    exact ⟨rfl, rfl⟩
  · rw [hrange]
    exact ⟨rfl, rfl⟩

/-- A record's range is not empty: it holds at least the bytes of `/*` or `//`. -/
theorem startByte_lt_endByte (code : String) {n : Node} (hn : n.start ≤ n.stop)
    {r : CommentRecord} (h : commentRecord (Source.ofString code) n = some r) :
    r.range.startByte < r.range.endByte := by
  have hd := commentRecord_describes code hn h
  have hsize : 0 < (n.text (Source.ofString code)).utf8ByteSize :=
    Nat.pos_of_ne_zero fun h0 => (commentRecord_some h).2.ne_empty (String.utf8ByteSize_eq_zero_iff.1 h0)
  have hadd := byteIndex_add_slice code hn
  rw [hd.startByte, hd.endByte, ← hadd]
  exact Nat.lt_add_of_pos_right hsize

theorem byteIndex_mono (s : String) {i j : Nat} (hij : i ≤ j) : byteIndex s i ≤ byteIndex s j := by
  rw [← byteIndex_add_slice s hij]
  exact Nat.le_add_right _ _

/-! ## The scan -/

/-- A scan that succeeds reports the records of the tree's comment nodes, in pre-order. -/
theorem scanTree_ok {file : String} {src : Source} {t : Node} {rs : List CommentRecord}
    (ht : t.CommentsAreTokens) (h : scanTree file src t = .ok rs) :
    rs = t.comments.filterMap (commentRecord src) := by
  rw [scanTree_eq_sites file src t ht] at h
  split at h
  · cases h
  · cases h
    simp [Node.comments, List.filterMap_filter, List.filterMap_map]

/-- The values `f` gives, each related to its argument. -/
theorem forall₂_filterMap {α β : Type} {R : α → β → Prop} {f : α → Option β} :
    ∀ l : List α, (∀ a ∈ l, ∀ b, f a = some b → R a b) →
      List.Forall₂ R (l.filter fun a => (f a).isSome) (l.filterMap f)
  | [], _ => .nil
  | a :: l, h => by
    have ih := forall₂_filterMap l fun a' ha' => h a' (List.mem_cons_of_mem _ ha')
    cases hf : f a with
    | none => simpa [hf] using ih
    | some b => simpa [hf] using List.Forall₂.cons (h a List.mem_cons_self b hf) ih

/-- The records of a successful scan of a parsed tree, in order: one for each comment node that
opens with `/*` or `//`, describing it in the bytes of the source, with byte ranges that increase
strictly and do not overlap. -/
theorem scan_records_in_source_order (file code : String) (t : Node) (rs : List CommentRecord)
    (ht : t.Parsed) (hscan : scanTree file (Source.ofString code) t = .ok rs) :
    List.Forall₂ (Describes code) (t.comments.filter (·.Delimited (Source.ofString code))) rs ∧
    rs.Pairwise fun a b =>
      a.range.startByte < b.range.startByte ∧ a.range.endByte ≤ b.range.startByte := by
  have hrs := scanTree_ok ht.1 hscan
  -- every comment node spans a range
  have hspan : ∀ n ∈ t.comments, n.start ≤ n.stop := by
    intro n hn
    obtain ⟨s, hs, rfl⟩ := List.mem_map.1 (List.mem_filter.1 hn).1
    exact (ht.2 s hs).1
  constructor
  · rw [hrs]
    have hfilter : t.comments.filter (·.Delimited (Source.ofString code)) =
        t.comments.filter fun n => (commentRecord (Source.ofString code) n).isSome := by
      refine List.filter_congr fun n _ => ?_
      rw [Bool.eq_iff_iff, decide_eq_true_iff, isSome_commentRecord_iff]
      rfl
    rw [hfilter]
    exact forall₂_filterMap _ fun n hn r h => commentRecord_describes code (hspan n hn) h
  · rw [hrs, List.pairwise_filterMap]
    refine (Node.comments_spread t ht).1.imp_of_mem fun {a b} ha hb hab ra hra rb hrb => ?_
    have hda := commentRecord_describes code (hspan a ha) hra
    have hdb := commentRecord_describes code (hspan b hb) hrb
    have hlt := startByte_lt_endByte code (hspan a ha) hra
    have hle := byteIndex_mono code hab
    rw [hda.endByte, hdb.startByte] at *
    omega

/-- The tree of `// a⏎/* b */⏎`: a program holding a line comment and a block comment. -/
def twoCommentTree : Node :=
  ⟨"program", .plain, 0, 13, [⟨"comment", .plain, 0, 4, []⟩, ⟨"comment", .plain, 5, 12, []⟩]⟩

/-- The records of `twoCommentTree`: the line comment on line 1, the block comment on line 2. -/
def twoCommentRecords : List CommentRecord :=
  [⟨" a", .line, ⟨0, 4, 1, 1, 1, 5⟩⟩, ⟨" b ", .block, ⟨5, 12, 2, 1, 2, 8⟩⟩]

theorem twoComments_in_source_order :
    twoCommentTree.Parsed ∧
    scanTree "a.ts" (Source.ofString "// a\n/* b */\n") twoCommentTree = .ok twoCommentRecords ∧
    List.Forall₂ (Describes "// a\n/* b */\n")
      (twoCommentTree.comments.filter (·.Delimited (Source.ofString "// a\n/* b */\n")))
      twoCommentRecords ∧
    twoCommentRecords.Pairwise fun a b =>
      a.range.startByte < b.range.startByte ∧ a.range.endByte ≤ b.range.startByte :=
  have ht : twoCommentTree.Parsed := by decide
  have hscan : scanTree "a.ts" (Source.ofString "// a\n/* b */\n") twoCommentTree =
      .ok twoCommentRecords := by rfl
  ⟨ht, hscan, scan_records_in_source_order "a.ts" _ _ _ ht hscan⟩

end DocSuite.Script
