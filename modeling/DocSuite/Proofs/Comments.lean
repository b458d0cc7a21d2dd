import DocSuite.Script.Comments
/-!
# Which scans fail

`scanTree` walks a syntax tree threading the nearest `ERROR` node above it, and fails at the
first block comment it reaches with one. Here the tree is viewed instead through its *sites*:
every node in pre-order with its whole chain of ancestors (`Node.sites`). The walk's threaded
node is then the last error node of the chain (`collect_eq_sites`), so a scan fails exactly
when some block comment has an error ancestor, at the innermost error ancestor of the first
one in pre-order, and otherwise reports every comment node in pre-order
(`scan_fails_inside_error`). Trees are those a parser gives, whose comments are tokens with
no children.
-/

namespace DocSuite.Script

mutual

/-- The nodes of a tree in pre-order, each with its ancestors from the root down. -/
def Node.sites : Node → List (List Node × Node)
  | n@⟨_, _, _, _, children⟩ =>
    ([], n) :: (Node.sitesAll children).map fun s => (n :: s.1, s.2)

/-- `Node.sites` of sibling trees, in order. -/
def Node.sitesAll : List Node → List (List Node × Node)
  | [] => []
  | c :: cs => c.sites ++ Node.sitesAll cs

end

namespace Node

/-- A tree whose comments are tokens: no comment node has children. -/
def CommentsAreTokens (t : Node) : Prop :=
  ∀ s ∈ t.sites, s.2.kind = "comment" → s.2.children.isEmpty

/-- A block comment: a comment node whose text starts with `/*`. -/
def IsBlockComment (src : Source) (n : Node) : Prop :=
  n.kind = "comment" ∧ ['/', '*'] <+: (n.text src).toList

instance (src : Source) (n : Node) : Decidable (n.IsBlockComment src) :=
  inferInstanceAs (Decidable (_ ∧ _))

instance (t : Node) : Decidable t.CommentsAreTokens :=
  inferInstanceAs (Decidable (∀ s ∈ t.sites, _))

end Node

/-- The innermost error node among ancestors listed from the root down. -/
def innermostError (ancestors : List Node) : Option Node :=
  (ancestors.filter Node.isError).getLast?

/-- What the walk reports of the comment node of site `s` when `enclosing` is the nearest
error node above the whole tree. -/
def reported (src : Source) (enclosing : Option Node) (s : List Node × Node) :
    Option (CommentRecord × Option Node) :=
  (commentRecord src s.2).map (·, (innermostError s.1).or enclosing)

/-! ## Sites -/

theorem sites_eq (n : Node) :
    n.sites = ([], n) :: (Node.sitesAll n.children).map fun s => (n :: s.1, s.2) := by
  cases n
  rw [Node.sites]

theorem mem_sitesAll {cs : List Node} {c : Node} (hc : c ∈ cs) {s : List Node × Node}
    (hs : s ∈ c.sites) : s ∈ Node.sitesAll cs := by
  induction cs with
  | nil => cases hc
  | cons d ds ih =>
    rw [Node.sitesAll, List.mem_append]
    rcases List.mem_cons.1 hc with rfl | hc
    · exact .inl hs
    · exact .inr (ih hc)

theorem Node.CommentsAreTokens.child {t : Node} (ht : t.CommentsAreTokens) {c : Node}
    (hc : c ∈ t.children) : c.CommentsAreTokens := by
  intro s hs
  have hup : (t :: s.1, s.2) ∈ t.sites := by
    rw [sites_eq]
    exact List.mem_cons_of_mem _ (List.mem_map.2 ⟨s, mem_sitesAll hc hs, rfl⟩)
  exact ht (t :: s.1, s.2) hup

theorem innermostError_nil : innermostError [] = none := rfl

/-- The innermost error among `n` and the ancestors below it is among those below, if any. -/
theorem innermostError_cons (n : Node) (ancestors : List Node) :
    innermostError (n :: ancestors) =
      (innermostError ancestors).or (if n.isError then some n else none) := by
  unfold innermostError
  by_cases hn : n.isError
  · simp only [List.filter_cons, hn, if_true, List.getLast?_cons]
    cases (ancestors.filter Node.isError).getLast? <;> rfl
  · simp [hn]

theorem isSome_innermostError (ancestors : List Node) :
    (innermostError ancestors).isSome ↔ ∃ a ∈ ancestors, a.isError := by
  simp [innermostError]

/-- Below a node, the nearest error node above a subtree is the node itself if it is one. -/
theorem reported_cons (src : Source) (enclosing : Option Node) (n : Node)
    (s : List Node × Node) :
    reported src enclosing (n :: s.1, s.2) =
      reported src (if n.isError then some n else enclosing) s := by
  unfold reported
  rw [innermostError_cons, Option.or_assoc]
  cases n.isError <;> rfl

/-! ## The walk -/

mutual

/-- The walk of a tree reports the comment nodes among its sites, each with the innermost
error node of its ancestors, or else the one above the tree. -/
theorem collect_eq_sites (src : Source) (enclosing : Option Node) :
    ∀ t : Node, t.CommentsAreTokens →
      t.collect src enclosing =
        (t.sites.filter (·.2.kind == "comment")).filterMap (reported src enclosing)
  | ⟨kind, status, start, stop, children⟩, ht => by
    rw [Node.collect]
    by_cases hk : kind = "comment"
    · -- a comment is a token: its only site is itself
      have hleaf : children = [] :=
        List.isEmpty_iff.1 (ht ([], _) (by rw [sites_eq]; exact List.mem_cons_self) hk)
      subst hleaf
      rw [if_pos hk, sites_eq]
      simp only [Node.sitesAll, List.map_nil, List.filter_cons, List.filter_nil, hk,
        beq_self_eq_true, if_true, List.filterMap_cons, List.filterMap_nil, reported,
        innermostError_nil, Option.none_or]
      cases commentRecord src _ <;> rfl
    · have hchildren : ∀ c ∈ children, c.CommentsAreTokens := fun c hc =>
        Node.CommentsAreTokens.child ht hc
      rw [if_neg hk, collectAll_eq_sites src _ children hchildren, sites_eq]
      -- the node's own site is no comment, and every site below gains it as an ancestor
      simp only [List.filter_cons, List.filter_map, List.filterMap_map, Function.comp_def,
        reported_cons, hk, beq_iff_eq, if_false]

/-- `collect_eq_sites` over sibling trees. -/
theorem collectAll_eq_sites (src : Source) (enclosing : Option Node) :
    ∀ ts : List Node, (∀ t ∈ ts, t.CommentsAreTokens) →
      Node.collectAll src enclosing ts =
        ((Node.sitesAll ts).filter (·.2.kind == "comment")).filterMap (reported src enclosing)
  | [], _ => by simp [Node.collectAll, Node.sitesAll]
  | t :: ts, h => by
    rw [Node.collectAll, Node.sitesAll, List.filter_append, List.filterMap_append,
      collect_eq_sites src enclosing t (h t List.mem_cons_self),
      collectAll_eq_sites src enclosing ts fun u hu => h u (List.mem_cons_of_mem _ hu)]

end

/-! ## Comment records -/

/-- What a comment node's record can be: a block comment's when its text starts with `/*`,
a line comment's when it starts with `//`, and none otherwise. -/
theorem commentRecord_cases (src : Source) (n : Node) :
    (['/', '*'] <+: (n.text src).toList ∧ ∃ r, commentRecord src n = some r ∧ r.kind = .block) ∨
    (['/', '/'] <+: (n.text src).toList ∧ ∃ r, commentRecord src n = some r ∧ r.kind = .line) ∨
    (¬ ['/', '*'] <+: (n.text src).toList ∧ ¬ ['/', '/'] <+: (n.text src).toList ∧
      commentRecord src n = none) := by
  unfold commentRecord
  -- the range plays no part: only the text decides
  generalize src.point n.start = p
  generalize src.point n.stop = q
  obtain ⟨l1, c1⟩ := p
  obtain ⟨l2, c2⟩ := q
  dsimp only
  split
  case h_1 body heq => exact .inl ⟨⟨body, heq.symm⟩, _, rfl, rfl⟩
  case h_2 body heq => exact .inr (.inl ⟨⟨body, heq.symm⟩, _, rfl, rfl⟩)
  case h_3 hblock hline =>
    refine .inr (.inr ⟨?_, ?_, rfl⟩)
    · exact fun ⟨body, hbody⟩ => hblock body hbody.symm
    · exact fun ⟨body, hbody⟩ => hline body hbody.symm

/-- A comment node has a record exactly when its text starts with `/*` or `//`. -/
theorem isSome_commentRecord_iff (src : Source) (n : Node) :
    (commentRecord src n).isSome ↔
      ['/', '*'] <+: (n.text src).toList ∨ ['/', '/'] <+: (n.text src).toList := by
  rcases commentRecord_cases src n with ⟨hb, r, hr, -⟩ | ⟨hl, r, hr, -⟩ | ⟨hb, hl, hr⟩
  · simp [hr, hb]
  · simp [hr, hl]
  · simp [hr, hb, hl]

/-- A record is of a block comment exactly when the comment's text starts with `/*`. -/
theorem kind_eq_block_iff {src : Source} {n : Node} {r : CommentRecord}
    (h : commentRecord src n = some r) :
    r.kind = .block ↔ ['/', '*'] <+: (n.text src).toList := by
  rcases commentRecord_cases src n with ⟨hb, r', hr, hk⟩ | ⟨hl, r', hr, hk⟩ | ⟨-, -, hr⟩
  · rw [h, Option.some.injEq] at hr
    subst hr
    exact iff_of_true hk hb
  · rw [h, Option.some.injEq] at hr
    subst hr
    -- a text that starts with `//` does not start with `/*`
    refine iff_of_false (by simp [hk]) fun hb => ?_
    obtain ⟨t, ht⟩ := hl
    obtain ⟨u, hu⟩ := hb
    rw [← hu] at ht
    simp at ht
  · rw [h] at hr
    cases hr

/-! ## The scan -/

/-- The nearest error node the walk finds above its first block comment that has one is the
innermost error ancestor of the first block comment in pre-order that has one. -/
theorem findSome?_reported (src : Source) (sites : List (List Node × Node)) :
    (((sites.filter (·.2.kind == "comment")).filterMap (reported src none)).filter
        (·.1.kind == .block)).findSome? (·.2) =
      sites.findSome? fun s => if s.2.IsBlockComment src then innermostError s.1 else none := by
  induction sites with
  | nil => rfl
  | cons s sites ih =>
    by_cases hk : s.2.kind = "comment"
    · cases hr : commentRecord src s.2 with
      | none =>
        have hnot : ¬ s.2.IsBlockComment src := fun hb =>
          absurd ((isSome_commentRecord_iff src s.2).2 (.inl hb.2)) (by simp [hr])
        simp [hk, reported, hr, hnot, ih]
      | some r =>
        have hblock : s.2.IsBlockComment src ↔ r.kind = .block :=
          ⟨fun hb => (kind_eq_block_iff hr).2 hb.2, fun hb => ⟨hk, (kind_eq_block_iff hr).1 hb⟩⟩
        by_cases hb : r.kind = .block
        · simp [hk, reported, hr, hb, List.findSome?_cons, hblock.2 hb, ih]
        · simp [hk, reported, hr, hb, mt hblock.1 hb, ih]
    · have hnot : ¬ s.2.IsBlockComment src := fun hb => hk hb.1
      simp [hk, hnot, ih]

/-- The records the walk reports are those of the comment nodes, in pre-order. -/
theorem map_fst_reported (src : Source) (sites : List (List Node × Node)) :
    ((sites.filter (·.2.kind == "comment")).filterMap (reported src none)).map (·.1) =
      sites.filterMap fun s => if s.2.kind = "comment" then commentRecord src s.2 else none := by
  induction sites with
  | nil => rfl
  | cons s sites ih =>
    by_cases hk : s.2.kind = "comment"
    · cases hr : commentRecord src s.2 <;> simp [hk, reported, hr, ih]
    · simp [hk, ih]

/-- A scan fails at the innermost error ancestor of the first block comment in pre-order
that has one, and otherwise reports every comment node in pre-order. -/
theorem scanTree_eq_sites (file : String) (src : Source) (t : Node) (ht : t.CommentsAreTokens) :
    scanTree file src t =
      match t.sites.findSome? (fun s =>
          if s.2.IsBlockComment src then innermostError s.1 else none) with
      | some bad => .error (syntaxError file src bad)
      | none => .ok (t.sites.filterMap fun s =>
          if s.2.kind = "comment" then commentRecord src s.2 else none) := by
  rewrite [scanTree, collect_eq_sites src none t ht, findSome?_reported, map_fst_reported]
  -- the two sides match on the same value, each with its own matcher
  rfl

theorem isError_of_innermostError {ancestors : List Node} {bad : Node}
    (h : innermostError ancestors = some bad) : bad.isError :=
  (List.mem_filter.1 (List.mem_of_getLast? h)).2

/-- The error at an `ERROR` node gives where the node starts and its first 40 characters. -/
theorem syntaxError_of_isError (file : String) (src : Source) {bad : Node} (h : bad.isError) :
    syntaxError file src bad = .sourceSyntax file (src.point bad.start).1 (src.point bad.start).2
      ("unexpected `" ++ String.ofList ((bad.text src).toList.take 40) ++ "`") := by
  have hstatus : bad.status ≠ .missing := by
    intro hm
    simp [Node.isError, hm] at h
  unfold syntaxError
  rw [if_neg hstatus]

/-- A site gives no error node exactly when it is not a block comment below an error node. -/
theorem blockError_eq_none_iff (src : Source) (s : List Node × Node) :
    (if s.2.IsBlockComment src then innermostError s.1 else none) = none ↔
      (s.2.IsBlockComment src → ∀ a ∈ s.1, a.isError = false) := by
  by_cases hb : s.2.IsBlockComment src
  · simp only [hb, if_true, true_implies, ← Option.not_isSome_iff_eq_none,
      isSome_innermostError]
    simp
  · simp [hb]

/-- A scan fails exactly when some block comment has an `ERROR` ancestor. It fails at the
innermost `ERROR` ancestor of the first such comment in pre-order, with where that node starts
and its first 40 characters; otherwise it reports every comment node in pre-order whose text
starts with `/*` or `//`. Line comments under error nodes, and error nodes holding no block
comment, play no part. -/
theorem scan_fails_inside_error (file : String) (src : Source) (t : Node)
    (ht : t.CommentsAreTokens) :
    ((∃ e, scanTree file src t = .error e) ↔
      ∃ s ∈ t.sites, s.2.IsBlockComment src ∧ ∃ a ∈ s.1, a.isError) ∧
    (∀ pre ancestors n post bad, t.sites = pre ++ (ancestors, n) :: post →
      n.IsBlockComment src →
      (∀ s ∈ pre, s.2.IsBlockComment src → ∀ a ∈ s.1, a.isError = false) →
      innermostError ancestors = some bad →
      scanTree file src t = .error (.sourceSyntax file (src.point bad.start).1
        (src.point bad.start).2
        ("unexpected `" ++ String.ofList ((bad.text src).toList.take 40) ++ "`"))) ∧
    ((∀ s ∈ t.sites, s.2.IsBlockComment src → ∀ a ∈ s.1, a.isError = false) →
      scanTree file src t = .ok (t.sites.filterMap fun s =>
        if s.2.kind = "comment" then commentRecord src s.2 else none)) ∧
    (∀ n, (commentRecord src n).isSome ↔
      ['/', '*'] <+: (n.text src).toList ∨ ['/', '/'] <+: (n.text src).toList) := by
  have hscan := scanTree_eq_sites file src t ht
  refine ⟨?_, ?_, ?_, isSome_commentRecord_iff src⟩
  · rw [hscan]
    constructor
    · rintro ⟨e, he⟩
      -- the scan failed, so some site gave an error node
      cases hfind : t.sites.findSome? (fun s =>
          if s.2.IsBlockComment src then innermostError s.1 else none) with
      | none => rw [hfind] at he; cases he
      | some bad =>
        obtain ⟨s, hs, hbad⟩ := List.exists_of_findSome?_eq_some hfind
        have hgives := mt (blockError_eq_none_iff src s).2 (by simp [hbad])
        simp only [Classical.not_imp, Classical.not_forall, Bool.not_eq_false] at hgives
        exact ⟨s, hs, hgives⟩
    · rintro ⟨s, hs, hb, a, ha, herr⟩
      have hfind : t.sites.findSome? (fun s =>
          if s.2.IsBlockComment src then innermostError s.1 else none) ≠ none := by
        rw [Ne, List.findSome?_eq_none_iff]
        exact fun hall => absurd ((blockError_eq_none_iff src s).1 (hall s hs) hb a ha)
          (by simp [herr])
      obtain ⟨bad, hbad⟩ := Option.ne_none_iff_exists'.1 hfind
      exact ⟨_, by rw [hbad]⟩
  · intro pre ancestors n post bad hsites hn hpre hbad
    have hfind : t.sites.findSome? (fun s =>
        if s.2.IsBlockComment src then innermostError s.1 else none) = some bad := by
      rw [hsites, List.findSome?_append,
        List.findSome?_eq_none_iff.2 fun s hs => (blockError_eq_none_iff src s).2 (hpre s hs),
        Option.none_or, List.findSome?_cons]
      simp [hn, hbad]
    rw [hscan, hfind]
    exact congrArg Except.error (syntaxError_of_isError file src (isError_of_innermostError hbad))
  · intro hall
    rw [hscan, List.findSome?_eq_none_iff.2 fun s hs =>
      (blockError_eq_none_iff src s).2 (hall s hs)]

/-- The tree of `%%% /* lost */ %%%`: the line is one error region, and the comment in it. -/
def lostCommentTree : Node :=
  ⟨"program", .plain, 0, 19, [⟨"ERROR", .error, 0, 18, [⟨"comment", .plain, 4, 14, []⟩]⟩]⟩

theorem lostComment_scan_fails :
    lostCommentTree.CommentsAreTokens ∧
    ((∃ e, scanTree "broken.ts" (Source.ofString "%%% /* lost */ %%%\n") lostCommentTree =
        .error e) ↔
      ∃ s ∈ lostCommentTree.sites,
        s.2.IsBlockComment (Source.ofString "%%% /* lost */ %%%\n") ∧ ∃ a ∈ s.1, a.isError) ∧
    (∀ pre ancestors n post bad, lostCommentTree.sites = pre ++ (ancestors, n) :: post →
      n.IsBlockComment (Source.ofString "%%% /* lost */ %%%\n") →
      (∀ s ∈ pre, s.2.IsBlockComment (Source.ofString "%%% /* lost */ %%%\n") →
        ∀ a ∈ s.1, a.isError = false) →
      innermostError ancestors = some bad →
      scanTree "broken.ts" (Source.ofString "%%% /* lost */ %%%\n") lostCommentTree =
        .error (.sourceSyntax "broken.ts"
          ((Source.ofString "%%% /* lost */ %%%\n").point bad.start).1
          ((Source.ofString "%%% /* lost */ %%%\n").point bad.start).2
          ("unexpected `" ++ String.ofList
            ((bad.text (Source.ofString "%%% /* lost */ %%%\n")).toList.take 40) ++ "`"))) ∧
    ((∀ s ∈ lostCommentTree.sites,
        s.2.IsBlockComment (Source.ofString "%%% /* lost */ %%%\n") →
        ∀ a ∈ s.1, a.isError = false) →
      scanTree "broken.ts" (Source.ofString "%%% /* lost */ %%%\n") lostCommentTree =
        .ok (lostCommentTree.sites.filterMap fun s =>
          if s.2.kind = "comment" then
            commentRecord (Source.ofString "%%% /* lost */ %%%\n") s.2
          else none)) ∧
    (∀ n, (commentRecord (Source.ofString "%%% /* lost */ %%%\n") n).isSome ↔
      ['/', '*'] <+: (n.text (Source.ofString "%%% /* lost */ %%%\n")).toList ∨
        ['/', '/'] <+: (n.text (Source.ofString "%%% /* lost */ %%%\n")).toList) :=
  have ht : lostCommentTree.CommentsAreTokens := by decide
  ⟨ht, scan_fails_inside_error "broken.ts" (Source.ofString "%%% /* lost */ %%%\n")
    lostCommentTree ht⟩

end DocSuite.Script
