import DocSuite.DocComment
import DocSuite.Proofs.Fence
/-!
# Documentation comments read back

`DocComment.render` writes a comment the way documentation is written in a source: each line
of the description behind the ` * ` gutter, then each tag as `@`, its name, a space and the
first line of its description, with its further lines behind the gutter. Reading that text
with `DocComment.parse` gives the comment back (`parse_render`) when its tag names read as
names, no line ends in a carriage return, and no line starts with `@` and a letter except
where the rendering puts a tag. The gutter comes off exactly, indentation after it included,
and tags open exactly at the lines the rendering opens them with.

The proof follows the reader line by line (`read_render`): description lines are collected
while no tag is open, a tag line closes the open tag and opens the next, and every other line
joins the open tag.

The condition on `@` lines holds inside fenced examples too. The parser knows nothing of
fences, so a line such as `@Component()` in an example opens a tag wherever it stands, cutting
the example in two and losing it (`decorator_line_splits_example`). Without such lines, every
fenced example of a comment is found again in its rendering (`render_keeps_examples`).
-/

namespace DocSuite

open DocSuite.Text

/-! ## Lines of a text -/

theorem splitLines_ne_nil (text : String) : splitLines text ≠ [] := by
  simp [splitLines, List.splitOn_ne_nil]

@[simp] theorem intercalate_splitLines (text : String) : "\n".intercalate (splitLines text) = text := by
  rw [← String.toList_inj, String.toList_intercalate, splitLines, List.map_map]
  simp [Function.comp_def, show "\n".toList = ['\n'] from rfl, List.intercalate_splitOn]

/-! ## Writing a comment -/

namespace DocTag

/-- The lines of a tag as written, before the gutter: its description with `@`, the name and
a space in front of the first line. -/
def writtenLines (t : DocTag) : List String :=
  (splitLines t.description).modifyHead (("@" ++ t.name ++ " ") ++ ·)

end DocTag

namespace DocComment

/-- Whether a line starts with `@` and an alphabetic character, as the line of a tag does. -/
def opensTag (line : String) : Bool :=
  match line.toList with
  | '@' :: c :: _ => isAlphabetic c
  | _ => false

/-- Whether a text reads back as a tag name: it starts with an alphabetic character and holds
no blank. -/
def isTagName (name : String) : Bool :=
  match name.toList with
  | c :: _ => isAlphabetic c && name.toList.all (!isBlank ·)
  | [] => false

/-- A comment as written in a source: each line of its description, then each line of each
tag, behind the ` * ` gutter, joined by newlines. -/
def render (d : DocComment) : String :=
  "\n".intercalate
    ((splitLines d.description ++ d.tags.flatMap DocTag.writtenLines).map (" * " ++ ·))

/-- What a comment needs for its rendering to read back as itself: tag names that read as
names, no line ending in a carriage return, and no line starting with `@` and a letter except
the first line of a tag's description, which the rendering puts after the tag's name. -/
structure Readable (d : DocComment) : Prop where
  tagNames : ∀ t ∈ d.tags, isTagName t.name = true
  noReturn : ∀ text ∈ d.texts, ∀ l ∈ splitLines text, l.toList.getLast? ≠ some '\r'
  description : ∀ l ∈ splitLines d.description, opensTag l = false
  continuation : ∀ t ∈ d.tags, ∀ l ∈ (splitLines t.description).tail, opensTag l = false

/-! ## One line -/

theorem toList_gutter (l : String) : (" * " ++ l).toList = ' ' :: '*' :: ' ' :: l.toList := by
  rw [String.toList_append]
  rfl

/-- The gutter comes off exactly, and nothing after it. -/
theorem stripGutter_gutter {l : String} (h : l.toList.getLast? ≠ some '\r') :
    stripGutter (" * " ++ l).toList = l.toList := by
  have hlast : (' ' :: '*' :: ' ' :: l.toList).getLast? ≠ some '\r' := by
    cases hl : l.toList with
    | nil => simp
    | cons c cs => rw [hl] at h; simpa [List.getLast?_cons] using h
  rw [toList_gutter, stripGutter]
  simp only [hlast, if_false]
  rfl

/-- A line that does not start with `@` and a letter opens no tag. -/
theorem tagStart?_eq_none {l : String} (h : opensTag l = false) : tagStart? l.toList = none := by
  unfold opensTag at h
  unfold tagStart?
  split
  · rename_i body hl
    rw [hl] at h
    cases body with
    | nil => rfl
    | cons c rest =>
      by_cases hc : isBlank c
      · simp [hc]
      · simp [hc, show isAlphabetic c = false from h]
  · rfl

theorem isBlank_of_mem_isTagName {name : String} (h : isTagName name = true) :
    ∀ x ∈ name.toList, isBlank x = false := by
  unfold isTagName at h
  split at h
  · simp only [Bool.and_eq_true, List.all_eq_true, Bool.not_eq_true'] at h
    exact h.2
  · simp at h

/-- A tag line as written opens a tag with that name, and its description starts with what
follows the one space after the name. -/
theorem tagStart?_tag_line {name : String} (hname : isTagName name = true) (first : String) :
    tagStart? ("@" ++ name ++ " " ++ first).toList = some (name.toList, first.toList) := by
  have hblank := isBlank_of_mem_isTagName hname
  unfold isTagName at hname
  split at hname
  · rename_i c cs hcs
    have halpha : isAlphabetic c = true := by simp_all
    have hsplit : ("@" ++ name ++ " " ++ first).toList = '@' :: (name.toList ++ ' ' :: first.toList) := by
      simp only [String.toList_append, show "@".toList = ['@'] from rfl,
        show " ".toList = [' '] from rfl, List.append_assoc, List.cons_append, List.nil_append]
    have hname' : ∀ x ∈ name.toList, (!isBlank x) = true := by simpa using hblank
    have hspace : isBlank ' ' = true := by decide
    rw [hsplit]
    simp only [tagStart?]
    rw [List.takeWhile_append_of_pos hname', List.dropWhile_append_of_pos hname', hcs]
    simp [hspace, halpha, dropSeparator]
  · simp at hname

/-- A line ending in no carriage return, put after a text ending in none, gives one ending in
none. -/
theorem getLast?_append_ne_return {pre l : List Char} (hpre : pre.getLast? ≠ some '\r')
    (hl : l.getLast? ≠ some '\r') : (pre ++ l).getLast? ≠ some '\r' := by
  rw [List.getLast?_append]
  cases hlast : l.getLast? <;> simp_all

theorem tag_line_getLast? (name : String) {first : String}
    (hfirst : first.toList.getLast? ≠ some '\r') :
    ("@" ++ name ++ " " ++ first).toList.getLast? ≠ some '\r' := by
  rw [String.toList_append]
  refine getLast?_append_ne_return ?_ hfirst
  rw [String.toList_append, List.getLast?_append, show " ".toList = [' '] from rfl]
  simp

/-! ## The reader, line by line -/

namespace Reader

@[simp] theorem flush_closed (ds : List String) (ts : List DocTag) :
    (⟨ds, ts, none⟩ : Reader).flush = ⟨ds, ts, none⟩ := rfl

theorem flush_eq (r : Reader) : r.flush = ⟨r.flush.description, r.flush.tags, none⟩ := by
  obtain ⟨ds, ts, _ | ⟨name, lines⟩⟩ := r <;> rfl

/-- A line that opens no tag joins the description while no tag is open. -/
theorem feed_description {l : String} (hr : l.toList.getLast? ≠ some '\r')
    (ht : opensTag l = false) (ds : List String) (ts : List DocTag) :
    (⟨ds, ts, none⟩ : Reader).feed (" * " ++ l) = ⟨l :: ds, ts, none⟩ := by
  simp only [feed, stripGutter_gutter hr, tagStart?_eq_none ht, String.ofList_toList]

/-- A line that opens no tag joins the open tag. -/
theorem feed_continuation {l : String} (hr : l.toList.getLast? ≠ some '\r')
    (ht : opensTag l = false) (ds : List String) (ts : List DocTag) (name : String)
    (lines : List String) :
    (⟨ds, ts, some (name, lines)⟩ : Reader).feed (" * " ++ l) =
      ⟨ds, ts, some (name, l :: lines)⟩ := by
  simp only [feed, stripGutter_gutter hr, tagStart?_eq_none ht, String.ofList_toList]

/-- A tag line closes the open tag, if any, and opens a tag with its name and first line. -/
theorem feed_tag_line (r : Reader) {name : String} (hname : isTagName name = true)
    {first : String} (hr : first.toList.getLast? ≠ some '\r') :
    r.feed (" * " ++ ("@" ++ name ++ " " ++ first)) =
      ⟨r.flush.description, r.flush.tags, some (name, [first])⟩ := by
  simp only [feed, stripGutter_gutter (tag_line_getLast? name hr), tagStart?_tag_line hname,
    String.ofList_toList]

variable {ls : List String} (hls : ∀ l ∈ ls, l.toList.getLast? ≠ some '\r' ∧ opensTag l = false)
include hls

/-- Lines that open no tag, read while no tag is open, join the description in order. -/
theorem foldl_feed_description (ds : List String) (ts : List DocTag) :
    (ls.map (" * " ++ ·)).foldl feed ⟨ds, ts, none⟩ = ⟨ls.reverse ++ ds, ts, none⟩ := by
  induction ls generalizing ds with
  | nil => rfl
  | cons l ls ih =>
    obtain ⟨hr, ht⟩ := hls l List.mem_cons_self
    rw [List.map_cons, List.foldl_cons, feed_description hr ht,
      ih (fun l' h' => hls l' (List.mem_cons_of_mem l h'))]
    simp

/-- Lines that open no tag, read while a tag is open, join that tag in order. -/
theorem foldl_feed_continuation (ds : List String) (ts : List DocTag) (name : String)
    (lines : List String) :
    (ls.map (" * " ++ ·)).foldl feed ⟨ds, ts, some (name, lines)⟩ =
      ⟨ds, ts, some (name, ls.reverse ++ lines)⟩ := by
  induction ls generalizing lines with
  | nil => rfl
  | cons l ls ih =>
    obtain ⟨hr, ht⟩ := hls l List.mem_cons_self
    rw [List.map_cons, List.foldl_cons, feed_continuation hr ht,
      ih (fun l' h' => hls l' (List.mem_cons_of_mem l h'))]
    simp

end Reader

/-- What one tag needs to read back: a name that reads as a name, no line of its description
ending in a carriage return, and no line but the first opening a tag. -/
def TagReadable (t : DocTag) : Prop :=
  isTagName t.name = true ∧ (∀ l ∈ splitLines t.description, l.toList.getLast? ≠ some '\r') ∧
    ∀ l ∈ (splitLines t.description).tail, opensTag l = false

/-- A tag as written closes the open tag, if any, and opens one with its name; its further
lines join it. -/
theorem foldl_feed_tag {t : DocTag} (ht : TagReadable t) (r : Reader) :
    (t.writtenLines.map (" * " ++ ·)).foldl Reader.feed r =
      ⟨r.flush.description, r.flush.tags, some (t.name, (splitLines t.description).reverse)⟩ := by
  obtain ⟨hname, hr, hcont⟩ := ht
  obtain ⟨first, rest, hlines⟩ := List.exists_cons_of_ne_nil (splitLines_ne_nil t.description)
  rw [hlines] at hr hcont
  rw [DocTag.writtenLines, hlines, List.modifyHead_cons, List.map_cons, List.foldl_cons,
    Reader.feed_tag_line r hname (hr first List.mem_cons_self),
    Reader.foldl_feed_continuation (fun l hl => ⟨hr l (List.mem_cons_of_mem first hl), hcont l hl⟩)]
  simp

/-- Tags as written, read after the description, are closed in order once the reader
flushes. -/
theorem flush_foldl_feed_tags {ts : List DocTag} (hts : ∀ t ∈ ts, TagReadable t) (r : Reader) :
    (((ts.flatMap DocTag.writtenLines).map (" * " ++ ·)).foldl Reader.feed r).flush =
      ⟨r.flush.description, ts.reverse ++ r.flush.tags, none⟩ := by
  induction ts generalizing r with
  | nil => exact Reader.flush_eq r
  | cons t ts ih =>
    rw [List.flatMap_cons, List.map_append, List.foldl_append,
      foldl_feed_tag (hts t List.mem_cons_self),
      ih (fun t' h' => hts t' (List.mem_cons_of_mem t h'))]
    -- flushing the tag just opened gives it back, since its lines join to its description
    simp [Reader.flush]

/-! ## The whole comment -/

theorem not_mem_newline_writtenLines {t : DocTag} (hname : isTagName t.name = true) :
    ∀ l ∈ t.writtenLines, '\n' ∉ l.toList := by
  have hlines := not_mem_newline_splitLines t.description
  obtain ⟨first, rest, hsplit⟩ := List.exists_cons_of_ne_nil (splitLines_ne_nil t.description)
  rw [hsplit] at hlines
  rw [DocTag.writtenLines, hsplit, List.modifyHead_cons]
  intro l hl
  rcases List.mem_cons.1 hl with rfl | hl
  · -- the tag line: `@`, a name without blanks, a space and the first line
    have hblank := isBlank_of_mem_isTagName hname
    have hnl : '\n' ∉ t.name.toList := fun h => by simpa [isBlank] using hblank _ h
    simp only [String.toList_append, List.mem_append, show "@".toList = ['@'] from rfl,
      show " ".toList = [' '] from rfl]
    simpa [hnl] using hlines first List.mem_cons_self
  · exact hlines l (List.mem_cons_of_mem first hl)

/-- The lines of a rendered comment are the lines it was rendered from, behind the gutter. -/
theorem splitLines_render {d : DocComment} (hnames : ∀ t ∈ d.tags, isTagName t.name = true) :
    splitLines d.render =
      (splitLines d.description ++ d.tags.flatMap DocTag.writtenLines).map (" * " ++ ·) := by
  apply splitLines_intercalate
  · intro l hl
    obtain ⟨x, hx, rfl⟩ := List.mem_map.1 hl
    rw [toList_gutter]
    simp only [List.mem_cons, List.mem_append, List.mem_flatMap] at hx ⊢
    rcases hx with hx | ⟨t, ht, hx⟩
    · simpa using not_mem_newline_splitLines d.description x hx
    · simpa using not_mem_newline_writtenLines (hnames t ht) x hx
  · simp [splitLines_ne_nil]

/-- Reading a rendered comment line by line collects its description lines, then its tags in
order, with no tag left open. -/
theorem read_render {d : DocComment} (h : d.Readable) :
    ((splitLines d.render).foldl Reader.feed ⟨[], [], none⟩).flush =
      ⟨(splitLines d.description).reverse, d.tags.reverse, none⟩ := by
  have hdesc : ∀ l ∈ splitLines d.description, l.toList.getLast? ≠ some '\r' ∧ opensTag l = false :=
    fun l hl => ⟨h.noReturn _ List.mem_cons_self l hl, h.description l hl⟩
  have htags : ∀ t ∈ d.tags, TagReadable t := fun t ht =>
    ⟨h.tagNames t ht, h.noReturn _ (List.mem_cons_of_mem _ (List.mem_map_of_mem ht)),
      h.continuation t ht⟩
  rw [splitLines_render h.tagNames, List.map_append, List.foldl_append,
    Reader.foldl_feed_description hdesc, flush_foldl_feed_tags htags]
  simp

/-- A comment rendered as documentation reads back as itself, when its tag names read as
names, no line ends in a carriage return, and no line starts with `@` and a letter except the
first line of a tag's description. -/
theorem parse_render (d : DocComment) (h : d.Readable) : parse d.render = d := by
  unfold parse
  simp only [read_render h, List.reverse_reverse, intercalate_splitLines]

/-- A comment with an indented example, lines that start with `*`, `/` and `@1`, and a tag
whose description starts with an empty line. -/
def indentedComment : DocComment :=
  ⟨"Adds two numbers.\n```ts\n  add(1, 2);\n* not a gutter\n/ kept\n```",
    [⟨"param", "\x7bnumber\x7d a first"⟩, ⟨"example", "\n@1 is no tag\n  indented"⟩]⟩

theorem indentedComment_reads_back :
    indentedComment.Readable ∧ parse indentedComment.render = indentedComment :=
  have h : indentedComment.Readable :=
    ⟨by decide +kernel, by decide +kernel, by decide +kernel, by decide +kernel⟩
  ⟨h, parse_render indentedComment h⟩

/-! ## Fenced examples in a rendered comment -/

/-- Of the segments between marker lines, those outside the complete blocks: the first, the
third and so on, and a last one that no marker closes. These are what `pairSegments` leaves
out. -/
def unpairedSegments : List (List String) → List (List String)
  | s :: inner :: rest => if rest.isEmpty then [s, inner] else s :: unpairedSegments rest
  | segs => segs

/-- The lines of a text outside its complete fenced blocks: its marker lines and the lines of
the segments `unpairedSegments` keeps. -/
def linesOutsideBlocks (text : String) : List String :=
  (splitLines text).filter opensFence ++
    (unpairedSegments ((splitLines text).splitOnP opensFence)).flatten

/-- A comment whose only example holds a decorator line. -/
def decoratedComment : DocComment := ⟨"```\n@Component()\nclass A \x7b\x7d\n```", []⟩

/-- A line inside an example that starts with `@` and a letter opens a tag all the same: the
rendered comment reads back as a description holding only the opening marker and a tag
`Component()` holding the rest, so the example is lost. Every line outside the example is
free of such lines, no line ends in a carriage return, and there are no tags to name. -/
theorem decorator_line_splits_example :
    (∀ t ∈ decoratedComment.tags, isTagName t.name = true) ∧
    (∀ text ∈ decoratedComment.texts, ∀ l ∈ splitLines text, l.toList.getLast? ≠ some '\r') ∧
    (∀ text ∈ decoratedComment.texts, ∀ l ∈ linesOutsideBlocks text, opensTag l = false) ∧
    decoratedComment.texts.flatMap codeBlocks = ["@Component()\nclass A \x7b\x7d"] ∧
    (parse decoratedComment.render).texts.flatMap codeBlocks = [] := by
  refine ⟨?_, ?_, ?_, ?_, ?_⟩ <;> decide +kernel

/-- Every fenced example of a comment is found again, in order, in its rendering read back,
when its tag names read as names, no line ends in a carriage return, and no line of its
texts, inside an example or not, starts with `@` and a letter. -/
theorem render_keeps_examples (d : DocComment)
    (hnames : ∀ t ∈ d.tags, isTagName t.name = true)
    (hreturn : ∀ text ∈ d.texts, ∀ l ∈ splitLines text, l.toList.getLast? ≠ some '\r')
    (htags : ∀ text ∈ d.texts, ∀ l ∈ splitLines text, opensTag l = false) :
    (parse d.render).texts.flatMap codeBlocks = d.texts.flatMap codeBlocks := by
  have h : d.Readable :=
    ⟨hnames, hreturn, htags _ List.mem_cons_self, fun t ht l hl =>
      htags _ (List.mem_cons_of_mem _ (List.mem_map_of_mem ht)) l (List.mem_of_mem_tail hl)⟩
  have hparse : parse d.render = d := by
    unfold parse
    simp only [read_render h, List.reverse_reverse, intercalate_splitLines]
  rw [hparse]

/-- A comment whose examples hold lines starting with `@` and no letter. -/
def annotatedComment : DocComment :=
  ⟨"Adds.\n```ts\n  add(1, 2);\n@ 3\n```",
    [⟨"example", "```\n@@tag run();\n```"⟩]⟩

theorem annotatedComment_keeps_examples :
    (∀ t ∈ annotatedComment.tags, isTagName t.name = true) ∧
    (∀ text ∈ annotatedComment.texts, ∀ l ∈ splitLines text, l.toList.getLast? ≠ some '\r') ∧
    (∀ text ∈ annotatedComment.texts, ∀ l ∈ splitLines text, opensTag l = false) ∧
    (parse annotatedComment.render).texts.flatMap codeBlocks =
      annotatedComment.texts.flatMap codeBlocks :=
  have hnames : ∀ t ∈ annotatedComment.tags, isTagName t.name = true := by decide +kernel
  have hreturn : ∀ text ∈ annotatedComment.texts, ∀ l ∈ splitLines text,
      l.toList.getLast? ≠ some '\r' := by decide +kernel
  have htags : ∀ text ∈ annotatedComment.texts, ∀ l ∈ splitLines text, opensTag l = false := by
    decide +kernel
  ⟨hnames, hreturn, htags, render_keeps_examples annotatedComment hnames hreturn htags⟩

end DocComment

end DocSuite
