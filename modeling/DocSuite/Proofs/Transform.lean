import Mathlib
import DocSuite.Transform
import DocSuite.Proofs.Session
import DocSuite.Proofs.Fence
/-!
# What a transformation asks of its backend

The examples of a source are numbered once, over all block comments, all texts of each comment
and all blocks of each text, where each text pairs its own marker lines (`pairedBlocks`), so a
text holds half its marker lines as examples (`examples_numbered`). A run then asks the backend
for one request per example compiled on its own, in example order, and last for the combined
file (`process_requests`). The first request the backend rejects ends the run: its error is the
result, and the log holds exactly the requests up to it (`process_stops_at_rejection`).

The runs on fixed inputs read one comment with three examples of mixed syntax (`mixed`). The
example that imports and the unreadable one are compiled on their own, and a plain call is not;
a backend that refuses the unreadable example stops the run there, and one that refuses only
the file stops it last.

The requests are spelt out field by field in `isolatedRequest` and `fileRequest`, so the
statements say which settings reach which request and which are overridden. What the cases of
a run hold, when every example's request is answered, is `caseBody`
(`synthesize_runAfter_cases`).
-/

namespace DocSuite

open Session

/-! ## The examples of a source -/

@[simp] theorem length_examplesOf (raws : List String) :
    (examplesOf raws).length = (raws.flatMap commentBlocks).length := by
  simp [examplesOf]

theorem getElem?_examplesOf (raws : List String) (i : Nat) :
    (examplesOf raws)[i]? = (raws.flatMap commentBlocks)[i]?.map (⟨·, i⟩) := by
  simp [examplesOf, List.getElem?_zipIdx, Function.comp_def]

/-- The texts of the block comments among some records: per comment in order, its texts in
order. -/
def docTexts (records : List CommentRecord) : List String :=
  (records.filter (·.kind == .block)).flatMap fun r => (DocComment.parse r.rawValue).texts

/-- The blocks of the block comments among some records: per text of each comment, the blocks
that pair the marker lines of that text alone. -/
theorem flatMap_commentBlocks_blockTexts (records : List CommentRecord) :
    (blockTexts records).flatMap commentBlocks =
      (docTexts records).flatMap fun text => pairedBlocks (splitLines text) := by
  have hblocks : codeBlocks = fun text => pairedBlocks (splitLines text) := funext codeBlocks_eq
  simp [blockTexts, commentBlocks, docTexts, List.flatMap_map, List.flatMap_assoc, hblocks]

/-- Each text gives half its marker lines in blocks, rounded down, whatever the texts around it. -/
theorem length_flatMap_pairedBlocks (texts : List String) :
    (texts.flatMap fun text => pairedBlocks (splitLines text)).length =
      (texts.map fun text => (splitLines text).countP opensFence / 2).sum := by
  induction texts with
  | nil => rfl
  | cons text texts ih =>
    rw [List.flatMap_cons, List.length_append, length_pairedBlocks, ih, List.map_cons,
      List.sum_cons]

namespace Transformer

theorem examples_of_scan {t : Transformer} {source filename : String} :
    t.examples source filename = (t.scanner filename source).map (examplesOf ∘ blockTexts) := by
  unfold examples
  cases t.scanner filename source <;> rfl

/-- The examples of a source: over the scanner's block comments in order and the texts of each
in order, the blocks that pair the marker lines of each text alone (`pairedBlocks`), numbered
from 0 across all of them. A text gives half its marker lines, rounded down, so a marker left
open at the end of a text pairs with none of the next. A failed scan fails with its own
error. -/
theorem examples_numbered (t : Transformer) (source filename : String) :
    t.examples source filename =
      (t.scanner filename source).map (fun records =>
        let blocks := (docTexts records).flatMap fun text => pairedBlocks (splitLines text)
        List.ofFn fun i : Fin blocks.length => ⟨blocks[i], i⟩) ∧
    ∀ records es, t.scanner filename source = .ok records → t.examples source filename = .ok es →
      es.length = ((docTexts records).map fun text => (splitLines text).countP opensFence / 2).sum := by
  refine ⟨?numbering, fun records es hscan hes => ?count⟩
  case numbering =>
    rw [examples_of_scan]
    congr 1
    funext records
    apply List.ext_getElem?
    intro i
    rw [Function.comp_apply, getElem?_examplesOf, flatMap_commentBlocks_blockTexts,
      List.getElem?_ofFn]
    split
    · rename_i h
      simp [List.getElem?_eq_getElem h]
    · rename_i h
      simp [List.getElem?_eq_none (Nat.le_of_not_lt h)]
  case count =>
    rw [examples_of_scan, hscan] at hes
    cases hes
    rw [Function.comp_apply, length_examplesOf, flatMap_commentBlocks_blockTexts,
      length_flatMap_pairedBlocks]

/-! ## The requests of a run -/

/-- The request that compiles example `e` of `filename` on its own: loader, target and
platform from the backend settings, bundled with every import external, but always as
CommonJS without a source map, under the example's own name. -/
def isolatedRequest (t : Transformer) (filename : String) (e : Example) : CompileRequest where
  filename := filename ++ "#comment-test-case-" ++ toString e.index
  entryText := e.text
  loader := t.settings.backend.loader
  target := t.settings.backend.target
  platform := t.settings.backend.platform
  bundle := true
  format := .cjs
  external := ["*"]
  sourceMap := .none

/-- The requests the examples `es` make before the file is compiled: none under the inline
strategy; under the isolated one, one per example that does not read as a script, in order. -/
def isolatedRequests (t : Transformer) (filename : String) (es : List Example) :
    List CompileRequest :=
  match t.settings.synthesis.strategy with
  | .inline => []
  | .isolated =>
    (es.filter fun e => t.syntaxOf (Dialect.ofFilename filename) e.text != .script).map
      (t.isolatedRequest filename)

/-- The request that compiles the combined text of `filename`, entirely as the backend
settings say. -/
def fileRequest (t : Transformer) (filename combined : String) : CompileRequest where
  filename := filename
  entryText := combined
  loader := t.settings.backend.loader
  target := t.settings.backend.target
  platform := t.settings.backend.platform
  bundle := true
  format := t.settings.backend.format
  external := ["*"]
  sourceMap := t.settings.backend.sourceMap

/-- The request one example makes, if any. -/
def requestOf? (t : Transformer) (filename : String) (e : Example) : Option CompileRequest :=
  match t.settings.synthesis.strategy with
  | .inline => none
  | .isolated =>
    if (t.syntaxOf (Dialect.ofFilename filename) e.text).needsIsolation then
      some (t.isolatedRequest filename e)
    else none

theorem needsIsolation_eq (s : ExampleSyntax) : s.needsIsolation = (s != .script) := by
  cases s <;> rfl

theorem isolatedRequests_eq_filterMap (t : Transformer) (filename : String)
    (es : List Example) :
    t.isolatedRequests filename es = es.filterMap (t.requestOf? filename) := by
  unfold isolatedRequests requestOf?
  split
  · simp
  · rw [← List.filterMap_eq_map, List.filterMap_filter]
    congr 1
    funext e
    simp [needsIsolation_eq]

/-! ## One example -/

variable {t : Transformer} {filename : String}

/-- The body of the test case of example `e`, when the backend answers the example's own
request, if it makes one, with `compiled e`: under the inline strategy the example as written;
under the isolated one the placeholder line when the settings ask for it, followed by the
compiled code for an example that needs isolation and by the example as written otherwise. -/
def caseBody (t : Transformer) (filename : String) (compiled : Example → Artifact)
    (e : Example) : String :=
  match t.settings.synthesis.strategy with
  | .inline => e.text
  | .isolated =>
    (if t.settings.synthesis.exportPlaceholder then "const module = \x7b exports: \x7b\x7d \x7d;\n"
      else "") ++
    if (t.syntaxOf (Dialect.ofFilename filename) e.text).needsIsolation then (compiled e).code
    else e.text

/-- When the example's request, if any, is answered with `compiled e`, its case holds its
number and `caseBody`, and the request joins the log. -/
theorem caseOf_runAfter_body {compiled : Example → Artifact} {e : Example}
    (hcompiled : ∀ r ∈ t.requestOf? filename e, t.backend.compile r = .ok (compiled e))
    (log : List CompileRequest) :
    runAfter log (t.caseOf filename e) =
      (.ok ⟨e.index, t.caseBody filename compiled e⟩, log ++ (t.requestOf? filename e).toList) := by
  unfold caseOf caseBody
  cases hs : t.settings.synthesis.strategy with
  | inline => simp [requestOf?, hs]
  | isolated =>
    -- the placeholder line is put in front of whichever code the example ends up with
    have hbody (code : String) :
        (if t.settings.synthesis.exportPlaceholder then exportPlaceholder ++ "\n" ++ code
          else code) =
        (if t.settings.synthesis.exportPlaceholder then "const module = \x7b exports: \x7b\x7d \x7d;\n"
          else "") ++ code := by
      split
      · rw [String.append_assoc]
        rfl
      · exact (String.empty_append).symm
    by_cases hiso : (t.syntaxOf (Dialect.ofFilename filename) e.text).needsIsolation
    · have hreq : t.requestOf? filename e = some (t.exampleRequest filename e) := by
        simp [requestOf?, hs, hiso]; rfl
      have hsent : runAfter log (t.backend.request (t.exampleRequest filename e)) =
          (.ok (compiled e), log ++ [t.exampleRequest filename e]) := by
        rw [Backend.request_runAfter, hcompiled _ (by rw [hreq]; rfl)]
      simp only [hiso, if_true]
      rw [runAfter_bind_ok (runAfter_map_ok hsent fun a : Artifact => a.code), hreq, hbody]
      rfl
    · have hreq : t.requestOf? filename e = none := by simp [requestOf?, hs, hiso]
      simp only [hiso, Bool.false_eq_true, if_false]
      rw [runAfter_bind_ok (runAfter_pure log e.text), hreq, hbody]
      simp

/-- The artifact the backend answers an example's own request with, when it makes one and the
answer is an artifact. -/
def answerOf (t : Transformer) (filename : String) (e : Example) : Artifact :=
  match t.requestOf? filename e with
  | some r =>
    match t.backend.compile r with
    | .ok a => a
    | .error _ => default
  | none => default

theorem compile_eq_answerOf {e : Example}
    (hok : ∀ r ∈ t.requestOf? filename e, ∃ a, t.backend.compile r = .ok a) :
    ∀ r ∈ t.requestOf? filename e, t.backend.compile r = .ok (t.answerOf filename e) := by
  intro r hr
  obtain ⟨a, ha⟩ := hok r hr
  rw [Option.mem_def] at hr
  simp [answerOf, hr, ha]

/-- When its request, if it makes one, is answered, an example's case is built and the
request is logged. -/
theorem caseOf_runAfter_ok (t : Transformer) (filename : String) (e : Example)
    (hok : ∀ r ∈ t.requestOf? filename e, ∃ a, t.backend.compile r = .ok a)
    (log : List CompileRequest) :
    ∃ c, runAfter log (t.caseOf filename e) =
      (.ok c, log ++ (t.requestOf? filename e).toList) :=
  ⟨_, caseOf_runAfter_body (compile_eq_answerOf hok) log⟩

/-- A rejected request ends the example with the backend's error, after joining the log. -/
theorem caseOf_runAfter_error {e : Example} {r : CompileRequest} {err : Error}
    (hreq : t.requestOf? filename e = some r) (hrej : t.backend.compile r = .error err)
    (log : List CompileRequest) :
    runAfter log (t.caseOf filename e) = (.error err, log ++ [r]) := by
  unfold requestOf? at hreq
  unfold caseOf
  cases hs : t.settings.synthesis.strategy with
  | inline => simp [hs] at hreq
  | isolated =>
    simp only [hs] at hreq
    split at hreq
    · rename_i hiso
      cases hreq
      have hsent : runAfter log (t.backend.request (t.exampleRequest filename e)) =
          (.error err, log ++ [t.isolatedRequest filename e]) := by
        rw [Backend.request_runAfter]
        exact congrArg (·, _) hrej
      have hcode := runAfter_map_error hsent fun a : Artifact => a.code
      simp only [hiso, if_true]
      exact runAfter_bind_error hcode _
    · cases hreq

/-! ## All examples, in order -/

theorem synthesize_cons (e : Example) (es : List Example) :
    t.synthesize filename (e :: es) =
      (do let c ← t.caseOf filename e; let cs ← t.synthesize filename es; pure (c :: cs)) :=
  List.mapM_cons

/-- When every example's request is answered, the cases are the examples' numbers and bodies
in order, and the log gains the requests in order. -/
theorem synthesize_runAfter_cases {es : List Example} {compiled : Example → Artifact}
    (hcompiled : ∀ e ∈ es, ∀ r ∈ t.requestOf? filename e, t.backend.compile r = .ok (compiled e))
    (log : List CompileRequest) :
    runAfter log (t.synthesize filename es) =
      (.ok (es.map fun e => ⟨e.index, t.caseBody filename compiled e⟩),
        log ++ es.filterMap (t.requestOf? filename)) := by
  induction es generalizing log with
  | nil => simp [synthesize]
  | cons e es ih =>
    -- the first example's request comes first in the log, then those of the rest
    rw [synthesize_cons, runAfter_bind_ok (caseOf_runAfter_body (hcompiled e List.mem_cons_self) log),
      runAfter_bind_ok (ih (fun e' he' => hcompiled e' (List.mem_cons_of_mem e he')) _),
      runAfter_pure, List.filterMap_cons]
    cases t.requestOf? filename e <;> simp

/-- When every request the examples make is answered, every case is built and the log gains
exactly those requests, in order. -/
theorem synthesize_runAfter_ok {es : List Example}
    (hok : ∀ r ∈ es.filterMap (t.requestOf? filename), ∃ a, t.backend.compile r = .ok a)
    (log : List CompileRequest) :
    ∃ cs, runAfter log (t.synthesize filename es) =
      (.ok cs, log ++ es.filterMap (t.requestOf? filename)) :=
  ⟨_, synthesize_runAfter_cases (fun e he => compile_eq_answerOf fun r hr =>
    hok r (List.mem_filterMap.2 ⟨e, he, hr⟩)) log⟩

/-- When the examples' requests are `pre`, then `r`, then others, and the backend answers
every request of `pre` but rejects `r`, the run fails with that rejection and the log gains
`pre` and `r` and nothing after. -/
theorem synthesize_runAfter_error {es : List Example} {pre post : List CompileRequest}
    {r : CompileRequest} {err : Error}
    (hsplit : es.filterMap (t.requestOf? filename) = pre ++ r :: post)
    (hpre : ∀ q ∈ pre, ∃ a, t.backend.compile q = .ok a)
    (hrej : t.backend.compile r = .error err) (log : List CompileRequest) :
    runAfter log (t.synthesize filename es) = (.error err, log ++ pre ++ [r]) := by
  induction es generalizing pre log with
  | nil => simp at hsplit
  | cons e es ih =>
    rw [synthesize_cons]
    cases hreq : t.requestOf? filename e with
    | none =>
      -- an example compiled in place: nothing is sent, the rest decides
      obtain ⟨c, hc⟩ : ∃ c, runAfter log (t.caseOf filename e) = (.ok c, log) := by
        simpa [hreq] using caseOf_runAfter_ok t filename e (by simp [hreq]) log
      rw [runAfter_bind_ok hc]
      rw [List.filterMap_cons, hreq] at hsplit
      rw [runAfter_bind_error (ih hsplit hpre log)]
    | some q =>
      simp only [List.filterMap_cons, hreq] at hsplit
      cases pre with
      | nil =>
        -- the first request sent is the rejected one
        obtain ⟨rfl, -⟩ := List.cons.inj hsplit
        rw [runAfter_bind_error (caseOf_runAfter_error hreq hrej log)]
        simp
      | cons p pre =>
        rw [List.cons_append] at hsplit
        obtain ⟨rfl, hrest⟩ := List.cons.inj hsplit
        obtain ⟨c, hc⟩ : ∃ c, runAfter log (t.caseOf filename e) = (.ok c, log ++ [q]) := by
          simpa [hreq] using caseOf_runAfter_ok t filename e
            (fun q' hq' => hpre q' (by simp [hreq] at hq'; simp [hq'])) log
        rw [runAfter_bind_ok hc]
        have hrest := ih hrest (fun q' hq' => hpre q' (List.mem_cons_of_mem _ hq'))
          (log ++ [q])
        rw [runAfter_bind_error hrest]
        simp

/-! ## The combined text and the compiled file -/

theorem examples_of_scan_error {source : String} {err : Error}
    (hscan : t.scanner filename source = .error err) : t.examples source filename = .error err := by
  rw [examples_of_scan, hscan]
  rfl

theorem isolatedRequests_nil : t.isolatedRequests filename [] = [] := by
  simp [isolatedRequests_eq_filterMap]

/-- A failed scan fails the combination before any request is made. -/
theorem combine_runAfter_scan_error {source : String} {err : Error}
    (hscan : t.examples source filename = .error err) (log : List CompileRequest) :
    runAfter log (t.combine source filename) = (.error err, log) := by
  unfold combine
  simp only [runAfter_bind, hscan]
  rfl

/-- When every example's request is answered, the combination succeeds after exactly those
requests. Without examples it makes none. -/
theorem combine_runAfter_ok {source : String} {es : List Example}
    (hscan : t.examples source filename = .ok es)
    (hok : ∀ r ∈ t.isolatedRequests filename es, ∃ a, t.backend.compile r = .ok a)
    (log : List CompileRequest) :
    ∃ combined, runAfter log (t.combine source filename) =
      (.ok combined, log ++ t.isolatedRequests filename es) := by
  unfold combine
  cases es with
  | nil => exact ⟨source, by simp [hscan, isolatedRequests_nil]⟩
  | cons e es =>
    rw [isolatedRequests_eq_filterMap] at hok ⊢
    obtain ⟨cs, hcs⟩ := synthesize_runAfter_ok hok log
    refine ⟨attachSuite source (t.settings.synthesis.renderSuite cs), ?_⟩
    simp only [runAfter_bind, hscan, runAfter_pure, List.isEmpty_cons, Bool.false_eq_true,
      if_false, hcs]

/-- The first rejected example request ends the combination with its error. -/
theorem combine_runAfter_error {source : String} {es : List Example}
    {pre post : List CompileRequest} {r : CompileRequest} {err : Error}
    (hscan : t.examples source filename = .ok es)
    (hsplit : t.isolatedRequests filename es = pre ++ r :: post)
    (hpre : ∀ q ∈ pre, ∃ a, t.backend.compile q = .ok a)
    (hrej : t.backend.compile r = .error err) (log : List CompileRequest) :
    runAfter log (t.combine source filename) = (.error err, log ++ pre ++ [r]) := by
  unfold combine
  cases es with
  | nil => simp [isolatedRequests_nil] at hsplit
  | cons e es =>
    rw [isolatedRequests_eq_filterMap] at hsplit
    simp only [runAfter_bind, hscan, runAfter_pure, List.isEmpty_cons, Bool.false_eq_true,
      if_false, synthesize_runAfter_error hsplit hpre hrej log]

/-- The file is compiled last, with the combined text, and its answer is the result. -/
theorem process_runAfter_ok {source combined : String} {log log' : List CompileRequest}
    (h : runAfter log (t.combine source filename) = (.ok combined, log')) :
    runAfter log (t.process source filename) =
      (t.backend.compile (t.fileRequest filename combined),
        log' ++ [t.fileRequest filename combined]) := by
  unfold process
  rw [runAfter_bind_ok h, Backend.request_runAfter]
  rfl

/-- A failed combination is the result, and the file is not compiled. -/
theorem process_runAfter_error {source : String} {log log' : List CompileRequest} {err : Error}
    (h : runAfter log (t.combine source filename) = (.error err, log')) :
    runAfter log (t.process source filename) = (.error err, log') := by
  unfold process
  exact runAfter_bind_error h _

/-! ## The requests of a whole run -/

/-- When the scan succeeds and the backend answers every example request, a run makes exactly
the example requests, in example order, then one request for the combined file; the result is
the backend's answer to that last request, unchanged. -/
theorem process_requests (t : Transformer) (source filename : String) (es : List Example)
    (hscan : t.examples source filename = .ok es)
    (hok : ∀ r ∈ t.isolatedRequests filename es, ∃ a, t.backend.compile r = .ok a) :
    ∃ combined,
      (t.combine source filename).run = (.ok combined, t.isolatedRequests filename es) ∧
      (t.process source filename).run =
        (t.backend.compile (t.fileRequest filename combined),
          t.isolatedRequests filename es ++ [t.fileRequest filename combined]) := by
  obtain ⟨combined, hc⟩ := combine_runAfter_ok hscan hok []
  rw [List.nil_append] at hc
  exact ⟨combined, hc, process_runAfter_ok hc⟩

/-- A backend that hands every entry text back as its code. -/
def echo : Backend := ⟨"echo", fun r => .ok ⟨r.entryText, none⟩⟩

/-- A block comment with three examples: an import, a call, and a text no grammar reads. -/
def mixedComment : CommentRecord :=
  ⟨"*\n * ```\n * import a from \"a\";\n * ```\n * ```\n * run();\n * ```\n * ```\n * )(\n * ```\n ",
    .block, ⟨0, 0, 1, 1, 1, 1⟩⟩

/-- How the examples of `mixedComment` read: an import is a module, a text that opens with a
closing parenthesis is unreadable, and anything else is a script. -/
def leadingSyntax (_ : Dialect) (text : String) : ExampleSyntax :=
  if text.startsWith "import" then .module else if text.startsWith ")" then .unparsed else .script

/-- A transformer with default settings, so under the isolated strategy, whose scanner finds
`mixedComment` in every source. -/
def mixed (b : Backend) : Transformer := ⟨{}, fun _ _ => .ok [mixedComment], leadingSyntax, b⟩

/-- The examples of `mixedComment`. -/
def mixedExamples : List Example :=
  [⟨"import a from \"a\";", 0⟩, ⟨"run();", 1⟩, ⟨")(", 2⟩]

theorem mixed_examples (b : Backend) : (mixed b).examples "" "a.ts" = .ok mixedExamples := by
  rw [examples_of_scan]
  change Except.ok _ = _
  congr 1
  decide +kernel

/-- The module and the unreadable text are compiled on their own; the script is not. -/
theorem mixed_isolatedRequests (b : Backend) :
    (mixed b).isolatedRequests "a.ts" mixedExamples =
      [(mixed b).isolatedRequest "a.ts" ⟨"import a from \"a\";", 0⟩,
        (mixed b).isolatedRequest "a.ts" ⟨")(", 2⟩] := by
  have hfilter : (mixedExamples.filter fun e =>
      leadingSyntax (Dialect.ofFilename "a.ts") e.text != .script) =
        [⟨"import a from \"a\";", 0⟩, ⟨")(", 2⟩] := by
    decide +kernel
  simp only [isolatedRequests, mixed, hfilter]
  rfl

theorem mixed_process_requests :
    (mixed echo).examples "" "a.ts" = .ok mixedExamples ∧
      (mixed echo).isolatedRequests "a.ts" mixedExamples =
        [(mixed echo).isolatedRequest "a.ts" ⟨"import a from \"a\";", 0⟩,
          (mixed echo).isolatedRequest "a.ts" ⟨")(", 2⟩] ∧
      (∀ r ∈ (mixed echo).isolatedRequests "a.ts" mixedExamples,
        ∃ a, (mixed echo).backend.compile r = .ok a) ∧
      ∃ combined,
        ((mixed echo).combine "" "a.ts").run =
          (.ok combined, (mixed echo).isolatedRequests "a.ts" mixedExamples) ∧
        ((mixed echo).process "" "a.ts").run =
          ((mixed echo).backend.compile ((mixed echo).fileRequest "a.ts" combined),
            (mixed echo).isolatedRequests "a.ts" mixedExamples ++
              [(mixed echo).fileRequest "a.ts" combined]) :=
  have hscan := mixed_examples echo
  have hok : ∀ r ∈ (mixed echo).isolatedRequests "a.ts" mixedExamples,
      ∃ a, (mixed echo).backend.compile r = .ok a := fun _ _ => ⟨_, rfl⟩
  ⟨hscan, mixed_isolatedRequests echo, hok,
    process_requests (mixed echo) "" "a.ts" mixedExamples hscan hok⟩

/-- A run stops at the first failure. A failed scan is the result of reading the examples, of
combining and of the whole run, and no request is made. When the backend rejects an example
request, the run fails with that rejection, after exactly the example requests before it and
the rejected one: no later example is compiled and neither is the file. When it answers every
example request but rejects the file, the run fails with that rejection after the whole
sequence. -/
theorem process_stops_at_rejection (t : Transformer) (source filename : String) :
    (∀ err, t.scanner filename source = .error err →
      t.examples source filename = .error err ∧
        (t.combine source filename).run = (.error err, []) ∧
        (t.process source filename).run = (.error err, [])) ∧
    (∀ es pre r post err, t.examples source filename = .ok es →
      t.isolatedRequests filename es = pre ++ r :: post →
      (∀ q ∈ pre, ∃ a, t.backend.compile q = .ok a) →
      t.backend.compile r = .error err →
      (t.combine source filename).run = (.error err, pre ++ [r]) ∧
        (t.process source filename).run = (.error err, pre ++ [r])) ∧
    (∀ es, t.examples source filename = .ok es →
      (∀ q ∈ t.isolatedRequests filename es, ∃ a, t.backend.compile q = .ok a) →
      ∃ combined,
        (t.combine source filename).run = (.ok combined, t.isolatedRequests filename es) ∧
        ∀ err, t.backend.compile (t.fileRequest filename combined) = .error err →
          (t.process source filename).run =
            (.error err, t.isolatedRequests filename es ++ [t.fileRequest filename combined])) := by
  refine ⟨fun err hscan => ?_, fun es pre r post err hscan hsplit hpre hrej => ?_,
    fun es hscan hok => ?_⟩
  · -- the scan fails
    have hex := examples_of_scan_error hscan
    have hc := combine_runAfter_scan_error hex []
    exact ⟨hex, hc, process_runAfter_error hc⟩
  · -- an example request is rejected
    have hc := combine_runAfter_error hscan hsplit hpre hrej []
    rw [List.nil_append] at hc
    exact ⟨hc, process_runAfter_error hc⟩
  · -- the file is rejected
    obtain ⟨combined, hc⟩ := combine_runAfter_ok hscan hok []
    rw [List.nil_append] at hc
    refine ⟨combined, hc, fun err hrej => ?_⟩
    rw [run_eq_runAfter, process_runAfter_ok hc, hrej]

/-- A transformer whose scanner fails. -/
def unreadable : Transformer :=
  ⟨{}, fun _ _ => .error (.config "unreadable"), fun _ _ => .module, echo⟩

/-- A backend that refuses a text opening with a closing parenthesis, and hands back any
other. -/
def picky : Backend :=
  ⟨"picky", fun r =>
    if r.entryText.startsWith ")" then .error (.compilation r.filename 1 0 "unexpected )")
    else .ok ⟨r.entryText, none⟩⟩

/-- A backend that hands back every example and refuses the file `a.ts` itself. -/
def fileShy : Backend :=
  ⟨"fileShy", fun r =>
    if r.filename = "a.ts" then .error (.compilation r.filename 1 0 "refused")
    else .ok ⟨r.entryText, none⟩⟩

/-- A failed scan makes no request; when the backend refuses the second example request, the
run ends with its error after the two example requests; when it refuses only the file, the run
ends after every example request and the file's. -/
theorem rejections_stop_process :
    (unreadable.process "" "a.ts").run = (.error (.config "unreadable"), []) ∧
    ((mixed picky).process "" "a.ts").run =
      (.error (.compilation "a.ts#comment-test-case-2" 1 0 "unexpected )"),
        [(mixed picky).isolatedRequest "a.ts" ⟨"import a from \"a\";", 0⟩,
          (mixed picky).isolatedRequest "a.ts" ⟨")(", 2⟩]) ∧
    ∃ combined, ((mixed fileShy).process "" "a.ts").run =
      (.error (.compilation "a.ts" 1 0 "refused"),
        (mixed fileShy).isolatedRequests "a.ts" mixedExamples ++
          [(mixed fileShy).fileRequest "a.ts" combined]) := by
  refine ⟨((process_stops_at_rejection unreadable "" "a.ts").1 _ rfl).2.2, ?refused, ?fileRefused⟩
  case refused =>
    -- the import is compiled, and the unreadable text is refused
    have hpre : ∀ q ∈ [(mixed picky).isolatedRequest "a.ts" ⟨"import a from \"a\";", 0⟩],
        ∃ a, (mixed picky).backend.compile q = .ok a := by
      simp only [List.mem_singleton, forall_eq]
      exact ⟨⟨"import a from \"a\";", none⟩, by decide +kernel⟩
    exact ((process_stops_at_rejection (mixed picky) "" "a.ts").2.1 mixedExamples _ _ []
      _ (mixed_examples picky) (mixed_isolatedRequests picky) hpre (by decide +kernel)).2
  case fileRefused =>
    have hok : ∀ q ∈ (mixed fileShy).isolatedRequests "a.ts" mixedExamples,
        ∃ a, (mixed fileShy).backend.compile q = .ok a := by
      rw [mixed_isolatedRequests]
      simp only [List.mem_cons, List.not_mem_nil, or_false, forall_eq_or_imp, forall_eq]
      exact ⟨⟨⟨"import a from \"a\";", none⟩, by decide +kernel⟩, ⟨⟨")(", none⟩, by decide +kernel⟩⟩
    obtain ⟨combined, -, hfile⟩ :=
      (process_stops_at_rejection (mixed fileShy) "" "a.ts").2.2 mixedExamples
        (mixed_examples fileShy) hok
    exact ⟨combined, hfile _ (by simp [mixed, fileShy, fileRequest])⟩

end Transformer

end DocSuite
