import DocSuite.Proofs.Transform
/-!
# The text a source is combined into

When the scan succeeds and every example compiled on its own is answered, `combine` gives the
source unchanged if it has no example, and otherwise the source, a newline and one suite: the
tooling pragmas, an immediately run function holding one `describe` registration, and in it one
`test` registration per example, in example order, the `i`-th named by the case prefix and the
number `i` (`combine_appends_suite`).

What a test body holds is `caseBody`: the example as written under the inline strategy; under
the isolated one, the placeholder line when the settings ask for it, then the code the backend
returned for an example that needs isolation and the example as written for one that does not.
`synthesize_runAfter_cases` gives the cases of a run; `examples_index` supplies that the
examples are numbered by position, which makes each registration's name its position.
-/

namespace DocSuite

open DocSuite.Text Session

namespace Transformer

variable {t : Transformer} {filename : String}

/-! ## Numbering and the suite text -/

/-- The examples of a source are numbered by their position. -/
theorem examples_index {source : String} {es : List Example}
    (hscan : t.examples source filename = .ok es) :
    ∀ (i : Nat) (h : i < es.length), es[i].index = i := by
  rw [examples_of_scan] at hscan
  cases hs : t.scanner filename source with
  | error err => simp [hs] at hscan; cases hscan
  | ok records =>
    simp only [hs, Except.map, Except.ok.injEq, Function.comp_apply] at hscan
    subst hscan
    intro i h
    have hget := getElem?_examplesOf (blockTexts records) i
    rw [List.getElem?_eq_getElem h] at hget
    obtain ⟨text, -, htext⟩ := Option.map_eq_some_iff.1 hget.symm
    rw [← htext]

/-- Cases numbered by position: rendering each is rendering the `i`-th under the number
`i`. -/
theorem map_renderCase_of_index (c : SynthesisConfig) {es : List Example}
    (hidx : ∀ (i : Nat) (h : i < es.length), es[i].index = i) (body : Example → String) :
    (es.map fun e => (⟨e.index, body e⟩ : TestCase)).map c.renderCase =
      es.mapIdx fun i e => c.renderCase ⟨i, body e⟩ := by
  apply List.ext_getElem (by simp)
  intro i h₁ h₂
  simp [List.getElem_mapIdx, hidx i (by simpa using h₁)]

/-- The suite of a non-empty list of cases, spelled out. -/
theorem renderSuite_of_ne_nil (c : SynthesisConfig) {cases : List TestCase} (h : cases ≠ []) :
    c.renderSuite cases =
      some (";/* istanbul ignore next */\n/* eslint-disable */\n(() => \x7b\n" ++
        suiteMarker c.suiteName ++ ", () => \x7b\n" ++
        "\n".intercalate (cases.map c.renderCase) ++ "\n\x7d);\n\x7d)();\n") := by
  have hpragmas : ";" ++ toolingPragmas ++ "\n(() => \x7b\n" =
      ";/* istanbul ignore next */\n/* eslint-disable */\n(() => \x7b\n" := by
    simp [toolingPragmas]
  rw [SynthesisConfig.renderSuite, hpragmas]
  exact h

/-! ## The combined text -/

/-- When the scan succeeds and every example's request is answered, the combination is the
source with the suite of the examples' cases attached. -/
theorem combine_run_cases {source : String} {es : List Example} {compiled : Example → Artifact}
    (hscan : t.examples source filename = .ok es)
    (hcompiled : ∀ e ∈ es, ∀ r ∈ t.requestOf? filename e, t.backend.compile r = .ok (compiled e)) :
    (t.combine source filename).run.1 =
      .ok (attachSuite source (t.settings.synthesis.renderSuite
        (es.map fun e => ⟨e.index, t.caseBody filename compiled e⟩))) := by
  rw [run_eq_runAfter]
  unfold combine
  cases es with
  | nil => simp [hscan, SynthesisConfig.renderSuite, attachSuite]
  | cons e es =>
    simp only [runAfter_bind, hscan, runAfter_pure, List.isEmpty_cons, Bool.false_eq_true,
      if_false, synthesize_runAfter_cases hcompiled]

/-- The combined text the documentation promises for a source with examples `es`: the source
alone when there are none; otherwise the source, a newline, the tooling pragmas and a function
run at once, holding a `describe` registration with, for the `i`-th example, a `test`
registration named by the case prefix and `i` whose body is `caseBody`. -/
def combinedText (t : Transformer) (filename : String) (compiled : Example → Artifact)
    (source : String) (es : List Example) : String :=
  if es = [] then source
  else
    let c := t.settings.synthesis
    let registration (i : Nat) (e : Example) : String :=
      "test(" ++ quote (c.casePrefix ++ toString i) ++ ", async () => \x7b\n" ++
        t.caseBody filename compiled e ++ "\n\x7d);"
    source ++ "\n" ++ ";/* istanbul ignore next */\n/* eslint-disable */\n(() => \x7b\n" ++
      suiteMarker c.suiteName ++ ", () => \x7b\n" ++ "\n".intercalate (es.mapIdx registration) ++
      "\n\x7d);\n\x7d)();\n"

/-- With examples, the combined text is the source followed by a newline and the suite. -/
theorem combinedText_cons (compiled : Example → Artifact) (source : String) (e : Example)
    (es : List Example) :
    ∃ suite, t.combinedText filename compiled source (e :: es) = source ++ ("\n" ++ suite) := by
  rw [combinedText, if_neg (List.cons_ne_nil e es)]
  simp only [String.append_assoc]
  exact ⟨_, rfl⟩

/-- When the scan succeeds and every example compiled on its own is answered, the combination
is `combinedText`: the source alone exactly when there is no example, and in every case the
source followed by what the suite adds. -/
theorem combine_appends_suite (t : Transformer) (source filename : String) (es : List Example)
    (compiled : Example → Artifact) (hscan : t.examples source filename = .ok es)
    (hcompiled : ∀ e ∈ es, ∀ r ∈ t.requestOf? filename e, t.backend.compile r = .ok (compiled e)) :
    (t.combine source filename).run.1 = .ok (t.combinedText filename compiled source es) ∧
      (t.combinedText filename compiled source es = source ↔ es = []) ∧
      ∃ suite, t.combinedText filename compiled source es = source ++ suite := by
  rw [combine_run_cases hscan hcompiled]
  cases es with
  | nil =>
    refine ⟨by simp [combinedText, SynthesisConfig.renderSuite, attachSuite], by simp [combinedText],
      ⟨"", by simp [combinedText]⟩⟩
  | cons e es =>
    obtain ⟨suite, hsuite⟩ : ∃ suite,
        t.combinedText filename compiled source (e :: es) = source ++ ("\n" ++ suite) :=
      combinedText_cons compiled source e es
    refine ⟨?_, ?_, ⟨_, hsuite⟩⟩
    · -- the suite's registrations are the cases, each named by its position
      rw [renderSuite_of_ne_nil _ (by simp), map_renderCase_of_index _ (examples_index hscan),
        combinedText, if_neg (List.cons_ne_nil e es)]
      simp only [attachSuite, String.append_assoc, SynthesisConfig.renderCase,
        SynthesisConfig.caseName]
    · rw [hsuite]
      simp

/-- A transformer whose scanner finds one documentation comment holding one example, every
example of which is read as a module and compiled by `echo`. -/
def oneExample : Transformer :=
  ⟨{}, fun _ _ => .ok [⟨"*\n * ```\n * run();\n * ```\n ", .block, ⟨0, 0, 1, 1, 1, 1⟩⟩],
    fun _ _ => .module, echo⟩

theorem oneExample_combined :
    oneExample.examples "" "a.ts" = .ok [⟨"run();", 0⟩] ∧
      (∀ e ∈ [(⟨"run();", 0⟩ : Example)], ∀ r ∈ oneExample.requestOf? "a.ts" e,
        oneExample.backend.compile r = .ok ⟨e.text, none⟩) ∧
      (oneExample.combine "" "a.ts").run.1 =
        .ok (oneExample.combinedText "a.ts" (fun e => ⟨e.text, none⟩) "" [⟨"run();", 0⟩]) ∧
      (oneExample.combinedText "a.ts" (fun e => ⟨e.text, none⟩) "" [⟨"run();", 0⟩] = "" ↔
        [(⟨"run();", 0⟩ : Example)] = []) ∧
      ∃ suite, oneExample.combinedText "a.ts" (fun e => ⟨e.text, none⟩) "" [⟨"run();", 0⟩] =
        "" ++ suite :=
  have hscan : oneExample.examples "" "a.ts" = .ok [⟨"run();", 0⟩] := by
    rw [examples_of_scan]
    change Except.ok _ = _
    congr 1
    decide +kernel
  have hcompiled : ∀ e ∈ [(⟨"run();", 0⟩ : Example)], ∀ r ∈ oneExample.requestOf? "a.ts" e,
      oneExample.backend.compile r = .ok ⟨e.text, none⟩ := by
    intro e he r hr
    simp only [List.mem_singleton] at he
    subst he
    simp only [requestOf?, oneExample, Option.mem_def] at hr
    cases hr
    rfl
  ⟨hscan, hcompiled,
    combine_appends_suite oneExample "" "a.ts" [⟨"run();", 0⟩] (fun e => ⟨e.text, none⟩) hscan hcompiled⟩

end Transformer

end DocSuite
