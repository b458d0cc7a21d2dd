import Mathlib
import DocSuite.Backend.StandIn
import DocSuite.Settings.Basic
import DocSuite.Proofs.Bytes
/-!
# What a compiler process answers

A process backend runs its program once, with the arguments of the request and the entry text
as input, and judges the run. `CompileOutcome` gives the judgement as rules, one per way out: a
failed run is the compilation error its error stream gives, whatever files it left; a run
without code is a missing output; under a mode that returns a map, a missing or malformed map
is one too; otherwise the answer is the code, with the parsed map under such a mode and none
under the others. Outputs are picked by name: the first, in the byte order of names, of the
files whose name ends in `.js` (`FirstOutput`), and likewise for `.js.map`. A directory holds
one file per name.

Main statement `compile_answers`: once the program started, compiling answers exactly what
the rules give for its run.
-/

namespace DocSuite

open Text

/-! ## Names -/

theorem endsWith_iff (name suffix : String) :
    name.endsWith suffix = true ↔ suffix.toList <:+ name.toList := by
  show name.toSlice.endsWith suffix = true ↔ _
  rw [String.Slice.endsWith_string_iff, String.copy_toSlice]

/-- A name that ends in `.js` does not end in `.js.map`. -/
theorem not_map_of_js {name : String} (h : ".js".toList <:+ name.toList) :
    ¬ ".js.map".toList <:+ name.toList := by
  intro hmap
  -- both are suffixes of the name, so one is a suffix of the other
  rcases List.suffix_or_suffix_of_suffix h hmap with hsuf | hsuf
  · exact absurd hsuf (by decide)
  · simpa using hsuf.length_le

/-- The contents of the file whose name comes first, in the byte order of names, among those
whose name ends with `suffix`. -/
def FirstOutput (files : List (String × String)) (suffix contents : String) : Prop :=
  ∃ name, (name, contents) ∈ files ∧ suffix.toList <:+ name.toList ∧
    ∀ f ∈ files, suffix.toList <:+ f.1.toList → name.toUTF8.data.toList ≤ f.1.toUTF8.data.toList

/-- No file name ends with `suffix`. -/
def NoOutput (files : List (String × String)) (suffix : String) : Prop :=
  ∀ f ∈ files, ¬ suffix.toList <:+ f.1.toList

/-- What compiling request `r` answers after a run of the program: one rule for each way out. -/
inductive CompileOutcome (r : CompileRequest) (run : ProgramRun) : Except Error Artifact → Prop
  /-- A run that failed is the compilation error its error stream gives, whatever it left. -/
  | failed : run.status ≠ 0 →
      CompileOutcome r run (.error (compilationError r.filename run.stderr))
  /-- A run that left no code. -/
  | noCode : run.status = 0 → NoOutput run.files ".js" →
      CompileOutcome r run (.error (.backendOutput ("no .js output for " ++ r.filename)))
  /-- A run that left code but no map, under a mode that returns one. -/
  | noMap {code : String} : run.status = 0 → FirstOutput run.files ".js" code →
      r.sourceMap.returnsMap = true → NoOutput run.files ".js.map" →
      CompileOutcome r run (.error (.backendOutput ("no .js.map output for " ++ r.filename)))
  /-- A run whose first map is not a source map, under a mode that returns one. -/
  | badMap {code text : String} {e : JsonFault} : run.status = 0 →
      FirstOutput run.files ".js" code → r.sourceMap.returnsMap = true →
      FirstOutput run.files ".js.map" text → SourceMap.ofJson text = .error e →
      CompileOutcome r run
        (.error (.backendOutput ("malformed source map for " ++ r.filename ++ ": " ++ e.text)))
  /-- The code and its map, under a mode that returns one. -/
  | mapped {code text : String} {m : SourceMap} : run.status = 0 →
      FirstOutput run.files ".js" code → r.sourceMap.returnsMap = true →
      FirstOutput run.files ".js.map" text → SourceMap.ofJson text = .ok m →
      CompileOutcome r run (.ok ⟨code, some m⟩)
  /-- The code alone, under a mode that returns no map, whatever maps the run left. -/
  | unmapped {code : String} : run.status = 0 → FirstOutput run.files ".js" code →
      r.sourceMap.returnsMap = false → CompileOutcome r run (.ok ⟨code, none⟩)

namespace Program

/-- Whether `output?` takes a name: it ends with `suffix` and with none of `exclude`. -/
def takes (suffix : String) (exclude : List String) (name : String) : Bool :=
  name.endsWith suffix && !exclude.any fun e => name.endsWith e

theorem output?_eq (files : List (String × String)) (suffix : String) (exclude : List String) :
    output? files suffix exclude =
      ((files.mergeSort fun a b => decide (a.1 ≤ b.1)).find? fun f => takes suffix exclude f.1).map
        (·.2) := rfl

theorem sorted_names (files : List (String × String)) :
    (files.mergeSort fun a b => decide (a.1 ≤ b.1)).Pairwise fun a b => decide (a.1 ≤ b.1) :=
  List.pairwise_mergeSort (fun a b c hab hbc => by simp_all only [decide_eq_true_eq]; exact le_trans hab hbc)
    (fun a b => by simpa using le_total a.1 b.1) files

/-- What `output?` picks: a file it takes whose name is least among those it takes. -/
theorem output?_least {files : List (String × String)} {suffix : String} {exclude : List String}
    {contents : String} (h : output? files suffix exclude = some contents) :
    ∃ name, (name, contents) ∈ files ∧ takes suffix exclude name ∧
      ∀ f ∈ files, takes suffix exclude f.1 → name ≤ f.1 := by
  rw [output?_eq, Option.map_eq_some_iff] at h
  obtain ⟨⟨name, c⟩, hfind, rfl⟩ := h
  obtain ⟨htakes, before, after, hsplit, hskip⟩ := List.find?_eq_some_iff_append.1 hfind
  have hperm := List.mergeSort_perm files fun a b => decide (a.1 ≤ b.1)
  have hsorted := sorted_names files
  rw [hsplit] at hsorted hperm
  refine ⟨name, hperm.subset (by simp), htakes, fun f hf hft => ?_⟩
  -- every file it takes comes at or after the one picked in sorted order
  have hmem : f ∈ before ++ (name, c) :: after := hperm.symm.subset hf
  rcases List.mem_append.1 hmem with hb | ha
  · exact absurd hft (by simpa using hskip f hb)
  · rcases List.mem_cons.1 ha with rfl | ha
    · exact le_refl _
    · have := (List.pairwise_cons.1 (List.pairwise_append.1 hsorted).2.1).1 f ha
      simpa using this

theorem output?_eq_none_iff (files : List (String × String)) (suffix : String)
    (exclude : List String) :
    output? files suffix exclude = none ↔ ∀ f ∈ files, takes suffix exclude f.1 = false := by
  rw [output?_eq, Option.map_eq_none_iff, List.find?_eq_none]
  have hperm := List.mergeSort_perm files fun a b => decide (a.1 ≤ b.1)
  exact ⟨fun h f hf => by simpa using h f (hperm.symm.subset hf),
    fun h f hf => by simpa using h f (hperm.subset hf)⟩

/-- In a directory, one file per name: `output?` picks the file it takes with the least
name, and only that one. -/
theorem output?_eq_some_iff {files : List (String × String)} (hnames : (files.map (·.1)).Nodup)
    (suffix : String) (exclude : List String) (contents : String) :
    output? files suffix exclude = some contents ↔
      ∃ name, (name, contents) ∈ files ∧ takes suffix exclude name ∧
        ∀ f ∈ files, takes suffix exclude f.1 → name ≤ f.1 := by
  refine ⟨output?_least, fun ⟨name, hmem, htakes, hleast⟩ => ?_⟩
  cases hout : output? files suffix exclude with
  | none =>
    have := (output?_eq_none_iff files suffix exclude).1 hout _ hmem
    simp_all
  | some picked =>
    obtain ⟨name', hmem', htakes', hleast'⟩ := output?_least hout
    -- the two least names are one name, and a name has one file
    have hname : name = name' := le_antisymm (hleast _ hmem' htakes') (hleast' _ hmem htakes)
    subst hname
    have := List.inj_on_of_nodup_map hnames hmem hmem' rfl
    simp_all

/-- Taking by a suffix that no exclusion changes is picking the first output. -/
theorem output?_eq_some_iff_first {files : List (String × String)}
    (hnames : (files.map (·.1)).Nodup) {suffix : String} {exclude : List String}
    (htakes : ∀ name, takes suffix exclude name = true ↔ suffix.toList <:+ name.toList)
    (contents : String) :
    output? files suffix exclude = some contents ↔ FirstOutput files suffix contents := by
  rw [output?_eq_some_iff hnames]
  simp only [FirstOutput, htakes, toUTF8_le_iff]

theorem output?_eq_none_iff_no {files : List (String × String)} {suffix : String}
    {exclude : List String}
    (htakes : ∀ name, takes suffix exclude name = true ↔ suffix.toList <:+ name.toList) :
    output? files suffix exclude = none ↔ NoOutput files suffix := by
  rw [output?_eq_none_iff]
  exact forall₂_congr fun f _ => by rw [← Bool.not_eq_true, htakes]

theorem takes_code (name : String) :
    takes ".js" [".js.map"] name = true ↔ ".js".toList <:+ name.toList := by
  have hmap : name.endsWith ".js" = true → name.endsWith ".js.map" = false := fun hjs => by
    rw [← Bool.not_eq_true, endsWith_iff]
    exact not_map_of_js ((endsWith_iff _ _).1 hjs)
  rw [← endsWith_iff]
  cases hjs : name.endsWith ".js" <;> simp_all [takes]

theorem takes_map (name : String) :
    takes ".js.map" [] name = true ↔ ".js.map".toList <:+ name.toList := by
  simp [takes, endsWith_iff]

theorem output?_code {files : List (String × String)} (hnames : (files.map (·.1)).Nodup)
    (code : String) : output? files ".js" [".js.map"] = some code ↔ FirstOutput files ".js" code :=
  output?_eq_some_iff_first hnames takes_code code

theorem output?_map {files : List (String × String)} (hnames : (files.map (·.1)).Nodup)
    (text : String) : output? files ".js.map" [] = some text ↔ FirstOutput files ".js.map" text :=
  output?_eq_some_iff_first hnames takes_map text

variable {p : Program} {r : CompileRequest} {run : ProgramRun}

/-- Compiling answers as the rules say for the run. -/
theorem compile_sound (hstart : p.start (compilerArgs r outfileName) r.entryText = .ok run)
    (hnames : (run.files.map (·.1)).Nodup) : CompileOutcome r run (p.compile r) := by
  by_cases hstatus : run.status = 0
  · cases hcode : output? run.files ".js" [".js.map"] with
    | none =>
      have hno := (output?_eq_none_iff_no takes_code).1 hcode
      have hcompile : p.compile r = .error (.backendOutput ("no .js output for " ++ r.filename)) := by
        simp [compile, hstart, hstatus, hcode]
        rfl
      rw [hcompile]
      exact .noCode hstatus hno
    | some code =>
      have hfirst := (output?_code hnames code).1 hcode
      cases hmode : r.sourceMap.returnsMap with
      | false =>
        have hcompile : p.compile r = .ok ⟨code, none⟩ := by
          simp [compile, hstart, hstatus, hcode, hmode]
          rfl
        rw [hcompile]
        exact .unmapped hstatus hfirst hmode
      | true =>
        cases hmap : output? run.files ".js.map" [] with
        | none =>
          have hno := (output?_eq_none_iff_no takes_map).1 hmap
          have hcompile :
              p.compile r = .error (.backendOutput ("no .js.map output for " ++ r.filename)) := by
            simp [compile, hstart, hstatus, hcode, hmode, hmap]
            rfl
          rw [hcompile]
          exact .noMap hstatus hfirst hmode hno
        | some text =>
          have hmapFirst := (output?_map hnames text).1 hmap
          cases hjson : SourceMap.ofJson text with
          | error e =>
            have hcompile : p.compile r = .error (.backendOutput
                ("malformed source map for " ++ r.filename ++ ": " ++ e.text)) := by
              simp [compile, hstart, hstatus, hcode, hmode, hmap, hjson]
              rfl
            rw [hcompile]
            exact .badMap hstatus hfirst hmode hmapFirst hjson
          | ok m =>
            have hcompile : p.compile r = .ok ⟨code, some m⟩ := by
              simp [compile, hstart, hstatus, hcode, hmode, hmap, hjson]
              rfl
            rw [hcompile]
            exact .mapped hstatus hfirst hmode hmapFirst hjson
  · have hcompile : p.compile r = .error (compilationError r.filename run.stderr) := by
      simp [compile, hstart, hstatus]
      rfl
    rw [hcompile]
    exact .failed hstatus

/-- What the rules give for the run is what compiling answers. -/
theorem compile_complete (hstart : p.start (compilerArgs r outfileName) r.entryText = .ok run)
    (hnames : (run.files.map (·.1)).Nodup) {res : Except Error Artifact}
    (h : CompileOutcome r run res) : p.compile r = res := by
  cases h with
  | failed hstatus =>
    simp [compile, hstart, hstatus]
    rfl
  | noCode hstatus hno =>
    have hcode := (output?_eq_none_iff_no takes_code).2 hno
    simp [compile, hstart, hstatus, hcode]
    rfl
  | noMap hstatus hfirst hmode hno =>
    have hcode := (output?_code hnames _).2 hfirst
    have hmap := (output?_eq_none_iff_no takes_map).2 hno
    simp [compile, hstart, hstatus, hcode, hmode, hmap]
    rfl
  | badMap hstatus hfirst hmode hmapFirst hjson =>
    have hcode := (output?_code hnames _).2 hfirst
    have hmap := (output?_map hnames _).2 hmapFirst
    simp [compile, hstart, hstatus, hcode, hmode, hmap, hjson]
    rfl
  | mapped hstatus hfirst hmode hmapFirst hjson =>
    have hcode := (output?_code hnames _).2 hfirst
    have hmap := (output?_map hnames _).2 hmapFirst
    simp [compile, hstart, hstatus, hcode, hmode, hmap, hjson]
    rfl
  | unmapped hstatus hfirst hmode =>
    have hcode := (output?_code hnames _).2 hfirst
    simp [compile, hstart, hstatus, hcode, hmode]
    rfl

/-- Once the program started, with the request's arguments and its entry text as input,
compiling answers exactly what the rules give for the run: the compilation error of a failed
run, whatever files it left; a missing code output; under a mode that returns a map, a missing
or malformed map; otherwise the first code file in the byte order of names, with the first map
parsed under such a mode and no map under the others. -/
theorem compile_answers (p : Program) (r : CompileRequest) (run : ProgramRun)
    (hstart : p.start (compilerArgs r outfileName) r.entryText = .ok run)
    (hnames : (run.files.map (·.1)).Nodup) :
    ∀ res, p.compile r = res ↔ CompileOutcome r run res := fun _ =>
  ⟨fun h => h ▸ compile_sound hstart hnames, compile_complete hstart hnames⟩

/-- A request built from the default backend settings: bundled, both maps. -/
def defaultRequest : CompileRequest := .ofConfig {} "a.ts" "let x = 1;"

/-- A run that left the code and its map, and two more files whose names sort first. -/
def extraFilesRun : ProgramRun where
  status := 0
  files := [("out.js", "let x = 1;\n"), ("out.js.map", "\x7b\"version\":3\x7d"),
    ("aaa.js", "// extra file sorts first\n"),
    ("a.js.map", "\x7b\"version\":3,\"file\":\"extra\",\"mappings\":\";\"\x7d")]

theorem extraFiles_answer :
    (⟨"esbuild", fun _ _ => .ok extraFilesRun⟩ : Program).start
        (compilerArgs defaultRequest outfileName) defaultRequest.entryText = .ok extraFilesRun ∧
    (extraFilesRun.files.map (·.1)).Nodup ∧
    ∀ res, (⟨"esbuild", fun _ _ => .ok extraFilesRun⟩ : Program).compile defaultRequest = res ↔
      CompileOutcome defaultRequest extraFilesRun res :=
  have hstart : (⟨"esbuild", fun _ _ => .ok extraFilesRun⟩ : Program).start
      (compilerArgs defaultRequest outfileName) defaultRequest.entryText = .ok extraFilesRun := by
    simp [Program.start, String.contains_char_eq, compilerArgs, defaultRequest,
      CompileRequest.ofConfig, outfileName, OutputFormat.name, SourceMapMode.name]
  have hnames : (extraFilesRun.files.map (·.1)).Nodup := by simp [extraFilesRun]
  ⟨hstart, hnames, compile_answers _ _ _ hstart hnames⟩

end Program

end DocSuite
