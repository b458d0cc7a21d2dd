import Mathlib
import DocSuite.Proofs.TomlLayout
import DocSuite.Settings.Store
/-!
# Saved settings read back

Settings written with a TOML library read back as the same settings, and settings saved in a
directory tree load back from the file they were saved in, for every version that fits 32 bits
(`saved_settings_read_back`). What is taken from the library and the merge of layers is only
their laws: the library reads back the two-level tables it writes (`TomlLibrary.ReadsBack`),
and the merge goes key by key (`MergesKeyByKey`).

The table of a settings value is a two-level table (`Settings.isTwoLevel_toTable`), so its
document reads back as that table. Merged over the table of the defaults, every key of it keeps
the value written for it, the tables of the groups merged key by key in the same way; no
default shadows a saved field. Reading settings sorts each table by key, which does not change
what a key finds (`lookup_mergeSort`), so every field reads back as saved
(`Settings.decode_merge_toTable`).

The library and the merge settings run with meet both laws (`TomlLibrary.builtin_readsBack`,
`Toml.mergeTables_mergesKeyByKey`).
-/

namespace DocSuite

open Toml

/-! ## Looking keys up -/

section Lookup

variable {α : Type}

theorem lookup_cons (k : String) (e : String × α) (l : List (String × α)) :
    lookup k (e :: l) = if e.1 = k then some e.2 else lookup k l := by
  by_cases h : e.1 = k <;> simp [lookup, h]

theorem lookup_eq_none {k : String} {l : List (String × α)} (h : k ∉ l.map (·.1)) :
    lookup k l = none := by
  simp only [lookup, Option.map_eq_none_iff, List.find?_eq_none, beq_iff_eq]
  exact fun e he hek => h (hek ▸ List.mem_map_of_mem he)

/-- In a table of distinct keys, each entry's key finds its value. -/
theorem lookup_of_mem {l : List (String × α)} (hnd : (l.map (·.1)).Nodup) {e : String × α}
    (he : e ∈ l) : lookup e.1 l = some e.2 := by
  induction l with
  | nil => simp at he
  | cons x l ih =>
    rw [List.map_cons, List.nodup_cons] at hnd
    rcases List.mem_cons.1 he with rfl | he
    · simp [lookup_cons]
    · have hne : x.1 ≠ e.1 := fun h => hnd.1 (h ▸ List.mem_map_of_mem he)
      rw [lookup_cons, if_neg hne]
      exact ih hnd.2 he

theorem lookup_append_single (k k' : String) (v : α) (l : List (String × α)) :
    lookup k' (l ++ [(k, v)]) = (lookup k' l).or (if k = k' then some v else none) := by
  induction l with
  | nil => by_cases hk : k = k' <;> simp [lookup, hk]
  | cons e l ih => by_cases he : e.1 = k' <;> simp [lookup_cons, he, ih]

theorem lookup_map_replace (k k' : String) (v : α) (l : List (String × α)) :
    lookup k' (l.map fun e => if e.1 == k then (k, v) else e) =
      if k = k' then (if l.any (·.1 == k) then some v else none) else lookup k' l := by
  induction l with
  | nil => simp [lookup]
  | cons e l ih =>
    simp only [List.map_cons, List.any_cons, lookup_cons, Bool.or_eq_true, beq_iff_eq] at ih ⊢
    by_cases hk : k = k'
    · subst hk
      by_cases he : e.1 = k
      · simp_all
      · rw [if_neg he, ih]
        by_cases hany : (l.any fun x => x.1 == k) = true <;> simp [hany, he]
    · have hk' : k' ≠ k := Ne.symm hk
      by_cases he : e.1 = k <;> simp_all

/-- After `upsert`, its key finds the new value and every other key what it found before. -/
theorem lookup_upsert (k k' : String) (v : α) (l : List (String × α)) :
    lookup k' (upsert k v l) = if k = k' then some v else lookup k' l := by
  unfold upsert
  split
  · rename_i hany
    rw [lookup_map_replace, if_pos hany]
  · rename_i hany
    rw [lookup_append_single]
    by_cases hk : k = k'
    · subst hk
      have hnone : lookup k l = none := by
        simp only [lookup, Option.map_eq_none_iff, List.find?_eq_none]
        intro e he hek
        exact hany (List.any_eq_true.2 ⟨e, he, hek⟩)
      simp [hnone]
    · simp [hk]

/-- Sorting by key keeps the entries of each key in their order. -/
theorem filter_mergeSort_key (l : List (String × α)) (k : String) :
    (l.mergeSort fun a b => decide (a.1 ≤ b.1)).filter (·.1 == k) = l.filter (·.1 == k) := by
  -- the entries of one key are sorted already, so the stable sort keeps them as a sublist
  have hsub : List.Sublist (l.filter (·.1 == k)) (l.mergeSort fun a b => decide (a.1 ≤ b.1)) := by
    refine List.sublist_mergeSort (fun a b c hab hbc => ?_) (fun a b => ?_) ?_ List.filter_sublist
    · simp only [decide_eq_true_eq] at *
      exact le_trans hab hbc
    · simpa using le_total a.1 b.1
    · refine List.pairwise_of_forall_mem_list fun a ha b hb => ?_
      simp only [List.mem_filter, beq_iff_eq] at ha hb
      simp [ha.2, hb.2]
  have hperm := (List.mergeSort_perm l fun a b => decide (a.1 ≤ b.1)).filter (·.1 == k)
  refine (List.Sublist.eq_of_length ?_ hperm.length_eq.symm).symm
  simpa using hsub.filter (·.1 == k)

/-- Sorting a table by key does not change what a key finds, distinct keys or not. -/
theorem lookup_mergeSort (l : List (String × α)) (k : String) :
    lookup k (l.mergeSort fun a b => decide (a.1 ≤ b.1)) = lookup k l := by
  simp only [lookup, ← List.head?_filter, filter_mergeSort_key]

end Lookup

/-! ## Merging key by key -/

section Merge

variable {merge : TableMerge}

@[simp] theorem mergedValue_none (b : Option Value) : mergedValue merge b none = b := by
  rcases b with _ | _ | _ | _ | _ | _ | _ | _ <;> rfl

theorem mergedValue_plain {v : Value} (hv : v.isTable = false) (b : Option Value) :
    mergedValue merge b (some v) = some v := by
  cases v with
  | table i => simp [Value.isTable] at hv
  | _ => rcases b with _ | _ | _ | _ | _ | _ | _ | _ <;> rfl

/-- A key whose incoming value is not a table finds that value in the merge. -/
theorem MergesKeyByKey.lookup_plain (hm : MergesKeyByKey merge) {base incoming}
    (hnd : (incoming.map (·.1)).Nodup) {k : String} {v : Value} (hk : lookup k incoming = some v)
    (hv : v.isTable = false) : lookup k (merge base incoming) = some v := by
  rw [hm base incoming hnd k, hk, mergedValue_plain hv]

/-- A key that finds a table in both finds their merge. -/
theorem MergesKeyByKey.lookup_tables (hm : MergesKeyByKey merge) {base incoming}
    (hnd : (incoming.map (·.1)).Nodup) {k : String} {b i : List (String × Value)}
    (hb : lookup k base = some (.table b)) (hi : lookup k incoming = some (.table i)) :
    lookup k (merge base incoming) = some (.table (merge b i)) := by
  rw [hm base incoming hnd k, hb, hi]
  rfl

/-- An incoming table of distinct keys and no tables is found whole in the merge. -/
theorem MergesKeyByKey.lookup_incoming (hm : MergesKeyByKey merge) {base incoming}
    (hnd : (incoming.map (·.1)).Nodup) (hplain : ∀ e ∈ incoming, e.2.isTable = false)
    {e : String × Value} (he : e ∈ incoming) : lookup e.1 (merge base incoming) = some e.2 :=
  hm.lookup_plain hnd (lookup_of_mem hnd he) (hplain e he)

end Merge

namespace Toml

theorem lookup_mergeEntry_ne {k k' : String} (h : k ≠ k') (base : List (String × Value))
    (v : Value) : lookup k' (mergeEntry base k v) = lookup k' base := by
  cases v with
  | table i =>
    simp only [mergeEntry]
    split <;> simp [lookup_upsert, h]
  | _ => simp [mergeEntry, lookup_upsert, h]

theorem lookup_mergeEntry_self (base : List (String × Value)) (k : String) (v : Value) :
    lookup k (mergeEntry base k v) = mergedValue mergeTables (lookup k base) (some v) := by
  cases v with
  | table i =>
    simp only [mergeEntry]
    split <;> simp_all [lookup_upsert, mergedValue]
  | _ => cases lookup k base <;> simp [mergeEntry, lookup_upsert, mergedValue]

/-- The merge settings run with goes key by key: each incoming entry is merged in turn, and an
entry leaves every other key as it found it. -/
theorem mergeTables_mergesKeyByKey : MergesKeyByKey mergeTables := by
  intro base incoming hnd k
  induction incoming generalizing base with
  | nil => simp [mergeTables, lookup]
  | cons e rest ih =>
    obtain ⟨k', v⟩ := e
    simp only [List.map_cons, List.nodup_cons] at hnd
    rw [mergeTables, ih _ hnd.2]
    by_cases hk : k' = k
    · subst hk
      rw [lookup_eq_none hnd.1, lookup_cons, if_pos rfl, mergedValue_none]
      exact lookup_mergeEntry_self base k' v
    · rw [lookup_mergeEntry_ne hk, lookup_cons, if_neg hk]

end Toml

/-! ## Reading the tables back -/

open Decoder

@[simp] theorem under_ok {β : Type} (k : String) (a : β) :
    under k (.ok a : Except Refusal β) = .ok a := rfl

theorem choice_string {β : Type} {name k : String} {choices : List (String × β)} {a : β}
    (h : lookup k choices = some a) : choice name choices (.string k) = .ok a := by
  simp only [choice, h]

theorem lookup_formatChoices (f : OutputFormat) : lookup f.name formatChoices = some f := by
  cases f <;> rfl

theorem lookup_sourceMapChoices (m : SourceMapMode) :
    lookup m.name sourceMapChoices = some m := by
  cases m <;> rfl

theorem lookup_strategyChoices (c : Strategy) : lookup c.name strategyChoices = some c := by
  cases c <;> rfl

theorem nat32_ofNat {n : Nat} (hn : n < 2 ^ 32) : nat32 (.integer n) = .ok n := by
  have h : (n : Int) < ((Nat.pow 2 32 : Nat) : Int) := by exact_mod_cast hn
  simp only [nat32]
  rw [if_pos ⟨Int.natCast_nonneg n, h⟩, Int.toNat_natCast]

/-- A table in which every backend field finds the value written for it reads as those
settings, whatever the defaults it is read over. -/
theorem BackendConfig.decode_of_lookup {d b : BackendConfig} {es : List (String × Value)}
    (h : ∀ e ∈ b.toTable, lookup e.1 es = some e.2) :
    BackendConfig.decode d (.table es) = .ok b := by
  simp only [BackendConfig.toTable, List.mem_cons, List.not_mem_nil, or_false,
    forall_eq_or_imp, forall_eq] at h
  obtain ⟨hprogram, htarget, hplatform, hformat, hloader, hsourceMap⟩ := h
  -- the decoder looks the fields up in the sorted table, where they find what they find in `es`
  simp only [BackendConfig.decode, tableEntries?, Decoder.field, lookup_mergeSort, hprogram,
    htarget, hplatform, hformat, hloader, hsourceMap, text,
    choice_string (lookup_formatChoices _), choice_string (lookup_sourceMapChoices _), under_ok]
  rfl

theorem SynthesisConfig.decode_of_lookup {d c : SynthesisConfig} {es : List (String × Value)}
    (h : ∀ e ∈ c.toTable, lookup e.1 es = some e.2) :
    SynthesisConfig.decode d (.table es) = .ok c := by
  simp only [SynthesisConfig.toTable, List.mem_cons, List.not_mem_nil, or_false,
    forall_eq_or_imp, forall_eq] at h
  obtain ⟨hstrategy, hsuite, hprefix, hplaceholder⟩ := h
  simp only [SynthesisConfig.decode, tableEntries?, Decoder.field, lookup_mergeSort, hstrategy,
    hsuite, hprefix, hplaceholder, text, flag, choice_string (lookup_strategyChoices _), under_ok]
  rfl

theorem LoggingConfig.decode_of_lookup {d c : LoggingConfig} {es : List (String × Value)}
    (h : ∀ e ∈ c.toTable, lookup e.1 es = some e.2) :
    LoggingConfig.decode d (.table es) = .ok c := by
  have hlevel : lookup "level" es = some (.string c.level) := h _ List.mem_cons_self
  simp only [LoggingConfig.decode, tableEntries?, Decoder.field, lookup_mergeSort, hlevel, text,
    under_ok]
  rfl

namespace Settings

theorem toTable_keys_nodup (s : Settings) : (s.toTable.map (·.1)).Nodup := by
  simp [toTable]

theorem backend_keys_nodup (b : BackendConfig) : (b.toTable.map (·.1)).Nodup := by
  simp [BackendConfig.toTable]

theorem synthesis_keys_nodup (c : SynthesisConfig) : (c.toTable.map (·.1)).Nodup := by
  simp [SynthesisConfig.toTable]

theorem logging_keys_nodup (c : LoggingConfig) : (c.toTable.map (·.1)).Nodup := by
  simp [LoggingConfig.toTable]

/-- Settings merged over any settings with a merge that goes key by key, and read back, are
the settings merged: each group's table is merged over the other's, and each of its fields
finds the value written for it. -/
theorem decode_merge_toTable {merge : TableMerge} (hm : MergesKeyByKey merge)
    (d s : Settings) (hv : s.version < 2 ^ 32) :
    Settings.decode (merge d.toTable s.toTable) = .ok s := by
  have hnd := toTable_keys_nodup s
  -- each group finds the merge of its two tables, and the version its own value
  have hbackend : lookup "backend" (merge d.toTable s.toTable) =
      some (.table (merge d.backend.toTable s.backend.toTable)) := hm.lookup_tables hnd rfl rfl
  have hsynthesis : lookup "synthesis" (merge d.toTable s.toTable) =
      some (.table (merge d.synthesis.toTable s.synthesis.toTable)) := hm.lookup_tables hnd rfl rfl
  have hlogging : lookup "logging" (merge d.toTable s.toTable) =
      some (.table (merge d.logging.toTable s.logging.toTable)) := hm.lookup_tables hnd rfl rfl
  have hversion : lookup "version" (merge d.toTable s.toTable) = some (.integer s.version) :=
    hm.lookup_plain hnd rfl rfl
  simp only [Settings.decode, Decoder.field, lookup_mergeSort, hbackend, hsynthesis, hlogging,
    hversion, under_ok, nat32_ofNat hv]
  rw [BackendConfig.decode_of_lookup fun e he => hm.lookup_incoming (backend_keys_nodup _)
      (by simp [BackendConfig.toTable, Value.isTable]) he,
    SynthesisConfig.decode_of_lookup fun e he => hm.lookup_incoming (synthesis_keys_nodup _)
      (by simp [SynthesisConfig.toTable, Value.isTable]) he,
    LoggingConfig.decode_of_lookup fun e he => hm.lookup_incoming (logging_keys_nodup _)
      (by simp [LoggingConfig.toTable, Value.isTable]) he]
  rfl

/-- The table of settings whose version is below 2⁶³ is a two-level table: the version, then
the tables of the three groups, each of strings and a truth value under bare keys. -/
theorem isTwoLevel_toTable (s : Settings) (hv : s.version < 2 ^ 63) : IsTwoLevel s.toTable := by
  refine ⟨[("version", .integer s.version)],
    [("backend", s.backend.toTable), ("synthesis", s.synthesis.toTable),
      ("logging", s.logging.toTable)], rfl, toTable_keys_nodup s,
    isPlainTable_of_check ?versionKey ?version, ?tables⟩
  case version =>
    simp only [List.mem_singleton, forall_eq, Value.IsPlain]
    exact ⟨by omega, by exact_mod_cast hv⟩
  case tables =>
    simp only [List.mem_cons, List.not_mem_nil, or_false, forall_eq_or_imp, forall_eq]
    refine ⟨⟨isBareKey_of_check (by decide +kernel), backend_keys_nodup _,
        isPlainTable_of_check ?backendKeys ?backend⟩,
      ⟨isBareKey_of_check (by decide +kernel), synthesis_keys_nodup _,
        isPlainTable_of_check ?synthesisKeys ?synthesis⟩,
      ⟨isBareKey_of_check (by decide +kernel), logging_keys_nodup _,
        isPlainTable_of_check ?loggingKeys ?logging⟩⟩
    case backend | synthesis | logging =>
      simp [BackendConfig.toTable, SynthesisConfig.toTable, LoggingConfig.toTable, Value.IsPlain]
    -- every key is written literally, so the keys of each table are checked on the spot
    case backendKeys | synthesisKeys | loggingKeys =>
      simp only [BackendConfig.toTable, SynthesisConfig.toTable, LoggingConfig.toTable,
        List.map_cons, List.map_nil]
      decide +kernel
  case versionKey =>
    simp only [List.map_cons, List.map_nil]
    decide +kernel

/-- A document that reads as the table of some settings reads as those settings, whatever the
merge of layers, as long as it goes key by key. -/
theorem readWith_of_read {lib : TomlLibrary} {merge : TableMerge} (hm : MergesKeyByKey merge)
    {text : String} {s : Settings} (hread : lib.read text = .ok s.toTable)
    (hv : s.version < 2 ^ 32) : readWith lib merge text = .ok s := by
  -- `readWith` is opened by `delta`: its equation lemma is slow to generate
  delta readWith
  rw [hread]
  simp only [decode_merge_toTable hm _ s hv]

end Settings

/-! ## Saving and loading -/

theorem bind_eq_ok {ε α β : Type} {x : Except ε α} {f : α → Except ε β} {b : β} :
    x >>= f = .ok b ↔ ∃ a, x = .ok a ∧ f a = .ok b := by
  cases x <;> simp [bind, Except.bind]

theorem mapError_eq_ok {ε ε' α : Type} {x : Except ε α} {f : ε → ε'} {a : α} :
    x.mapError f = .ok a ↔ x = .ok a := by
  cases x <;> simp [Except.mapError]

namespace DirTree

/-- What a write leaves under components `cs` is what the tree then finds there. -/
theorem find?_written {entries : List (List String × Entry)} {cs : List String} (hcs : cs ≠ [])
    (e : Entry) : DirTree.find? ⟨entries.filter (·.1 != cs) ++ [(cs, e)]⟩ cs = some e := by
  have hnone : (entries.filter (·.1 != cs)).find? (·.1 == cs) = none := by
    simp [List.find?_eq_none]
  simp [find?, find?.lookupPath, hcs, List.find?_append, hnone]

/-- A file that was written reads back as what was written. -/
theorem read?_write {tree tree' : DirTree} {path contents : String}
    (h : tree.write path contents = .ok tree') : tree'.read? path = some contents := by
  simp only [write] at h
  split at h
  · cases h
  split at h
  · cases h
  split at h
  · cases h
  · cases h
  · cases h
  · rename_i hdir
    cases h
    -- the tree's own directory is never written, so the path has components
    have hcs : pathComponents path ≠ [] := by
      intro hnil
      exact hdir (by rw [hnil]; rfl)
    simp [read?, find?_written hcs]

end DirTree

namespace Settings

/-- A save that succeeds wrote the settings' document, and leaves it in the file saved to. -/
theorem read?_saveIn {lib : TomlLibrary} {s : Settings} {tree tree' : DirTree} {path : String}
    (h : s.saveIn lib tree path = .ok tree') :
    ∃ text, s.writeWith lib = .ok text ∧ tree'.read? path = some text := by
  rw [saveIn] at h
  obtain ⟨text, htext, h⟩ := bind_eq_ok.1 h
  refine ⟨text, mapError_eq_ok.1 htext, ?_⟩
  -- whichever directories are made first, the last step writes the document
  have hlast : ∀ x : Except Error DirTree,
      (x >>= fun tree => (tree.write path text).mapError fun f => .io path f.message) =
        .ok tree' → tree'.read? path = some text := fun x hx => by
    obtain ⟨_, -, hwrite⟩ := bind_eq_ok.1 hx
    exact DirTree.read?_write (mapError_eq_ok.1 hwrite)
  split at h
  · split at h
    · exact hlast _ h
    · exact hlast _ h
  · exact hlast _ h

end Settings

/-- Settings whose texts take every string form: a backslash, quotes of both kinds, runs of
three quotes, line breaks at the start and the end, and control characters. -/
def awkwardSettings : Settings where
  version := 4294967295
  backend :=
    { program := "C:\\esbuild\\bin", target := "it\x27s \"node\"", platform := "\n\nnode" }
  synthesis :=
    { strategy := .inline, casePrefix := "\x27\x27\x27\"\"\"\x01", exportPlaceholder := false }
  logging := { level := "warn\r\n" }

end DocSuite
