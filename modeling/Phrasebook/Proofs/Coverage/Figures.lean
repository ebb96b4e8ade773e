import Mathlib.Data.List.Dedup
import Phrasebook.Command.Run
import Phrasebook.Proofs.Lint.Segments

/-! The figures for a language. The source keys that a language has are counted once each, but all
source keys and the missing ones as often as they are listed, so the figures add up unless a key
that the language has stands more than once among those of the source.
-/

namespace Phrasebook

namespace Coverage

theorem nodup_eraseDups (keys : List String) : keys.eraseDups.Nodup := by
  match keys with
  | [] => exact List.nodup_nil
  | key :: rest =>
      have shorter := List.length_filter_le (fun other => !other == key) rest
      rw [List.eraseDups_cons, List.nodup_cons]
      exact ⟨by simp, nodup_eraseDups _⟩
termination_by keys.length
decreasing_by simpa using Nat.lt_succ_of_le shorter

variable {source translated : List String}

/-- The common keys are the source keys that the language has, each of them once. -/
theorem common_eq_length_dedup
    : common source translated = (source.filter translated.contains).dedup.length := by
  refine List.Perm.length_eq ((List.perm_ext_iff_of_nodup ?_ (List.nodup_dedup _)).mpr ?_)
  · exact (nodup_eraseDups source).sublist List.filter_sublist
  · intro key
    simp

theorem common_eq_iff
    : common source translated = (source.filter translated.contains).length ↔
      (source.filter translated.contains).Nodup := by
  rw [common_eq_length_dedup, ← List.dedup_eq_self]
  constructor
  · exact (List.dedup_sublist _).eq_of_length
  · exact congrArg List.length

theorem common_le_length_filter (source translated : List String)
    : common source translated ≤ (source.filter translated.contains).length := by
  rw [common_eq_length_dedup]
  exact (List.dedup_sublist _).length_le

/-- Every source key is either one that the language has or a missing one. -/
theorem length_filter_add_without (source translated : List String)
    : (source.filter translated.contains).length + (without source translated).length =
      source.length :=
  (List.length_eq_length_filter_add translated.contains).symm

theorem nodup_filter_iff
    : (source.filter translated.contains).Nodup ↔ ∀ key ∈ translated, source.count key ≤ 1 := by
  rw [List.nodup_iff_count_le_one]
  constructor
  · intro once key listed
    have counted := once key
    rwa [List.count_filter (by simpa using listed)] at counted
  · intro once key
    by_cases listed : key ∈ translated
    · rw [List.count_filter (by simpa using listed)]
      exact once key listed
    · rw [List.count_eq_zero_of_not_mem (by simp [listed])]
      exact Nat.zero_le 1

theorem common_add_without_iff
    : common source translated + (without source translated).length = source.length ↔
      ∀ key ∈ translated, source.count key ≤ 1 := by
  have parts := length_filter_add_without source translated
  rw [← nodup_filter_iff, ← common_eq_iff]
  omega

/-- Only a language that lacks nothing can have as many keys as the source lists. -/
theorem common_eq_length_iff
    : common source translated = source.length ↔ without source translated = [] ∧ source.Nodup := by
  have parts := length_filter_add_without source translated
  have fewer := common_le_length_filter source translated
  constructor
  · intro all
    have none_missing : without source translated = [] := by
      rw [← List.length_eq_zero_iff]
      omega
    have whole : source.filter translated.contains = source :=
      List.filter_sublist.eq_of_length (by omega)
    refine ⟨none_missing, ?_⟩
    have once := common_eq_iff.mp (all.trans (congrArg List.length whole).symm)
    rwa [whole] at once
  · rintro ⟨none_missing, once⟩
    have added := common_add_without_iff.mpr fun key (_ : key ∈ translated) =>
      List.nodup_iff_count_le_one.mp once key
    rwa [none_missing, List.length_nil, Nat.add_zero] at added

end Coverage

namespace Command

section

variable {files : Files} {path : String} {source : Dictionary} {languages : List String}
  {translations : Option String}

/-- A run compares the leaf keys of every language with those of the source, by induction on the
languages.
-/
theorem coverages_eq (dictionaryOf : String → Dictionary) (loaded : load files path = .ok source)
    (found
      : ∀ language ∈ languages,
          languageKeys files (languageFile path translations language) =
            .ok (dictionaryOf language).leafKeys)
    : coverages files path languages translations =
      .ok (source.leafKeys.length, languages.map fun language =>
        Coverage.compare language source.leafKeys (dictionaryOf language).leafKeys) := by
  have figures : languages.mapM (fun language => do
        let keys ← languageKeys files (languageFile path translations language)
        return Coverage.compare language source.leafKeys keys) =
      (.ok (languages.map fun language =>
          Coverage.compare language source.leafKeys (dictionaryOf language).leafKeys)
        : Except LoadError (List Coverage)) := by
    clear loaded
    induction languages with
    | nil => rfl
    | cons language rest ih =>
        rw [List.forall_mem_cons] at found
        rw [List.mapM_cons, found.1, ih found.2]
        rfl
  rw [coverages, loaded]
  exact congrArg (Except.map fun figures => (source.leafKeys.length, figures)) figures

theorem code_runCoverage {total : Nat} {figures : List Coverage}
    (ran : coverages files path languages translations = .ok (total, figures)) (strict json : Bool)
    : (runCoverage files path languages translations strict json).code =
      if strict && !figures.all Coverage.isComplete then dataCode else 0 := by
  rw [runCoverage, ran]
  cases json <;> rfl

/-- A strict run succeeds exactly if no language lacks a key. -/
theorem code_strict_eq_zero_iff (dictionaryOf : String → Dictionary)
    (loaded : load files path = .ok source)
    (found
      : ∀ language ∈ languages,
          languageKeys files (languageFile path translations language) =
            .ok (dictionaryOf language).leafKeys)
    (json : Bool)
    : (runCoverage files path languages translations true json).code = 0 ↔
      ∀ language ∈ languages,
        (Coverage.compare language source.leafKeys (dictionaryOf language).leafKeys).missing =
          [] := by
  rw [code_runCoverage (coverages_eq dictionaryOf loaded found)]
  simp [dataCode, Coverage.isComplete]

end

/-- The common and the missing keys add up to the source keys exactly if no key of the language is
listed twice in the source, and all source keys are common exactly if none is missing and none is
listed twice. Keys are listed once if lint calls none unreachable and no segment at the top is
empty. A strict run for the language reports these figures and succeeds exactly if no key is missing.
-/
theorem figures_add_up_iff (source d : Dictionary) (language : String)
    : let coverage := Coverage.compare language source.leafKeys d.leafKeys
      let total := source.leafKeys.length
      (coverage.translated + coverage.missing.length = total ↔
          ∀ key ∈ d.leafKeys, source.leafKeys.count key ≤ 1)
        ∧ (coverage.translated = total ↔ coverage.missing = [] ∧ source.leafKeys.Nodup)
        ∧ (source.Distinct → (∀ key, Warning.unreachable key ∉ source.lint) →
            "" ∉ source.entries.map Prod.fst → source.leafKeys.Nodup)
        ∧ ∀ files path translations json,
            load files path = .ok source →
              languageKeys files (languageFile path translations language) = .ok d.leafKeys →
                coverages files path [language] translations = .ok (total, [coverage])
                ∧ ((runCoverage files path [language] translations true json).code = 0 ↔
                    coverage.missing = []) := by
  refine ⟨Coverage.common_add_without_iff, Coverage.common_eq_length_iff, ?_, ?_⟩
  · intro distinct silent named
    have undotted := Dictionary.silent_iff_undotted.mp silent
    have once := Dictionary.nodup_leaves (d := ⟨source, distinct⟩) undotted named
    exact once.sublist source.leafKeys_sublist
  · intro files path translations json loaded keys
    have found : ∀ other ∈ [language],
        languageKeys files (languageFile path translations other) = .ok d.leafKeys := by
      simpa using keys
    have success := code_strict_eq_zero_iff (fun _ => d) loaded found json
    exact ⟨coverages_eq (fun _ => d) loaded found, success.trans (by simp)⟩

/-- The figures of a language that lacks a key and has one of its own. -/
theorem figures_add_up_nested
    : let files : Files := fun path =>
        if path = "en.json" then .ok "\x7b\"a\":\x7b\"b\":\"x\"\x7d,\"c\":\"y\"\x7d"
        else if path = "de.json" then .ok "\x7b\"c\":\"z\",\"d\":\"w\"\x7d"
        else .error .notFound
      let source : Dictionary := ⟨[("a", .nested [("b", .text "x")]), ("c", .text "y")]⟩
      let d : Dictionary := ⟨[("c", .text "z"), ("d", .text "w")]⟩
      let coverage := Coverage.compare "de" source.leafKeys d.leafKeys
      load files "en.json" = .ok source
        ∧ languageKeys files (languageFile "en.json" none "de") = .ok d.leafKeys
        ∧ coverage.translated + coverage.missing.length = source.leafKeys.length
        ∧ coverage.translated ≠ source.leafKeys.length
        ∧ (runCoverage files "en.json" ["de"] none true false).code ≠ 0 := by
  intro files source d coverage
  have loaded : load files "en.json" = .ok source := by cbv
  have file : languageFile "en.json" none "de" = "de.json" := by decide
  have keys : languageKeys files (languageFile "en.json" none "de") = .ok d.leafKeys := by
    rw [file]
    cbv
  obtain ⟨added, all, once, run⟩ := figures_add_up_iff source d "de"
  have clean : source.lint = [] := by decide
  have listed := once (by decide) (by simp [clean]) (by decide)
  have lacking : coverage.missing ≠ [] := by decide
  refine ⟨loaded, keys, added.mpr fun key _ => List.nodup_iff_count_le_one.mp listed key, ?_, ?_⟩
  · exact fun whole => lacking (all.mp whole).1
  · exact fun success => lacking ((run files "en.json" none false loaded keys).2.mp success)

/-- Two leaves of the source have one path, so a language with that path has fewer keys than the
source although it lacks none.
-/
theorem figures_of_repeated_path
    : let source : Dictionary := ⟨[("a.b", .text "x"), ("a", .nested [("b", .text "y")])]⟩
      let d : Dictionary := ⟨[("a", .nested [("b", .text "z")])]⟩
      let coverage := Coverage.compare "de" source.leafKeys d.leafKeys
      coverage.translated = 1 ∧ coverage.missing = [] ∧ source.leafKeys.length = 2 := by
  exact ⟨by decide, by decide, by decide⟩

end Command

end Phrasebook
