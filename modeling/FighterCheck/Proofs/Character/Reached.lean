import FighterCheck.Character.Basic
import FighterCheck.Proofs.Failure
import Mathlib.Data.List.Nodup

/-!
# Characters that come about

A character comes from a definition that is loaded, and every check that ends replaces its results and
nothing else. Whatever the definition, the files that a check reads bear keys of the list `checkedKeys`,
in its order and each at most once (`Reached.keys_sublist`), as state files are sought by their keys
one after another. Hence a key leads back to the file that bears it (`Reached.stateFile?_key`), although
keys are compared without regard to case there.
-/

namespace FighterCheck.Character

open Files (Tree)
open Ini (Document SourceFile)
open Schema (Catalog)
open State (FileContext)

/-! ## The files of a character -/

/-- The files that a check reads, in order. -/
def files (p : Character) : List SourceFile := p.stateFiles ++ [p.common]

/-- The keys that these files can have, in order. -/
def checkedKeys : List String := stateKeys ++ [commonKey]

theorem map_fst_checked (p : Character) : p.checked.map Prod.fst = p.files := by
  rw [checked, files, List.map_append, List.map_map]
  congr 1
  exact List.map_id _

/-- Findings name a file by its key. -/
theorem key_of_mem_checked {p : Character} {x : SourceFile × FileContext} (h : x ∈ p.checked) :
    x.2.key = x.1.key := by
  rcases List.mem_append.mp h with h | h
  · obtain ⟨f, _, rfl⟩ := List.mem_map.mp h
    rfl
  · rw [List.mem_singleton.mp h]

theorem nodup_checkedKeys : checkedKeys.Nodup := by decide

/-- **No two of the keys differ in case alone.** -/
theorem eq_of_sameAscii :
    ∀ j ∈ checkedKeys, ∀ k ∈ checkedKeys, Text.sameAscii j k = true → j = k := by decide

/-! ## Loading -/

theorem stateFilesOf_of_ofDocument {t : Tree} {resources : Resources.Location} {path : String}
    {d : Document} {p : Character} (h : ofDocument t resources path d = .ok p) :
    p.stateFiles = stateFilesOf d (Files.parent path) ∧ p.common.key = commonKey := by
  obtain ⟨info, _, h⟩ := eq_ok_of_bind h
  rw [← Except.ok.inj h]
  exact ⟨rfl, rfl⟩

/-- **State files are declared in the order of their keys**, whatever their order in the definition. -/
theorem keys_stateFilesOf_sublist (d : Document) (base : String) :
    ((stateFilesOf d base).map SourceFile.key).Sublist stateKeys := by
  unfold stateFilesOf
  induction stateKeys with
  | nil => exact .slnil
  | cons k ks ih =>
    rw [List.filterMap_cons]
    cases declared? d base k with
    | none => exact ih.cons k
    | some path => exact ih.cons_cons k

/-! ## The characters -/

/-- The character has come about by loading and checking. -/
inductive Reached : Character → Prop
  /-- a definition has been loaded -/
  | loaded {t : Tree} {resources : Resources.Location} {path : String} {p : Character}
      (h : load t resources path = .ok p) : Reached p
  /-- a check has ended -/
  | checked {t : Tree} {c : Catalog} {p q : Character} (hp : Reached p)
      (h : p.validate t c = .ok q) : Reached q

/-- **A check that ends replaces the results and nothing else.** -/
theorem exists_run_of_validate {t : Tree} {c : Catalog} {p q : Character}
    (h : p.validate t c = .ok q) :
    ∃ r, Results.empty.run t c p.checked = .ok r ∧ q = { p with results := r } := by
  unfold validate at h
  split at h
  · next r hr => exact ⟨r, hr, (Except.ok.inj h).symm⟩
  · exact nomatch h

theorem Reached.stateFiles_and_common {p : Character} (hp : Reached p) :
    (∃ d base, p.stateFiles = stateFilesOf d base) ∧ p.common.key = commonKey := by
  induction hp with
  | loaded h =>
    obtain ⟨d, _, h⟩ := eq_ok_of_bind h
    obtain ⟨hstates, hcommon⟩ := stateFilesOf_of_ofDocument h
    exact ⟨⟨d, _, hstates⟩, hcommon⟩
  | checked _ h ih =>
    obtain ⟨r, _, rfl⟩ := exists_run_of_validate h
    exact ih

/-- **The files stand in the order of their keys, one at most for each.** -/
theorem Reached.keys_sublist {p : Character} (hp : Reached p) :
    (p.files.map SourceFile.key).Sublist checkedKeys := by
  obtain ⟨⟨d, base, hstates⟩, hcommon⟩ := hp.stateFiles_and_common
  rw [files, List.map_append, List.map_singleton, hstates, hcommon]
  exact (keys_stateFilesOf_sublist d base).append (List.Sublist.refl _)

theorem Reached.nodup_keys {p : Character} (hp : Reached p) :
    (p.files.map SourceFile.key).Nodup := hp.keys_sublist.nodup nodup_checkedKeys

theorem Reached.key_mem {p : Character} (hp : Reached p) {f : SourceFile} (hf : f ∈ p.files) :
    f.key ∈ checkedKeys := hp.keys_sublist.subset (List.mem_map_of_mem hf)

/-- Files of the same key, but for case, are the same. -/
theorem Reached.eq_of_sameAscii_key {p : Character} (hp : Reached p) {f g : SourceFile}
    (hf : f ∈ p.files) (hg : g ∈ p.files) (h : Text.sameAscii f.key g.key = true) : f = g :=
  List.inj_on_of_nodup_map hp.nodup_keys hf hg (eq_of_sameAscii _ (hp.key_mem hf) _ (hp.key_mem hg) h)

/-- **A key leads to the file that bears it.** -/
theorem Reached.stateFile?_key {p : Character} (hp : Reached p) {f : SourceFile}
    (hf : f ∈ p.files) : p.stateFile? f.key = some f := by
  have hcommon : p.common ∈ p.files := List.mem_append_right _ (List.mem_singleton_self _)
  rw [stateFile?, ← hp.stateFiles_and_common.2]
  -- the common file is sought before all others, and no state file has its key
  by_cases h : Text.sameAscii f.key p.common.key = true
  · rw [if_pos h, hp.eq_of_sameAscii_key hf hcommon h]
  · rw [if_neg h]
    have hstate : f ∈ p.stateFiles := by
      refine (List.mem_append.mp hf).resolve_right fun hmem => h ?_
      rw [List.mem_singleton.mp hmem, Text.sameAscii_refl]
    cases hfind : p.stateFiles.find? fun g => Text.sameAscii g.key f.key with
    | none =>
      have hself := List.find?_eq_none.mp hfind f hstate
      exact absurd (Text.sameAscii_refl f.key) hself
    | some g =>
      have hg : g ∈ p.files := List.mem_append_left _ (List.mem_of_find?_eq_some hfind)
      have hkey := List.find?_some hfind
      rw [hp.eq_of_sameAscii_key hg hf hkey]

end FighterCheck.Character
