import FighterCheck.Proofs.Character.Reached
import FighterCheck.Proofs.Ini.WellFormed
import FighterCheck.Proofs.State.Scan

/-!
# Where definitions stand

The place of a definition is put together from three things: the file that owns the number, by the
owners; the position in it, by the index of that file; and the path of the file, by its key. Each of
them comes about in its own way, and any of them could be missing.

What holds them together is `Results.Tracks`, a condition on the results after some files: the owner of
a number is the first of these files that declares it, and the index of each file leads to its first
section that does so. One more file keeps the condition (`Results.Tracks.step`), provided that its key
is new, so that its index takes the place of no other; therefore a whole check ends with it
(`Results.Tracks.run`). As keys are new in every check (`Reached.nodup_keys`), nothing is missing where a
number has an owner.
-/

namespace FighterCheck.Character

open Files (Tree)
open Ini (Document Section SourceFile)
open Schema (Catalog)
open State (FileContext declaration?)

variable {t : Tree} {c : Catalog} {id : Int32} {f : SourceFile}

/-! ## The files that declare a number -/

/-- The first section of a file that declares a number, if the file can be read. -/
def declarationIn? (t : Tree) (id : Int32) (f : SourceFile) : Option Section :=
  match f.parse t with
  | .ok d => declaration? id d.sections
  | .error _ => none

/-- The file can be read, and some section of it declares the number. -/
def DeclaredIn (t : Tree) (id : Int32) (f : SourceFile) : Prop :=
  ∃ d, f.parse t = .ok d ∧ ∃ s ∈ d.sections, State.declared? s = some id

theorem declarationIn?_of_ok {d : Document} (h : f.parse t = .ok d) :
    declarationIn? t id f = declaration? id d.sections := by
  rw [declarationIn?, h]

theorem declarationIn?_of_error {e : Ini.Error} (h : f.parse t = .error e) :
    declarationIn? t id f = none := by
  rw [declarationIn?, h]

theorem isSome_declarationIn?_iff : (declarationIn? t id f).isSome ↔ DeclaredIn t id f := by
  unfold DeclaredIn
  cases h : f.parse t with
  | error e =>
    rw [declarationIn?_of_error h]
    exact ⟨fun hsome => Bool.noConfusion hsome, fun ⟨_, hd, _⟩ => (nomatch hd)⟩
  | ok d =>
    rw [declarationIn?_of_ok h, State.isSome_declaration?_iff]
    exact ⟨fun hs => ⟨d, rfl, hs⟩, fun ⟨_, hd, hs⟩ => Except.ok.inj hd ▸ hs⟩

/-- The first of some files that declares a number. -/
def declaringFile? (t : Tree) (id : Int32) (fs : List SourceFile) : Option SourceFile :=
  fs.find? fun f => (declarationIn? t id f).isSome

theorem declaringFile?_append_singleton (fs : List SourceFile) :
    declaringFile? t id (fs ++ [f]) =
      (declaringFile? t id fs).or ((declarationIn? t id f).map fun _ => f) := by
  rw [declaringFile?, List.find?_append, List.find?_singleton, declaringFile?]
  cases declarationIn? t id f with
  | none => rfl
  | some s => rfl

/-! ## Sections and their positions -/

/-- Every document that a file holds can be read again from what is written for it. -/
theorem wellFormed_of_parse {d : Document} (h : f.parse t = .ok d) : d.WellFormed := by
  unfold SourceFile.parse at h
  split at h
  · next raw _ =>
    unfold SourceFile.parseText at h
    split at h
    · next d' hread =>
      rw [← Except.ok.inj h]
      exact Ini.wellFormed_of_read hread
    · exact nomatch h
  · exact nomatch h

/-- **The first section that declares a number is the one at its position, and none at a smaller one
declares the number.** -/
theorem sectionAt?_of_declaration? {d : Document} (hd : d.WellFormed) {s : Section}
    (h : declaration? id d.sections = some s) :
    d.sectionAt? s.position = some s ∧ State.declared? s = some id ∧
      ∀ i < s.position, ∀ s', d.sectionAt? i = some s' → State.declared? s' ≠ some id := by
  obtain ⟨hs, i, hi, hat, hbefore⟩ := List.find?_eq_some_iff_getElem.mp h
  have hget : d.sections[i]? = some s := by rw [List.getElem?_eq_getElem hi, hat]
  obtain rfl : s.position = i := hd.position i s hget
  refine ⟨hget, beq_iff_eq.mp hs, fun j hj s' hs' heq => ?_⟩
  have hnot := hbefore j hj
  obtain ⟨hlt, hget'⟩ := List.getElem?_eq_some_iff.mp hs'
  rw [hget', heq, beq_self_eq_true] at hnot
  exact Bool.noConfusion hnot

/-! ## What results tell of the files read -/

namespace Results

/-- The position of the first section that declares a number in the file of a key. -/
def position? (r : Results) (key : String) (id : Int32) : Option Nat :=
  (r.locators.find? key).bind (·.find? id)

/-- **The results tell of some files where each number is declared.** -/
structure Tracks (t : Tree) (fs : List SourceFile) (r : Results) : Prop where
  /-- a number is owned by the first file that declares it -/
  owner : ∀ id, r.owners.find? id = (declaringFile? t id fs).map SourceFile.key
  /-- the index of a file leads to the first section that declares a number -/
  position : ∀ f ∈ fs, ∀ id, r.position? f.key id = (declarationIn? t id f).map Section.position
  /-- no other file has an index -/
  fresh : ∀ key, key ∉ fs.map SourceFile.key → r.locators.find? key = none

theorem tracks_empty (t : Tree) : Results.empty.Tracks t [] where
  owner _ := rfl
  position _ hf := absurd hf List.not_mem_nil
  fresh _ _ := rfl

/-- A file is missing and leaves a finding, or it is read and validated. -/
theorem step_cases {r r' : Results} {file : FileContext} (h : r.step t c f file = .ok r') :
    (∃ path, f.parse t = .error (.fileNotFound path) ∧
      r' = ⟨r.owners, r.locators, r.report.append [missingFinding f path]⟩) ∨
    ∃ d, f.parse t = .ok d ∧
      r' = ⟨(State.validate c file r.owners d).owners,
        r.locators.put f.key (State.validate c file r.owners d).index,
        r.report.append (State.validate c file r.owners d).findings⟩ := by
  unfold step at h
  split at h
  · next path hparse => exact Or.inl ⟨path, hparse, (Except.ok.inj h).symm⟩
  · exact nomatch h
  · next d hparse => exact Or.inr ⟨d, hparse, (Except.ok.inj h).symm⟩

/-- **One more file is tracked as well**, if its key is new. -/
theorem Tracks.step {fs : List SourceFile} {r r' : Results} {file : FileContext}
    (hr : r.Tracks t fs) (hkey : file.key = f.key) (hnew : f.key ∉ fs.map SourceFile.key)
    (h : r.step t c f file = .ok r') : r'.Tracks t (fs ++ [f]) := by
  have hother : ∀ g ∈ fs, g.key ≠ f.key := fun g hg heq => hnew (heq ▸ List.mem_map_of_mem hg)
  rcases step_cases h with ⟨path, hparse, rfl⟩ | ⟨d, hparse, rfl⟩
  · -- a missing file declares nothing and has no index
    refine ⟨fun id => ?_, fun g hg id => ?_, fun key hnot => ?_⟩
    · rw [declaringFile?_append_singleton, declarationIn?_of_error hparse, Option.map_none,
        Option.or_none, hr.owner]
    · rcases List.mem_append.mp hg with hg | hg
      · exact hr.position g hg id
      · rw [List.mem_singleton.mp hg, declarationIn?_of_error hparse, position?, hr.fresh _ hnew]
        rfl
    · rw [List.map_append, List.mem_append, not_or] at hnot
      exact hr.fresh key hnot.1
  · -- a file that is read declares after those before it, and its index goes to a key that has none
    refine ⟨fun id => ?_, fun g hg id => ?_, fun key hnot => ?_⟩
    · show (State.validate c file r.owners d).owners.find? id = _
      rw [declaringFile?_append_singleton, declarationIn?_of_ok hparse, State.find?_owners_validate,
        hr.owner, hkey, Option.map_or, Option.map_map]
      rfl
    · unfold position?
      rcases List.mem_append.mp hg with hg | hg
      · rw [Registry.find?_put_of_ne _ _ (hother g hg)]
        exact hr.position g hg id
      · rw [List.mem_singleton.mp hg, Registry.find?_put_self, declarationIn?_of_ok hparse]
        exact State.find?_index_validate r.owners d id
    · rw [List.map_append, List.mem_append, not_or, List.map_singleton, List.mem_singleton] at hnot
      rw [Registry.find?_put_of_ne _ _ hnot.2]
      exact hr.fresh key hnot.1

/-- **Some more files are tracked as well**, if all keys differ. -/
theorem Tracks.run {fs : List SourceFile} {r r' : Results} {xs : List (SourceFile × FileContext)}
    (hr : r.Tracks t fs) (hkeys : ∀ x ∈ xs, x.2.key = x.1.key)
    (hnodup : ((fs ++ xs.map Prod.fst).map SourceFile.key).Nodup)
    (h : r.run t c xs = .ok r') : r'.Tracks t (fs ++ xs.map Prod.fst) := by
  induction xs generalizing fs r with
  | nil =>
    rw [← Except.ok.inj h, List.map_nil, List.append_nil]
    exact hr
  | cons x xs ih =>
    rw [List.map_cons, ← List.singleton_append, ← List.append_assoc] at hnodup ⊢
    unfold Results.run at h
    split at h
    · next r₁ hstep =>
      -- the file checked now moves from those to come to those tracked, and the keys stay as they are
      refine ih (hr.step (hkeys x List.mem_cons_self) ?_ hstep)
        (fun y hy => hkeys y (List.mem_cons_of_mem x hy)) hnodup h
      rw [List.map_append, List.map_append, List.append_assoc, List.map_singleton] at hnodup
      intro hmem
      exact List.disjoint_of_nodup_append hnodup hmem (List.mem_append_left _ List.mem_cons_self)
    · exact nomatch h

end Results

/-! ## The place of a definition -/

theorem locate?_eq (q : Character) (id : Int32) :
    q.locate? id = (q.results.owners.find? id).bind fun key =>
      (q.results.position? key id).bind fun position =>
        (q.stateFile? key).map fun file => ⟨key, file.path, position⟩ := by
  unfold locate? Results.position?
  cases q.results.owners.find? id with
  | none => rfl
  | some key =>
    rw [Option.bind_some, Option.bind_assoc]
    simp only [Option.map_eq_bind]
    rfl

/-- The place of the first section that declares a number in a file. -/
def placeIn? (t : Tree) (id : Int32) (f : SourceFile) : Option StatedefPlace :=
  (declarationIn? t id f).map fun s => ⟨f.key, f.path, s.position⟩

/-- **The place is that of the first declaration in the first file that has one**, provided that keys
lead to their files. -/
theorem locate?_of_tracks {q : Character} (hq : Reached q) (h : q.results.Tracks t q.files)
    (id : Int32) :
    q.locate? id = (declaringFile? t id q.files).bind (placeIn? t id) := by
  rw [locate?_eq, h.owner]
  cases hfile : declaringFile? t id q.files with
  | none => rfl
  | some f =>
    have hf : f ∈ q.files := List.mem_of_find?_eq_some hfile
    show (q.results.position? f.key id).bind _ = placeIn? t id f
    rw [h.position f hf, hq.stateFile?_key hf, placeIn?]
    cases declarationIn? t id f with
    | none => rfl
    | some s => rfl

/-- **A check that ends tracks all files**, those that are missing included. -/
theorem tracks_of_validate {p q : Character} (hp : Reached p) (h : p.validate t c = .ok q) :
    q.files = p.files ∧ q.results.Tracks t q.files := by
  obtain ⟨r, hrun, rfl⟩ := exists_run_of_validate h
  have htracks := (Results.tracks_empty t).run (fun x hx => key_of_mem_checked hx)
    (by rw [List.nil_append, map_fst_checked]; exact hp.nodup_keys) hrun
  rw [List.nil_append, map_fst_checked] at htracks
  exact ⟨rfl, htracks⟩

/-- **A definition is found where it is declared first.** After any check that ends, of any character
that has come about, a number has a place if and only if one of the files read declares it, and that is
also when it has an owner. The place names the first of these files in the order of the check, which is
the order of their keys, and in it the smallest position at which a section declares the number. -/
theorem locate?_is_first_declaration {p q : Character} (hp : Reached p)
    (hq : p.validate t c = .ok q) (id : Int32) :
    (q.files = p.files ∧ (q.files.map SourceFile.key).Sublist checkedKeys) ∧
    ((q.locate? id).isSome ↔ ∃ f ∈ q.files, DeclaredIn t id f) ∧
    q.results.owners.contains id = (q.locate? id).isSome ∧
    ∀ place, q.locate? id = some place →
      ∃ before f after d s, q.files = before ++ f :: after ∧
        (∀ g ∈ before, ¬ DeclaredIn t id g) ∧ f.parse t = .ok d ∧
        place.fileKey = f.key ∧ place.path = f.path ∧
        d.sectionAt? place.position = some s ∧ State.declared? s = some id ∧
        ∀ i < place.position, ∀ s', d.sectionAt? i = some s' → State.declared? s' ≠ some id := by
  obtain ⟨hfiles, htracks⟩ := tracks_of_validate hp hq
  have hreached : Reached q := hp.checked hq
  have hplace := locate?_of_tracks hreached htracks id
  refine ⟨⟨hfiles, hreached.keys_sublist⟩, ?_⟩
  cases hfile : declaringFile? t id q.files with
  | none =>
    -- no file declares the number, which therefore has no owner
    have hnone : q.locate? id = none := by rw [hplace, hfile, Option.bind_none]
    rw [hnone, Registry.contains, htracks.owner, hfile]
    refine ⟨⟨fun h => Bool.noConfusion h, fun ⟨f, hf, hdeclared⟩ => ?_⟩, rfl, fun _ h => nomatch h⟩
    exact absurd (isSome_declarationIn?_iff.mpr hdeclared) (List.find?_eq_none.mp hfile f hf)
  | some f =>
    obtain ⟨hsome, before, after, hsplit, hbefore⟩ := List.find?_eq_some_iff_append.mp hfile
    obtain ⟨s, hs⟩ := Option.isSome_iff_exists.mp hsome
    obtain ⟨d, hd, _⟩ := isSome_declarationIn?_iff.mp hsome
    have hlocate : q.locate? id = some ⟨f.key, f.path, s.position⟩ := by
      rw [hplace, hfile, Option.bind_some, placeIn?, hs, Option.map_some]
    rw [hlocate, Registry.contains, htracks.owner, hfile]
    refine ⟨⟨fun _ => ⟨f, ?_, isSome_declarationIn?_iff.mp hsome⟩, fun _ => rfl⟩, rfl, ?_⟩
    · rw [hsplit]
      exact List.mem_append_right _ List.mem_cons_self
    · intro place hin
      obtain rfl := Option.some.inj hin
      -- the files before were passed over, as were the sections before
      rw [declarationIn?_of_ok hd] at hs
      refine ⟨before, f, after, d, s, hsplit, fun g hg hdeclared => ?_, hd, rfl, rfl,
        sectionAt?_of_declaration? (wellFormed_of_parse hd) hs⟩
      have hnot := hbefore g hg
      rw [isSome_declarationIn?_iff.mpr hdeclared] at hnot
      exact Bool.noConfusion hnot

/-- A definition with three state files, of which the first is missing and the others both declare
`5`. -/
def rivals : Tree :=
  [("k.def", "[Files]\nst1 = b\nst = a\nstcommon = c"),
    ("b", "[Statedef x]\n[Statedef +5]\n[Statedef 5]"), ("c", "[Statedef 5]")].foldl
    (fun t file => t.putFile file.1 (Encoding.TextEncoding.plain.encode file.2.toList)) .empty

/-- The number `5` is found in the second state file, at the section that spells it `+5`. -/
theorem locate?_among_rivals :
    ∃ p q, Reached p ∧ p.validate rivals State.noRules = .ok q ∧
      q.locate? 5 = some ⟨"st1", "b", 1⟩ ∧ (∃ f ∈ q.files, DeclaredIn rivals 5 f) ∧
      ∃ before f after, q.files = before ++ f :: after ∧ f.key = "st1" ∧
        ∀ g ∈ before, ¬ DeclaredIn rivals 5 g := by
  have hresolve : (resolve rivals State.noRules ⟨"resources"⟩ "k.def").map (·.locate? 5) =
      .ok (some ⟨"st1", "b", 1⟩) := by decide +kernel
  cases h : resolve rivals State.noRules ⟨"resources"⟩ "k.def" with
  | error e =>
    rw [h] at hresolve
    exact nomatch hresolve
  | ok q =>
    rw [h] at hresolve
    have hplace : q.locate? 5 = some ⟨"st1", "b", 1⟩ := Except.ok.inj hresolve
    obtain ⟨p, hp, hq⟩ := eq_ok_of_bind h
    obtain ⟨_, hiff, _, hfirst⟩ := locate?_is_first_declaration (.loaded hp) hq 5
    obtain ⟨before, f, after, _, _, hsplit, hbefore, _, hkey, _⟩ := hfirst _ hplace
    refine ⟨p, q, .loaded hp, hq, hplace, hiff.mp ?_, before, f, after, hsplit, hkey.symm, hbefore⟩
    rw [hplace, Option.isSome_some]

end FighterCheck.Character
