import FighterCheck.Proofs.Ini.WellFormed
import FighterCheck.Proofs.State.Ledger

/-!
# A file in two parts

Of what a check keeps from one section to the next, the header of a definition replaces the enclosing
definition, whether or not its own number can be read. So from such a header on, what is found depends
on the sections before it through the map of owners alone, and a file can be cut there and checked as
two.

The proof compares two scans of the second part: the one that comes from the first part, and one that
starts with the same owners and nothing else. After the header that the part begins with they are in the
same definition (`Scan.continues_step`), and every further section keeps them so (`Scan.Continues.step`).
The positions are those of a part in the one scan and those of the whole file in the other; that concerns
only the index, which is a matter of first declarations.
-/

namespace FighterCheck.State

open Ini (Document Section)
open Schema (Catalog)

variable {c : Catalog} {file : FileContext}

/-! ## Positions -/

theorem declaration?_append (id : Int32) (as bs : List Section) :
    declaration? id (as ++ bs) = (declaration? id as).or (declaration? id bs) := List.find?_append

theorem declaration?_map_shift (id : Int32) (n : Nat) (ss : List Section) :
    declaration? id (ss.map (Section.shift n)) = (declaration? id ss).map (Section.shift n) :=
  List.find?_map

/-! ## Two scans of one part -/

namespace Scan

/-- What is found in a section depends on the owners and on the definition around it. -/
theorem found_congr {st st' : Scan} (howners : st.owners = st'.owners)
    (henclosing : st.enclosing = st'.enclosing) (s : Section) :
    st.found c file s = st'.found c file s := by
  rw [found, found, howners, henclosing]

/-- The scan is where another one is, except that `earlier` has been found before. -/
structure Continues (earlier : List Diagnostic) (st st' : Scan) : Prop where
  /-- the owners are the same -/
  owners : st.owners = st'.owners
  /-- the definition that stands last is the same -/
  enclosing : st.enclosing = st'.enclosing
  /-- what the other has found stands at the end -/
  findings : st.findings = earlier ++ st'.findings

variable {earlier : List Diagnostic} {st st' : Scan}

/-- **One more section keeps two scans at the same place.** -/
theorem Continues.step (h : Continues earlier st st') (n : Nat) (s : Section) :
    Continues earlier (st.step c file (s.shift n)) (st'.step c file s) := by
  rw [step_eq, step_eq]
  -- where the section stands matters to none of the three
  refine ⟨?_, ?_, ?_⟩
  · show recordDeclared (fun _ => file.key) st.owners s = _
    rw [h.owners]
  · show (definition? s).or st.enclosing = _
    rw [h.enclosing]
  · show st.findings ++ st.found c file s = _
    rw [h.findings, found_congr h.owners h.enclosing, List.append_assoc]

theorem Continues.run (h : Continues earlier st st') (n : Nat) (ss : List Section) :
    Continues earlier (st.run c file (ss.map (Section.shift n))) (st'.run c file ss) := by
  induction ss generalizing st st' with
  | nil => exact h
  | cons s ss ih => exact ih (h.step n s)

/-- **The header of a definition brings two scans with the same owners to the same place**, whatever
they have come from. -/
theorem continues_step {s : Section} {h : StatedefHeader}
    (hs : SectionKind.ofName s.name = .statedef h) (st : Scan) (n : Nat) :
    Continues st.findings (st.step c file (s.shift n)) ((start st.owners).step c file s) := by
  have hopens : definition? s = some ⟨h.id, h.rawId⟩ := by rw [definition?, hs]
  rw [step_eq, step_eq]
  refine ⟨rfl, ?_, ?_⟩
  · show (definition? s).or st.enclosing = (definition? s).or none
    rw [hopens, Option.some_or, Option.some_or]
  · show st.findings ++ st.found c file s = st.findings ++ ([] ++ (start st.owners).found c file s)
    rw [found_of_statedef st hs, found_of_statedef (start st.owners) hs, List.nil_append]
    rfl

end Scan

/-! ## Two files -/

/-- The document is empty, or its first section is the header of a definition. -/
def BeginsWithDefinition (d : Document) : Prop :=
  ∀ s ∈ d.sections.head?, ∃ h, SectionKind.ofName s.name = .statedef h

/-- **From the header of a definition on, a scan depends on the owners alone.** -/
theorem Scan.run_of_beginsWithDefinition {d : Document} (hd : BeginsWithDefinition d) (st : Scan)
    (n : Nat) :
    (st.run c file (d.sections.map (Section.shift n))).owners =
        (validate c file st.owners d).owners ∧
      (st.run c file (d.sections.map (Section.shift n))).findings =
        st.findings ++ (validate c file st.owners d).findings := by
  obtain ⟨sections⟩ := d
  cases sections with
  | nil => exact ⟨rfl, (List.append_nil _).symm⟩
  | cons s ss =>
    obtain ⟨h, hs⟩ := hd s rfl
    have hrest : Scan.Continues st.findings
        (st.run c file ((s :: ss).map (Section.shift n))) ((start st.owners).run c file (s :: ss)) :=
      (continues_step hs st n).run n ss
    exact ⟨hrest.owners, hrest.findings⟩

/-- **A document that goes on with a definition is checked in two parts.** -/
theorem Ledger.check_append (c : Catalog) (file : FileContext) (l : Ledger) (d₁ : Document)
    {d₂ : Document} (hd : BeginsWithDefinition d₂) :
    l.check c (file, d₁.append d₂) = (l.check c (file, d₁)).check c (file, d₂) := by
  obtain ⟨howners, hfindings⟩ := Scan.run_of_beginsWithDefinition hd
    ((Scan.start l.owners).run c file d₁.sections) d₁.sections.length
  unfold Ledger.check validate
  dsimp only [Document.append]
  rw [Scan.run_append, howners, hfindings, Report.append, Report.append, Report.append,
    List.append_assoc]
  rfl

/-- **The index of the whole** leads into the first part for the numbers declared there, and into the
second for all others. -/
theorem find?_index_append (owners owners₁ owners₂ : OwnerMap) (d₁ d₂ : Document) (id : Int32) :
    (validate c file owners (d₁.append d₂)).index.find? id =
      ((validate c file owners₁ d₁).index.find? id).or
        (((validate c file owners₂ d₂).index.find? id).map (· + d₁.sections.length)) := by
  rw [find?_index_validate, find?_index_validate, find?_index_validate, Document.append,
    declaration?_append, declaration?_map_shift, Option.map_or, Option.map_map, Option.map_map]
  rfl

/-- **Checking splits at definitions.** Let the sections of a document be followed by those of another,
numbered on, that is empty or begins with the header of a definition. To check the whole is to check the
one document and then the other as two files of the same key: the same owners result, and the same
findings in the same order. The index of the whole is that of the first document, and for numbers that it
does not have, that of the second with all positions moved by the length of the first. -/
theorem checking_splits_at_definitions (c : Catalog) (file : FileContext) (l : Ledger)
    (d₁ : Document) {d₂ : Document} (hd : BeginsWithDefinition d₂) :
    l.check c (file, d₁.append d₂) = (l.check c (file, d₁)).check c (file, d₂) ∧
    (∀ id, (validate c file l.owners (d₁.append d₂)).index.find? id =
      ((validate c file l.owners d₁).index.find? id).or
        (((validate c file (l.check c (file, d₁)).owners d₂).index.find? id).map
          (· + d₁.sections.length))) ∧
    (d₁.WellFormed → d₂.WellFormed → (d₁.append d₂).WellFormed) :=
  ⟨Ledger.check_append c file l d₁ hd, find?_index_append l.owners l.owners _ d₁ d₂,
    Document.WellFormed.append⟩

/-- A file of one definition with a block. -/
def firstPart : Document := ⟨[⟨"statedef 1", 0, []⟩, ⟨"state 1", 1, []⟩]⟩

/-- A file that begins with a definition without a number, and declares 1 again, and 2. -/
def secondPart : Document :=
  ⟨[⟨"statedef x", 0, []⟩, ⟨"state 5", 1, []⟩, ⟨"statedef 1", 2, []⟩, ⟨"statedef 2", 3, []⟩]⟩

theorem read_firstPart : Document.read "[Statedef 1]\n[State 1]" = .ok firstPart := by rfl

theorem read_secondPart :
    Document.read "[Statedef x]\n[State 5]\n[Statedef 1]\n[Statedef 2]" = .ok secondPart := by
  rfl

/-- The block after the definition without a number is not judged by the one of the first part, in the
whole as in the parts; 1 is found in the first part, and 2 four places further on than in the second. -/
theorem checking_splits_at_definition_without_number :
    (∃ l, Ledger.empty.check noRules (⟨"st", false⟩, firstPart.append secondPart) = l ∧
      (Ledger.empty.check noRules (⟨"st", false⟩, firstPart)).check noRules
        (⟨"st", false⟩, secondPart) = l ∧
      l.report.diagnostics = [
        ⟨"Statedef `statedef x` in file st has invalid statedef number \"x\"!", .warning, some "st"⟩,
        repeatFinding ⟨"st", false⟩ 1 "st"]) ∧
    (validate noRules ⟨"st", false⟩ .empty (firstPart.append secondPart)).index.find? 1 = some 0 ∧
    (validate noRules ⟨"st", false⟩ .empty (firstPart.append secondPart)).index.find? 2 =
      some (3 + 2) ∧
    (firstPart.append secondPart).WellFormed := by
  have hbegins : BeginsWithDefinition secondPart := by
    rintro s ⟨⟩
    exact ⟨⟨"x", none⟩, by decide⟩
  obtain ⟨hcheck, hindex, hwell⟩ :=
    checking_splits_at_definitions noRules ⟨"st", false⟩ .empty firstPart hbegins
  exact ⟨⟨_, hcheck, rfl, by decide +kernel⟩, (hindex 1).trans (by decide +kernel),
    (hindex 2).trans (by decide +kernel),
    hwell (Ini.wellFormed_of_read read_firstPart) (Ini.wellFormed_of_read read_secondPart)⟩

/-- A part that begins with a block is judged otherwise on its own. -/
example :
    (validate noRules ⟨"st", false⟩ .empty
      ⟨[⟨"statedef 1", 0, []⟩, ⟨"state 5", 1, []⟩]⟩).findings ≠
    (validate noRules ⟨"st", false⟩ .empty ⟨[⟨"statedef 1", 0, []⟩]⟩).findings ++
      (validate noRules ⟨"st", false⟩ .empty ⟨[⟨"state 5", 0, []⟩]⟩).findings := by
  decide

end FighterCheck.State
