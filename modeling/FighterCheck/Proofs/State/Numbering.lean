import FighterCheck.Proofs.State.Blocks
import FighterCheck.Proofs.Text.Numerals

/-!
# Numbers in headers

The two kinds of headers are read in different ways. The number of a definition ends at a plain space or a
comma, and blanks before it are passed over together with those between it and that end; the number of a
state block stands behind the first plain space and may have any blanks around it, up to a comma. What is left
is read in the same way, so both find the number that the numeral stands for, however it is written.

For definitions the headers of a number are said completely (`DefinesNumber`), so that there is no other way
to write one. A block whose header repeats a number (`RepeatsNumber`) agrees with a definition of the same
number whether or not the two numerals are the same.
-/

namespace FighterCheck.State

open Ini (Document Section)
open Schema (Catalog)
open Text (AllBlank IsNumeral isBlank readInt32 trim trimStart)

variable {c : Catalog} {file : FileContext} {name numeral rest : List Char} {n : Int32} {v : Int}

/-! ## Definitions -/

/-- **The header of a definition of a number**: the keyword, blanks or none, a numeral, blanks other than
the plain space or none, and then the end, or a plain space or comma and anything behind it. -/
inductive DefinesNumber : List Char → Int → Prop
  /-- its parts, in order -/
  | intro {blanks numeral more tail : List Char} {v : Int} (hblanks : AllBlank blanks)
    (hnumeral : IsNumeral numeral v) (hmore : AllBlank more) (hspace : ' ' ∉ more)
    (htail : ∀ x ∈ tail.head?, x = ' ' ∨ x = ',') :
    DefinesNumber (statedefKeyword ++ (blanks ++ (numeral ++ (more ++ tail)))) v

/-- The character belongs to what is written before the end of the number of a definition. -/
def isBeforeEnd (x : Char) : Bool := x ≠ ' ' && x ≠ ','

theorem all_isBeforeEnd_iff {cs : List Char} :
    cs.all isBeforeEnd = true ↔ ' ' ∉ cs ∧ ',' ∉ cs := by
  rw [← Text.all_ne_iff, ← Text.all_ne_iff, List.all_eq_true, List.all_eq_true, List.all_eq_true,
    ← forall₂_and]
  simp only [isBeforeEnd, Bool.and_eq_true]

theorem rawStatedefId_eq (rest : List Char) :
    rawStatedefId rest = trim ((trimStart rest).takeWhile isBeforeEnd) := rfl

theorem trimStart_numeral_append (h : IsNumeral numeral v) (rest : List Char) :
    trimStart (numeral ++ rest) = numeral ++ rest := by
  rw [Text.trimStart_eq_self_iff]
  obtain ⟨x, xs, rfl⟩ := List.exists_cons_of_ne_nil h.ne_nil
  exact h.trimmed.head

/-- **What is written for a number, as a numeral.** Between the blanks that are passed over and the end of
the number, only blanks can stand beside the numeral. -/
theorem rawStatedefId_eq_numeral_iff (h : IsNumeral numeral v) :
    rawStatedefId rest = numeral ↔ ∃ blanks more tail, AllBlank blanks ∧ AllBlank more ∧
      ' ' ∉ more ∧ (∀ x ∈ tail.head?, x = ' ' ∨ x = ',') ∧
      rest = blanks ++ (numeral ++ (more ++ tail)) := by
  rw [rawStatedefId_eq]
  constructor
  · intro hraw
    obtain ⟨blanks, hblanks, hrest⟩ := Text.exists_allBlank_trimStart rest
    obtain ⟨_, front, more, hfront, hmore, hwritten⟩ := Text.trim_eq_iff.mp hraw
    have hsplit := List.takeWhile_append_dropWhile (p := isBeforeEnd) (l := trimStart rest)
    -- what is written begins with no blank, since these have been passed over
    obtain rfl : front = [] := by
      cases front with
      | nil => rfl
      | cons x front =>
        have hx := Text.head_trimStart rest x (by rw [← hsplit, hwritten]; rfl)
        rw [hfront x List.mem_cons_self] at hx
        exact Bool.noConfusion hx
    refine ⟨blanks, more, (trimStart rest).dropWhile isBeforeEnd, hblanks, hmore, fun hspace => ?_,
      fun x hx => ?_, ?_⟩
    · have hmem : ' ' ∈ (trimStart rest).takeWhile isBeforeEnd :=
        hwritten ▸ List.mem_append_right _ hspace
      exact (all_isBeforeEnd_iff.mp List.all_takeWhile).1 hmem
    · have hend := Text.head?_dropWhile_eq_false isBeforeEnd _ x hx
      rw [isBeforeEnd, Bool.and_eq_false_iff] at hend
      simpa using hend
    · rw [← List.append_assoc numeral, ← List.nil_append (numeral ++ more), ← List.append_assoc [],
        ← hwritten, hsplit]
      exact hrest
  · rintro ⟨blanks, more, tail, hblanks, hmore, hspace, htail, rfl⟩
    have hbefore : (numeral ++ more).all isBeforeEnd = true := by
      rw [all_isBeforeEnd_iff, List.mem_append, List.mem_append, not_or, not_or]
      exact ⟨⟨h.space_notMem, hspace⟩, h.comma_notMem, hmore.notMem (by decide)⟩
    have hend : ∀ x ∈ tail.head?, isBeforeEnd x = false := by
      intro x hx
      rcases htail x hx with rfl | rfl
      · decide
      · decide
    rw [Text.trimStart_append_of_allBlank hblanks, trimStart_numeral_append h, ← List.append_assoc,
      Text.takeWhile_append_of_breaks hbefore hend, Text.trim_append_of_allBlank hmore,
      Text.trim_eq_self_iff.mpr h.trimmed]

/-- **A header defines a number if and only if what is written behind its keyword is a numeral of it.** -/
theorem definesNumber_iff :
    DefinesNumber name v ↔
      ∃ rest, name = statedefKeyword ++ rest ∧ IsNumeral (rawStatedefId rest) v := by
  constructor
  · rintro ⟨hblanks, hnumeral, hmore, hspace, htail⟩
    refine ⟨_, rfl, ?_⟩
    rw [(rawStatedefId_eq_numeral_iff hnumeral).mpr ⟨_, _, _, hblanks, hmore, hspace, htail, rfl⟩]
    exact hnumeral
  · rintro ⟨rest, rfl, hnumeral⟩
    obtain ⟨blanks, more, tail, hblanks, hmore, hspace, htail, hrest⟩ :=
      (rawStatedefId_eq_numeral_iff hnumeral).mp rfl
    have hname := DefinesNumber.intro hblanks hnumeral hmore hspace htail
    rwa [← hrest] at hname

/-- **The number of a definition is read exactly.** -/
theorem exists_statedef_some_iff {name : String} :
    (∃ h, SectionKind.ofName name = .statedef h ∧ h.id = some n) ↔
      DefinesNumber name.toList n.toInt := by
  simp only [ofName_eq_statedef_iff, definesNumber_iff, ← Text.readInt32_eq_some_iff]
  constructor
  · rintro ⟨_, ⟨rest, hname, rfl⟩, hid⟩
    exact ⟨rest, hname, hid⟩
  · rintro ⟨rest, hname, hid⟩
    exact ⟨_, ⟨rest, hname, rfl⟩, hid⟩

/-- A number that does not fit in 32 bits is none. -/
theorem exists_statedef_none {name : String} (h : DefinesNumber name.toList v)
    (hrange : v < -2 ^ 31 ∨ 2 ^ 31 ≤ v) :
    ∃ h, SectionKind.ofName name = .statedef h ∧ h.id = none := by
  obtain ⟨rest, hname, hnumeral⟩ := definesNumber_iff.mp h
  exact ⟨_, ofName_eq_statedef_iff.mpr ⟨rest, hname, rfl⟩, Text.readInt32_eq_none hnumeral hrange⟩

/-! ## State blocks -/

/-- **The header of a state block that repeats a number**: the keyword, a plain space, blanks or none, a
numeral, blanks or none, and then the end, or a comma and anything behind it. -/
inductive RepeatsNumber : List Char → Int → Prop
  /-- its parts, in order -/
  | intro {blanks numeral more tail : List Char} {v : Int} (hblanks : AllBlank blanks)
    (hnumeral : IsNumeral numeral v) (hmore : AllBlank more) (htail : ∀ x ∈ tail.head?, x = ',') :
    RepeatsNumber (stateKeyword ++ ' ' :: (blanks ++ (numeral ++ (more ++ tail)))) v

theorem stateNumber_of_numeral {blanks more tail : List Char} (hblanks : AllBlank blanks)
    (h : IsNumeral numeral n.toInt) (hmore : AllBlank more) (htail : ∀ x ∈ tail.head?, x = ',') :
    stateNumber (blanks ++ (numeral ++ (more ++ tail))) = .number n := by
  have hbefore : (blanks ++ numeral ++ more).all (fun x => decide (x ≠ ',')) = true := by
    simp only [Text.all_ne_iff, List.mem_append, not_or]
    exact ⟨⟨hblanks.notMem (by decide), h.comma_notMem⟩, hmore.notMem (by decide)⟩
  have hraw : trim ((blanks ++ (numeral ++ (more ++ tail))).takeWhile fun x => decide (x ≠ ',')) =
      numeral := by
    rw [← List.append_assoc, ← List.append_assoc,
      Text.takeWhile_append_of_breaks hbefore fun x hx => by simp [htail x hx],
      Text.trim_append_of_allBlank hmore, Text.trim_allBlank_append hblanks,
      Text.trim_eq_self_iff.mpr h.trimmed]
  unfold stateNumber
  rw [hraw]
  simp only [h.ne_nil, if_false, Text.readInt32_eq_some_iff.mpr h]

/-- **The number that the header of a state block repeats is read**, and there is a space in it. -/
theorem ofName_of_repeatsNumber {name : String} (h : RepeatsNumber name.toList n.toInt) :
    SectionKind.ofName name = .state ⟨.number n, true⟩ := by
  generalize hname : name.toList = cs at h
  obtain ⟨hblanks, hnumeral, hmore, htail⟩ := h
  have hdef : ¬ statedefKeyword <+: name.toList := by
    intro hprefix
    have hblock : stateKeyword ++ [' '] <+: name.toList := by
      rw [hname, List.append_cons]
      exact List.prefix_append _ _
    -- the sixth character would have to be both the space and the letter after `state`
    exact absurd (List.prefix_of_prefix_length_le hblock hprefix (by decide)) (by decide)
  rw [ofName_of_stateKeyword (hname ▸ List.prefix_append _ _) hdef, hname, stateHeader,
    Text.cut_sign_append (by decide)]
  exact congrArg (fun k => SectionKind.state ⟨k, true⟩)
    (stateNumber_of_numeral hblanks hnumeral hmore htail)

/-! ## Both -/

/-- Where the number is that of the definition, nothing is noted on it. -/
theorem not_misnumbered_self (n : Int32) : ¬ Misnumbered (.number n) (some n) := by
  rw [misnumbered_number_iff]
  rintro ⟨k, hk, hne⟩
  exact hne (Option.some.inj hk)

/-- Only the number is worth a note. -/
theorem severity_ne_debug_of_mem_stateFindings {s : Section} {h : StateHeader} {d : Definition}
    (hnumber : ¬ Misnumbered h.number d.id) :
    ∀ x ∈ stateFindings c file s h d, x.severity ≠ .debug := by
  intro x hx
  rw [stateFindings, numberingFindings_eq, if_neg hnumber, separatorFindings_eq, typeFindings_eq] at hx
  simp only [List.nil_append, List.mem_append] at hx
  rcases hx with (hx | hx) | hx
  · split at hx
    · exact absurd hx List.not_mem_nil
    · rw [List.mem_singleton.mp hx]
      exact Severity.noConfusion
  · split at hx
    · rw [List.mem_singleton.mp hx]
      exact Severity.noConfusion
    · exact absurd hx List.not_mem_nil
  · obtain ⟨e, _, rfl⟩ := List.mem_map.mp hx
    exact Severity.noConfusion

/-- **The numbers in headers are read exactly.** A header is one of a definition with a number if and only
if it defines that number; one that defines a number outside 32 bits is one of a definition without any.
A header that repeats a number of 32 bits is one of a state block with it and with a separator. So if the
nearest definition before a state block defines the number that the block repeats, then, whatever numerals
the two have, a check of the file, with any owners and any report to begin with, notes nothing on the number
of the block. -/
theorem numbers_in_headers_are_read_exactly :
    (∀ (name : String) (n : Int32), (∃ h, SectionKind.ofName name = .statedef h ∧ h.id = some n) ↔
      DefinesNumber name.toList n.toInt) ∧
    (∀ (name : String) (v : Int), DefinesNumber name.toList v → v < -2 ^ 31 ∨ 2 ^ 31 ≤ v →
      ∃ h, SectionKind.ofName name = .statedef h ∧ h.id = none) ∧
    (∀ (name : String) (n : Int32), RepeatsNumber name.toList n.toInt →
      SectionKind.ofName name = .state ⟨.number n, true⟩) ∧
    ∀ (c : Catalog) (file : FileContext) (l : Ledger) (far : List Section) (q : Section)
      (near : List Section) (s : Section) (post : List Section) (n : Int32),
      DefinesNumber q.name.toList n.toInt → (∀ r ∈ near, definition? r = none) →
      RepeatsNumber s.name.toList n.toInt →
      ∃ ds later,
        (l.check c (file, ⟨far ++ q :: near ++ s :: post⟩)).report.diagnostics =
          l.report.diagnostics ++ (validate c file l.owners ⟨far ++ q :: near⟩).findings ++ ds ++ later ∧
        (validate c file l.owners ⟨far ++ q :: near ++ [s]⟩).findings =
          (validate c file l.owners ⟨far ++ q :: near⟩).findings ++ ds ∧
        ∀ x ∈ ds, x.severity ≠ .debug ∧ ∀ k d, x ≠ numberingFinding file s k d := by
  refine ⟨fun name n => exists_statedef_some_iff, fun name v => exists_statedef_none,
    fun name n => ofName_of_repeatsNumber, fun c file l far q near s post n hq hnear hs => ?_⟩
  obtain ⟨h, hdefinition, hid⟩ := exists_statedef_some_iff.mpr hq
  have henclosing : ((Scan.start l.owners).run c file (far ++ q :: near)).enclosing =
      some ⟨h.id, h.rawId⟩ := by
    rw [enclosing_run_start, lastDefinition?_of_nearest far _ hnear]
    rw [definition?, hdefinition]
  obtain ⟨later, hlater⟩ := exists_report_check_middle c file l (far ++ q :: near) s post
  refine ⟨_, later, hlater, findings_validate_append_singleton l.owners _ s, fun x hx => ?_⟩
  rw [Scan.found_of_state _ (ofName_of_repeatsNumber hs) henclosing] at hx
  have hdebug : x.severity ≠ .debug :=
    severity_ne_debug_of_mem_stateFindings (hid ▸ not_misnumbered_self n) x hx
  refine ⟨hdebug, ?_⟩
  rintro k d rfl
  exact hdebug rfl

/-- A block `200` in a definition `+0200`, with blanks of several kinds and a section of another use between
them, agrees with it; and the numbers next to the lower and the upper end of what fits are read and not
read. -/
theorem numbers_agree_however_written :
    (∃ ds later,
      (Ledger.empty.check noRules (⟨"st", false⟩,
        ⟨[] ++ ⟨"statedef\t+0200\t, x", 0, []⟩ :: [⟨"data", 1, []⟩] ++
          ⟨"state  200\t, a", 2, []⟩ :: []⟩)).report.diagnostics =
        [] ++ (validate noRules ⟨"st", false⟩ .empty
          ⟨[] ++ ⟨"statedef\t+0200\t, x", 0, []⟩ :: [⟨"data", 1, []⟩]⟩).findings ++ ds ++ later ∧
      ∀ x ∈ ds, x.severity ≠ .debug) ∧
    (∃ h, SectionKind.ofName "statedef-02147483648 " = .statedef h ∧ h.id = some (-2147483648)) ∧
    (∃ h, SectionKind.ofName "statedef 2147483648" = .statedef h ∧ h.id = none) ∧
    SectionKind.ofName "state -2147483648" = .state ⟨.number (-2147483648), true⟩ := by
  obtain ⟨hdefinition, hbeyond, hblock, hagree⟩ := numbers_in_headers_are_read_exactly
  have hvalue : (-2147483648 : Int32).toInt = -2147483648 := by decide
  have hrepeats : RepeatsNumber "state  200\t, a".toList (200 : Int32).toInt :=
    @RepeatsNumber.intro [' '] ['2', '0', '0'] ['\t'] [',', ' ', 'a'] 200 (by decide) (by decide)
      (by decide) fun x hx => (Option.some.inj hx).symm
  have hlowest : RepeatsNumber "state -2147483648".toList (-2147483648 : Int32).toInt := by
    rw [hvalue]
    exact @RepeatsNumber.intro [] "-2147483648".toList [] [] (-2147483648) (by decide) (by decide)
      (by decide) nofun
  have hdefines : DefinesNumber "statedef\t+0200\t, x".toList (200 : Int32).toInt :=
    (hdefinition _ 200).mp ⟨⟨"+0200", some 200⟩, by decide, rfl⟩
  have hlow : DefinesNumber "statedef-02147483648 ".toList (-2147483648 : Int32).toInt := by
    rw [hvalue]
    exact @DefinesNumber.intro [] "-02147483648".toList [] [' '] (-2147483648) (by decide) (by decide)
      (by decide) (by decide) fun x hx => Or.inl (Option.some.inj hx).symm
  have hhigh : DefinesNumber "statedef 2147483648".toList 2147483648 :=
    @DefinesNumber.intro [' '] "2147483648".toList [] [] 2147483648 (by decide) (by decide) (by decide)
      (by decide) nofun
  obtain ⟨ds, later, hreport, _, hnotes⟩ := hagree noRules ⟨"st", false⟩ .empty []
    ⟨"statedef\t+0200\t, x", 0, []⟩ [⟨"data", 1, []⟩] ⟨"state  200\t, a", 2, []⟩ [] 200 hdefines
    (by decide) hrepeats
  exact ⟨⟨ds, later, hreport, fun x hx => (hnotes x hx).1⟩, (hdefinition _ _).mpr hlow,
    hbeyond _ _ hhigh (by decide), hblock _ _ hlowest⟩

end FighterCheck.State
