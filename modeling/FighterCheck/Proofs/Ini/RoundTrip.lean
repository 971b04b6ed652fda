import FighterCheck.Ini.Printer
import FighterCheck.Proofs.Ini.WellFormed
import Mathlib.Data.List.TakeWhile

/-!
# Writing a document and reading it again

A document is written line by line: `Document.written` lists its lines, with an empty one between
sections, and the text is these lines with a line feed behind each (`toList_render`). In a document that
can be read, no line holds a line feed or ends with a carriage return, so that they are the lines that
reading finds; and each says what it was written for (`Line.read_headerLine`, `Line.read_entryLine`).
Reading is thus inverse to writing on the documents that can be read, which are all that are ever read.
-/

namespace FighterCheck.Ini

open Text (trim lower Trimmed)

/-! ## The lines written -/

/-- The line of an entry, without its end. -/
def Entry.written (e : Entry) : List Char := e.key.toList ++ [' ', '=', ' '] ++ e.value.toList

/-- The line of a header, without its end. -/
def Section.header (s : Section) : List Char := '[' :: (s.name.toList ++ [']'])

/-- The lines of a section. -/
def Section.written (s : Section) : List (List Char) := s.header :: s.entries.map Entry.written

/-- The lines of some sections, with an empty line before each but the first. -/
def written : List Section → List (List Char)
  | [] => []
  | [s] => s.written
  | s :: ss => s.written ++ [] :: written ss

theorem toList_render_entry (e : Entry) : e.render.toList = e.written ++ ['\n'] := by
  rw [Entry.render, Entry.written]
  simp [String.toList_append]

theorem toList_render_section (s : Section) :
    s.render.toList = s.written.flatMap (· ++ ['\n']) := by
  rw [Section.render, Section.written, List.flatMap_cons, String.toList_append, String.toList_join,
    List.flatMap_map, List.flatMap_map]
  have hentries : (s.entries.flatMap fun e => e.render.toList) =
      s.entries.flatMap fun e => e.written ++ ['\n'] := by
    simp only [toList_render_entry]
  rw [hentries, Section.header]
  simp [String.toList_append]

/-- **The text of a document is its lines, with a line feed behind each.** -/
theorem toList_render (d : Document) :
    d.render.toList = (written d.sections).flatMap (· ++ ['\n']) := by
  rw [Document.render, String.toList_intercalate]
  generalize d.sections = ss
  fun_induction written ss with
  | case1 => rfl
  | case2 s => simp [toList_render_section]
  | case3 s ss hss ih =>
    cases ss with
    | nil => exact (hss rfl).elim
    | cons t ts =>
      rw [List.flatMap_append, List.flatMap_cons, ← ih, List.map_cons, List.map_cons, List.map_cons,
        List.map_cons, List.intercalate_cons_cons, toList_render_section]
      simp

/-! ## What the lines say -/

theorem Line.read_nil : Line.read [] = .nothing := rfl

/-- **The line of a header says its name.** -/
theorem Line.read_headerLine {s : Section} (h : s.WellFormed) :
    Line.read s.header = .header s.name := by
  have htrimmed : Trimmed s.header := by
    refine ⟨fun c hc => ?_, fun c hc => ?_⟩
    · rw [← Option.some.inj hc]
      decide
    · rw [Section.header, ← List.cons_append, List.getLast?_concat] at hc
      rw [← Option.some.inj hc]
      decide
  have hcut : Text.cut (· = ']') (s.name.toList ++ [']']) = some (s.name.toList, ']', []) :=
    Text.cut_sign_append (fun hmem => (h.name_signs ']' hmem).1 rfl) []
  unfold Line.read
  rw [Text.trim_eq_self_iff.mpr htrimmed, Section.header]
  show Line.ofHeader (s.name.toList ++ [']']) = _
  rw [Line.ofHeader, hcut]
  show Line.header (Text.lowercase s.name) = _
  rw [h.name_lower]

theorem Entry.WellFormed.key_toList_ne {e : Entry} (h : e.WellFormed) : e.key.toList ≠ [] :=
  fun hnil => h.key_ne (String.toList_eq_nil_iff.mp hnil)

theorem Entry.WellFormed.value_toList_ne {e : Entry} (h : e.WellFormed) : e.value.toList ≠ [] :=
  fun hnil => h.value_ne (String.toList_eq_nil_iff.mp hnil)

theorem Entry.WellFormed.trimmed_written {e : Entry} (h : e.WellFormed) : Trimmed e.written :=
  (Text.trimmed_eq_self_iff.mp h.key_trimmed).append (Text.trimmed_eq_self_iff.mp h.value_trimmed)
    h.key_toList_ne h.value_toList_ne _

theorem Entry.WellFormed.head?_written {e : Entry} (h : e.WellFormed) :
    e.written.head? ≠ some '[' := by
  have hhead := h.key_head
  unfold Entry.written
  cases hkey : e.key.toList with
  | nil => exact absurd hkey h.key_toList_ne
  | cons k ks => rwa [hkey] at hhead

/-- The line of an entry is cut behind the key. -/
theorem Entry.WellFormed.cut_written {e : Entry} (h : e.WellFormed) :
    Text.cut (fun c => c = '=' || c = ';') e.written =
      some (e.key.toList ++ [' '], '=', ' ' :: e.value.toList) := by
  have hsplit : e.written = (e.key.toList ++ [' ']) ++ '=' :: ' ' :: e.value.toList := by
    simp [Entry.written]
  rw [hsplit]
  refine Text.cut_append (fun c hc => ?_) (by decide)
  rcases List.mem_append.mp hc with hc | hc
  · obtain ⟨heq, hsemi, _⟩ := h.key_signs c hc
    simp [heq, hsemi]
  · rw [List.mem_singleton.mp hc]
    decide

/-- **The line of an entry says the entry.** -/
theorem Line.read_entryLine {e : Entry} (h : e.WellFormed) : Line.read e.written = .entry e := by
  have htrim : trim e.written = e.written := Text.trim_eq_self_iff.mpr h.trimmed_written
  have hkey : trim (e.key.toList ++ [' ']) = e.key.toList := by
    rw [Text.trim_append_of_isBlank (by decide), Text.trim_eq_self_iff]
    exact Text.trimmed_eq_self_iff.mp h.key_trimmed
  have hvalue : trim (Line.beforeComment (' ' :: e.value.toList)) = e.value.toList := by
    have hall : ∀ c ∈ ' ' :: e.value.toList, decide (c ≠ ';') = true := by
      intro c hc
      rcases List.mem_cons.mp hc with rfl | hc
      · decide
      · exact decide_eq_true (h.value_signs c hc).1
    rw [Line.beforeComment, List.takeWhile_eq_self_iff.mpr hall,
      Text.trim_cons_of_isBlank (by decide), Text.trim_eq_self_iff]
    exact Text.trimmed_eq_self_iff.mp h.value_trimmed
  rw [Line.read_of_head?_ne (htrim.symm ▸ h.head?_written), htrim,
    Line.ofBody_of_cut h.cut_written (hkey.symm ▸ h.key_toList_ne)
      (hvalue.symm ▸ h.value_toList_ne), hkey, hvalue, String.ofList_toList]
  show Line.entry ⟨Text.lowercase e.key, e.value⟩ = _
  rw [h.key_lower]

theorem map_read_written {s : Section} (h : s.WellFormed) :
    s.written.map Line.read = .header s.name :: s.entries.map Line.entry := by
  rw [Section.written, List.map_cons, Line.read_headerLine h, List.map_map]
  congr 1
  exact List.map_congr_left fun e he => Line.read_entryLine (h.entries e he)

/-! ## Reading the lines -/

/-- A line written ends nowhere but at its end. -/
theorem clean_of_mem_written {s : Section} (h : s.WellFormed) {l : List Char} (hl : l ∈ s.written) :
    '\n' ∉ l ∧ l.getLast? ≠ some '\r' := by
  -- a header ends with a bracket, and an entry with what its value ends with, which is no blank
  rcases List.mem_cons.mp hl with rfl | hl
  · refine ⟨fun hn => ?_, fun hr => ?_⟩
    · simp only [Section.header, List.mem_cons, List.mem_append, List.not_mem_nil, or_false,
        Char.reduceEq, false_or] at hn
      exact (h.name_signs _ hn).2 rfl
    · rw [Section.header, ← List.cons_append, List.getLast?_concat] at hr
      exact absurd (Option.some.inj hr) (by decide)
  · obtain ⟨e, he, rfl⟩ := List.mem_map.mp hl
    refine ⟨fun hn => ?_, fun hr => ?_⟩
    · simp only [Entry.written, List.mem_cons, List.mem_append, List.not_mem_nil, or_false,
        Char.reduceEq] at hn
      rcases hn with hn | hn
      · exact ((h.entries e he).key_signs _ hn).2.2 rfl
      · exact ((h.entries e he).value_signs _ hn).2 rfl
    · exact absurd ((h.entries e he).trimmed_written.last _ hr) (by decide)

theorem mem_written {ss : List Section} {l : List Char} (hl : l ∈ written ss) :
    l = [] ∨ ∃ s ∈ ss, l ∈ s.written := by
  fun_induction written ss with
  | case1 => exact absurd hl List.not_mem_nil
  | case2 s => exact Or.inr ⟨s, List.mem_singleton_self s, hl⟩
  | case3 s ss _ ih =>
    rcases List.mem_append.mp hl with hl | hl
    · exact Or.inr ⟨s, List.mem_cons_self, hl⟩
    · rcases List.mem_cons.mp hl with hl | hl
      · exact Or.inl hl
      · obtain h | ⟨t, ht, hlt⟩ := ih hl
        · exact Or.inl h
        · exact Or.inr ⟨t, List.mem_cons_of_mem s ht, hlt⟩

/-- **The lines written are the lines read.** -/
theorem readLines_render {d : Document} (h : d.WellFormed) :
    readLines d.render = (written d.sections).map Line.read := by
  rw [readLines, toList_render, Text.lines_flatMap_newline]
  intro l hl
  rcases mem_written hl with rfl | ⟨s, hs, hl⟩
  · exact ⟨List.not_mem_nil, by simp⟩
  · exact clean_of_mem_written (h.sections s hs) hl

/-- Entries belong to what stands before the next header. -/
theorem blocks_entries_append (es : List Entry) (ls : List Line) :
    blocks (es.map Line.entry ++ ls) = (es ++ (blocks ls).1, (blocks ls).2) := by
  induction es with
  | nil => rfl
  | cons e es ih => rw [List.map_cons, List.cons_append, blocks, ih]; rfl

/-- **The lines of some sections make up these sections again.** -/
theorem blocks_written {ss : List Section} (h : ∀ s ∈ ss, s.WellFormed) :
    blocks ((written ss).map Line.read) = ([], ss.map fun s => (s.name, s.entries)) := by
  fun_induction written ss with
  | case1 => rfl
  | case2 s =>
    rw [map_read_written (h s List.mem_cons_self), blocks, ← List.append_nil (s.entries.map _),
      blocks_entries_append, blocks, List.append_nil]
    rfl
  | case3 s ss _ ih =>
    rw [List.map_append, List.map_cons, map_read_written (h s List.mem_cons_self), Line.read_nil,
      List.cons_append, blocks, blocks_entries_append, blocks,
      ih fun t ht => h t (List.mem_cons_of_mem s ht), List.append_nil]
    · rfl
    · exact fun _ => Line.noConfusion
    · exact fun _ => Line.noConfusion

/-- No header written is left open. -/
theorem unclosed_notMem_written {ss : List Section} (h : ∀ s ∈ ss, s.WellFormed) (text : String) :
    Line.unclosed text ∉ (written ss).map Line.read := by
  intro hmem
  obtain ⟨l, hl, hread⟩ := List.mem_map.mp hmem
  rcases mem_written hl with rfl | ⟨s, hs, hl⟩
  · exact Line.noConfusion hread
  · have hline : Line.unclosed text ∈ s.written.map Line.read := hread ▸ List.mem_map_of_mem hl
    rw [map_read_written (h s hs)] at hline
    rcases List.mem_cons.mp hline with hline | hline
    · exact Line.noConfusion hline
    · obtain ⟨e, _, he⟩ := List.mem_map.mp hline
      exact Line.noConfusion he

/-- Sections that stand at their positions are numbered as they are. -/
theorem number_of_positions {ss : List Section}
    (h : ∀ (i : Nat) (s : Section), ss[i]? = some s → s.position = i) :
    number 0 (ss.map fun s => (s.name, s.entries)) = ss := by
  refine List.ext_getElem? fun i => ?_
  rw [getElem?_number, List.getElem?_map, Option.map_map]
  cases hs : ss[i]? with
  | none => rfl
  | some s =>
    show some (⟨s.name, 0 + i, s.entries⟩ : Section) = some s
    rw [Nat.zero_add, ← h i s hs]

/-- **Reading undoes writing** on the documents that can be read. -/
theorem read_render {d : Document} (h : d.WellFormed) : Document.read d.render = .ok d := by
  have hnone : firstUnclosed 1 (readLines d.render) = none := by
    rw [readLines_render h]
    exact firstUnclosed_eq_none_iff.mpr (unclosed_notMem_written h.sections)
  unfold Document.read
  rw [hnone, readLines_render h]
  show Except.ok (Document.mk (number 0 (blocks ((written d.sections).map Line.read)).2)) = _
  rw [blocks_written h.sections]
  show Except.ok (Document.mk (number 0 (d.sections.map fun s => (s.name, s.entries)))) = _
  rw [number_of_positions h.position]

/-- **Writing a document and reading it again gives the document back**, and the documents for which
this can be asked are exactly those with the conditions of `Document.WellFormed`: whatever text is read,
the document meets them, and whatever document meets them is read from the text written for it. So a
text that has been read can be replaced by what is written for it. -/
theorem read_wellFormed_and_undoes_render :
    (∀ text d, Document.read text = .ok d → d.WellFormed) ∧
    (∀ d : Document, d.WellFormed → Document.read d.render = .ok d) ∧
    ∀ text d, Document.read text = .ok d → Document.read d.render = Document.read text := by
  refine ⟨fun text d h => wellFormed_of_read h, fun d h => read_render h, fun text d h => ?_⟩
  rw [read_render (wellFormed_of_read h), h]

/-- A text with two kinds of line ends, an entry before the first header, a comment, a header that has
no name and one with final sigmas, which become other letters than the sigmas before them. -/
theorem read_and_render_of_final_sigma :
    ∃ d : Document, Document.read "x = 1\n[ΤΑΣ ΣΑΣ]\r\nKey = a ; note\n[]" = .ok d ∧
      d = ⟨[⟨"τας σας", 0, [⟨"key", "a"⟩]⟩, ⟨"", 1, []⟩]⟩ ∧ d.WellFormed ∧
      Document.read d.render = .ok d ∧
      Document.read d.render = Document.read "x = 1\n[ΤΑΣ ΣΑΣ]\r\nKey = a ; note\n[]" := by
  obtain ⟨hwell, hundo, hagain⟩ := read_wellFormed_and_undoes_render
  have hread : Document.read "x = 1\n[ΤΑΣ ΣΑΣ]\r\nKey = a ; note\n[]" =
      .ok ⟨[⟨"τας σας", 0, [⟨"key", "a"⟩]⟩, ⟨"", 1, []⟩]⟩ := by decide +kernel
  exact ⟨_, hread, rfl, hwell _ _ hread, hundo _ (hwell _ _ hread), hagain _ _ hread⟩

end FighterCheck.Ini
