import FighterCheck.Ini.Reader
import FighterCheck.Proofs.Text.Lines
import FighterCheck.Proofs.Text.Lowercase
import FighterCheck.Proofs.Text.Trim

/-!
# What documents can be read

Not every document is that of a text: its names and keys are in lower case, and no part of it holds a
sign at which reading would have cut it off. `Document.WellFormed` lists these conditions, and
`wellFormed_of_read` says that every document read meets them, whatever the text.

What a line says is taken apart first (`Line.read_eq_header`, `Line.read_eq_entry`): a header or an
entry is a stretch of the line between certain signs, lowered or trimmed. Lowercasing brings in none of
the signs, and no blanks at the ends, so that the conditions pass from the line to what it says.

Two such documents make a third, one after the other, if the sections of the second are numbered on
(`Document.append`).
-/

namespace FighterCheck.Ini

open Text (trim lower IsPlain Trimmed)

/-! ## The conditions -/

/-- An entry that can be read. -/
structure Entry.WellFormed (e : Entry) : Prop where
  /-- there is a key -/
  key_ne : e.key ≠ ""
  /-- the key has no blanks around it -/
  key_trimmed : Text.trimmed e.key = e.key
  /-- the key is in lower case -/
  key_lower : Text.lowercase e.key = e.key
  /-- the key does not make its line a header -/
  key_head : e.key.toList.head? ≠ some '['
  /-- the key ends its line nowhere, and does not make it a comment -/
  key_signs : ∀ c ∈ e.key.toList, c ≠ '=' ∧ c ≠ ';' ∧ c ≠ '\n'
  /-- there is a value -/
  value_ne : e.value ≠ ""
  /-- the value has no blanks around it -/
  value_trimmed : Text.trimmed e.value = e.value
  /-- the value ends its line nowhere, and no comment begins in it -/
  value_signs : ∀ c ∈ e.value.toList, c ≠ ';' ∧ c ≠ '\n'

/-- A section that can be read. -/
structure Section.WellFormed (s : Section) : Prop where
  /-- the name is in lower case -/
  name_lower : Text.lowercase s.name = s.name
  /-- the name does not close its header, nor end its line -/
  name_signs : ∀ c ∈ s.name.toList, c ≠ ']' ∧ c ≠ '\n'
  /-- the entries can be read -/
  entries : ∀ e ∈ s.entries, e.WellFormed

/-- A document that can be read. -/
structure Document.WellFormed (d : Document) : Prop where
  /-- every section stands at its position -/
  position : ∀ (i : Nat) (s : Section), d.sections[i]? = some s → s.position = i
  /-- the sections can be read -/
  sections : ∀ s ∈ d.sections, s.WellFormed

/-! ## What a line says -/

namespace Line

theorem read_of_head?_ne {raw : List Char} (h : (trim raw).head? ≠ some '[') :
    read raw = ofBody (trim raw) := by
  unfold read
  split
  · next rest hrest => exact absurd (by rw [hrest]; rfl) h
  · rfl

/-- A line that is cut at an `=` is an entry, if there is something on both sides. -/
theorem ofBody_of_cut {line before after : List Char}
    (h : Text.cut (fun c => c = '=' || c = ';') line = some (before, '=', after))
    (hkey : trim before ≠ []) (hvalue : trim (beforeComment after) ≠ []) :
    ofBody line =
      .entry ⟨String.ofList (lower (trim before)), String.ofList (trim (beforeComment after))⟩ := by
  unfold ofBody
  rw [h]
  exact if_neg (not_or.mpr ⟨hkey, hvalue⟩)

/-- **A header** is what stands between the opening bracket of a line and the next closing one. -/
theorem read_eq_header {raw : List Char} {name : String} (h : read raw = .header name) :
    ∃ before after, trim raw = '[' :: (before ++ ']' :: after) ∧ (∀ c ∈ before, c ≠ ']') ∧
      name = String.ofList (lower before) := by
  unfold read at h
  split at h
  · next rest hrest =>
    unfold ofHeader at h
    split at h
    · next before c after hcut =>
      obtain ⟨rfl, hsplit, hbefore⟩ := Text.cut_sign_eq_some hcut
      refine ⟨before, after, by rw [hrest, hsplit], fun x hx => ?_, (Line.header.inj h).symm⟩
      rintro rfl
      exact hbefore hx
    · exact Line.noConfusion h
  · next hline =>
    unfold ofBody at h
    split at h
    · dsimp only at h
      split at h <;> exact Line.noConfusion h
    · exact Line.noConfusion h

/-- **An entry** is cut out of a line at the first `=`, which no `;` precedes. -/
theorem read_eq_entry {raw : List Char} {e : Entry} (h : read raw = .entry e) :
    ∃ before after, trim raw = before ++ '=' :: after ∧ (trim raw).head? ≠ some '[' ∧
      (∀ c ∈ before, c ≠ '=' ∧ c ≠ ';') ∧ trim before ≠ [] ∧ trim (beforeComment after) ≠ [] ∧
      e = ⟨String.ofList (lower (trim before)), String.ofList (trim (beforeComment after))⟩ := by
  unfold read at h
  split at h
  · unfold ofHeader at h
    split at h <;> exact Line.noConfusion h
  · next hline =>
    have hhead : (trim raw).head? ≠ some '[' := by
      intro hbracket
      obtain ⟨rest, hrest⟩ := List.head?_eq_some_iff.mp hbracket
      exact hline rest hrest
    unfold ofBody at h
    split at h
    · next before after hcut =>
      obtain ⟨hsplit, _, hbefore⟩ := Text.cut_eq_some hcut
      dsimp only at h
      split at h
      · exact Line.noConfusion h
      · next hne =>
        obtain ⟨hkey, hvalue⟩ := not_or.mp hne
        refine ⟨before, after, hsplit, hhead, fun c hc => ?_, hkey, hvalue,
          (Line.entry.inj h).symm⟩
        simpa using hbefore c hc
    · exact Line.noConfusion h

end Line

/-! ## What a line says can be read -/

theorem isPlain_newline : IsPlain '\n' := Text.isPlain_of_isBlank (by decide)

theorem Line.lowercase_of_read_eq_header {raw : List Char} {name : String}
    (h : Line.read raw = .header name) : Text.lowercase name = name := by
  obtain ⟨before, after, _, _, rfl⟩ := Line.read_eq_header h
  rw [Text.lowercase_eq_self_iff, String.toList_ofList, Text.lower_lower]

theorem Line.signs_of_read_eq_header {raw : List Char} {name : String} (hraw : '\n' ∉ raw)
    (h : Line.read raw = .header name) : ∀ c ∈ name.toList, c ≠ ']' ∧ c ≠ '\n' := by
  obtain ⟨before, after, hline, hbefore, rfl⟩ := Line.read_eq_header h
  have hnewline : '\n' ∉ before := fun hmem => hraw (Text.mem_of_mem_trim (by
    rw [hline]
    exact List.mem_cons_of_mem _ (List.mem_append_left _ hmem)))
  intro c hc
  rw [String.toList_ofList] at hc
  refine ⟨?_, ?_⟩
  · rintro rfl
    exact hbefore ']' (Text.mem_of_mem_lower (Text.isPlain_of_mem_signs (by decide)) hc) rfl
  · rintro rfl
    exact hnewline (Text.mem_of_mem_lower isPlain_newline hc)

/-- **What an entry says can be read again.** -/
theorem Line.wellFormed_of_read_eq_entry {raw : List Char} {e : Entry} (hraw : '\n' ∉ raw)
    (h : Line.read raw = .entry e) : e.WellFormed := by
  obtain ⟨before, after, hline, hhead, hbefore, hkey, hvalue, rfl⟩ := Line.read_eq_entry h
  have hmem : ∀ c, c ∈ before ∨ c ∈ after → c ≠ '\n' := by
    rintro c hc rfl
    refine hraw (Text.mem_of_mem_trim ?_)
    rw [hline]
    exact List.mem_append.mpr (hc.imp_right (List.mem_cons_of_mem '='))
  have hsigns : ∀ c ∈ lower (trim before), c ≠ '=' ∧ c ≠ ';' ∧ c ≠ '\n' := by
    intro c hc
    have hplain : IsPlain c → c ∈ before := fun hp => Text.mem_of_mem_trim (Text.mem_of_mem_lower hp hc)
    refine ⟨?_, ?_, ?_⟩
    · rintro rfl
      exact (hbefore _ (hplain (Text.isPlain_of_mem_signs (by decide)))).1 rfl
    · rintro rfl
      exact (hbefore _ (hplain (Text.isPlain_of_mem_signs (by decide)))).2 rfl
    · rintro rfl
      exact hmem _ (Or.inl (hplain isPlain_newline)) rfl
  have hbracket : (lower (trim before)).head? ≠ some '[' := by
    intro hc
    have htrim : '[' ∈ (trim before).head? :=
      Text.head?_lower (Text.isPlain_of_mem_signs (by decide)) hc
    -- the line begins with no blank, so that the key is a beginning of it
    have hbefore' : before <+: trim raw := ⟨_, hline.symm⟩
    have hbegin : trim before <+: before := by
      refine Text.trim_isPrefix fun c hc => ?_
      exact (Text.trimmed_trim raw).head c (Text.head?_of_isPrefix hbefore' hc)
    exact hhead (Text.head?_of_isPrefix (hbegin.trans hbefore') htrim)
  refine ⟨?_, ?_, ?_, ?_, ?_, ?_, ?_, ?_⟩
  · rwa [ne_eq, String.ofList_eq_empty_iff, Text.lower, Text.lowerAfter_eq_nil_iff]
  · rw [Text.trimmed_eq_self_iff, String.toList_ofList]
    exact (Text.trimmed_trim before).lower
  · rw [Text.lowercase_eq_self_iff, String.toList_ofList, Text.lower_lower]
  · rwa [String.toList_ofList]
  · rwa [String.toList_ofList]
  · rwa [ne_eq, String.ofList_eq_empty_iff]
  · rw [Text.trimmed_eq_self_iff, String.toList_ofList]
    exact Text.trimmed_trim _
  · intro c hc
    rw [String.toList_ofList] at hc
    have hcomment : c ∈ Line.beforeComment after := Text.mem_of_mem_trim hc
    refine ⟨?_, hmem c (Or.inr ((List.takeWhile_sublist _).subset hcomment))⟩
    exact of_decide_eq_true (List.all_eq_true.mp List.all_takeWhile c hcomment)

/-! ## Documents -/

theorem entry_mem_of_mem_blocks {ls : List Line} {e : Entry} (he : e ∈ (blocks ls).1) :
    .entry e ∈ ls := by
  induction ls with
  | nil => exact absurd he List.not_mem_nil
  | cons l ls ih =>
    cases l with
    | header name => exact absurd he List.not_mem_nil
    | entry f =>
      rcases List.mem_cons.mp he with rfl | he
      · exact List.mem_cons_self
      · exact List.mem_cons_of_mem _ (ih he)
    | unclosed text => exact List.mem_cons_of_mem _ (ih he)
    | nothing => exact List.mem_cons_of_mem _ (ih he)

/-- The names and entries of a document are those of its lines. -/
theorem mem_of_mem_blocks {ls : List Line} {b : String × List Entry} (hb : b ∈ (blocks ls).2) :
    .header b.1 ∈ ls ∧ ∀ e ∈ b.2, .entry e ∈ ls := by
  induction ls with
  | nil => exact absurd hb List.not_mem_nil
  | cons l ls ih =>
    have hrest : b ∈ (blocks ls).2 → .header b.1 ∈ l :: ls ∧ ∀ e ∈ b.2, .entry e ∈ l :: ls :=
      fun h => ⟨List.mem_cons_of_mem _ (ih h).1, fun e he => List.mem_cons_of_mem _ ((ih h).2 e he)⟩
    cases l with
    | header name =>
      rcases List.mem_cons.mp hb with rfl | hb
      · exact ⟨List.mem_cons_self, fun e he => List.mem_cons_of_mem _ (entry_mem_of_mem_blocks he)⟩
      · exact hrest hb
    | entry f => exact hrest hb
    | unclosed text => exact hrest hb
    | nothing => exact hrest hb

theorem mem_of_mem_number {p : Nat} {bs : List (String × List Entry)} {s : Section}
    (hs : s ∈ number p bs) : (s.name, s.entries) ∈ bs := by
  obtain ⟨i, hi⟩ := List.mem_iff_getElem?.mp hs
  rw [getElem?_number] at hi
  obtain ⟨b, hb, rfl⟩ := Option.map_eq_some_iff.mp hi
  exact List.mem_of_getElem? hb

/-- **Sections stand at their positions.** -/
theorem position_of_ofLines {ls : List Line} {i : Nat} {s : Section}
    (hs : (Document.ofLines ls).sections[i]? = some s) : s.position = i := by
  rw [Document.ofLines, getElem?_number, Option.map_eq_some_iff] at hs
  obtain ⟨b, _, rfl⟩ := hs
  exact Nat.zero_add i

theorem ofLines_of_read {text : String} {d : Document} (h : Document.read text = .ok d) :
    firstUnclosed 1 (readLines text) = none ∧ d = .ofLines (readLines text) := by
  unfold Document.read at h
  split at h
  · cases h
  · next hnone => exact ⟨hnone, (Except.ok.inj h).symm⟩

/-- **Whatever the text, the document read can be read again.** -/
theorem wellFormed_of_read {text : String} {d : Document} (h : Document.read text = .ok d) :
    d.WellFormed := by
  obtain ⟨_, rfl⟩ := ofLines_of_read h
  have hline : ∀ l ∈ readLines text, ∃ raw, '\n' ∉ raw ∧ Line.read raw = l := by
    intro l hl
    obtain ⟨raw, hraw, rfl⟩ := List.mem_map.mp hl
    exact ⟨raw, Text.newline_notMem_of_mem_lines hraw, rfl⟩
  refine ⟨fun i s hs => position_of_ofLines hs, fun s hs => ?_⟩
  obtain ⟨hheader, hentries⟩ := mem_of_mem_blocks (mem_of_mem_number hs)
  obtain ⟨raw, hraw, hread⟩ := hline _ hheader
  refine ⟨Line.lowercase_of_read_eq_header hread, Line.signs_of_read_eq_header hraw hread,
    fun e he => ?_⟩
  obtain ⟨raw', hraw', hread'⟩ := hline _ (hentries e he)
  exact Line.wellFormed_of_read_eq_entry hraw' hread'

/-- The entries of a document are what lines of its text say. -/
theorem exists_line_of_mem_entries {text : String} {d : Document} (h : Document.read text = .ok d)
    {s : Section} (hs : s ∈ d.sections) {e : Entry} (he : e ∈ s.entries) :
    ∃ raw ∈ Text.lines text.toList, Line.read raw = .entry e := by
  obtain ⟨_, rfl⟩ := ofLines_of_read h
  exact List.mem_map.mp ((mem_of_mem_blocks (mem_of_mem_number hs)).2 e he)

/-! ## One document after another -/

/-- The section, so many places further down. -/
def Section.shift (n : Nat) (s : Section) : Section := { s with position := s.position + n }

/-- The sections of one document and then those of another, which are numbered on. -/
def Document.append (d₁ d₂ : Document) : Document :=
  ⟨d₁.sections ++ d₂.sections.map (Section.shift d₁.sections.length)⟩

/-- **The sections of documents that can be read stand at their positions in the joint document, too.** -/
theorem Document.WellFormed.append {d₁ d₂ : Document} (h₁ : d₁.WellFormed) (h₂ : d₂.WellFormed) :
    (d₁.append d₂).WellFormed where
  position i s hs := by
    rw [Document.append, List.getElem?_append] at hs
    split at hs
    · exact h₁.position i s hs
    · next hlong =>
      obtain ⟨t, ht, rfl⟩ := Option.map_eq_some_iff.mp (List.getElem?_map.symm.trans hs)
      have hposition := h₂.position _ t ht
      show t.position + d₁.sections.length = i
      omega
  sections s hs := by
    rcases List.mem_append.mp hs with hs | hs
    · exact h₁.sections s hs
    · obtain ⟨t, ht, rfl⟩ := List.mem_map.mp hs
      exact ⟨(h₂.sections t ht).name_lower, (h₂.sections t ht).name_signs, (h₂.sections t ht).entries⟩

end FighterCheck.Ini
