import FighterCheck.Proofs.Ini.Grammar
import FighterCheck.Proofs.Text.AsciiCase

/-!
# The first section of a name, line by line

What a document is asked for is mostly the first value of a key in the first section of a name. Here this is
said of the lines of a text. A section has the lines behind its header up to the next header (`FirstBody`);
among these, the first that says something under a key decides, whatever the others say and however they are
ordered (`WrittenFirst`). Headers and keys may be written in any ASCII case.
-/

namespace FighterCheck.Ini

open Text (isBlank lower sameAscii trim)

/-- The line is the header of a section of that name, in any ASCII case. -/
def Opens (name : String) (raw : List Char) : Prop :=
  ∃ written after, trim raw = '[' :: (written ++ ']' :: after) ∧ ']' ∉ written ∧
    sameAscii (String.ofList written) name = true

/-- The line has the key, in any ASCII case, and `written` between the `=` and a comment, if there is
one. -/
def Writes (key : String) (written raw : List Char) : Prop :=
  ∃ k, HasParts (trim raw) k written ∧ sameAscii (String.ofList (trim k)) key = true

/-- The line says an entry with that key. -/
def SaysUnder (key : String) (raw : List Char) : Prop := ∃ v, Says raw (.entry ⟨key, v⟩)

/-- The lines behind the first header of that name, up to the next header. -/
inductive FirstBody (name : String) : List (List Char) → List (List Char) → Prop
  /-- other lines, the header, the lines of the section, and the rest, which begins with a header -/
  | intro {before after body : List (List Char)} {header : List Char} (hbefore : Closed before)
    (hfirst : ∀ raw ∈ before, ¬ Says raw (.header name)) (hheader : Opens name header)
    (hbody : ∀ raw ∈ body, beginsBracket raw = false)
    (hnext : ∀ raw ∈ after.head?, beginsBracket raw = true) (hafter : Closed after) :
    FirstBody name (before ++ header :: (body ++ after)) body

/-- Of the lines that say something under the key, the first has `written`. -/
inductive WrittenFirst (key : String) : List (List Char) → List Char → Prop
  /-- lines that say nothing under the key, the line, and more -/
  | intro {before after : List (List Char)} {raw written : List Char}
    (hbefore : ∀ l ∈ before, ¬ SaysUnder key l) (hraw : Writes key written raw) :
    WrittenFirst key (before ++ raw :: after) written

variable {name key value : String} {raw written : List Char} {ls ls' body before : List (List Char)}
  {es : List Entry} {ss ss' : List Section} {p : Nat} {d : Document}

/-- The line is an entry with that key. -/
def Line.hasKey (key : String) : Line → Bool
  | .entry e => e.key == key
  | _ => false

theorem hasKey_read_iff : (Line.read raw).hasKey key = true ↔ SaysUnder key raw := by
  simp only [SaysUnder, ← Line.read_eq_iff]
  constructor
  · intro h
    unfold Line.hasKey at h
    split at h
    · next e hread => exact ⟨e.value, by rw [hread, ← beq_iff_eq.mp h]⟩
    · exact nomatch h
  · rintro ⟨v, hread⟩
    rw [hread]
    exact beq_self_eq_true key

instance (key : String) (raw : List Char) : Decidable (SaysUnder key raw) :=
  decidable_of_iff _ hasKey_read_iff

instance (raw : List Char) (l : Line) : Decidable (Says raw l) := decidable_of_iff _ Line.read_eq_iff

/-! ## Names and keys in any case -/

/-- A header in any ASCII case is read as the name in lower case. -/
theorem Opens.says_header (h : Opens name raw) (hname : Text.lowercase name = name) :
    Says raw (.header name) := by
  obtain ⟨written, after, hline, hbracket, hsame⟩ := h
  have hlower : String.ofList (lower written) = name := by
    have hwritten := Text.lowercase_eq_of_sameAscii hsame
    rwa [hname, Text.lowercase, String.toList_ofList] at hwritten
  exact hlower ▸ .header hline hbracket

/-- A character that is no letter stands in a text if it does in the same text in another case. -/
theorem mem_of_sameAscii {a b : String} (h : sameAscii a b = true) {c : Char} (hc : c.toLower = c)
    (hb : Text.asciiFold b = b) (hmem : c ∈ a.toList) : c ∈ b.toList := by
  rw [← hb, ← Text.sameAscii_iff.mp h, Text.asciiFold, String.toList_ofList, List.mem_map]
  exact ⟨c, hmem, hc⟩

/-- What a key can be, in lower case: a text that is not empty and could not be taken for a header. -/
structure IsKey (key : String) : Prop where
  /-- it is in lower case -/
  lowercase : Text.lowercase key = key
  /-- it is not empty -/
  ne_empty : key ≠ ""
  /-- there is no bracket in it -/
  bracket : '[' ∉ key.toList

/-- A line with the key in any ASCII case, and a value, is read as the entry. -/
theorem Writes.says_entry (h : Writes key written raw) (hkey : IsKey key) (hvalue : trim written ≠ []) :
    Says raw (.entry ⟨key, String.ofList (trim written)⟩) := by
  obtain ⟨k, hparts, hsame⟩ := h
  have hlower : String.ofList (lower (trim k)) = key := by
    have hwritten := Text.lowercase_eq_of_sameAscii hsame
    rwa [hkey.lowercase, Text.lowercase, String.toList_ofList] at hwritten
  have hne : trim k ≠ [] := by
    intro hnil
    rw [hnil] at hlower
    exact hkey.ne_empty hlower.symm
  have hhead : (trim raw).head? ≠ some '[' := by
    intro hhead
    obtain ⟨rest, hline, _⟩ := hparts
    cases k with
    | nil => exact hne rfl
    | cons x k =>
      obtain rfl : x = '[' := by
        rw [hline] at hhead
        exact Option.some.inj hhead
      -- the bracket is no blank, so it would be the first character of the key
      have hprefix : trim ('[' :: k) <+: '[' :: k := by
        refine Text.trim_isPrefix fun c hc => ?_
        rw [← Option.some.inj hc]
        decide
      obtain ⟨rest, hrest⟩ := hprefix
      obtain ⟨y, ys, hys⟩ := List.exists_cons_of_ne_nil hne
      rw [hys] at hrest
      have hmem : '[' ∈ (String.ofList (trim ('[' :: k))).toList := by
        rw [String.toList_ofList, hys, (List.cons.inj hrest).1]
        exact List.mem_cons_self
      exact hkey.bracket (mem_of_sameAscii hsame (by decide)
        (Text.asciiFold_eq_self_of_lowercase hkey.lowercase) hmem)
  exact hlower ▸ .entry hhead hparts hne hvalue

/-! ## Lines in a row -/

theorem Says.unique {l l' : Line} (h : Says raw l) (h' : Says raw l') : l = l' :=
  (Line.read_eq_iff.mpr h).symm.trans (Line.read_eq_iff.mpr h')

/-- A line that does not begin with a bracket is no header. -/
theorem says_body (h : beginsBracket raw = false) :
    Says raw .nothing ∨ ∃ e, Says raw (.entry e) := by
  have hhead : (trim raw).head? ≠ some '[' := by simpa [beginsBracket] using h
  cases hread : Line.read raw with
  | header name =>
    cases Line.read_eq_iff.mp hread with
    | header hline => exact absurd (by rw [hline]; rfl) hhead
  | unclosed text =>
    obtain ⟨rest, hrest, _⟩ := Line.read_eq_unclosed_iff.mp hread
    exact absurd (by rw [hrest.1]; rfl) hhead
  | entry e => exact Or.inr ⟨e, Line.read_eq_iff.mp hread⟩
  | nothing => exact Or.inl (Line.read_eq_iff.mp hread)

theorem exists_body (h : ∀ raw ∈ ls, beginsBracket raw = false) : ∃ es, Body ls es := by
  induction ls with
  | nil => exact ⟨[], .nil⟩
  | cons raw ls ih =>
    obtain ⟨hraw, hls⟩ := List.forall_mem_cons.mp h
    obtain ⟨es, hes⟩ := ih hls
    rcases says_body hraw with hsays | ⟨e, hsays⟩
    · exact ⟨es, .nothing hsays hes⟩
    · exact ⟨e :: es, .entry hsays hes⟩

/-- Lines that begin with a header make up sections and nothing else. -/
theorem exists_sections_of_head (hclosed : Closed ls)
    (hhead : ∀ raw ∈ ls.head?, beginsBracket raw = true) (p : Nat) : ∃ ss, Sections p ls ss := by
  obtain ⟨body, rest, rfl, hbody, hrest⟩ := exists_body_sections hclosed p
  cases body with
  | nil => exact ⟨_, hrest⟩
  | cons raw body =>
    have hfalse := hbody.beginsBracket_eq_false raw List.mem_cons_self
    rw [hhead raw rfl] at hfalse
    exact Bool.noConfusion hfalse

/-- Every section has its header among the lines. -/
theorem Sections.says_header (h : Sections p ls ss) :
    ∀ s ∈ ss, ∃ raw ∈ ls, Says raw (.header s.name) := by
  induction h with
  | nil => exact fun s hs => absurd hs List.not_mem_nil
  | @cons p raw name body rest es ss hraw hbody _ ih =>
    intro s hs
    rcases List.mem_cons.mp hs with rfl | hs
    · exact ⟨raw, List.mem_cons_self, hraw⟩
    · obtain ⟨l, hl, hsays⟩ := ih s hs
      exact ⟨l, List.mem_cons_of_mem _ (List.mem_append_right _ hl), hsays⟩

/-! ## The section and its entries -/

/-- **The lines make up a document whose first section of that name has the entries of its lines.** -/
theorem FirstBody.exists_document (h : FirstBody name ls body) (hname : Text.lowercase name = name) :
    ∃ d s, IsDocument ls d ∧ d.sectionNamed? name = some s ∧ Body body s.entries := by
  obtain @⟨before, after, _, header, hbefore, hfirst, hheader, hbody, hnext, hafter⟩ := h
  obtain ⟨stray, rest, rfl, hstray, hrest⟩ := exists_body_sections hbefore 0
  generalize number 0 (blocks ((stray ++ rest).map Line.read)).2 = ss at hrest
  obtain ⟨es, hes⟩ := exists_body hbody
  obtain ⟨ss', hss'⟩ := exists_sections_of_head hafter hnext (0 + ss.length + 1)
  have hsections := hrest.append (.cons (hheader.says_header hname) hes hss')
  refine ⟨⟨ss ++ ⟨name, 0 + ss.length, es⟩ :: ss'⟩, ⟨name, 0 + ss.length, es⟩,
    ⟨stray, _, _, (List.append_assoc stray rest _), hstray, hsections⟩, ?_, hes⟩
  have hnone : ss.find? (·.name == name) = none := by
    rw [List.find?_eq_none]
    intro s hs heq
    obtain ⟨raw, hraw, hsays⟩ := hrest.says_header s hs
    rw [beq_iff_eq.mp heq] at hsays
    exact hfirst raw (List.mem_append_right _ hraw) hsays
  rw [Document.sectionNamed?, hname, List.find?_append, hnone, Option.none_or, List.find?_cons,
    beq_self_eq_true]

/-- An entry of the lines is said by one of them. -/
theorem Body.exists_line (h : Body ls es) : ∀ e ∈ es, ∃ raw ∈ ls, Says raw (.entry e) := by
  induction h with
  | nil => exact fun e he => absurd he List.not_mem_nil
  | @entry raw e ls es hraw _ ih =>
    intro f hf
    rcases List.mem_cons.mp hf with rfl | hf
    · exact ⟨raw, List.mem_cons_self, hraw⟩
    · obtain ⟨l, hl, hsays⟩ := ih f hf
      exact ⟨l, List.mem_cons_of_mem _ hl, hsays⟩
  | nothing _ _ ih =>
    intro f hf
    obtain ⟨l, hl, hsays⟩ := ih f hf
    exact ⟨l, List.mem_cons_of_mem _ hl, hsays⟩

/-- Lines that say nothing under a key have no entry of it. -/
theorem Body.find?_eq_none (h : Body ls es) (hnone : ∀ raw ∈ ls, ¬ SaysUnder key raw) :
    es.find? (·.key == key) = none := by
  rw [List.find?_eq_none]
  intro e he heq
  obtain ⟨raw, hraw, hsays⟩ := h.exists_line e he
  obtain ⟨k, v⟩ := e
  obtain rfl : k = key := beq_iff_eq.mp heq
  exact hnone raw hraw ⟨v, hsays⟩

/-- **The first line that says something under a key decides.** -/
theorem Body.find?_of_first {after : List (List Char)} (h : Body (before ++ raw :: after) es)
    (hbefore : ∀ l ∈ before, ¬ SaysUnder key l) (hraw : Says raw (.entry ⟨key, value⟩)) :
    es.find? (·.key == key) = some ⟨key, value⟩ := by
  induction before generalizing es with
  | nil =>
    cases h with
    | entry h _ =>
      obtain rfl := Line.entry.inj (h.unique hraw)
      rw [List.find?_cons, beq_self_eq_true]
    | nothing h _ => exact Line.noConfusion (h.unique hraw)
  | cons l before ih =>
    obtain ⟨hl, hbefore⟩ := List.forall_mem_cons.mp hbefore
    cases h with
    | @entry _ e _ _ h hrest =>
      have hne : (e.key == key) = false := by
        refine beq_false_of_ne fun heq => hl ⟨e.value, ?_⟩
        rw [← heq]
        exact h
      rw [List.find?_cons, hne]
      exact ih hrest hbefore
    | nothing _ hrest => exact ih hrest hbefore

/-- **A key that no line has is missing.** -/
theorem value?_eq_none_of_lines {s : Section} (hsection : d.sectionNamed? name = some s)
    (hbody : Body body s.entries) (hkey : IsKey key) (h : ∀ raw ∈ body, ¬ SaysUnder key raw) :
    d.value? name key = none := by
  rw [Document.value?, hsection, Option.bind_some, Section.value?, hkey.lowercase,
    hbody.find?_eq_none h, Option.map_none]

/-- **The value of a key is the one written first**, without the blanks around it. -/
theorem value?_of_writtenFirst {s : Section} (hsection : d.sectionNamed? name = some s)
    (hbody : Body body s.entries) (hkey : IsKey key) (h : WrittenFirst key body written)
    (hvalue : trim written ≠ []) : d.value? name key = some (String.ofList (trim written)) := by
  obtain ⟨hbefore, hraw⟩ := h
  rw [Document.value?, hsection, Option.bind_some, Section.value?, hkey.lowercase,
    hbody.find?_of_first hbefore (hraw.says_entry hkey hvalue), Option.map_some]

end FighterCheck.Ini
