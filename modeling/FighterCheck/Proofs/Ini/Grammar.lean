import FighterCheck.Ini.SourceFile
import FighterCheck.Proofs.Ini.WellFormed
import FighterCheck.Proofs.Text.Cutting

/-!
# The grammar of documents

What a text means can be said without an order of reading. `Says` tells from the signs in a line what it
says, and `IsDocument` which sections lines make up: a section is a header and the lines after it up to
the next header, and its entries are those of these lines, in order. Reading finds exactly this
(`Line.read_eq_iff`, `isDocument_iff`); the one thing it refuses is a header that is not closed, and
then it tells the first of them. So a document has as many sections as the text has lines that begin with
a bracket, each at its position, and the way from each section to the next leads through all of them.
-/

namespace FighterCheck.Ini

open Text (trim lower)

/-! ## Lines -/

/-- The line has an `=` that no `;` precedes, with `key` before the first such, and `value` after it up
to the next `;`. -/
def HasParts (line key value : List Char) : Prop :=
  ∃ rest, line = key ++ '=' :: (value ++ rest) ∧ (∀ c ∈ key, c ≠ '=' ∧ c ≠ ';') ∧ ';' ∉ value ∧
    ∀ c ∈ rest.head?, c = ';'

/-- The line opens a header with `text` behind the bracket, and does not close it. -/
def IsUnclosed (raw text : List Char) : Prop := trim raw = '[' :: text ∧ ']' ∉ text

instance (raw text : List Char) : Decidable (IsUnclosed raw text) := inferInstanceAs (Decidable (_ ∧ _))

/-- What the line `raw` says, told from the signs that stand in it between its blanks. -/
inductive Says (raw : List Char) : Line → Prop where
  /-- a header: there is a closing bracket, and the name ends at the first -/
  | header {name after : List Char} (hline : trim raw = '[' :: (name ++ ']' :: after))
    (hname : ']' ∉ name) : Says raw (.header (String.ofList (lower name)))
  /-- a header without a closing bracket -/
  | unclosed {text : List Char} (h : IsUnclosed raw text) : Says raw (.unclosed (String.ofList text))
  /-- an entry: the line is no header, and neither of the parts is blank -/
  | entry {key value : List Char} (hhead : (trim raw).head? ≠ some '[')
    (hparts : HasParts (trim raw) key value) (hkey : trim key ≠ []) (hvalue : trim value ≠ []) :
    Says raw (.entry ⟨String.ofList (lower (trim key)), String.ofList (trim value)⟩)
  /-- nothing: the line is no header and does not have two parts that are not blank -/
  | nothing (hhead : (trim raw).head? ≠ some '[')
    (hblank : ∀ key value, HasParts (trim raw) key value → trim key = [] ∨ trim value = []) :
    Says raw .nothing

variable {raw line key value before after : List Char} {l : Line}

theorem beforeComment_append {rest : List Char} (hvalue : ';' ∉ value)
    (hrest : ∀ c ∈ rest.head?, c = ';') : Line.beforeComment (value ++ rest) = value :=
  Text.takeWhile_append_of_breaks (Text.all_ne_iff.mpr hvalue) fun c hc => by simp [hrest c hc]

/-- The parts of a line are what it is cut into. -/
theorem hasParts_iff :
    HasParts line key value ↔
      ∃ after, Text.cut (fun c => c = '=' || c = ';') line = some (key, '=', after) ∧
        value = Line.beforeComment after := by
  constructor
  · rintro ⟨rest, rfl, hkey, hvalue, hrest⟩
    refine ⟨value ++ rest, Text.cut_append (fun c hc => ?_) (by decide),
      (beforeComment_append hvalue hrest).symm⟩
    simp [hkey c hc]
  · rintro ⟨after, hcut, rfl⟩
    obtain ⟨rfl, _, hkey⟩ := Text.cut_eq_some hcut
    refine ⟨after.dropWhile (· ≠ ';'), ?_, fun c hc => by simpa using hkey c hc, fun hmem => ?_,
      fun c hc => ?_⟩
    · rw [Line.beforeComment, List.takeWhile_append_dropWhile]
    · have h := List.all_eq_true.mp List.all_takeWhile _ hmem
      exact of_decide_eq_true h rfl
    · simpa using Text.head?_dropWhile_eq_false (fun c => decide (c ≠ ';')) after c hc

theorem says_read (raw : List Char) : Says raw (Line.read raw) := by
  unfold Line.read
  split
  · next rest hrest =>
    unfold Line.ofHeader
    split
    · next name c after hcut =>
      obtain ⟨rfl, hsplit, hname⟩ := Text.cut_sign_eq_some hcut
      exact .header (hrest.trans (congrArg _ hsplit)) hname
    · next hcut => exact .unclosed ⟨hrest, Text.cut_sign_eq_none_iff.mp hcut⟩
  · next hline =>
    have hhead : (trim raw).head? ≠ some '[' := fun h => by
      obtain ⟨rest, hrest⟩ := List.head?_eq_some_iff.mp h
      exact hline rest hrest
    unfold Line.ofBody
    split
    · next key after hcut =>
      dsimp only
      split
      · next hblank =>
        refine .nothing hhead fun key' value' hparts => ?_
        obtain ⟨after', hcut', rfl⟩ := hasParts_iff.mp hparts
        rw [hcut] at hcut'
        obtain ⟨rfl, _, rfl⟩ := by simpa using hcut'
        exact hblank
      · next hsaid =>
        obtain ⟨hkey, hvalue⟩ := not_or.mp hsaid
        exact .entry hhead (hasParts_iff.mpr ⟨after, hcut, rfl⟩) hkey hvalue
    · next hcut =>
      refine .nothing hhead fun key value hparts => ?_
      obtain ⟨after, hcut', _⟩ := hasParts_iff.mp hparts
      exact absurd hcut' (hcut key after)

/-- **A line is read as what it says.** -/
theorem Line.read_eq_iff : Line.read raw = l ↔ Says raw l := by
  refine ⟨fun h => h ▸ says_read raw, fun h => ?_⟩
  cases h with
  | @header name after hline hname =>
    rw [Line.read, hline]
    show Line.ofHeader _ = _
    rw [Line.ofHeader, Text.cut_sign_append hname]
  | @unclosed text h =>
    obtain ⟨hline, htext⟩ := h
    rw [Line.read, hline]
    show Line.ofHeader _ = _
    rw [Line.ofHeader, Text.cut_sign_eq_none_iff.mpr htext]
  | @entry key value hhead hparts hkey hvalue =>
    obtain ⟨after, hcut, rfl⟩ := hasParts_iff.mp hparts
    rw [Line.read_of_head?_ne hhead, Line.ofBody_of_cut hcut hkey hvalue]
  | nothing hhead hblank =>
    rw [Line.read_of_head?_ne hhead, Line.ofBody]
    split
    · next key after hcut => exact if_pos (hblank _ _ (hasParts_iff.mpr ⟨after, hcut, rfl⟩))
    · rfl

theorem Line.read_eq_unclosed_iff {text : String} :
    Line.read raw = .unclosed text ↔ ∃ rest, IsUnclosed raw rest ∧ text = String.ofList rest := by
  rw [Line.read_eq_iff]
  constructor
  · intro h
    cases h with
    | unclosed h => exact ⟨_, h, rfl⟩
  · rintro ⟨rest, h, rfl⟩
    exact .unclosed h

/-! ## Documents -/

/-- Lines up to the next header, and the entries in them. -/
inductive Body : List (List Char) → List Entry → Prop where
  /-- no more lines -/
  | nil : Body [] []
  /-- a line with an entry -/
  | entry {raw : List Char} {e : Entry} {ls : List (List Char)} {es : List Entry}
    (h : Says raw (.entry e)) (hrest : Body ls es) : Body (raw :: ls) (e :: es)
  /-- a line that says nothing -/
  | nothing {raw : List Char} {ls : List (List Char)} {es : List Entry}
    (h : Says raw .nothing) (hrest : Body ls es) : Body (raw :: ls) es

/-- Lines from a header on, and the sections they make up; the first stands at `position`. -/
inductive Sections : Nat → List (List Char) → List Section → Prop where
  /-- no more lines -/
  | nil {position : Nat} : Sections position [] []
  /-- a header, the lines up to the next header, and more -/
  | cons {position : Nat} {raw : List Char} {name : String} {body rest : List (List Char)}
    {es : List Entry} {ss : List Section} (h : Says raw (.header name)) (hbody : Body body es)
    (hrest : Sections (position + 1) rest ss) :
    Sections position (raw :: (body ++ rest)) (⟨name, position, es⟩ :: ss)

/-- The lines are those of the document: those before the first header, which belong to no section,
and then those of its sections. -/
def IsDocument (ls : List (List Char)) (d : Document) : Prop :=
  ∃ body es rest, ls = body ++ rest ∧ Body body es ∧ Sections 0 rest d.sections

/-- Every header is closed. -/
def Closed (ls : List (List Char)) : Prop := ∀ raw ∈ ls, ∀ text, ¬ IsUnclosed raw text

variable {ls ls' body rest : List (List Char)} {es : List Entry} {ss ss' : List Section} {p : Nat}

theorem closed_cons : Closed (raw :: ls) ↔ (∀ text, ¬ IsUnclosed raw text) ∧ Closed ls :=
  List.forall_mem_cons

theorem closed_append : Closed (body ++ rest) ↔ Closed body ∧ Closed rest :=
  List.forall_mem_append

theorem Says.not_isUnclosed (h : Says raw l) (hl : ∀ text, l ≠ .unclosed text) (text : List Char) :
    ¬ IsUnclosed raw text := by
  intro hunclosed
  have hread := Line.read_eq_unclosed_iff.mpr ⟨text, hunclosed, rfl⟩
  exact hl _ ((Line.read_eq_iff.mpr h).symm.trans hread)

theorem Body.closed (h : Body ls es) : Closed ls := by
  induction h with
  | nil => exact List.forall_mem_nil _
  | entry h _ ih => exact closed_cons.mpr ⟨h.not_isUnclosed nofun, ih⟩
  | nothing h _ ih => exact closed_cons.mpr ⟨h.not_isUnclosed nofun, ih⟩

theorem Sections.closed (h : Sections p ls ss) : Closed ls := by
  induction h with
  | nil => exact List.forall_mem_nil _
  | cons h hbody _ ih =>
    exact closed_cons.mpr ⟨h.not_isUnclosed nofun, closed_append.mpr ⟨hbody.closed, ih⟩⟩

/-- **Lines without a header** are put before what follows them. -/
theorem Body.blocks_append (h : Body body es) (ls : List (List Char)) :
    blocks ((body ++ ls).map Line.read) =
      (es ++ (blocks (ls.map Line.read)).1, (blocks (ls.map Line.read)).2) := by
  induction h with
  | nil => rfl
  | entry h _ ih =>
    rw [List.cons_append, List.map_cons, Line.read_eq_iff.mpr h, blocks, ih]
    rfl
  | nothing h _ ih =>
    rw [List.cons_append, List.map_cons, Line.read_eq_iff.mpr h]
    exact ih

/-- **The sections of the grammar are those that are read.** -/
theorem Sections.blocks_eq (h : Sections p ls ss) :
    (blocks (ls.map Line.read)).1 = [] ∧ number p (blocks (ls.map Line.read)).2 = ss := by
  induction h with
  | nil => exact ⟨rfl, rfl⟩
  | @cons p raw name body rest es ss h hbody _ ih =>
    obtain ⟨hnone, hnumber⟩ := ih
    rw [List.map_cons, Line.read_eq_iff.mpr h, blocks, hbody.blocks_append, hnone,
      List.append_nil]
    exact ⟨rfl, by rw [number, hnumber]⟩

/-- **The sections that are read are those of the grammar**, if every header is closed. -/
theorem exists_body_sections (h : Closed ls) (p : Nat) :
    ∃ body rest, ls = body ++ rest ∧ Body body (blocks (ls.map Line.read)).1 ∧
      Sections p rest (number p (blocks (ls.map Line.read)).2) := by
  induction ls generalizing p with
  | nil => exact ⟨[], [], rfl, .nil, .nil⟩
  | cons raw ls ih =>
    obtain ⟨hraw, hls⟩ := closed_cons.mp h
    rw [List.map_cons]
    cases hread : Line.read raw with
    | header name =>
      -- the lines before the next header, found so far, become the body of this one
      obtain ⟨body, rest, rfl, hbody, hrest⟩ := ih hls (p + 1)
      exact ⟨[], _, rfl, .nil, .cons (Line.read_eq_iff.mp hread) hbody hrest⟩
    | unclosed text =>
      obtain ⟨rest, hrest, _⟩ := Line.read_eq_unclosed_iff.mp hread
      exact absurd hrest (hraw rest)
    | entry e =>
      obtain ⟨body, rest, rfl, hbody, hrest⟩ := ih hls p
      exact ⟨raw :: body, rest, rfl, .entry (Line.read_eq_iff.mp hread) hbody, hrest⟩
    | nothing =>
      obtain ⟨body, rest, rfl, hbody, hrest⟩ := ih hls p
      exact ⟨raw :: body, rest, rfl, .nothing (Line.read_eq_iff.mp hread) hbody, hrest⟩

/-- **Lines are those of a document** if and only if every header is closed and the document is the one
that is read. -/
theorem isDocument_iff {d : Document} :
    IsDocument ls d ↔ Closed ls ∧ d = .ofLines (ls.map Line.read) := by
  constructor
  · rintro ⟨body, es, rest, rfl, hbody, hrest⟩
    refine ⟨closed_append.mpr ⟨hbody.closed, hrest.closed⟩, ?_⟩
    rw [Document.ofLines, hbody.blocks_append, hrest.blocks_eq.2]
  · rintro ⟨hclosed, rfl⟩
    obtain ⟨body, rest, hsplit, hbody, hrest⟩ := exists_body_sections hclosed 0
    exact ⟨body, _, rest, hsplit, hbody, hrest⟩

/-- Sections of lines one after another are those of the lines together. -/
theorem Sections.append (h : Sections p ls ss) (h' : Sections (p + ss.length) ls' ss') :
    Sections p (ls ++ ls') (ss ++ ss') := by
  induction h with
  | nil => exact h'
  | @cons p raw name body rest es ss hraw hbody _ ih =>
    rw [List.cons_append, List.append_assoc]
    refine .cons hraw hbody (ih ?_)
    rwa [Nat.add_assoc, Nat.add_comm 1]

/-! ## What is refused -/

theorem firstUnclosed_of_isUnclosed {k : Nat} {text : List Char} (h : IsUnclosed raw text) :
    firstUnclosed k ((raw :: ls).map Line.read) = some ⟨k, String.ofList text⟩ := by
  rw [List.map_cons, Line.read_eq_unclosed_iff.mpr ⟨text, h, rfl⟩]
  rfl

theorem firstUnclosed_of_not_isUnclosed {k : Nat} (h : ∀ text, ¬ IsUnclosed raw text) :
    firstUnclosed k ((raw :: ls).map Line.read) = firstUnclosed (k + 1) (ls.map Line.read) := by
  rw [List.map_cons]
  cases hread : Line.read raw with
  | unclosed text =>
    obtain ⟨rest, hrest, _⟩ := Line.read_eq_unclosed_iff.mp hread
    exact absurd hrest (h rest)
  | _ => rfl

theorem firstUnclosed_eq_none_iff_closed {k : Nat} :
    firstUnclosed k (ls.map Line.read) = none ↔ Closed ls := by
  rw [firstUnclosed_eq_none_iff]
  simp only [List.mem_map, not_exists, not_and, Line.read_eq_unclosed_iff, Closed]
  exact ⟨fun h raw hraw text htext => h _ raw hraw text htext rfl,
    fun h _ raw hraw text htext _ => h raw hraw text htext⟩

/-- Lines in which every header is closed are counted, and passed over. -/
theorem firstUnclosed_append_of_closed {k : Nat} (h : Closed body) :
    firstUnclosed k ((body ++ ls).map Line.read) =
      firstUnclosed (k + body.length) (ls.map Line.read) := by
  induction body generalizing k with
  | nil => rfl
  | cons raw body ih =>
    obtain ⟨hraw, hbody⟩ := closed_cons.mp h
    rw [List.cons_append, firstUnclosed_of_not_isUnclosed hraw, ih hbody, List.length_cons,
      Nat.add_assoc, Nat.add_comm 1]

/-- Where some header is not closed, there is a first such. -/
theorem exists_first_of_not_closed (h : ¬ Closed ls) :
    ∃ before raw after text, ls = before ++ raw :: after ∧ Closed before ∧ IsUnclosed raw text := by
  induction ls with
  | nil => exact absurd (List.forall_mem_nil _) h
  | cons l ls ih =>
    by_cases hl : ∃ text, IsUnclosed l text
    · obtain ⟨text, hl⟩ := hl
      exact ⟨[], l, ls, text, rfl, List.forall_mem_nil _, hl⟩
    · rw [not_exists] at hl
      obtain ⟨before, raw, after, text, rfl, hbefore, hraw⟩ :=
        ih fun hls => h (closed_cons.mpr ⟨hl, hls⟩)
      exact ⟨l :: before, raw, after, text, rfl, closed_cons.mpr ⟨hl, hbefore⟩, hraw⟩

/-- **The header that is told** is the first that is not closed, with the number of its line. -/
theorem firstUnclosed_eq_some_iff {k : Nat} {u : UnclosedHeader} :
    firstUnclosed k (ls.map Line.read) = some u ↔
      ∃ before raw after text, ls = before ++ raw :: after ∧ Closed before ∧ IsUnclosed raw text ∧
        u = ⟨k + before.length, String.ofList text⟩ := by
  constructor
  · intro h
    have hnot : ¬ Closed ls := by
      rw [← firstUnclosed_eq_none_iff_closed (k := k), h]
      exact Option.some_ne_none u
    obtain ⟨before, raw, after, text, rfl, hbefore, hraw⟩ := exists_first_of_not_closed hnot
    rw [firstUnclosed_append_of_closed hbefore, firstUnclosed_of_isUnclosed hraw] at h
    exact ⟨before, raw, after, text, rfl, hbefore, hraw, (Option.some.inj h).symm⟩
  · rintro ⟨before, raw, after, text, rfl, hbefore, hraw, rfl⟩
    rw [firstUnclosed_append_of_closed hbefore, firstUnclosed_of_isUnclosed hraw]

/-! ## Headers and sections -/

/-- The line begins with a bracket, behind its blanks. -/
def beginsBracket (raw : List Char) : Bool := (trim raw).head? = some '['

theorem Body.countP_eq_zero (h : Body ls es) : ls.countP beginsBracket = 0 := by
  induction h with
  | nil => rfl
  | entry h _ ih =>
    cases h with
    | entry hhead => rw [List.countP_cons_of_neg (by simpa [beginsBracket] using hhead), ih]
  | nothing h _ ih =>
    cases h with
    | nothing hhead => rw [List.countP_cons_of_neg (by simpa [beginsBracket] using hhead), ih]

theorem Body.beginsBracket_eq_false (h : Body ls es) : ∀ raw ∈ ls, beginsBracket raw = false := by
  intro raw hraw
  rw [Bool.eq_false_iff]
  exact List.countP_eq_zero.mp h.countP_eq_zero raw hraw

theorem Sections.length_eq (h : Sections p ls ss) : ss.length = ls.countP beginsBracket := by
  induction h with
  | nil => rfl
  | cons h hbody _ ih =>
    cases h with
    | header hline =>
      rw [List.countP_cons_of_pos (by simp [beginsBracket, hline]), List.countP_append,
        hbody.countP_eq_zero, Nat.zero_add, List.length_cons, ih]

theorem IsDocument.length_eq {d : Document} (h : IsDocument ls d) :
    d.sections.length = ls.countP beginsBracket := by
  obtain ⟨body, es, rest, rfl, hbody, hrest⟩ := h
  rw [List.countP_append, hbody.countP_eq_zero, Nat.zero_add, hrest.length_eq]

/-- From a section, if there is one, the way from each section to the one after it leads through these
sections, and ends there. -/
inductive Document.Visits (d : Document) : Option Section → List Section → Prop where
  /-- the way ends -/
  | stop : d.Visits none []
  /-- a section, and those after it -/
  | step {s : Section} {ss : List Section} (h : d.Visits (d.sectionAfter? s) ss) :
    d.Visits (some s) (s :: ss)

/-- **The way through a document** leads through its sections, once each and in order. -/
theorem Document.visits_of_position {d : Document}
    (h : ∀ (i : Nat) (s : Section), d.sections[i]? = some s → s.position = i) (i : Nat) :
    d.Visits (d.sectionAt? i) (d.sections.drop i) := by
  rw [sectionAt?]
  by_cases hi : i < d.sections.length
  · have hrest := visits_of_position h (i + 1)
    have hat := List.getElem?_eq_getElem hi
    rw [hat, List.drop_eq_getElem_cons hi]
    refine .step ?_
    rw [sectionAfter?, h i _ hat]
    exact hrest
  · rw [List.getElem?_eq_none (Nat.le_of_not_lt hi), List.drop_eq_nil_of_le (Nat.le_of_not_lt hi)]
    exact .stop
termination_by d.sections.length - i

theorem IsDocument.visits {d : Document} (h : IsDocument ls d) :
    d.Visits (d.sectionAt? 0) d.sections := by
  obtain ⟨_, rfl⟩ := isDocument_iff.mp h
  exact Document.visits_of_position (fun _ _ => position_of_ofLines) 0

/-! ## Texts -/

theorem Document.read_eq_error_iff {text : String} {u : UnclosedHeader} :
    Document.read text = .error u ↔ firstUnclosed 1 (readLines text) = some u := by
  unfold Document.read
  cases firstUnclosed 1 (readLines text) <;> simp

theorem Document.read_eq_ok_iff {text : String} {d : Document} :
    Document.read text = .ok d ↔ IsDocument (Text.lines text.toList) d := by
  rw [isDocument_iff, ← firstUnclosed_eq_none_iff_closed (k := 1)]
  unfold Document.read readLines
  cases firstUnclosed 1 ((Text.lines text.toList).map Line.read) <;> simp [eq_comm]

theorem SourceFile.parseText_eq_ok_iff {f : SourceFile} {text : String} {d : Document} :
    f.parseText text = .ok d ↔ Document.read text = .ok d := by
  unfold parseText
  cases Document.read text <;> simp

theorem SourceFile.parseText_eq_error_iff {f : SourceFile} {text : String} {e : Error} :
    f.parseText text = .error e ↔
      ∃ header, Document.read text = .error header ∧ e = .malformedHeader f.path header := by
  unfold parseText
  cases Document.read text <;> simp [eq_comm]

/-- **Reading a text accepts exactly the grammar of documents.** A text is refused if and only if some
line begins with a bracket and does not close it, and the error tells the number of the first such line,
its text behind the bracket, and where the text comes from. Otherwise the document is the one that the
lines are those of: it has one section for each line that begins with a bracket, and the way from the
first section to the next and so on leads through all of them, once each, and ends. -/
theorem reading_accepts_exactly_the_grammar (f : SourceFile) (text : String) :
    ((∃ e, f.parseText text = .error e) ↔
      ∃ raw ∈ Text.lines text.toList, ∃ rest, IsUnclosed raw rest) ∧
    (∀ e, f.parseText text = .error e ↔
      ∃ before raw after rest, Text.lines text.toList = before ++ raw :: after ∧ Closed before ∧
        IsUnclosed raw rest ∧
        e = .malformedHeader f.path ⟨before.length + 1, String.ofList rest⟩) ∧
    (∀ d, f.parseText text = .ok d ↔ IsDocument (Text.lines text.toList) d) ∧
    ∀ d, f.parseText text = .ok d →
      d.sections.length = (Text.lines text.toList).countP beginsBracket ∧
        d.Visits (d.sectionAt? 0) d.sections := by
  have haccepted : ∀ d, f.parseText text = .ok d ↔ IsDocument (Text.lines text.toList) d := fun d =>
    SourceFile.parseText_eq_ok_iff.trans Document.read_eq_ok_iff
  have hrefused : ∀ e, f.parseText text = .error e ↔
      ∃ before raw after rest, Text.lines text.toList = before ++ raw :: after ∧ Closed before ∧
        IsUnclosed raw rest ∧
        e = .malformedHeader f.path ⟨before.length + 1, String.ofList rest⟩ := by
    intro e
    rw [SourceFile.parseText_eq_error_iff]
    simp only [Document.read_eq_error_iff, readLines, firstUnclosed_eq_some_iff, Nat.add_comm 1]
    constructor
    · rintro ⟨_, ⟨before, raw, after, rest, hsplit, hbefore, hraw, rfl⟩, rfl⟩
      exact ⟨before, raw, after, rest, hsplit, hbefore, hraw, rfl⟩
    · rintro ⟨before, raw, after, rest, hsplit, hbefore, hraw, rfl⟩
      exact ⟨_, ⟨before, raw, after, rest, hsplit, hbefore, hraw, rfl⟩, rfl⟩
  refine ⟨⟨?_, ?_⟩, hrefused, haccepted, fun d hd => ?_⟩
  · rintro ⟨e, he⟩
    obtain ⟨before, raw, after, rest, hsplit, _, hraw, _⟩ := (hrefused e).mp he
    refine ⟨raw, ?_, rest, hraw⟩
    rw [hsplit]
    exact List.mem_append_right _ List.mem_cons_self
  · rintro ⟨raw, hmem, rest, hraw⟩
    -- a text that is accepted has no such line
    cases hread : f.parseText text with
    | error e => exact ⟨e, rfl⟩
    | ok d => exact absurd hraw ((isDocument_iff.mp ((haccepted d).mp hread)).1 raw hmem rest)
  · have hdocument := (haccepted d).mp hd
    exact ⟨hdocument.length_eq, hdocument.visits⟩

/-- A text with an entry before its first header, a header with text behind it, an entry with a comment,
lines that are no entries, and both ends of lines. -/
def untidyText : String :=
  "stray = 1\r\n [Data] rest\nName = a ; b\r\n; x = 1\n= 2\n\n[FILES]\r\nCMD= c"

/-- The document has the two sections, and the way leads through both; with a header that is not closed
in its third line, and another one after it, a text is refused with the first. -/
theorem reading_accepts_untidyText :
    (∃ d, SourceFile.parseText ⟨"cns", "a.cns"⟩ untidyText = .ok d ∧
      IsDocument (Text.lines untidyText.toList) d ∧
      d.sections = [⟨"data", 0, [⟨"name", "a"⟩]⟩, ⟨"files", 1, [⟨"cmd", "c"⟩]⟩] ∧
      d.Visits (d.sectionAt? 0) d.sections) ∧
    SourceFile.parseText ⟨"cns", "a.cns"⟩ "[Data]\nx = 1\n [ State 1 \n[more" =
      .error (.malformedHeader "a.cns" ⟨3, " State 1"⟩) := by
  obtain ⟨_, _, haccepted, hway⟩ := reading_accepts_exactly_the_grammar ⟨"cns", "a.cns"⟩ untidyText
  have hread : SourceFile.parseText ⟨"cns", "a.cns"⟩ untidyText =
      .ok ⟨[⟨"data", 0, [⟨"name", "a"⟩]⟩, ⟨"files", 1, [⟨"cmd", "c"⟩]⟩]⟩ := rfl
  refine ⟨⟨_, hread, (haccepted _).mp hread, rfl, (hway _ hread).2⟩, ?_⟩
  obtain ⟨_, hrefused, _⟩ :=
    reading_accepts_exactly_the_grammar ⟨"cns", "a.cns"⟩ "[Data]\nx = 1\n [ State 1 \n[more"
  have hclosed : Closed ["[Data]".toList, "x = 1".toList] :=
    (firstUnclosed_eq_none_iff_closed (k := 1)).mp (by decide +kernel)
  exact (hrefused _).mpr
    ⟨["[Data]".toList, "x = 1".toList], " [ State 1 ".toList, ["[more".toList], " State 1".toList,
      by decide +kernel, hclosed, by decide +kernel, rfl⟩

end FighterCheck.Ini
