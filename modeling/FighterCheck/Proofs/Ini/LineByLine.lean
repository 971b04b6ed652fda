import FighterCheck.Proofs.Ini.Grammar
import FighterCheck.Proofs.Text.EndedLines

/-!
# Reading depends on what the lines say

A text is read by what its lines say, one after another, and by nothing else (`Document.ofReadings`). Three
things follow. The first header that is not closed is looked for in one part of the lines after the other, and
counting from a later line only moves it (`firstUnclosed_append`, `firstUnclosed_add`). Lines that say nothing can
be left out of a document, or put in anywhere, if the number of a line that is told is moved along
(`Document.ofReadings_insert`). And where a text is rewritten line by line, it is read by what the new lines say
(`Document.exists_ofReadings_of_rewritten`).
-/

namespace FighterCheck.Ini

open Text (lower)

/-- The document of lines that say this, or the first header among them that is not closed. -/
def Document.ofReadings (ls : List Line) : Except UnclosedHeader Document :=
  match firstUnclosed 1 ls with
  | some fault => .error fault
  | none => .ok (.ofLines ls)

/-- The header, so many lines further down. -/
def UnclosedHeader.down (n : Nat) (u : UnclosedHeader) : UnclosedHeader := { u with line := u.line + n }

/-- The header, so many lines further down if it stands behind the first `k` lines. -/
def UnclosedHeader.moved (k n : Nat) (u : UnclosedHeader) : UnclosedHeader :=
  if u.line ≤ k then u else u.down n

variable {as bs ls ns : List Line} {k n : Nat} {u : UnclosedHeader} {raw : List Char} {text text' : String}

theorem Document.read_eq_ofReadings (text : String) :
    Document.read text = Document.ofReadings (readLines text) := rfl

/-! ## The first header that is not closed -/

/-- **Counting from a later line moves the header that is told.** -/
theorem firstUnclosed_add (k n : Nat) (ls : List Line) :
    firstUnclosed (k + n) ls = (firstUnclosed k ls).map (UnclosedHeader.down n) := by
  induction ls generalizing k with
  | nil => rfl
  | cons l ls ih =>
    cases l with
    | unclosed text => rfl
    | _ => rw [firstUnclosed, firstUnclosed, ← ih, Nat.add_right_comm] <;> exact fun _ => Line.noConfusion

/-- **The first header that is not closed is looked for in one part after the other.** -/
theorem firstUnclosed_append (k : Nat) (as bs : List Line) :
    firstUnclosed k (as ++ bs) = (firstUnclosed k as).or (firstUnclosed (k + as.length) bs) := by
  induction as generalizing k with
  | nil => rfl
  | cons l as ih =>
    cases l with
    | unclosed text => rfl
    | _ =>
      rw [List.cons_append, firstUnclosed, firstUnclosed, ih, List.length_cons, Nat.add_assoc,
        Nat.add_comm 1] <;> exact fun _ => Line.noConfusion

/-- The number that is told is that of one of the lines. -/
theorem line_of_firstUnclosed (h : firstUnclosed k ls = some u) :
    k ≤ u.line ∧ u.line < k + ls.length := by
  induction ls generalizing k with
  | nil => exact nomatch h
  | cons l ls ih =>
    rw [List.length_cons]
    cases l with
    | unclosed text =>
      obtain rfl := Option.some.inj h
      exact ⟨Nat.le_refl k, by dsimp only; omega⟩
    | _ =>
      have hrest := ih h
      omega

/-! ## Lines that say nothing -/

theorem firstUnclosed_of_nothing (h : ∀ l ∈ ns, l = .nothing) (k : Nat) : firstUnclosed k ns = none := by
  rw [firstUnclosed_eq_none_iff]
  exact fun text hmem => nomatch h _ hmem

/-- **Lines that say nothing make no difference to the sections.** -/
theorem blocks_filter (ls : List Line) : blocks (ls.filter (· ≠ .nothing)) = blocks ls := by
  induction ls with
  | nil => rfl
  | cons l ls ih =>
    cases l with
    | nothing => exact ih
    | header name => rw [List.filter_cons_of_pos rfl, blocks, ih, blocks]
    | entry e => rw [List.filter_cons_of_pos rfl, blocks, ih, blocks]
    | unclosed text => exact ih

theorem Document.ofLines_insert (h : ∀ l ∈ ns, l = .nothing) :
    Document.ofLines (as ++ (ns ++ bs)) = .ofLines (as ++ bs) := by
  have hnone : ns.filter (· ≠ .nothing) = [] :=
    List.filter_eq_nil_iff.mpr fun l hl => by simpa using h l hl
  rw [ofLines, ← blocks_filter, List.filter_append, List.filter_append, hnone, List.nil_append,
    ← List.filter_append, blocks_filter]
  rfl

/-- **Lines that say nothing can be put in anywhere.** The document stays the same, and so does the header
that is told if there is none, but it moves down with its line. -/
theorem Document.ofReadings_insert (h : ∀ l ∈ ns, l = .nothing) :
    Document.ofReadings (as ++ (ns ++ bs)) =
      (Document.ofReadings (as ++ bs)).mapError (UnclosedHeader.moved as.length ns.length) := by
  unfold ofReadings
  rw [firstUnclosed_append, firstUnclosed_append, firstUnclosed_append, firstUnclosed_of_nothing h,
    Option.none_or, firstUnclosed_add, ofLines_insert h]
  cases hfirst : firstUnclosed 1 as with
  | some u =>
    have hline := line_of_firstUnclosed hfirst
    have hmoved : u.moved as.length ns.length = u := if_pos (by omega)
    exact congrArg Except.error hmoved.symm
  | none =>
    cases hsecond : firstUnclosed (1 + as.length) bs with
    | some u =>
      have hline := line_of_firstUnclosed hsecond
      have hmoved : u.moved as.length ns.length = u.down ns.length := if_neg (by omega)
      exact congrArg Except.error hmoved.symm
    | none => rfl

/-- A line that says nothing can stand at the end. -/
theorem Document.ofReadings_concat_nothing (ls : List Line) :
    Document.ofReadings (ls ++ [.nothing]) = Document.ofReadings ls := by
  have h : Document.ofReadings (ls ++ ([.nothing] ++ [])) = _ :=
    ofReadings_insert (List.forall_mem_singleton.mpr rfl)
  rw [List.append_nil, List.append_nil] at h
  rw [h]
  unfold ofReadings
  cases hfirst : firstUnclosed 1 ls with
  | none => rfl
  | some u =>
    have hline := line_of_firstUnclosed hfirst
    have hmoved : u.moved ls.length 1 = u := if_pos (by omega)
    exact congrArg Except.error hmoved

/-! ## Lines with the blanks around them -/

open Text (AllBlank isBlank trim trimEnd)

variable {ws name rest : List Char}

theorem beginsBracket_iff :
    beginsBracket raw = true ↔ ∃ ws rest, AllBlank ws ∧ raw = ws ++ '[' :: rest := by
  rw [beginsBracket, decide_eq_true_iff]
  constructor
  · intro h
    obtain ⟨rest, hrest⟩ := List.head?_eq_some_iff.mp h
    obtain ⟨_, ws, ws', hws, _, hraw⟩ := Text.trim_eq_iff.mp hrest
    exact ⟨ws, rest ++ ws', hws, by rw [hraw, List.append_assoc]; rfl⟩
  · rintro ⟨ws, rest, hws, rfl⟩
    rw [Text.trim_allBlank_append_cons hws (by decide)]
    rfl

/-- A line that begins with a bracket says what the rest of it says. -/
theorem Line.read_of_bracket (hws : AllBlank ws) (rest : List Char) :
    Line.read (ws ++ '[' :: rest) = Line.ofHeader (trimEnd rest) := by
  unfold Line.read
  rw [Text.trim_allBlank_append_cons hws (by decide)]
  rfl

/-- **A header that is closed** says its name, whatever blanks stand before it and whatever stands
behind. -/
theorem Line.read_of_closed (hws : AllBlank ws) (hname : ']' ∉ name) (after : List Char) :
    Line.read (ws ++ '[' :: (name ++ ']' :: after)) = .header (String.ofList (lower name)) := by
  rw [read_of_bracket hws, Text.trimEnd_append_cons (by decide), Line.ofHeader,
    Text.cut_sign_append hname]

/-- **A header that is not closed** tells the text behind its bracket, without the blanks at the end. -/
theorem Line.read_of_unclosed (hws : AllBlank ws) (hrest : ']' ∉ rest) :
    Line.read (ws ++ '[' :: rest) = .unclosed (String.ofList (trimEnd rest)) := by
  have htrimmed : ']' ∉ trimEnd rest := fun hmem => hrest ((Text.trimEnd_isPrefix rest).subset hmem)
  rw [read_of_bracket hws, Line.ofHeader, Text.cut_sign_eq_none_iff.mpr htrimmed]

theorem beforeComment_of_notMem {cs : List Char} (h : ';' ∉ cs) : Line.beforeComment cs = cs := by
  have hall : Line.beforeComment (cs ++ []) = cs := beforeComment_append h fun c hc => nomatch hc
  rwa [List.append_nil] at hall

theorem beforeComment_append_cons {cs : List Char} (h : ';' ∉ cs) (comment : List Char) :
    Line.beforeComment (cs ++ ';' :: comment) = cs :=
  beforeComment_append h fun _ hc => (Option.some.inj hc).symm

/-- Blanks at the end of a line make no difference to a value, be there a comment behind it or not. -/
theorem trim_beforeComment_append (hws : AllBlank ws) (cs : List Char) :
    trim (Line.beforeComment (cs ++ ws)) = trim (Line.beforeComment cs) := by
  by_cases hmem : ';' ∈ cs
  · obtain ⟨value, comment, rfl, hvalue⟩ := List.eq_append_cons_of_mem hmem
    rw [List.append_assoc, List.cons_append, beforeComment_append_cons hvalue,
      beforeComment_append_cons hvalue]
  · have hwhole : ';' ∉ cs ++ ws :=
      fun h => (List.mem_append.mp h).elim hmem (hws.notMem (by decide))
    rw [beforeComment_of_notMem hwhole, beforeComment_of_notMem hmem, Text.trim_append_of_allBlank hws]

/-- What a line says that is no header and has these two parts. -/
def Line.ofParts (key value : List Char) : Line :=
  if trim key = [] ∨ trim value = [] then .nothing
  else .entry ⟨String.ofList (lower (trim key)), String.ofList (trim value)⟩

theorem Line.ofBody_eq_ofParts {line key after : List Char}
    (h : Text.cut (fun c => c = '=' || c = ';') line = some (key, '=', after)) :
    Line.ofBody line = .ofParts key (Line.beforeComment after) := by
  rw [ofBody, h]
  rfl

theorem Line.ofBody_eq_nothing_of_none {line : List Char}
    (h : Text.cut (fun c => c = '=' || c = ';') line = none) : Line.ofBody line = .nothing := by
  rw [ofBody, h]

theorem Line.ofBody_eq_nothing_of_ne {line key after : List Char} {c : Char}
    (h : Text.cut (fun c => c = '=' || c = ';') line = some (key, c, after)) (hne : c ≠ '=') :
    Line.ofBody line = .nothing := by
  unfold ofBody
  split
  · next key' after' hcut =>
    rw [h] at hcut
    cases hcut
    exact absurd rfl hne
  · rfl

theorem not_sign_of_notMem {cs : List Char} (hequals : '=' ∉ cs) (hsemi : ';' ∉ cs) :
    ∀ c ∈ cs, (c = '=' || c = ';') = false := by
  intro c hc
  rw [Bool.or_eq_false_iff, decide_eq_false_iff_not, decide_eq_false_iff_not]
  exact ⟨fun h => hequals (h ▸ hc), fun h => hsemi (h ▸ hc)⟩

/-- Blanks are no signs. -/
theorem not_sign_of_allBlank (hws : AllBlank ws) : ∀ c ∈ ws, (c = '=' || c = ';') = false :=
  not_sign_of_notMem (hws.notMem (by decide)) (hws.notMem (by decide))

/-- **The blanks around a line are not looked at** where its key and value are told apart. -/
theorem Line.ofBody_trim (raw : List Char) : Line.ofBody (trim raw) = Line.ofBody raw := by
  obtain ⟨_, ws, ws', hws, hws', hraw⟩ := Text.trim_eq_iff.mp (rfl : trim raw = trim raw)
  have hsplit : Line.ofBody raw = Line.ofBody (ws ++ (trim raw ++ ws')) := by
    rw [← List.append_assoc, ← hraw]
  rw [hsplit]
  generalize trim raw = line
  cases hcut : Text.cut (fun c => c = '=' || c = ';') line with
  | none =>
    have hline := Text.cut_eq_none_iff.mp hcut
    have hcut' : Text.cut (fun c => c = '=' || c = ';') (ws ++ (line ++ ws')) = none := by
      rw [Text.cut_eq_none_iff, List.forall_mem_append, List.forall_mem_append]
      exact ⟨not_sign_of_allBlank hws, hline, not_sign_of_allBlank hws'⟩
    rw [ofBody_eq_nothing_of_none hcut, ofBody_eq_nothing_of_none hcut']
  | some parts =>
    obtain ⟨before, c, after⟩ := parts
    obtain ⟨rfl, hc, hbefore⟩ := Text.cut_eq_some hcut
    have hcut' : Text.cut (fun c => c = '=' || c = ';') (ws ++ (before ++ c :: after ++ ws')) =
        some (ws ++ before, c, after ++ ws') := by
      rw [List.append_assoc, ← List.append_assoc, List.cons_append]
      exact Text.cut_append (List.forall_mem_append.mpr ⟨not_sign_of_allBlank hws, hbefore⟩) hc
    by_cases heq : c = '='
    · subst heq
      rw [ofBody_eq_ofParts hcut, ofBody_eq_ofParts hcut', ofParts, ofParts,
        Text.trim_allBlank_append hws, trim_beforeComment_append hws']
    · rw [ofBody_eq_nothing_of_ne hcut heq, ofBody_eq_nothing_of_ne hcut' heq]

/-- **A line that does not begin with a bracket** is read as it stands. -/
theorem Line.read_of_body (h : beginsBracket raw = false) : Line.read raw = Line.ofBody raw := by
  rw [read_of_head?_ne (by simpa [beginsBracket] using h), ofBody_trim]

/-! ## Texts rewritten line by line -/

/-- The blanks around a line make no difference. -/
theorem Line.read_trim (raw : List Char) : Line.read (Text.trim raw) = Line.read raw := by
  unfold Line.read
  rw [Text.trim_eq_self_iff.mpr (Text.trimmed_trim raw)]

theorem map_read_map_trim (ls : List (List Char)) :
    (ls.map Text.trim).map Line.read = ls.map Line.read := by
  rw [List.map_map]
  exact List.map_congr_left fun raw _ => Line.read_trim raw

/-- **A text that is rewritten line by line is read by what its new lines say.** -/
theorem Document.exists_ofReadings_of_rewritten {R : List Char → List Char → Prop} {S : Line → Line → Prop}
    (h : Text.Rewritten R text.toList text'.toList) (hR : ∀ raw raw', R raw raw' → '\n' ∉ raw → '\n' ∉ raw')
    (hS : ∀ raw raw', R raw raw' → S (Line.read raw) (Line.read raw')) :
    ∃ ls, List.Forall₂ S (readLines text) ls ∧ Document.read text' = Document.ofReadings ls := by
  obtain ⟨raws, hraws, hlines⟩ := h.exists_lines hR
  refine ⟨raws.map Line.read, ?_, ?_⟩
  · rw [readLines, List.forall₂_map_left_iff, List.forall₂_map_right_iff]
    exact hraws.imp hS
  · rw [read_eq_ofReadings, readLines, ← map_read_map_trim, ← map_read_map_trim raws]
    rcases hlines with hlines | hlines
    · rw [hlines]
    · rw [hlines, List.map_append]
      exact (ofReadings_concat_nothing _).symm

end FighterCheck.Ini
