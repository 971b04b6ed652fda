import FighterCheck.Proofs.Ini.LineByLine

/-!
# Comments and silent lines

A comment can be taken out of a text, and lines that say nothing can be put into it. What a comment is depends
on its line (`withoutComment`): behind a header that is closed it is everything, and in a line that is no header
it is what begins with the first semicolon. Without its comment a line says what it said with it
(`Line.read_withoutComment`), and a text is read line by line.

Lines that say nothing (`IsSilent`) go between any two lines, before the first or behind the last. They leave the
document as it is, and an error too, but for the number of its line, which is moved by theirs.
-/

namespace FighterCheck.Ini

open Text (AllBlank EndsLine Rewritten endedLines joined lower trim)

/-- The line without its comment. A header that is not closed has none. -/
def withoutComment (raw : List Char) : List Char :=
  if beginsBracket raw then
    match Text.cut (· = ']') raw with
    | some (before, _, _) => before ++ [']']
    | none => raw
  else Line.beforeComment raw

/-- The text without the comments of its lines, the ends of the lines being kept. -/
def withoutComments (text : String) : String :=
  String.ofList (joined ((endedLines text.toList).map fun l => { l with line := withoutComment l.line }))

/-- A line that has nothing to say. -/
inductive IsSilent (raw : List Char) : Prop where
  /-- there is nothing in it -/
  | blank (h : trim raw = [])
  /-- it is a comment -/
  | comment (h : (trim raw).head? = some ';')
  /-- it is no header, and no `=` stands before a comment -/
  | noEntry (hhead : (trim raw).head? ≠ some '[') (hsign : '=' ∉ Line.beforeComment (trim raw))

/-- The text `t'` has the lines of `t`, and behind the lines `before` those that are put in. -/
def PutIn (before inserted : List (List Char)) (t t' : List Char) : Prop :=
  ∃ after, Text.lines t = before ++ after ∧ Text.lines t' = before ++ (inserted ++ after)

/-- The error, with the header it tells moved down if lines are put in before that. -/
def Error.moved (k n : Nat) : Error → Error
  | .malformedHeader origin header => .malformedHeader origin (header.moved k n)
  | e => e

variable {raw : List Char} {before inserted : List (List Char)} {t t' : List Char}

/-! ## Comments -/

theorem withoutComment_isPrefix (raw : List Char) : withoutComment raw <+: raw := by
  unfold withoutComment
  split
  · split
    · next before c after hcut =>
      obtain ⟨rfl, rfl, _⟩ := Text.cut_sign_eq_some hcut
      exact ⟨after, by rw [List.append_assoc, List.singleton_append]⟩
    · exact List.prefix_refl raw
  · exact List.takeWhile_prefix _

/-- The comment behind a header says nothing. -/
theorem Line.read_withoutComment_of_bracket (h : beginsBracket raw = true) :
    Line.read (withoutComment raw) = Line.read raw := by
  obtain ⟨ws, rest, hws, rfl⟩ := beginsBracket_iff.mp h
  -- the bracket that closes is not among the blanks
  have hbefore : ∀ cs : List Char, ']' ∉ cs → ']' ∉ ws ++ '[' :: cs := by
    intro cs hcs hmem
    rcases List.mem_append.mp hmem with hmem | hmem
    · exact hws.notMem (by decide) hmem
    · exact (List.mem_cons.mp hmem).elim (by decide) hcs
  rw [withoutComment, if_pos h]
  by_cases hclosed : ']' ∈ rest
  · obtain ⟨name, after, rfl, hname⟩ := List.eq_append_cons_of_mem hclosed
    rw [read_of_closed hws hname, ← List.cons_append, ← List.append_assoc,
      Text.cut_sign_append (hbefore name hname)]
    dsimp only
    rw [List.append_assoc, List.cons_append]
    exact read_of_closed hws hname []
  · rw [Text.cut_sign_eq_none_iff.mpr (hbefore rest hclosed)]

/-- What is left of a line that does not begin with a bracket does not begin with one. -/
theorem beginsBracket_beforeComment (h : beginsBracket raw = false) :
    beginsBracket (Line.beforeComment raw) = false := by
  rw [Bool.eq_false_iff] at h ⊢
  intro hbracket
  obtain ⟨ws, rest, hws, hline⟩ := beginsBracket_iff.mp hbracket
  refine h (beginsBracket_iff.mpr ⟨ws, rest ++ raw.dropWhile (· ≠ ';'), hws, ?_⟩)
  rw [← List.cons_append, ← List.append_assoc, ← hline]
  exact List.takeWhile_append_dropWhile.symm

theorem beforeComment_beforeComment (cs : List Char) :
    Line.beforeComment (Line.beforeComment cs) = Line.beforeComment cs :=
  beforeComment_of_notMem (Text.all_ne_iff.mp List.all_takeWhile)

theorem beforeComment_append_equals {key : List Char} (h : ';' ∉ key) (after : List Char) :
    Line.beforeComment (key ++ '=' :: after) = key ++ '=' :: Line.beforeComment after := by
  have hall := List.all_eq_true.mp (Text.all_ne_iff.mpr h)
  rw [Line.beforeComment, List.takeWhile_append_of_pos hall, List.takeWhile_cons_of_pos (by decide)]
  rfl

/-- **The comment of an entry says nothing**, and neither does a line that is all comment. -/
theorem Line.ofBody_beforeComment (line : List Char) :
    Line.ofBody (Line.beforeComment line) = Line.ofBody line := by
  cases hcut : Text.cut (fun c => c = '=' || c = ';') line with
  | none =>
    have hsigns := Text.cut_eq_none_iff.mp hcut
    rw [beforeComment_of_notMem fun h => by simpa using hsigns ';' h]
  | some parts =>
    obtain ⟨key, c, after⟩ := parts
    obtain ⟨rfl, hc, hkey⟩ := Text.cut_eq_some hcut
    have hsemi : ';' ∉ key := fun h => by simpa using hkey ';' h
    by_cases heq : c = '='
    · subst heq
      have hcut' : Text.cut _ (key ++ '=' :: Line.beforeComment after) = _ := Text.cut_append hkey hc
      rw [beforeComment_append_equals hsemi, ofBody_eq_ofParts hcut, ofBody_eq_ofParts hcut',
        beforeComment_beforeComment]
    · obtain rfl : c = ';' := by simpa [heq] using hc
      rw [beforeComment_append_cons hsemi, ofBody_eq_nothing_of_none (Text.cut_eq_none_iff.mpr hkey),
        ofBody_eq_nothing_of_ne hcut heq]

/-- **A line says what it says without its comment.** -/
theorem Line.read_withoutComment (raw : List Char) : Line.read (withoutComment raw) = Line.read raw := by
  cases h : beginsBracket raw with
  | true => exact read_withoutComment_of_bracket h
  | false =>
    rw [withoutComment, if_neg (by rw [h]; exact Bool.false_ne_true),
      read_of_body (beginsBracket_beforeComment h), ofBody_beforeComment, read_of_body h]

/-- **A text is read as it is without its comments.** -/
theorem read_withoutComments (text : String) :
    Document.read (withoutComments text) = Document.read text := by
  have hrewritten : Rewritten (fun raw raw' => raw' = withoutComment raw) text.toList
      (withoutComments text).toList := by
    refine ⟨_, ?_, String.toList_ofList⟩
    rw [List.forall₂_map_right_iff, List.forall₂_same]
    exact fun _ _ => ⟨rfl, rfl⟩
  obtain ⟨ls, hls, hread⟩ := Document.exists_ofReadings_of_rewritten (S := Eq) hrewritten
    (by rintro raw _ rfl hraw hmem; exact hraw ((withoutComment_isPrefix raw).subset hmem))
    (by rintro raw _ rfl; exact (Line.read_withoutComment raw).symm)
  rw [List.forall₂_eq_eq_eq] at hls
  rw [hread, ← hls]
  rfl

/-! ## Silent lines -/

/-- A line with nothing to say says nothing. -/
theorem IsSilent.read_eq (h : IsSilent raw) : Line.read raw = .nothing := by
  have hsilent : (trim raw).head? ≠ some '[' ∧ '=' ∉ Line.beforeComment (trim raw) := by
    cases h with
    | blank h => rw [h]; exact ⟨nofun, List.not_mem_nil⟩
    | comment h =>
      obtain ⟨comment, hline⟩ := List.head?_eq_some_iff.mp h
      rw [hline]
      exact ⟨by simp, by simp [Line.beforeComment]⟩
    | noEntry hhead hsign => exact ⟨hhead, hsign⟩
  obtain ⟨hhead, hsign⟩ := hsilent
  refine Line.read_eq_iff.mpr (.nothing hhead fun key value hparts => ?_)
  -- the parts would have an `=` between them, before a comment
  obtain ⟨rest, hline, hkey, _⟩ := hparts
  rw [hline, beforeComment_append_equals fun h => (hkey ';' h).2 rfl] at hsign
  exact absurd (List.mem_append_right key List.mem_cons_self) hsign

/-- **Whole lines that are put into a text at the end of a line**, or at its beginning, are put in
among its lines. -/
theorem putIn_append {as ins bs : List Char} (has : EndsLine as) (hins : EndsLine ins ∨ bs = []) :
    PutIn (Text.lines as) (Text.lines ins) (as ++ bs) (as ++ (ins ++ bs)) := by
  refine ⟨Text.lines bs, Text.lines_append has bs, ?_⟩
  rw [Text.lines_append has]
  rcases hins with hins | rfl
  · rw [Text.lines_append hins]
  · rw [List.append_nil, Text.lines_nil, List.append_nil]

/-- **Silent lines make no difference to a document**, and move an error down. -/
theorem read_of_putIn {text text' : String} (h : PutIn before inserted text.toList text'.toList)
    (hsilent : ∀ raw ∈ inserted, IsSilent raw) :
    Document.read text' =
      (Document.read text).mapError (UnclosedHeader.moved before.length inserted.length) := by
  obtain ⟨after, hlines, hlines'⟩ := h
  have hnothing : ∀ l ∈ inserted.map Line.read, l = .nothing :=
    List.forall_mem_map.mpr fun raw hraw => (hsilent raw hraw).read_eq
  rw [Document.read_eq_ofReadings, Document.read_eq_ofReadings, readLines, readLines, hlines, hlines',
    List.map_append, List.map_append, List.map_append, Document.ofReadings_insert hnothing,
    List.length_map, List.length_map]

theorem SourceFile.parseText_eq_mapError (f : SourceFile) (text : String) :
    f.parseText text = (Document.read text).mapError (.malformedHeader f.path) := by
  unfold parseText
  cases Document.read text <;> rfl

/-- **Comments are invisible**, and lines with nothing to say are as good as absent. A text gives the same
document without its comments, or the same error. Where silent lines are put in behind some of the lines of
a text, the document is the same, and an error tells the same header, moved down by as many lines as were put
in before it. And whole lines are put in among the lines of a text wherever that has a line end before them, or
nothing; they need no end of their own at the end of the text. -/
theorem comments_and_silent_lines_are_invisible (f : SourceFile) :
    (∀ text, f.parseText (withoutComments text) = f.parseText text) ∧
    (∀ text text' before inserted, PutIn before inserted text.toList text'.toList →
      (∀ raw ∈ inserted, IsSilent raw) →
      f.parseText text' = (f.parseText text).mapError (Error.moved before.length inserted.length)) ∧
    ∀ as ins bs : List Char, EndsLine as → EndsLine ins ∨ bs = [] →
      PutIn (Text.lines as) (Text.lines ins) (as ++ bs) (as ++ (ins ++ bs)) := by
  refine ⟨fun text => ?_, fun text text' before inserted h hsilent => ?_, fun as ins bs => putIn_append⟩
  · rw [f.parseText_eq_mapError, f.parseText_eq_mapError, read_withoutComments]
  · rw [f.parseText_eq_mapError, f.parseText_eq_mapError, read_of_putIn h hsilent]
    cases Document.read text <;> rfl

/-- A text with text and a semicolon behind a header, an entry with a comment, a line of a key, a carriage
return and a comment, and a header that is not closed. -/
def commentedText : String := "[Data] rest ; more\r\nname = a ; b\nx\r; c\n[Open ; x"

/-- Without its comments the text has a line feed behind the carriage return, and the fault is still in its
fourth line; two lines that are put in behind the first move it to the sixth. -/
theorem commentedText_reads_alike :
    withoutComments commentedText = "[Data]\r\nname = a \nx\r\n[Open ; x" ∧
    SourceFile.parseText ⟨"cns", "a.cns"⟩ "[Data]\r\nname = a \nx\r\n[Open ; x" =
      .error (.malformedHeader "a.cns" ⟨4, "Open ; x"⟩) ∧
    SourceFile.parseText ⟨"cns", "a.cns"⟩
        "[Data] rest ; more\r\n \n;[ = ]\nname = a ; b\nx\r; c\n[Open ; x" =
      .error (.malformedHeader "a.cns" ⟨6, "Open ; x"⟩) := by
  obtain ⟨hcomments, hsilent, hput⟩ := comments_and_silent_lines_are_invisible ⟨"cns", "a.cns"⟩
  have hread : SourceFile.parseText ⟨"cns", "a.cns"⟩ commentedText =
      .error (.malformedHeader "a.cns" ⟨4, "Open ; x"⟩) := by decide +kernel
  have hwithout : withoutComments commentedText = "[Data]\r\nname = a \nx\r\n[Open ; x" := by
    decide +kernel
  have hputIn := hput "[Data] rest ; more\r\n".toList " \n;[ = ]\n".toList
    "name = a ; b\nx\r; c\n[Open ; x".toList (by decide) (Or.inl (by decide))
  refine ⟨hwithout, (hwithout ▸ hcomments commentedText).trans hread, ?_⟩
  refine (hsilent commentedText _ _ _ hputIn fun raw hraw => ?_).trans ?_
  · have hlines : Text.lines " \n;[ = ]\n".toList = [" ".toList, ";[ = ]".toList] := by decide +kernel
    rw [hlines] at hraw
    rcases List.mem_pair.mp hraw with rfl | rfl
    · exact .blank (by decide)
    · exact .comment (by decide)
  · rw [hread]
    decide +kernel

end FighterCheck.Ini
