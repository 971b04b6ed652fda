import FighterCheck.Proofs.Text.Lines
import FighterCheck.Proofs.Text.Trim
import Mathlib.Data.List.Forall2

/-!
# Texts rewritten line by line

A text can be changed line by line, the ends of the lines being kept (`Rewritten`), and as long as no line
feed is put into a line, the lines of the new text are the new lines. This holds up to two things. A line
that is cut short can be left with a carriage return at its end, which a line feed then takes for its own;
and the text can be left with nothing behind its last line feed. The first makes no difference to a trimmed
line, and the second is an empty line more or less at the end (`Rewritten.exists_lines`).
-/

namespace FighterCheck.Text

/-- A line with its end. -/
structure EndedLine where
  /-- the line -/
  line : List Char
  /-- what ends it, which is nothing where the text breaks off -/
  ending : List Char
  deriving Repr, DecidableEq

/-- The lines of a text with their ends. -/
def endedLines : List Char → List EndedLine
  | [] => []
  | '\n' :: cs => ⟨[], ['\n']⟩ :: endedLines cs
  | '\r' :: '\n' :: cs => ⟨[], ['\r', '\n']⟩ :: endedLines cs
  | c :: cs =>
    match endedLines cs with
    | [] => [⟨[c], []⟩]
    | l :: ls => ⟨c :: l.line, l.ending⟩ :: ls

/-- The text that has these lines, with these ends. -/
def joined (ls : List EndedLine) : List Char := ls.flatMap fun l => l.line ++ l.ending

/-- What can end a line. -/
def IsEnding (e : List Char) : Prop := e = ['\n'] ∨ e = ['\r', '\n']

/-- Lines of which all but the last have an end, and none holds a line feed. -/
inductive Ended : List EndedLine → Prop where
  /-- no lines -/
  | nil : Ended []
  /-- a last line without an end -/
  | last {l : List Char} (hl : '\n' ∉ l) : Ended [⟨l, []⟩]
  /-- a line with an end, and more lines -/
  | cons {l e : List Char} {ls : List EndedLine} (hl : '\n' ∉ l) (he : IsEnding e) (hls : Ended ls) :
    Ended (⟨l, e⟩ :: ls)

/-- The text `t'` is `t` with each line replaced by one that is related to it, and all ends kept. -/
def Rewritten (R : List Char → List Char → Prop) (t t' : List Char) : Prop :=
  ∃ ls, List.Forall₂ (fun l l' => R l.line l'.line ∧ l'.ending = l.ending) (endedLines t) ls ∧
    t' = joined ls

variable {ls ls' : List EndedLine} {l e t t' : List Char} {R : List Char → List Char → Prop}

theorem joined_cons (l : EndedLine) (ls : List EndedLine) :
    joined (l :: ls) = (l.line ++ l.ending) ++ joined ls := List.flatMap_cons

theorem map_line_endedLines (cs : List Char) : (endedLines cs).map EndedLine.line = lines cs := by
  fun_induction endedLines cs with
  | case1 => rw [lines_nil]; rfl
  | case2 cs ih => rw [lines_newline_cons, ← ih]; rfl
  | case3 cs ih => rw [lines_return_newline_cons, ← ih]; rfl
  | case4 c cs hn hr hlines ih =>
    rw [lines_cons hn fun hc ds hcs => hr ds hc hcs, ← ih, hlines]
    rfl
  | case5 c cs hn hr first rest hlines ih =>
    rw [lines_cons hn fun hc ds hcs => hr ds hc hcs, ← ih, hlines]
    rfl

theorem ended_endedLines (cs : List Char) : Ended (endedLines cs) := by
  fun_induction endedLines cs with
  | case1 => exact .nil
  | case2 cs ih => exact .cons List.not_mem_nil (Or.inl rfl) ih
  | case3 cs ih => exact .cons List.not_mem_nil (Or.inr rfl) ih
  | case4 c cs hn _ hlines ih => exact .last fun h => hn (List.mem_singleton.mp h).symm
  | case5 c cs hn _ first rest hlines ih =>
    -- the character lengthens the first line, whichever end that has
    rw [hlines] at ih
    cases ih with
    | last hl => exact .last fun h => (List.mem_cons.mp h).elim (fun h => hn h.symm) hl
    | cons hl he hls => exact .cons (fun h => (List.mem_cons.mp h).elim (fun h => hn h.symm) hl) he hls

/-- A line with its end is one line, but for blanks. -/
theorem exists_lines_eq_singleton (hl : '\n' ∉ l) (he : IsEnding e) :
    ∃ l', lines (l ++ e) = [l'] ∧ trim l' = trim l := by
  rcases he with rfl | rfl
  · by_cases hr : l.getLast? = some '\r'
    · -- the carriage return becomes a part of the end
      obtain ⟨short, rfl⟩ := List.getLast?_eq_some_iff.mp hr
      refine ⟨short, ?_, (trim_append_of_isBlank (by decide) short).symm⟩
      rw [List.append_assoc]
      exact lines_append_return_newline (fun h => hl (List.mem_append_left _ h)) []
    · exact ⟨l, lines_append_newline hl hr [], rfl⟩
  · exact ⟨l, lines_append_return_newline hl [], rfl⟩

theorem IsEnding.endsLine (he : IsEnding e) (l : List Char) : EndsLine (l ++ e) := by
  intro c hc
  rcases he with rfl | rfl <;> simpa using hc.symm

/-- **The lines of a text are those that it was joined from**, but for blanks, and for an empty one at its
end. -/
theorem Ended.map_trim_lines (h : Ended ls) :
    ls.map (fun l => trim l.line) = (lines (joined ls)).map trim ∨
      ls.map (fun l => trim l.line) = (lines (joined ls)).map trim ++ [[]] := by
  induction h with
  | nil => exact Or.inl rfl
  | @last l hl =>
    rw [show joined [⟨l, []⟩] = l by simp [joined]]
    by_cases hne : l = []
    · exact Or.inr (by rw [hne]; rfl)
    · exact Or.inl (by rw [lines_eq_singleton hne hl]; rfl)
  | @cons l e ls hl he _ ih =>
    obtain ⟨l', hlines, htrim⟩ := exists_lines_eq_singleton hl he
    rw [joined_cons, lines_append (he.endsLine l), hlines, List.map_append, List.map_singleton, htrim,
      List.map_cons]
    exact ih.imp (congrArg (trim l :: ·)) (congrArg (trim l :: ·))

/-- Lines that take the place of others, with the same ends, are ended as those are. -/
theorem Ended.of_forall₂ (hR : ∀ l l', R l l' → '\n' ∉ l → '\n' ∉ l') (h : Ended ls)
    (hls : List.Forall₂ (fun l l' => R l.line l'.line ∧ l'.ending = l.ending) ls ls') : Ended ls' := by
  induction h generalizing ls' with
  | nil =>
    cases hls
    exact .nil
  | last hl =>
    obtain ⟨⟨l', _⟩, _, ⟨hline, rfl⟩, hnil, rfl⟩ := List.forall₂_cons_left_iff.mp hls
    cases hnil
    exact .last (hR _ _ hline hl)
  | cons hl he _ ih =>
    obtain ⟨⟨l', _⟩, _, ⟨hline, rfl⟩, hrest, rfl⟩ := List.forall₂_cons_left_iff.mp hls
    exact .cons (hR _ _ hline hl) he (ih hrest)

/-- **The lines of a text that is rewritten are those put in the place of its lines**, but for blanks, and
for an empty one at its end. -/
theorem Rewritten.exists_lines (hR : ∀ l l', R l l' → '\n' ∉ l → '\n' ∉ l') (h : Rewritten R t t') :
    ∃ ls, List.Forall₂ R (lines t) ls ∧
      (ls.map trim = (lines t').map trim ∨ ls.map trim = (lines t').map trim ++ [[]]) := by
  obtain ⟨ls, hls, rfl⟩ := h
  refine ⟨ls.map EndedLine.line, ?_, ?_⟩
  · rw [← map_line_endedLines, List.forall₂_map_left_iff, List.forall₂_map_right_iff]
    exact hls.imp fun _ _ h => h.1
  · rw [List.map_map]
    exact ((ended_endedLines t).of_forall₂ hR hls).map_trim_lines

end FighterCheck.Text
