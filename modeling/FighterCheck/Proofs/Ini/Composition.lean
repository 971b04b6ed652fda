import FighterCheck.Proofs.Ini.LineByLine
import Mathlib.Data.List.ModifyLast

/-!
# Two texts, one after the other

Let a text that ends with a line end be followed by another. The sections of the whole are those of the first and
those of the second, which are numbered on; but the second may begin with entries before its first header, which
belong to no section there. In the whole they come to stand in the last section of the first text
(`Document.extend`), or are lost if that has no section either.

The grammar of documents is used for this: lines up to a header lengthen the last section before them
(`Sections.append_body`), and sections stay what they are when they are counted from a later position
(`Sections.shift`).
-/

namespace FighterCheck.Ini

open Text (EndsLine)

/-- The entry that is said, if one is. -/
def Line.toEntry : Line → Option Entry
  | .entry e => some e
  | _ => none

/-- The entries in lines before the first header. -/
def leadingEntries (ls : List (List Char)) : List Entry :=
  (ls.takeWhile fun raw => !beginsBracket raw).filterMap fun raw => (Line.read raw).toEntry

/-- The section with more entries behind its own. -/
def Section.extend (es : List Entry) (s : Section) : Section := { s with entries := s.entries ++ es }

/-- The document with more entries in its last section. Without a section they are lost. -/
def Document.extend (es : List Entry) (d : Document) : Document :=
  ⟨d.sections.modifyLast (Section.extend es)⟩

variable {ls ls' body : List (List Char)} {es fs : List Entry} {ss : List Section} {p : Nat}
  {d d' : Document} {u : UnclosedHeader} {a b : String}

/-! ## Entries without a header -/

theorem Body.append (h : Body ls es) (h' : Body ls' fs) : Body (ls ++ ls') (es ++ fs) := by
  induction h with
  | nil => exact h'
  | entry h _ ih => exact .entry h ih
  | nothing h _ ih => exact .nothing h ih

theorem Body.filterMap_toEntry (h : Body ls es) : ls.filterMap (fun raw => (Line.read raw).toEntry) = es := by
  induction h with
  | nil => rfl
  | entry h _ ih => rw [List.filterMap_cons, Line.read_eq_iff.mpr h, ih]; rfl
  | nothing h _ ih => rw [List.filterMap_cons, Line.read_eq_iff.mpr h, ih]; rfl

theorem Sections.beginsBracket_head (h : Sections p ls ss) : ∀ raw ∈ ls.head?, beginsBracket raw = true := by
  cases h with
  | nil => exact nofun
  | cons h _ _ =>
    rintro raw ⟨⟩
    cases h with
    | header hline => rw [beginsBracket, hline]; rfl

/-- **The entries before the first header** are those of the lines that make up no section. -/
theorem leadingEntries_append (hbody : Body body es) (hsections : Sections p ls ss) :
    leadingEntries (body ++ ls) = es := by
  have hall : ∀ raw ∈ body, (!beginsBracket raw) = true := fun raw hraw => by
    rw [hbody.beginsBracket_eq_false raw hraw]
    rfl
  have hnone : ls.takeWhile (fun raw => !beginsBracket raw) = [] := by
    cases ls with
    | nil => rfl
    | cons raw ls =>
      rw [List.takeWhile_cons_of_neg]
      rw [hsections.beginsBracket_head raw rfl]
      exact Bool.false_ne_true
  rw [leadingEntries, List.takeWhile_append_of_pos hall, hnone, List.append_nil, hbody.filterMap_toEntry]

/-! ## Sections -/

/-- Sections that are counted from a later position stand further down. -/
theorem Sections.shift (h : Sections p ls ss) (n : Nat) :
    Sections (p + n) ls (ss.map (Section.shift n)) := by
  induction h with
  | nil => exact .nil
  | @cons p raw name body rest es ss h hbody _ ih =>
    refine .cons h hbody ?_
    rwa [Nat.add_right_comm] at ih

theorem modifyLast_cons (f : Section → Section) (s : Section) (hne : ss ≠ []) :
    (s :: ss).modifyLast f = s :: ss.modifyLast f :=
  List.modifyLast_append_of_right_ne_nil f [s] ss hne

theorem length_modifyLast (f : Section → Section) (ss : List Section) :
    (ss.modifyLast f).length = ss.length := by
  induction ss with
  | nil => rfl
  | cons s ss ih =>
    by_cases hne : ss = []
    · rw [hne]
      rfl
    · rw [modifyLast_cons f s hne, List.length_cons, ih, List.length_cons]

/-- **Lines before the next header lengthen the section before them.** -/
theorem Sections.append_body (h : Sections p ls ss) (hne : ss ≠ []) (hbody : Body body es) :
    Sections p (ls ++ body) (ss.modifyLast (Section.extend es)) := by
  induction h with
  | nil => exact absurd rfl hne
  | @cons p raw name own rest fs ss h hown hrest ih =>
    rw [List.cons_append, List.append_assoc]
    by_cases hlast : ss = []
    · -- the section is the last, and there are no lines behind its own
      subst hlast
      cases hrest
      have hnone : Sections (p + 1) [] [] := .nil
      have hlonger := Sections.cons h (hown.append hbody) hnone
      rwa [List.append_nil] at hlonger
    · rw [modifyLast_cons _ _ hlast]
      exact .cons h hown (ih hlast)

/-- **The document of lines one after another** is that of the first ones, lengthened by what the others
have before their first header, and then that of the others. -/
theorem IsDocument.append (h : IsDocument ls d) (h' : IsDocument ls' d') :
    IsDocument (ls ++ ls') ((d.extend (leadingEntries ls')).append d') := by
  obtain ⟨stray, strayEntries, rest, rfl, hstray, hrest⟩ := h
  obtain ⟨body, es, rest', rfl, hbody, hrest'⟩ := h'
  rw [leadingEntries_append hbody hrest', List.append_assoc]
  obtain ⟨ss⟩ := d
  have hshift := hrest'.shift ss.length
  by_cases hnone : ss = []
  · -- without a section the entries in between are stray as well
    subst hnone
    cases hrest
    exact ⟨stray ++ body, strayEntries ++ es, rest', (List.append_assoc stray body rest').symm,
      hstray.append hbody, hshift⟩
  · have hlonger := hrest.append_body hnone hbody
    refine ⟨stray, strayEntries, rest ++ (body ++ rest'), rfl, hstray, ?_⟩
    rw [← List.append_assoc]
    refine hlonger.append ?_
    rw [length_modifyLast, Document.extend, length_modifyLast]
    exact hshift

/-! ## Texts -/

theorem lines_toList_append (ha : EndsLine a.toList) (b : String) :
    Text.lines (a ++ b).toList = Text.lines a.toList ++ Text.lines b.toList := by
  rw [String.toList_append, Text.lines_append ha]

theorem readLines_append (ha : EndsLine a.toList) (b : String) :
    readLines (a ++ b) = readLines a ++ readLines b := by
  rw [readLines, lines_toList_append ha, List.map_append]
  rfl

/-- **A fault in the first text is the fault of the whole.** -/
theorem Document.read_append_of_error (ha : EndsLine a.toList) (h : Document.read a = .error u) :
    Document.read (a ++ b) = .error u := by
  rw [read_eq_error_iff] at h ⊢
  rw [readLines_append ha, firstUnclosed_append, h, Option.some_or]

/-- **A fault in the second text** is that of the whole if the first has none, as many lines further
down as that has. -/
theorem Document.read_append_of_ok_of_error (ha : EndsLine a.toList) (h : Document.read a = .ok d)
    (h' : Document.read b = .error u) :
    Document.read (a ++ b) = .error (u.down (Text.lines a.toList).length) := by
  rw [read_eq_error_iff] at h' ⊢
  rw [readLines_append ha, firstUnclosed_append, (ofLines_of_read h).1, Option.none_or, firstUnclosed_add,
    h', readLines, List.length_map]
  rfl

/-- **Reading is compositional.** Let `a` be a text that is empty or ends with a line end, and `b` any text
behind it. If both can be read, so can the whole, and its document has the sections of `a`, the last of them
with the entries that `b` has before its first header, and then the sections of `b`, numbered on; without a
section in `a` those entries are lost. If `a` cannot be read, the whole cannot, for the same header in the
same line. And if it is `b` alone that cannot, the whole cannot either, for the same header, so many lines
further down as `a` has. -/
theorem reading_is_compositional (a b : String) (ha : EndsLine a.toList) :
    (∀ d d', Document.read a = .ok d → Document.read b = .ok d' →
      Document.read (a ++ b) = .ok ((d.extend (leadingEntries (Text.lines b.toList))).append d')) ∧
    (∀ u, Document.read a = .error u → Document.read (a ++ b) = .error u) ∧
    ∀ d u, Document.read a = .ok d → Document.read b = .error u →
      Document.read (a ++ b) = .error (u.down (Text.lines a.toList).length) := by
  refine ⟨fun d d' h h' => ?_, fun u => Document.read_append_of_error ha, fun d u =>
    Document.read_append_of_ok_of_error ha⟩
  rw [Document.read_eq_ok_iff] at h h' ⊢
  rw [lines_toList_append ha]
  exact h.append h'

/-- An entry that goes to the section before it, and one of another section; the same entry is lost behind a
text without a section; and a fault is moved by the lines before it, a carriage return being part of their
ends. -/
theorem reading_is_compositional_at_a_seam :
    Document.read ("[A]\r\nx = 1\r\n" ++ "y = 2 ; c\n[B]\nz = 3") =
      .ok ⟨[⟨"a", 0, [⟨"x", "1"⟩, ⟨"y", "2"⟩]⟩, ⟨"b", 1, [⟨"z", "3"⟩]⟩]⟩ ∧
    Document.read ("x = 1\n" ++ "y = 2 ; c\n[B]\nz = 3") = .ok ⟨[⟨"b", 0, [⟨"z", "3"⟩]⟩]⟩ ∧
    Document.read ("[A]\r\nx = 1\r\n" ++ "y = 2\n[B") = .error ⟨4, "B"⟩ ∧
    Document.read ("[A\n" ++ "[B") = .error ⟨1, "A"⟩ := by
  have hb : Document.read "y = 2 ; c\n[B]\nz = 3" = .ok ⟨[⟨"b", 0, [⟨"z", "3"⟩]⟩]⟩ := by rfl
  have ha : Document.read "[A]\r\nx = 1\r\n" = .ok ⟨[⟨"a", 0, [⟨"x", "1"⟩]⟩]⟩ := by rfl
  refine ⟨?_, ?_, ?_, ?_⟩
  · exact (reading_is_compositional _ _ (by decide)).1 _ _ ha hb
  · exact (reading_is_compositional "x = 1\n" _ (by decide)).1 ⟨[]⟩ _ rfl hb
  · exact (reading_is_compositional _ "y = 2\n[B" (by decide)).2.2 _ ⟨2, "B"⟩ ha rfl
  · exact (reading_is_compositional "[A\n" _ (by decide)).2.1 _ rfl

end FighterCheck.Ini
