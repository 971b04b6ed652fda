import FighterCheck.Proofs.Ini.LineByLine
import FighterCheck.Proofs.Text.AsciiCase

/-!
# Reading and asking in any letter case

Names of sections and keys can be written with small or capital letters, in a text (`RecasedLine`) as in a
question put to a document. Lowercasing is by the full rules, so that it looks around a capital sigma at letters
whose case may have changed; but it does not see the case of ASCII letters (`Text.lower_map_toLower`), and neither
does anything else by which a line is told apart: no ASCII letter is a blank or a sign. What is said by a line
with letters in another case is thus the same, unless it is a header that is not closed, which is told as it was
written (`RecasedLine.saysAlike`).
-/

namespace FighterCheck.Ini

open Text (AllBlank Rewritten asciiCapitals lower sameAscii trim trimEnd)

/-- The second line is the first with some ASCII letters in another case, in the name of a header or in the
key before an `=`. -/
inductive RecasedLine : List Char → List Char → Prop where
  /-- no letter is changed -/
  | same {raw : List Char} : RecasedLine raw raw
  /-- letters between the brackets of a header -/
  | header {ws name name' after : List Char} (hws : AllBlank ws) (hname : ']' ∉ name)
    (hsame : sameAscii (String.ofList name) (String.ofList name') = true) :
    RecasedLine (ws ++ '[' :: (name ++ ']' :: after)) (ws ++ '[' :: (name' ++ ']' :: after))
  /-- letters behind the bracket of a header that is not closed -/
  | unclosed {ws rest rest' : List Char} (hws : AllBlank ws) (hrest : ']' ∉ rest)
    (hsame : sameAscii (String.ofList rest) (String.ofList rest') = true) :
    RecasedLine (ws ++ '[' :: rest) (ws ++ '[' :: rest')
  /-- letters before the `=` of a line that is no header -/
  | key {key key' after : List Char} (hbody : beginsBracket (key ++ '=' :: after) = false)
    (hkey : '=' ∉ key ∧ ';' ∉ key)
    (hsame : sameAscii (String.ofList key) (String.ofList key') = true) :
    RecasedLine (key ++ '=' :: after) (key' ++ '=' :: after)

/-- The two lines say the same, or both open a header that is not closed, with a text that is the same but
for the case of ASCII letters. -/
inductive SaysAlike : Line → Line → Prop where
  /-- the lines say the same -/
  | same {l : Line} : SaysAlike l l
  /-- neither header is closed -/
  | unclosed {text text' : String} (h : sameAscii text text' = true) :
    SaysAlike (.unclosed text) (.unclosed text')

/-- Two readings with the same document, or with a fault in the same line whose text is the same but for
the case of ASCII letters. -/
inductive ReadsAlike : Except UnclosedHeader Document → Except UnclosedHeader Document → Prop where
  /-- the documents are the same -/
  | ok {d : Document} : ReadsAlike (.ok d) (.ok d)
  /-- the faults are in the same line -/
  | error {line : Nat} {text text' : String} (h : sameAscii text text' = true) :
    ReadsAlike (.error ⟨line, text⟩) (.error ⟨line, text'⟩)

variable {raw raw' key key' : List Char} {ls ls' : List Line} {text text' : String}

/-! ## One line -/

/-- Letters are changed, and nothing else. -/
theorem RecasedLine.map_toLower_eq (h : RecasedLine raw raw') :
    raw.map Char.toLower = raw'.map Char.toLower := by
  cases h with
  | same => rfl
  | header _ _ hsame | unclosed _ _ hsame | key _ _ hsame =>
    simp only [List.map_append, List.map_cons, Text.sameAscii_ofList_iff.mp hsame]

theorem beginsBracket_eq_of_map_toLower_eq (h : raw.map Char.toLower = raw'.map Char.toLower) :
    beginsBracket raw = beginsBracket raw' := by
  have hbegins : ∀ cs : List Char, beginsBracket cs = true ↔
      ((trim (cs.map Char.toLower)).head?) = some '[' := by
    intro cs
    rw [beginsBracket, decide_eq_true_iff, Text.trim_map_toLower, List.head?_map,
      Option.map_eq_some_iff]
    simp only [Text.toLower_eq_iff (show '[' ∈ Text.signs by decide), exists_eq_right]
  rw [Bool.eq_iff_iff, hbegins, h, hbegins]

/-- A key in another case is the same key. -/
theorem Line.ofParts_congr (h : key.map Char.toLower = key'.map Char.toLower) (value : List Char) :
    Line.ofParts key value = .ofParts key' value := by
  have htrim : (trim key).map Char.toLower = (trim key').map Char.toLower := by
    rw [← Text.trim_map_toLower, h, Text.trim_map_toLower]
  have hlower : lower (trim key) = lower (trim key') := by
    rw [← Text.lower_map_toLower, htrim, Text.lower_map_toLower]
  have hnil : trim key = [] ↔ trim key' = [] := by
    rw [← List.map_eq_nil_iff (f := Char.toLower), htrim, List.map_eq_nil_iff]
  rw [ofParts, ofParts, hlower]
  simp only [hnil]

/-- **A line says the same in another letter case.** -/
theorem RecasedLine.saysAlike (h : RecasedLine raw raw') : SaysAlike (Line.read raw) (Line.read raw') := by
  have hmap := h.map_toLower_eq
  cases h with
  | same => exact .same
  | @header ws name name' after hws hname hsame =>
    rw [Text.sameAscii_ofList_iff] at hsame
    have hname' : ']' ∉ name' := mt (Text.mem_iff_of_map_toLower_eq hsame (by decide)).mpr hname
    rw [Line.read_of_closed hws hname, Line.read_of_closed hws hname', ← Text.lower_map_toLower name, hsame,
      Text.lower_map_toLower]
    exact .same
  | @unclosed ws rest rest' hws hrest hsame =>
    rw [Text.sameAscii_ofList_iff] at hsame
    have hrest' : ']' ∉ rest' := mt (Text.mem_iff_of_map_toLower_eq hsame (by decide)).mpr hrest
    rw [Line.read_of_unclosed hws hrest, Line.read_of_unclosed hws hrest']
    refine .unclosed (Text.sameAscii_ofList_iff.mpr ?_)
    rw [← Text.trimEnd_map_toLower, hsame, Text.trimEnd_map_toLower]
  | @key key key' after hbody hkey hsame =>
    rw [Text.sameAscii_ofList_iff] at hsame
    have hbody' : beginsBracket (key' ++ '=' :: after) = false :=
      (beginsBracket_eq_of_map_toLower_eq hmap).symm.trans hbody
    have hequals' : '=' ∉ key' := mt (Text.mem_iff_of_map_toLower_eq hsame (by decide)).mpr hkey.1
    have hsemi' : ';' ∉ key' := mt (Text.mem_iff_of_map_toLower_eq hsame (by decide)).mpr hkey.2
    rw [Line.read_of_body hbody, Line.read_of_body hbody',
      Line.ofBody_eq_ofParts (Text.cut_append (not_sign_of_notMem hkey.1 hkey.2) (by decide)),
      Line.ofBody_eq_ofParts (Text.cut_append (not_sign_of_notMem hequals' hsemi') (by decide)),
      Line.ofParts_congr hsame]
    exact .same

/-! ## Lines in a row -/

/-- **Lines that say the same but for letter case** have the first header that is not closed in the same
place, or are the same. -/
theorem firstUnclosed_alike (h : List.Forall₂ SaysAlike ls ls') (k : Nat) :
    (ls = ls' ∧ firstUnclosed k ls = none) ∨
      ∃ line text text', firstUnclosed k ls = some ⟨line, text⟩ ∧
        firstUnclosed k ls' = some ⟨line, text'⟩ ∧ sameAscii text text' = true := by
  induction h generalizing k with
  | nil => exact Or.inl ⟨rfl, rfl⟩
  | @cons l l' ls ls' hline _ ih =>
    cases hline with
    | @unclosed text text' hsame => exact Or.inr ⟨k, text, text', rfl, rfl, hsame⟩
    | same =>
      cases l with
      | unclosed text => exact Or.inr ⟨k, text, text, rfl, rfl, Text.sameAscii_refl text⟩
      | _ => exact (ih (k + 1)).imp_left fun ⟨hls, hnone⟩ => ⟨by rw [hls], hnone⟩

theorem Document.ofReadings_alike (h : List.Forall₂ SaysAlike ls ls') :
    ReadsAlike (Document.ofReadings ls) (Document.ofReadings ls') := by
  unfold ofReadings
  rcases firstUnclosed_alike h 1 with ⟨rfl, hnone⟩ | ⟨line, text, text', hfirst, hfirst', hsame⟩
  · rw [hnone]
    exact .ok
  · rw [hfirst, hfirst']
    exact .error hsame

/-- **A text is read alike in another letter case** of its headers and keys. -/
theorem read_of_recased (h : Rewritten RecasedLine text.toList text'.toList) :
    ReadsAlike (Document.read text) (Document.read text') := by
  obtain ⟨ls, hls, hread⟩ := Document.exists_ofReadings_of_rewritten h
    (fun raw raw' hraw => (Text.mem_iff_of_map_toLower_eq hraw.map_toLower_eq (by decide)).not.mp)
    (fun raw raw' hraw => hraw.saysAlike)
  rw [hread]
  exact Document.ofReadings_alike hls

/-! ## Questions -/

section Questions

variable (d : Document) (s : Section) {name name' key key' : String}

theorem Section.answers_of_sameAscii (h : sameAscii key key' = true) :
    s.value? key' = s.value? key ∧ s.valuesOf key' = s.valuesOf key ∧ s.hasKey key' = s.hasKey key := by
  have hlower := Text.lowercase_eq_of_sameAscii h
  have hvalue : s.value? key' = s.value? key := by rw [value?, value?, hlower]
  exact ⟨hvalue, by rw [valuesOf, valuesOf, hlower], by rw [hasKey, hasKey, hvalue]⟩

theorem Document.sections_of_sameAscii (h : sameAscii name name' = true) :
    d.sectionNamed? name' = d.sectionNamed? name ∧ d.sectionsNamed name' = d.sectionsNamed name := by
  have hlower := Text.lowercase_eq_of_sameAscii h
  exact ⟨by rw [sectionNamed?, sectionNamed?, hlower], by rw [sectionsNamed, sectionsNamed, hlower]⟩

theorem Document.value?_of_sameAscii (hname : sameAscii name name' = true)
    (hkey : sameAscii key key' = true) : d.value? name' key' = d.value? name key := by
  rw [value?, value?, (d.sections_of_sameAscii hname).1]
  exact congrArg _ (funext fun s => (s.answers_of_sameAscii hkey).1)

theorem Section.hasKey_iff : s.hasKey key = true ↔ s.valuesOf key ≠ [] := by
  rw [hasKey, ← head?_valuesOf, List.isSome_head?]

theorem Document.value?_eq_bind (name key : String) :
    d.value? name key = (d.sectionsNamed name).head?.bind fun s => (s.valuesOf key).head? := by
  simp only [value?, head?_sectionsNamed, Section.head?_valuesOf]

end Questions

/-- **Reading and look-up ignore the case of ASCII letters.** A text whose headers and keys are written with
some ASCII letters in another case has the same document, or its fault in the same line. A document gives the
same answers to a name or a key in another case. And what it finds first under a name or a key is the first of
all that it finds, so that nothing is found, or the fallback is given, exactly where there is none. -/
theorem reading_and_lookup_ignore_ascii_case :
    (∀ text text' : String, Rewritten RecasedLine text.toList text'.toList →
      ReadsAlike (Document.read text) (Document.read text')) ∧
    (∀ (d : Document) (name name' : String), sameAscii name name' = true →
      d.sectionNamed? name' = d.sectionNamed? name ∧ d.sectionsNamed name' = d.sectionsNamed name ∧
      ∀ key key', sameAscii key key' = true → d.value? name' key' = d.value? name key ∧
        ∀ fallback, d.valueOr name' key' fallback = d.valueOr name key fallback) ∧
    (∀ (s : Section) (key key' : String), sameAscii key key' = true →
      s.value? key' = s.value? key ∧ s.valuesOf key' = s.valuesOf key ∧ s.hasKey key' = s.hasKey key) ∧
    (∀ (s : Section) (key : String), s.value? key = (s.valuesOf key).head? ∧
      (s.hasKey key = true ↔ s.valuesOf key ≠ [])) ∧
    ∀ (d : Document) (name key fallback : String),
      d.sectionNamed? name = (d.sectionsNamed name).head? ∧
      d.value? name key = (d.sectionsNamed name).head?.bind (fun s => (s.valuesOf key).head?) ∧
      d.valueOr name key fallback =
        (((d.sectionsNamed name).head?.map (·.valuesOf key)).getD []).headD fallback := by
  refine ⟨fun text text' => read_of_recased, fun d name name' hname => ?_, fun s key key' =>
    s.answers_of_sameAscii, fun s key => ⟨(s.head?_valuesOf key).symm, s.hasKey_iff⟩,
    fun d name key fallback => ⟨(d.head?_sectionsNamed name).symm, d.value?_eq_bind name key, ?_⟩⟩
  · obtain ⟨hfirst, hall⟩ := d.sections_of_sameAscii hname
    refine ⟨hfirst, hall, fun key key' hkey => ?_⟩
    have hvalue := d.value?_of_sameAscii hname hkey
    exact ⟨hvalue, fun fallback => by rw [Document.valueOr, Document.valueOr, hvalue]⟩
  · rw [Document.valueOr, d.value?_eq_bind]
    cases (d.sectionsNamed name).head? with
    | none => rfl
    | some s => exact List.headD_eq_head?_getD.symm

/-- A header with a capital sigma at the end of a word, and a key with one before a letter. -/
def sigmaText : String := " [StateDef ΤΑΣ]\r\nKeyΣs = Vx ; C\n"

/-- The same text with other letters in the header and the key. -/
def recasedSigmaText : String := " [stateDEF ΤΑΣ]\r\nkEYΣS = Vx ; C\n"

theorem rewritten_sigmaText :
    Rewritten RecasedLine sigmaText.toList recasedSigmaText.toList := by
  have hheader : RecasedLine ([' '] ++ '[' :: ("StateDef ΤΑΣ".toList ++ ']' :: []))
      ([' '] ++ '[' :: ("stateDEF ΤΑΣ".toList ++ ']' :: [])) :=
    .header (by decide) (by decide +kernel) (by decide +kernel)
  have hkey : RecasedLine ("KeyΣs ".toList ++ '=' :: " Vx ; C".toList)
      ("kEYΣS ".toList ++ '=' :: " Vx ; C".toList) :=
    .key (by decide +kernel) (by decide +kernel) (by decide +kernel)
  have hlines : Text.endedLines sigmaText.toList =
      [⟨[' '] ++ '[' :: ("StateDef ΤΑΣ".toList ++ ']' :: []), ['\r', '\n']⟩,
        ⟨"KeyΣs ".toList ++ '=' :: " Vx ; C".toList, ['\n']⟩] := by decide +kernel
  refine ⟨[⟨[' '] ++ '[' :: ("stateDEF ΤΑΣ".toList ++ ']' :: []), ['\r', '\n']⟩,
    ⟨"kEYΣS ".toList ++ '=' :: " Vx ; C".toList, ['\n']⟩], ?_, by decide +kernel⟩
  rw [hlines]
  exact .cons ⟨hheader, rfl⟩ (.cons ⟨hkey, rfl⟩ .nil)

/-- Both texts have the same document, in which either sigma is lowered by what stands behind it, and which
is asked in any case. -/
theorem recased_sigmaText_reads_alike :
    ReadsAlike (Document.read sigmaText) (Document.read recasedSigmaText) ∧
    Document.read sigmaText = .ok ⟨[⟨"statedef τας", 0, [⟨"keyσs", "Vx"⟩]⟩]⟩ ∧
    Document.valueOr ⟨[⟨"statedef τας", 0, [⟨"keyσs", "Vx"⟩]⟩]⟩ "STATEDEF ΤΑΣ" "kEYΣS" "none" = "Vx" ∧
    Section.valuesOf ⟨"statedef τας", 0, [⟨"keyσs", "Vx"⟩]⟩ "KEYΣs" = ["Vx"] := by
  obtain ⟨hread, hnames, hkeys, _⟩ := reading_and_lookup_ignore_ascii_case
  refine ⟨hread _ _ rewritten_sigmaText, by decide +kernel, ?_, ?_⟩
  · obtain ⟨_, _, hvalue⟩ := hnames ⟨[⟨"statedef τας", 0, [⟨"keyσs", "Vx"⟩]⟩]⟩ "statedef ΤΑΣ" "STATEDEF ΤΑΣ"
      (by decide)
    exact ((hvalue "KeyΣs" "kEYΣS" (by decide)).2 "none").trans (by decide +kernel)
  · exact (hkeys _ "KeyΣs" "KEYΣs" (by decide)).2.1.trans (by decide +kernel)

end FighterCheck.Ini
