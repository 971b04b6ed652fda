import FighterCheck.Character.Manifest
import FighterCheck.Proofs.Ini.FirstSection
import FighterCheck.Proofs.Text.Numerals

/-!
# What a definition says of its character, as it is written

The four fields of the section `info` are written each in its own way: two texts in quotes, a version as it
stands, and two numbers with a comma between them. Each comes back as it was written, and a field that is
left out has its default, whatever becomes of the others (`identity_comes_back_as_written`).

What can go wrong is said for every document: a name with fewer than two quotes is refused, then one that
the game shows, then a coordinate space whose first two parts are not both numbers, and nothing else.
-/

namespace FighterCheck

open Text (AllBlank IsNumeral isBlank trim trimmed)

/-! ## Coordinates -/

/-- The text begins with the width and the height, between commas and any blanks. -/
def IsCoord (written : List Char) (c : LocalCoord) : Prop :=
  ∃ w h more, written = w ++ ',' :: (h ++ more) ∧ ',' ∉ w ∧ ',' ∉ h ∧ (∀ x ∈ more.head?, x = ',') ∧
    IsNumeral (trim w) c.width.toInt ∧ IsNumeral (trim h) c.height.toInt

variable {written w h : List Char} {c : LocalCoord}

/-- The first two parts of a text, in front of commas or its end. -/
theorem exists_split_iff :
    (∃ rest, Text.split ',' written = w :: h :: rest) ↔
      ∃ more, written = w ++ ',' :: (h ++ more) ∧ ',' ∉ w ∧ ',' ∉ h ∧ ∀ x ∈ more.head?, x = ',' := by
  simp only [Text.split_eq_cons_iff]
  constructor
  · rintro ⟨rest, hw, ⟨_, hnil⟩ | ⟨_, rfl, hh, ⟨rfl, _⟩ | ⟨more, rfl, _⟩⟩⟩
    · exact absurd hnil (List.cons_ne_nil _ _)
    · exact ⟨[], by rw [List.append_nil], hw, hh, nofun⟩
    · exact ⟨',' :: more, rfl, hw, hh, fun x hx => (Option.some.inj hx).symm⟩
  · rintro ⟨more, rfl, hw, hh, hmore⟩
    cases more with
    | nil => exact ⟨[], hw, Or.inr ⟨_, rfl, hh, Or.inl ⟨List.append_nil h, rfl⟩⟩⟩
    | cons x more =>
      obtain rfl := hmore x rfl
      exact ⟨_, hw, Or.inr ⟨_, rfl, hh, Or.inr ⟨more, rfl, rfl⟩⟩⟩

namespace LocalCoord

theorem read?_of_split {s : String} {rest : List (List Char)}
    (hsplit : Text.split ',' s.toList = w :: h :: rest) :
    read? s = (Text.readInt32 (trim w)).bind fun m => (Text.readInt32 (trim h)).map (⟨m, ·⟩) := by
  rw [read?, hsplit]
  simp only [Option.map_eq_bind]
  rfl

/-- **A coordinate space is read if and only if its first two parts are numbers**, and then as these. -/
theorem read?_eq_some_iff {s : String} : read? s = some c ↔ IsCoord s.toList c := by
  constructor
  · intro hread
    match hsplit : Text.split ',' s.toList with
    | w :: h :: rest =>
      rw [read?_of_split hsplit] at hread
      obtain ⟨m, hw, hread⟩ := Option.bind_eq_some_iff.mp hread
      obtain ⟨n, hh, rfl⟩ := Option.map_eq_some_iff.mp hread
      obtain ⟨more, hwritten, hwc, hhc, hmore⟩ := exists_split_iff.mp ⟨rest, hsplit⟩
      exact ⟨w, h, more, hwritten, hwc, hhc, hmore, Text.readInt32_eq_some_iff.mp hw,
        Text.readInt32_eq_some_iff.mp hh⟩
    | [w] =>
      rw [read?, hsplit] at hread
      exact nomatch hread
    | [] => exact absurd hsplit (Text.split_ne_nil ',' _)
  · rintro ⟨w, h, more, hwritten, hwc, hhc, hmore, hw, hh⟩
    obtain ⟨rest, hsplit⟩ := exists_split_iff.mpr ⟨more, hwritten, hwc, hhc, hmore⟩
    rw [read?_of_split hsplit, Text.readInt32_eq_some_iff.mpr hw, Text.readInt32_eq_some_iff.mpr hh]
    rfl

/-- Parts that are the same without the blanks around them are read as the same. -/
theorem read?_congr {s s' : String}
    (hparts : (Text.split ',' s.toList).map trim = (Text.split ',' s'.toList).map trim) :
    read? s = read? s' := by
  unfold read?
  generalize Text.split ',' s.toList = as at hparts
  generalize Text.split ',' s'.toList = bs at hparts
  match as, bs, hparts with
  | w :: h :: _, w' :: h' :: _, hparts =>
    obtain ⟨hw, hparts⟩ := List.cons.inj hparts
    simp only [hw, (List.cons.inj hparts).1]
  | [_], [_], _ => rfl
  | [], [], _ => rfl
  | [_], _ :: _ :: _, hparts => exact nomatch (List.cons.inj hparts).2
  | _ :: _ :: _, [_], hparts => exact nomatch (List.cons.inj hparts).2

/-- **Blanks around a coordinate space do not count.** -/
theorem read?_trimmed (s : String) : read? (trimmed s) = read? s := by
  refine read?_congr ?_
  rw [trimmed, String.toList_ofList]
  exact Text.map_trim_split_trim (by decide) s.toList

end LocalCoord

/-- **A coordinate space that is written as it is displayed**, with any blanks around its numbers and any
parts behind them, is one. -/
theorem isCoord_of_displayed (c : LocalCoord) {a b e f more : List Char} (ha : AllBlank a)
    (hb : AllBlank b) (he : AllBlank e) (hf : AllBlank f) (hmore : ∀ x ∈ more.head?, x = ',') :
    IsCoord (a ++ (Text.showInt32 c.width).toList ++ b ++
      ',' :: (e ++ (Text.showInt32 c.height).toList ++ f ++ more)) c := by
  have hcomma : ∀ {ws ws' : List Char} {n : Int32}, AllBlank ws → AllBlank ws' →
      ',' ∉ ws ++ (Text.showInt32 n).toList ++ ws' := by
    intro ws ws' n hws hws'
    simp only [List.mem_append, not_or]
    exact ⟨⟨hws.notMem (by decide), (Text.isNumeral_showInt32 n).comma_notMem⟩, hws'.notMem (by decide)⟩
  have htrim : ∀ {ws ws' : List Char} {n : Int32}, AllBlank ws → AllBlank ws' →
      trim (ws ++ (Text.showInt32 n).toList ++ ws') = (Text.showInt32 n).toList :=
    fun hws hws' => Text.trim_eq_iff.mpr ⟨(Text.isNumeral_showInt32 _).trimmed, _, _, hws, hws', rfl⟩
  refine ⟨_, _, more, rfl, hcomma ha hb, hcomma he hf, hmore, ?_, ?_⟩
  · rw [htrim ha hb]
    exact Text.isNumeral_showInt32 c.width
  · rw [htrim he hf]
    exact Text.isNumeral_showInt32 c.height

theorem isCoord_text (c : LocalCoord) : IsCoord c.text.toList c := by
  have hnil := Text.allBlank_nil
  have h := isCoord_of_displayed c hnil hnil hnil hnil (nofun : ∀ x ∈ ([] : List Char).head?, x = ',')
  simp only [List.append_nil, List.nil_append] at h
  rw [LocalCoord.text, String.toList_append, String.toList_append, List.append_assoc]
  exact h

/-! ## Quotes -/

namespace Ini

/-- What is left behind the first quote holds all quotes but one. -/
theorem count_quote_of_cut {cs before rest : List Char} {x : Char}
    (hcut : Text.cut (· = '"') cs = some (before, x, rest)) : cs.count '"' = rest.count '"' + 1 := by
  obtain ⟨rfl, rfl, hbefore⟩ := Text.cut_sign_eq_some hcut
  rw [List.count_append, List.count_eq_zero.mpr hbefore, List.count_cons_self, Nat.zero_add]

theorem cut_quote_eq_none_iff {cs : List Char} :
    Text.cut (· = '"') cs = none ↔ cs.count '"' = 0 := by
  rw [Text.cut_sign_eq_none_iff, List.count_eq_zero]

/-- **There is something between two quotes if and only if there are two.** -/
theorem betweenQuotes?_eq_none_iff {cs : List Char} :
    betweenQuotes? cs = none ↔ cs.count '"' < 2 := by
  unfold betweenQuotes?
  cases hcut : Text.cut (· = '"') cs with
  | none =>
    have hcount := cut_quote_eq_none_iff.mp hcut
    exact iff_of_true rfl (by omega)
  | some parts =>
    obtain ⟨before, x, rest⟩ := parts
    have hcount := count_quote_of_cut hcut
    rw [Option.map_eq_none_iff, cut_quote_eq_none_iff]
    omega

/-- A value with fewer than two quotes is refused, and no other. -/
theorem unquote_eq_error {v : String} (h : v.toList.count '"' < 2) :
    unquote v = .error (.malformedLiteral v) := by
  rw [unquote, betweenQuotes?_eq_none_iff.mpr h]

theorem exists_unquote_eq_ok {v : String} (h : 2 ≤ v.toList.count '"') : ∃ s, unquote v = .ok s := by
  cases hbetween : betweenQuotes? v.toList with
  | none => exact absurd (betweenQuotes?_eq_none_iff.mp hbetween) (by omega)
  | some cs => exact ⟨String.ofList cs, by rw [unquote, hbetween]⟩

/-- **A text in quotes comes back**, whatever it is but for quotes. -/
theorem unquote_quoted {s : String} (h : '"' ∉ s.toList) :
    unquote (String.ofList ('"' :: (s.toList ++ ['"']))) = .ok s := by
  have hfirst : Text.cut (· = '"') ('"' :: (s.toList ++ ['"'])) = some ([], '"', s.toList ++ ['"']) :=
    Text.cut_sign_append List.not_mem_nil _
  have hsecond : Text.cut (· = '"') (s.toList ++ ['"']) = some (s.toList, '"', []) :=
    Text.cut_sign_append h []
  rw [unquote, String.toList_ofList, betweenQuotes?, hfirst]
  dsimp only
  rw [hsecond, Option.map_some]
  dsimp only
  rw [String.ofList_toList]

end Ini

namespace Character

open Ini (Body Document FirstBody IsKey SaysUnder WrittenFirst)

/-! ## Fields -/

/-- The text stands in quotes, and has none in it. -/
def IsQuoted (written : List Char) (s : String) : Prop :=
  '"' ∉ s.toList ∧ trim written = '"' :: (s.toList ++ ['"'])

/-- The text stands as it is, and is not empty. -/
def IsPlain (written : List Char) (s : String) : Prop := s ≠ "" ∧ trim written = s.toList

/-- What the lines of a section say under a key: nothing, or, in the first of them that says something,
what is written for a value. -/
def SaysField {α : Type} (body : List (List Char)) (key : String)
    (IsWritten : List Char → α → Prop) : Option α → Prop
  | none => ∀ raw ∈ body, ¬ SaysUnder key raw
  | some a => ∃ written, WrittenFirst key body written ∧ IsWritten written a

/-- The keys of the four fields. -/
def infoKeys : List String := ["name", "displayname", "mugenversion", "localcoord"]

theorem isKey_of_mem_infoKeys {key : String} (h : key ∈ infoKeys) : IsKey key := by
  have hall : ∀ key ∈ infoKeys, Text.lowercase key = key ∧ key ≠ "" ∧ '[' ∉ key.toList := by
    decide +kernel
  obtain ⟨hlower, hne, hbracket⟩ := hall key h
  exact ⟨hlower, hne, hbracket⟩

variable {d : Document} {path key : String} {body : List (List Char)} {s : Ini.Section}
  {name? displayName? version? : Option String} {coord? : Option LocalCoord}

/-- **What the lines say under a key is what the document has**, without the blanks around it. -/
theorem SaysField.value? {α : Type} {IsWritten : List Char → α → Prop} {a? : Option α}
    (h : SaysField body key IsWritten a?) (hsection : d.sectionNamed? infoSection = some s)
    (hbody : Body body s.entries) (hkey : key ∈ infoKeys)
    (hne : ∀ {written a}, IsWritten written a → trim written ≠ []) :
    (a? = none ∧ d.value? infoSection key = none) ∨
      ∃ a written, a? = some a ∧ IsWritten written a ∧
        d.value? infoSection key = some (String.ofList (trim written)) := by
  have hiskey := isKey_of_mem_infoKeys hkey
  cases a? with
  | none => exact Or.inl ⟨rfl, Ini.value?_eq_none_of_lines hsection hbody hiskey h⟩
  | some a =>
    obtain ⟨written, hfirst, ha⟩ := h
    exact Or.inr ⟨a, written, rfl, ha,
      Ini.value?_of_writtenFirst hsection hbody hiskey hfirst (hne ha)⟩

theorem quotedOr_of_saysField (h : SaysField body key IsQuoted name?)
    (hsection : d.sectionNamed? infoSection = some s) (hbody : Body body s.entries)
    (hkey : key ∈ infoKeys) (fallback : String) :
    quotedOr d key fallback = .ok (name?.getD fallback) := by
  have hne : ∀ {written a}, IsQuoted written a → trim written ≠ [] := by
    rintro written a ⟨_, hwritten⟩
    rw [hwritten]
    exact List.cons_ne_nil _ _
  rcases h.value? hsection hbody hkey hne with ⟨rfl, hvalue⟩ | ⟨a, written, rfl, ⟨hquote, hwritten⟩, hvalue⟩
  · rw [quotedOr, hvalue]
    rfl
  · rw [quotedOr, hvalue, hwritten]
    dsimp only
    rw [Ini.unquote_quoted hquote]
    rfl

theorem valueOr_of_saysField (h : SaysField body key IsPlain version?)
    (hsection : d.sectionNamed? infoSection = some s) (hbody : Body body s.entries)
    (hkey : key ∈ infoKeys) (fallback : String) :
    d.valueOr infoSection key fallback = version?.getD fallback := by
  have hne : ∀ {written a}, IsPlain written a → trim written ≠ [] := by
    rintro written a ⟨hempty, hwritten⟩ hnil
    rw [hwritten] at hnil
    exact hempty (String.toList_eq_nil_iff.mp hnil)
  rcases h.value? hsection hbody hkey hne with ⟨rfl, hvalue⟩ | ⟨a, written, rfl, ⟨_, hwritten⟩, hvalue⟩
  · rw [Document.valueOr, hvalue, Option.getD_none]
  · rw [Document.valueOr, hvalue, hwritten, String.ofList_toList, Option.getD_some]

theorem read?_of_saysField (h : SaysField body key IsCoord coord?)
    (hsection : d.sectionNamed? infoSection = some s) (hbody : Body body s.entries)
    (hkey : key ∈ infoKeys) :
    LocalCoord.read? (d.valueOr infoSection key "320,240") = some (coord?.getD ⟨320, 240⟩) := by
  have hread : ∀ {written a}, IsCoord written a →
      LocalCoord.read? (String.ofList (trim written)) = some a := by
    intro written a ha
    have hwritten : trimmed (String.ofList written) = String.ofList (trim written) := by
      rw [trimmed, String.toList_ofList]
    rw [← hwritten, LocalCoord.read?_trimmed, LocalCoord.read?_eq_some_iff, String.toList_ofList]
    exact ha
  have hne : ∀ {written a}, IsCoord written a → trim written ≠ [] := by
    intro written a ha hnil
    have hnone : LocalCoord.read? (String.ofList []) = none := by decide +kernel
    have hsome := hread ha
    rw [hnil, hnone] at hsome
    exact Option.some_ne_none a hsome.symm
  rcases h.value? hsection hbody hkey hne with ⟨rfl, hvalue⟩ | ⟨a, written, rfl, ha, hvalue⟩
  · rw [Document.valueOr, hvalue]
    decide +kernel
  · rw [Document.valueOr, hvalue]
    exact hread ha

/-! ## The information -/

/-- Information of which each part can be had. -/
theorem ofDocument_of_parts {name displayName : String} {c : LocalCoord}
    (hname : quotedOr d "name" "New character" = .ok name)
    (hdisplay : quotedOr d "displayname" "NewCharacter" = .ok displayName)
    (hcoord : LocalCoord.read? (d.valueOr infoSection "localcoord" "320,240") = some c) :
    Info.ofDocument d path = .ok ⟨name, displayName, d.valueOr infoSection "mugenversion" "win", c⟩ := by
  rw [Info.ofDocument, hname, hdisplay]
  simp only [bind, Except.bind, hcoord]
  rfl

/-- What is asked of a quoted value, if there is one: that it has two quotes. -/
def TwoQuotes (v? : Option String) : Prop := ∀ v ∈ v?, 2 ≤ v.toList.count '"'

instance (v? : Option String) : Decidable (TwoQuotes v?) :=
  inferInstanceAs (Decidable (∀ v ∈ v?, _))

theorem quotedOr_eq_error {v : String} (h : d.value? infoSection key = some v)
    (hcount : v.toList.count '"' < 2) (fallback : String) :
    quotedOr d key fallback = .error (.ini (.malformedLiteral v)) := by
  rw [quotedOr, h]
  dsimp only
  rw [Ini.unquote_eq_error hcount]
  rfl

theorem exists_quotedOr_eq_ok (h : TwoQuotes (d.value? infoSection key)) (fallback : String) :
    ∃ text, quotedOr d key fallback = .ok text := by
  unfold quotedOr
  cases hvalue : d.value? infoSection key with
  | none => exact ⟨fallback, rfl⟩
  | some v =>
    obtain ⟨text, htext⟩ := Ini.exists_unquote_eq_ok (h v hvalue)
    exact ⟨text, by dsimp only; rw [htext]; rfl⟩

theorem ofDocument_eq_error_of_coord (hname : TwoQuotes (d.value? infoSection "name"))
    (hdisplay : TwoQuotes (d.value? infoSection "displayname"))
    (hcoord : LocalCoord.read? (d.valueOr infoSection "localcoord" "320,240") = none) :
    Info.ofDocument d path =
      .error (.invalidLocalCoord path (d.valueOr infoSection "localcoord" "320,240")) := by
  obtain ⟨name, hname⟩ := exists_quotedOr_eq_ok hname "New character"
  obtain ⟨displayName, hdisplay⟩ := exists_quotedOr_eq_ok hdisplay "NewCharacter"
  rw [Info.ofDocument, hname, hdisplay]
  simp only [bind, Except.bind, hcoord]
  rfl

/-- **The fields that tell what a character is come back as they are written.** Let the lines of a text have
a section `info`, its header in any ASCII case and all headers before and after it closed; and let the lines
of the first such section say, in any order and among any other lines, what they say under each of the four
keys, in any ASCII case: nothing, or first of all a name and a name to be shown in quotes, with anything in
them but quotes, comments and line ends; a version that is not empty; and a coordinate space. Then the text
is read, and its information is what is written, with the default for each field that is left out, and for
no other. A coordinate space may be written as it is displayed, with any blanks around its two numbers and
further parts behind them.

For any document at all: a name with fewer than two quotes fails as malformed, and so does, after that, the
one to be shown; otherwise a coordinate space whose first two parts are not both numbers of 32 bits fails as
invalid; and nothing else fails. -/
theorem identity_comes_back_as_written :
    (∀ (text path : String) (body : List (List Char)) (name? displayName? version? : Option String)
        (coord? : Option LocalCoord), FirstBody infoSection (Text.lines text.toList) body →
      SaysField body "name" IsQuoted name? → SaysField body "displayname" IsQuoted displayName? →
      SaysField body "mugenversion" IsPlain version? → SaysField body "localcoord" IsCoord coord? →
      ∃ d, Document.read text = .ok d ∧ Info.ofDocument d path = .ok ⟨name?.getD "New character",
        displayName?.getD "NewCharacter", version?.getD "win", coord?.getD ⟨320, 240⟩⟩) ∧
    (∀ c : LocalCoord, IsCoord c.text.toList c ∧ ∀ a b e f more, AllBlank a → AllBlank b → AllBlank e →
      AllBlank f → (∀ x ∈ more.head?, x = ',') →
      IsCoord (a ++ (Text.showInt32 c.width).toList ++ b ++
        ',' :: (e ++ (Text.showInt32 c.height).toList ++ f ++ more)) c) ∧
    ∀ (d : Document) (path : String),
      (∀ v, d.value? infoSection "name" = some v → v.toList.count '"' < 2 →
        Info.ofDocument d path = .error (.ini (.malformedLiteral v))) ∧
      (TwoQuotes (d.value? infoSection "name") →
        (∀ v, d.value? infoSection "displayname" = some v → v.toList.count '"' < 2 →
          Info.ofDocument d path = .error (.ini (.malformedLiteral v))) ∧
        (TwoQuotes (d.value? infoSection "displayname") →
          (∀ v, d.value? infoSection "localcoord" = some v → (∀ c, ¬ IsCoord v.toList c) →
            Info.ofDocument d path = .error (.invalidLocalCoord path v)) ∧
          ((∀ v ∈ d.value? infoSection "localcoord", ∃ c, IsCoord v.toList c) →
            ∃ info, Info.ofDocument d path = .ok info))) := by
  have hkeys : "name" ∈ infoKeys ∧ "displayname" ∈ infoKeys ∧ "mugenversion" ∈ infoKeys ∧
      "localcoord" ∈ infoKeys := by decide
  obtain ⟨hnamekey, hdisplaykey, hversionkey, hcoordkey⟩ := hkeys
  refine ⟨fun text path body name? displayName? version? coord? hlines hname hdisplay hversion hcoord => ?_,
    fun c => ⟨isCoord_text c, fun a b e f more ha hb he hf hmore =>
      isCoord_of_displayed c ha hb he hf hmore⟩,
    fun d path => ⟨fun v hv hcount => ?_, fun hname => ⟨fun v hv hcount => ?_, fun hdisplay =>
      ⟨fun v hv hnone => ?_, fun hcoord => ?_⟩⟩⟩⟩
  · obtain ⟨d, s, hdocument, hsection, hbody⟩ := hlines.exists_document (by decide +kernel)
    refine ⟨d, Ini.Document.read_eq_ok_iff.mpr hdocument, ?_⟩
    rw [ofDocument_of_parts (quotedOr_of_saysField hname hsection hbody hnamekey _)
      (quotedOr_of_saysField hdisplay hsection hbody hdisplaykey _)
      (read?_of_saysField hcoord hsection hbody hcoordkey),
      valueOr_of_saysField hversion hsection hbody hversionkey]
  · rw [Info.ofDocument, quotedOr_eq_error hv hcount]
    rfl
  · obtain ⟨name, hname⟩ := exists_quotedOr_eq_ok hname "New character"
    rw [Info.ofDocument, hname, quotedOr_eq_error hv hcount]
    rfl
  · have hvalue : d.valueOr infoSection "localcoord" "320,240" = v := by
      rw [Document.valueOr, hv, Option.getD_some]
    have hread : LocalCoord.read? v = none :=
      Option.eq_none_iff_forall_ne_some.mpr fun c hc => hnone c (LocalCoord.read?_eq_some_iff.mp hc)
    rw [← hvalue] at hread ⊢
    exact ofDocument_eq_error_of_coord hname hdisplay hread
  · obtain ⟨name, hname⟩ := exists_quotedOr_eq_ok hname "New character"
    obtain ⟨displayName, hdisplay⟩ := exists_quotedOr_eq_ok hdisplay "NewCharacter"
    have hread : ∃ c, LocalCoord.read? (d.valueOr infoSection "localcoord" "320,240") = some c := by
      rw [Document.valueOr]
      cases hv : d.value? infoSection "localcoord" with
      | none => exact ⟨⟨320, 240⟩, by decide +kernel⟩
      | some v =>
        obtain ⟨c, hc⟩ := hcoord v hv
        exact ⟨c, LocalCoord.read?_eq_some_iff.mpr hc⟩
    obtain ⟨c, hc⟩ := hread
    exact ⟨_, ofDocument_of_parts hname hdisplay hc⟩

/-- A definition with other lines before, between and behind those of the fields, which stand in no order and
not all there; its second section of the same name has the one that is left out. -/
def scatteredText : String :=
  "; made for 1.1
  [Files]
  name = none
  [INFO] rest

  DisplayName = \" a=[b] \" ; shown
  Author = a
  LOCALCOORD = -2147483648 ,+007, z
  mugenVersion=  1.1 x ;
  name x
  [info]
  name = \"late\""

/-- The lines of the first section. -/
def scatteredBody : List (List Char) :=
  ["".toList, "  DisplayName = \" a=[b] \" ; shown".toList, "  Author = a".toList,
    "  LOCALCOORD = -2147483648 ,+007, z".toList, "  mugenVersion=  1.1 x ;".toList, "  name x".toList]

theorem firstBody_scatteredText :
    FirstBody infoSection (Text.lines scatteredText.toList) scatteredBody := by
  have hlines : Text.lines scatteredText.toList =
      ["; made for 1.1".toList, "  [Files]".toList, "  name = none".toList] ++
        "  [INFO] rest".toList :: (scatteredBody ++ ["  [info]".toList, "  name = \"late\"".toList]) := by
    rw [scatteredText, String.toList_ofList]
    decide +kernel
  rw [hlines]
  refine .intro ?_ (by decide +kernel) ?_ (by decide +kernel) (by decide +kernel) ?_
  · exact (Ini.firstUnclosed_eq_none_iff_closed (k := 1)).mp (by decide +kernel)
  · exact ⟨"INFO".toList, " rest".toList, by decide +kernel, by decide +kernel, by decide +kernel⟩
  · exact (Ini.firstUnclosed_eq_none_iff_closed (k := 1)).mp (by decide +kernel)

/-- A document whose coordinate space is one number. -/
def narrowDocument : Document := ⟨[⟨"info", 0, [⟨"localcoord", "1"⟩]⟩]⟩

/-- The three fields that are there come back, and the name, which is not, has its default; of two other
documents, the one fails because of the quotes of its name, though its coordinate space is none either, and
the other because of that. -/
theorem scattered_fields_come_back :
    (∃ d, Document.read scatteredText = .ok d ∧ Info.ofDocument d "x.def" =
      .ok ⟨"New character", " a=[b] ", "1.1 x", ⟨-2147483648, 7⟩⟩) ∧
    Info.ofDocument ⟨[⟨"info", 0, [⟨"name", "\"x"⟩, ⟨"localcoord", "1"⟩]⟩]⟩ "x.def" =
      .error (.ini (.malformedLiteral "\"x")) ∧
    Info.ofDocument narrowDocument "x.def" = .error (.invalidLocalCoord "x.def" "1") := by
  obtain ⟨hread, _, hfails⟩ := identity_comes_back_as_written
  have hdisplay : SaysField scatteredBody "displayname" IsQuoted (some " a=[b] ") := by
    refine ⟨" \" a=[b] \" ".toList, @WrittenFirst.intro _ (scatteredBody.take 1) _ _ _ ?_
      ⟨"DisplayName ".toList, Ini.hasParts_iff.mpr ⟨" \" a=[b] \" ; shown".toList, ?_, ?_⟩, ?_⟩,
      ?_, ?_⟩ <;> decide +kernel
  have hversion : SaysField scatteredBody "mugenversion" IsPlain (some "1.1 x") := by
    refine ⟨"  1.1 x ".toList, @WrittenFirst.intro _ (scatteredBody.take 4) _ _ _ ?_
      ⟨"mugenVersion".toList, Ini.hasParts_iff.mpr ⟨"  1.1 x ;".toList, ?_, ?_⟩, ?_⟩,
      ?_, ?_⟩ <;> decide +kernel
  have hspace : IsCoord " -2147483648 ,+007, z".toList ⟨-2147483648, 7⟩ := by
    rw [← String.toList_ofList (l := " -2147483648 ,+007, z".toList), ← LocalCoord.read?_eq_some_iff]
    decide +kernel
  have hcoord : SaysField scatteredBody "localcoord" IsCoord (some ⟨-2147483648, 7⟩) := by
    refine ⟨_, @WrittenFirst.intro _ (scatteredBody.take 3) _ _ _ ?_
      ⟨"LOCALCOORD ".toList, Ini.hasParts_iff.mpr ⟨" -2147483648 ,+007, z".toList, ?_, ?_⟩, ?_⟩,
      hspace⟩ <;> decide +kernel
  have hname : ∀ raw ∈ scatteredBody, ¬ SaysUnder "name" raw := by decide +kernel
  refine ⟨hread scatteredText "x.def" _ none _ _ _ firstBody_scatteredText hname hdisplay hversion
    hcoord, (hfails _ _).1 _ (by decide +kernel) (by decide +kernel), ?_⟩
  obtain ⟨_, hrest⟩ := hfails narrowDocument "x.def"
  have hquotes : TwoQuotes (narrowDocument.value? infoSection "name") ∧
      TwoQuotes (narrowDocument.value? infoSection "displayname") := by decide +kernel
  have hnone : LocalCoord.read? "1" = none := by decide +kernel
  refine ((hrest hquotes.1).2 hquotes.2).1 _ (by decide +kernel) fun c hc => ?_
  rw [← LocalCoord.read?_eq_some_iff, hnone] at hc
  exact nomatch hc

end Character

end FighterCheck
