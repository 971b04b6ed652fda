import FighterCheck.Encoding.TextEncoding
import FighterCheck.Proofs.Encoding.Utf16

/-!
# Which encoding is found

A file is told to be in the encoding whose mark it begins with, or else in UTF-8 if it is well formed so.
What is written in one of the Unicode encodings is told to be in that one, since the mark is that of the
charset and no text in UTF-8 begins with a mark but for one that begins with the character of it, U+FEFF
(`decode_marked`, `decode_plain_iff`). `IsUnicode` says of octets, without any decoder, that they are
well formed in one of these encodings; `isUnicode_iff` says that these are the files that are told to
be in one of them and are written again as they were.
-/

namespace FighterCheck.Encoding

/-! ## Charsets of Unicode -/

/-- **What is written in a charset of Unicode is read.** -/
theorem Charset.decode_encode {charset : Charset} (h : charset ≠ .shiftJis) (cs : List Char) :
    charset.decode (charset.encode cs) = cs.map some := by
  cases charset with
  | utf8 => exact Utf8.decode_encode cs
  | utf16 order => exact Utf16.decode_encode order cs
  | shiftJis => exact absurd rfl h

theorem Charset.encode_cons {charset : Charset} (h : charset ≠ .shiftJis) (x : Char)
    (cs : List Char) : charset.encode (x :: cs) = charset.encode [x] ++ charset.encode cs := by
  cases charset with
  | utf8 => simp [Charset.encode, Utf8.encode]
  | utf16 order => simp [Charset.encode, Utf16.encode]
  | shiftJis => exact absurd rfl h

/-- **The mark of a charset is the character U+FEFF in it.** -/
theorem Charset.encode_mark {charset : Charset} (h : charset ≠ .shiftJis) (cs : List Char) :
    charset.encode ('\ufeff' :: cs) = charset.mark ++ charset.encode cs := by
  rw [Charset.encode_cons h]
  cases charset with
  | utf8 => rfl
  | utf16 order => cases order <;> rfl
  | shiftJis => exact absurd rfl h

theorem Decoded.lenient_map_some (cs : List Char) : Decoded.lenient (cs.map some) = cs :=
  Decoded.lenient_of_strict? (Decoded.strict?_eq_some_iff.mpr rfl)

namespace TextEncoding

/-! ## Marks -/

theorem ofMark?_eq_some_iff {octets rest : List UInt8} {charset : Charset} :
    ofMark? octets = some (charset, rest) ↔
      charset ≠ .shiftJis ∧ octets = charset.mark ++ rest := by
  constructor
  · intro h
    unfold ofMark? at h
    split at h
    · obtain ⟨rfl, rfl⟩ := Prod.mk.inj (Option.some.inj h)
      exact ⟨nofun, rfl⟩
    · obtain ⟨rfl, rfl⟩ := Prod.mk.inj (Option.some.inj h)
      exact ⟨nofun, rfl⟩
    · obtain ⟨rfl, rfl⟩ := Prod.mk.inj (Option.some.inj h)
      exact ⟨nofun, rfl⟩
    · exact nomatch h
  · rintro ⟨h, rfl⟩
    cases charset with
    | utf8 => rfl
    | utf16 order => cases order <;> rfl
    | shiftJis => exact absurd rfl h

/-- **A text behind its mark** is read, and its encoding found. -/
theorem decode_marked {charset : Charset} (h : charset ≠ .shiftJis) (cs : List Char) :
    decode (charset.mark ++ charset.encode cs) = (cs, ⟨charset, true⟩) := by
  rw [decode, ofMark?_eq_some_iff.mpr ⟨h, rfl⟩]
  dsimp only
  rw [Charset.decode_encode h, Decoded.lenient_map_some]

/-- A text in UTF-8 begins with no mark, unless it begins with the character U+FEFF. -/
theorem ofMark?_encode_eq_none {cs : List Char} (h : cs.head? ≠ some '\ufeff') :
    ofMark? (Utf8.encode cs) = none := by
  cases hmark : ofMark? (Utf8.encode cs) with
  | none => rfl
  | some m =>
    obtain ⟨charset, rest⟩ := m
    obtain ⟨hcharset, hsplit⟩ := ofMark?_eq_some_iff.mp hmark
    have hread := Utf8.decode_encode cs
    rw [hsplit] at hread
    cases charset with
    | utf8 =>
      have hfirst : Utf8.decode ([0xEF, 0xBB, 0xBF] ++ rest) = some '\ufeff' :: Utf8.decode rest :=
        Utf8.decode_encodeChar_append '\ufeff' rest
      rw [show Charset.mark .utf8 = [0xEF, 0xBB, 0xBF] from rfl, hfirst] at hread
      cases cs with
      | nil => exact absurd hread (List.cons_ne_nil _ _)
      | cons x cs => exact absurd (congrArg some (Option.some.inj (List.cons.inj hread).1)).symm h
    | utf16 order =>
      -- neither octet of these marks begins a character
      have hfirst : ∃ d, Utf8.decode ((Charset.utf16 order).mark ++ rest) = none :: d := by
        cases order <;> exact ⟨_, by rw [Charset.mark, List.cons_append, Utf8.decode]; rfl⟩
      obtain ⟨d, hd⟩ := hfirst
      rw [hd] at hread
      cases cs with
      | nil => exact absurd hread (List.cons_ne_nil _ _)
      | cons x cs => exact absurd (List.cons.inj hread).1.symm (Option.some_ne_none x)
    | shiftJis => exact absurd rfl hcharset

theorem decode_of_ofMark?_eq_none {octets : List UInt8} {cs : List Char}
    (h : ofMark? octets = none) (hcs : Utf8.decode octets = cs.map some) :
    decode octets = (cs, plain) := by
  rw [decode, h]
  dsimp only
  rw [Decoded.strict?_eq_some_iff.mpr hcs]

/-- **A text in UTF-8 without a mark** is read, and its encoding found, if and only if it does not begin
with the character U+FEFF. -/
theorem decode_plain_iff {cs : List Char} :
    decode (Utf8.encode cs) = (cs, plain) ↔ cs.head? ≠ some '\ufeff' := by
  refine ⟨fun h hhead => ?_, fun h =>
    decode_of_ofMark?_eq_none (ofMark?_encode_eq_none h) (Utf8.decode_encode cs)⟩
  obtain ⟨rest, rfl⟩ := List.head?_eq_some_iff.mp hhead
  have hmarked : decode (Utf8.encode ('\ufeff' :: rest)) = (rest, ⟨.utf8, true⟩) := by
    have hutf8 : Charset.utf8 ≠ .shiftJis := nofun
    rw [← decode_marked hutf8 rest, ← Charset.encode_mark hutf8]
    rfl
  rw [hmarked] at h
  exact nomatch congrArg TextEncoding.marked (Prod.mk.inj h).2

/-! ## Files in Unicode -/

/-- The encodings of Unicode that a file can be told to be in. -/
def unicode : List TextEncoding := [plain, ⟨.utf8, true⟩, ⟨.utf16 .little, true⟩, ⟨.utf16 .big, true⟩]

theorem charset_ne_of_mem_unicode {e : TextEncoding} (h : e ∈ unicode) : e.charset ≠ .shiftJis := by
  simp only [unicode, List.mem_cons, List.not_mem_nil, or_false] at h
  rcases h with rfl | rfl | rfl | rfl <;> exact nofun

/-- An encoding of Unicode is UTF-8 without a mark, or it has one. -/
theorem eq_plain_or_marked_of_mem_unicode {e : TextEncoding} (h : e ∈ unicode) :
    e = plain ∨ e = ⟨e.charset, true⟩ := by
  simp only [unicode, List.mem_cons, List.not_mem_nil, or_false] at h
  rcases h with rfl | rfl | rfl | rfl <;> simp

/-- **What is written in an encoding of Unicode** is read, and the encoding found, with the one exception
of a text in UTF-8 that has no mark and begins with U+FEFF. -/
theorem decode_encode_iff {e : TextEncoding} (h : e ∈ unicode) (cs : List Char) :
    decode (e.encode cs) = (cs, e) ↔ ¬ (e = plain ∧ cs.head? = some '\ufeff') := by
  rcases eq_plain_or_marked_of_mem_unicode h with rfl | he
  · rw [and_iff_right rfl]
    exact decode_plain_iff
  · have hmarked : e.marked = true := congrArg marked he
    have hne : e ≠ plain := by
      rintro rfl
      exact absurd hmarked (by decide)
    refine iff_of_true ?_ fun hno => hne hno.1
    rw [encode, if_pos hmarked, decode_marked (charset_ne_of_mem_unicode h), ← he]

/-- The octets are well formed in one of the encodings of Unicode; where there is no mark, they are not
mistaken for others that have one. -/
inductive IsUnicode : List UInt8 → Prop where
  /-- UTF-8 without a mark -/
  | plain {octets : List UInt8} (h : Utf8.WellFormed octets)
    (hmark : ¬ [0xEF, 0xBB, 0xBF] <+: octets) : IsUnicode octets
  /-- UTF-8 behind its mark -/
  | utf8 {octets : List UInt8} (h : Utf8.WellFormed octets) :
    IsUnicode (0xEF :: 0xBB :: 0xBF :: octets)
  /-- UTF-16 with the less significant octets first, behind its mark -/
  | little {octets : List UInt8} (h : Utf16.WellFormed .little octets) :
    IsUnicode (0xFF :: 0xFE :: octets)
  /-- UTF-16 with the more significant octets first, behind its mark -/
  | big {octets : List UInt8} (h : Utf16.WellFormed .big octets) :
    IsUnicode (0xFE :: 0xFF :: octets)

/-- The well-formed octets in an encoding of Unicode are those that are written in it and read again. -/
theorem isUnicode_iff_exists {octets : List UInt8} :
    IsUnicode octets ↔
      ∃ e ∈ unicode, ∃ cs, octets = e.encode cs ∧ ¬ (e = .plain ∧ cs.head? = some '\ufeff') := by
  constructor
  · intro h
    cases h with
    | plain h hmark =>
      obtain ⟨cs, rfl⟩ := Utf8.exists_encode_of_wellFormed h
      refine ⟨.plain, by simp [unicode], cs, rfl, fun ⟨_, hhead⟩ => hmark ?_⟩
      obtain ⟨rest, rfl⟩ := List.head?_eq_some_iff.mp hhead
      exact ⟨Utf8.encode rest, rfl⟩
    | utf8 h =>
      obtain ⟨cs, rfl⟩ := Utf8.exists_encode_of_wellFormed h
      exact ⟨⟨.utf8, true⟩, by simp [unicode], cs, rfl, fun h => nomatch h.1⟩
    | little h =>
      obtain ⟨cs, rfl⟩ := Utf16.exists_encode_of_wellFormed h
      exact ⟨⟨.utf16 .little, true⟩, by simp [unicode], cs, rfl, fun h => nomatch h.1⟩
    | big h =>
      obtain ⟨cs, rfl⟩ := Utf16.exists_encode_of_wellFormed h
      exact ⟨⟨.utf16 .big, true⟩, by simp [unicode], cs, rfl, fun h => nomatch h.1⟩
  · rintro ⟨e, he, cs, rfl, hno⟩
    simp only [unicode, List.mem_cons, List.not_mem_nil, or_false] at he
    rcases he with rfl | rfl | rfl | rfl
    · refine .plain (Utf8.wellFormed_encode cs) fun ⟨rest, hrest⟩ => ?_
      have hnone := ofMark?_encode_eq_none fun hhead => hno ⟨rfl, hhead⟩
      rw [show Utf8.encode cs = [0xEF, 0xBB, 0xBF] ++ rest from hrest.symm] at hnone
      exact nomatch hnone
    · exact .utf8 (Utf8.wellFormed_encode cs)
    · exact .little (Utf16.wellFormed_encode .little cs)
    · exact .big (Utf16.wellFormed_encode .big cs)

/-- **The files in Unicode** are those that are told to be in an encoding of Unicode and are written
again as they were. -/
theorem isUnicode_iff {octets : List UInt8} :
    IsUnicode octets ↔
      (decode octets).2 ∈ unicode ∧ (decode octets).2.encode (decode octets).1 = octets := by
  rw [isUnicode_iff_exists]
  constructor
  · rintro ⟨e, he, cs, rfl, hno⟩
    rw [(decode_encode_iff he cs).mpr hno]
    exact ⟨he, rfl⟩
  · rintro ⟨he, hwritten⟩
    refine ⟨_, he, _, hwritten.symm, ?_⟩
    rw [← decode_encode_iff he, hwritten]

end TextEncoding

end FighterCheck.Encoding
