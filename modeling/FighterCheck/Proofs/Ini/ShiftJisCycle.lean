import FighterCheck.Proofs.Encoding.ShiftJis
import FighterCheck.Proofs.Ini.FileCycle

/-!
# A file in Shift_JIS, read and written back

What is read in Shift_JIS is written in it again, and then the encoding is told afresh from the octets that
were written. These begin with no mark (`hasNoMark_encode`), but they need not be the octets that were
read, as some characters are read from two cells and written to one; and they can be well formed in
UTF-8, where those that were read were not. A text that is read from them as UTF-8 is never the one
that was written, as only ASCII is written alike in both (`decode_rewritten_iff`).
-/

namespace FighterCheck

namespace Encoding

open ShiftJis (IsPrivate Readable)

variable {octets : List UInt8} {cs : List Char}

/-- Shift_JIS without a mark, and there is none. -/
def TextEncoding.shiftJis : TextEncoding := ⟨.shiftJis, false⟩

namespace TextEncoding

theorem encode_shiftJis (cs : List Char) : shiftJis.encode cs = ShiftJis.encode cs := rfl

/-- The octets begin with none of the marks. -/
def HasNoMark (octets : List UInt8) : Prop :=
  ∀ charset : Charset, charset ≠ .shiftJis → ¬ charset.mark <+: octets

theorem ofMark?_eq_none_iff : ofMark? octets = none ↔ HasNoMark octets := by
  constructor
  · rintro h charset hcharset ⟨rest, hsplit⟩
    rw [ofMark?_eq_some_iff.mpr ⟨hcharset, hsplit.symm⟩] at h
    exact nomatch h
  · intro h
    cases hmark : ofMark? octets with
    | none => rfl
    | some m =>
      obtain ⟨hcharset, hsplit⟩ := ofMark?_eq_some_iff.mp hmark
      exact absurd ⟨m.2, hsplit.symm⟩ (h m.1 hcharset)

instance (octets : List UInt8) : Decidable (HasNoMark octets) :=
  decidable_of_iff _ ofMark?_eq_none_iff

/-- No character that is read begins with an octet of a mark when it is written. -/
theorem exists_head_octetsOf {c : Char} (h : Readable c) :
    ∃ o s, ShiftJis.octetsOf c = o :: s ∧ o.toNat ≠ 0xEF ∧ o.toNat ≠ 0xFE ∧ o.toNat ≠ 0xFF := by
  have hwritten := ShiftJis.written_octetsOf h
  generalize ShiftJis.octetsOf c = s at hwritten ⊢
  cases hwritten with
  | ascii hc =>
    refine ⟨_, _, rfl, ?_⟩
    rw [toNat_toUInt8 (by omega)]
    omega
  | kana _ o ho => exact ⟨_, _, rfl, by omega, by omega, by omega⟩
  | pair _ lead trail hlead => exact ⟨_, _, rfl, by omega, by omega, by omega⟩
  | reference => exact ⟨_, _, rfl, by decide, by decide, by decide⟩

/-- **What is written in Shift_JIS begins with no mark**, if it is a text that was read. -/
theorem hasNoMark_encode (h : ∀ c ∈ cs, Readable c) : HasNoMark (ShiftJis.encode cs) := by
  intro charset hcharset hmark
  cases cs with
  | nil =>
    have hnil := List.prefix_nil.mp hmark
    cases charset with
    | utf8 => exact nomatch hnil
    | utf16 order => cases order <;> exact nomatch hnil
    | shiftJis => exact hcharset rfl
  | cons c cs =>
    obtain ⟨o, s, hoctets, h8, h16, h16'⟩ := exists_head_octetsOf (h c List.mem_cons_self)
    rw [ShiftJis.encode_cons, hoctets, List.cons_append] at hmark
    cases charset with
    | utf8 =>
      obtain ⟨rfl, _⟩ := List.cons_prefix_cons.mp hmark
      exact h8 rfl
    | utf16 order =>
      cases order with
      | little =>
        obtain ⟨rfl, _⟩ := List.cons_prefix_cons.mp hmark
        exact h16' rfl
      | big =>
        obtain ⟨rfl, _⟩ := List.cons_prefix_cons.mp hmark
        exact h16 rfl
    | shiftJis => exact hcharset rfl

/-- Octets without a mark that are not well formed in UTF-8 are taken for Shift_JIS. -/
theorem decode_shiftJis (hmark : HasNoMark octets) (hutf8 : ¬ Utf8.WellFormed octets) :
    decode octets = ((ShiftJis.decode octets).lenient, shiftJis) := by
  rw [decode, ofMark?_eq_none_iff.mpr hmark]
  dsimp only
  cases hstrict : (Utf8.decode octets).strict? with
  | none => rfl
  | some cs => exact absurd (Utf8.wellFormed_iff.mpr ⟨cs, hstrict⟩) hutf8

/-- **A text that was read in Shift_JIS is read again** after it has been written if and only if it has no
private character and what is written is not well formed in UTF-8; and then the encoding is found
again. -/
theorem decode_rewritten_iff (hutf8 : ¬ Utf8.WellFormed octets)
    (hcs : (ShiftJis.decode octets).strict? = some cs) :
    ((decode (shiftJis.encode cs)).1 = cs ↔
      (∀ c ∈ cs, ¬ IsPrivate c) ∧ ¬ Utf8.WellFormed (ShiftJis.encode cs)) ∧
    (¬ Utf8.WellFormed (ShiftJis.encode cs) → (decode (shiftJis.encode cs)).2 = shiftJis) := by
  rw [Decoded.strict?_eq_some_iff] at hcs
  have hreadable := ShiftJis.readable_of_decode hcs
  have hmark := hasNoMark_encode hreadable
  rw [encode_shiftJis]
  by_cases hwf : Utf8.WellFormed (ShiftJis.encode cs)
  · -- the text would be written alike in both encodings, and so be ASCII, and so be UTF-8 already
    obtain ⟨cs', hcs'⟩ := Utf8.exists_encode_of_wellFormed hwf
    have hread : decode (ShiftJis.encode cs) = (cs', plain) := by
      rw [← hcs'] at hmark ⊢
      exact decode_of_ofMark?_eq_none (ofMark?_eq_none_iff.mpr hmark) (Utf8.decode_encode cs')
    refine ⟨iff_of_false (fun heq => hutf8 ?_) fun h => h.2 hwf, fun h => absurd hwf h⟩
    rw [hread] at heq
    rw [show cs' = cs from heq] at hcs'
    exact ShiftJis.wellFormed_of_decode hcs (ShiftJis.isAscii_of_encode_eq hreadable hcs'.symm)
  · have hread : decode (ShiftJis.encode cs) = (cs.flatMap ShiftJis.rewritten, shiftJis) := by
      rw [decode_shiftJis hmark hwf, ShiftJis.decode_encode hreadable, Decoded.lenient_map_some]
    rw [hread, and_iff_left hwf]
    exact ⟨ShiftJis.flatMap_rewritten_eq_self_iff, fun _ => rfl⟩

end TextEncoding

end Encoding

namespace Ini

open Encoding Files

/-- **A file in Shift_JIS keeps its text when it is read and written back** if and only if the text has no
private character and what is written is not well formed in UTF-8. Octets that begin with no mark, are
not well formed in UTF-8 and hold no malformed sequence in Shift_JIS are read in that encoding; they can
be written back, and what is read then is the same text under just these two conditions, and in the same
encoding. -/
theorem shift_jis_keeps_text_iff_written_and_not_utf8 {octets : List UInt8} {cs : List Char}
    (hmark : TextEncoding.HasNoMark octets) (hutf8 : ¬ Utf8.WellFormed octets)
    (hcs : (ShiftJis.decode octets).strict? = some cs) :
    TextEncoding.decode octets = (cs, .shiftJis) ∧
    ((TextEncoding.decode (TextEncoding.shiftJis.encode cs)).1 = cs ↔
      (∀ c ∈ cs, ¬ ShiftJis.IsPrivate c) ∧ ¬ Utf8.WellFormed (ShiftJis.encode cs)) ∧
    ∀ (f : SourceFile) (t : Tree), t.read f.path = .ok octets →
      ∃ t' raw, f.readRaw t = .ok ⟨String.ofList cs, .shiftJis⟩ ∧
        f.writeRaw ⟨String.ofList cs, .shiftJis⟩ t = .ok t' ∧ f.readRaw t' = .ok raw ∧
        (raw.text = String.ofList cs ↔
          (∀ c ∈ cs, ¬ ShiftJis.IsPrivate c) ∧ ¬ Utf8.WellFormed (ShiftJis.encode cs)) ∧
        (¬ Utf8.WellFormed (ShiftJis.encode cs) → raw.encoding = .shiftJis) := by
  have hread : TextEncoding.decode octets = (cs, .shiftJis) := by
    rw [TextEncoding.decode_shiftJis hmark hutf8, Decoded.lenient_of_strict? hcs]
  obtain ⟨htext, hencoding⟩ := TextEncoding.decode_rewritten_iff hutf8 hcs
  refine ⟨hread, htext, fun f t hfile => ?_⟩
  obtain ⟨t', hwrite⟩ := Tree.exists_write_of_read hfile (TextEncoding.shiftJis.encode cs)
  refine ⟨t', _, ?_, ?_, SourceFile.readRaw_of_read (Tree.read_write hwrite), ?_, hencoding⟩
  · rw [SourceFile.readRaw_of_read hfile, hread]
  · rw [SourceFile.writeRaw_eq_ok_iff, String.toList_ofList]
    exact hwrite
  · rw [String.ofList_inj]
    exact htext

/-- Half-width kana keep their text, and the file its encoding. -/
theorem half_width_kana_keep_their_text :
    (TextEncoding.HasNoMark [0xB6, 0xC5] ∧ ¬ Utf8.WellFormed [0xB6, 0xC5] ∧
      (ShiftJis.decode [0xB6, 0xC5]).strict? = some ['ｶ', 'ﾅ']) ∧
    (TextEncoding.decode (TextEncoding.shiftJis.encode ['ｶ', 'ﾅ'])).1 = ['ｶ', 'ﾅ'] ∧
    ∃ t' raw,
      SourceFile.writeRaw ⟨"st", "a.st"⟩ ⟨String.ofList ['ｶ', 'ﾅ'], .shiftJis⟩
        ⟨[(⟨.above 0, ["a.st"]⟩, .file [0xB6, 0xC5])]⟩ = .ok t' ∧
      SourceFile.readRaw ⟨"st", "a.st"⟩ t' = .ok raw ∧ raw.text = String.ofList ['ｶ', 'ﾅ'] ∧
      raw.encoding = .shiftJis := by
  have hmark : TextEncoding.HasNoMark [0xB6, 0xC5] := by decide
  have hutf8 : ¬ Utf8.WellFormed [0xB6, 0xC5] := by decide +kernel
  have hread : (ShiftJis.decode [0xB6, 0xC5]).strict? = some ['ｶ', 'ﾅ'] := by decide
  have hwritten : ShiftJis.encode ['ｶ', 'ﾅ'] = [0xB6, 0xC5] := by decide
  have hprivate : (['ｶ', 'ﾅ'].all fun c => !decide (ShiftJis.IsPrivate c)) = true := by decide
  have hkept : (∀ c ∈ ['ｶ', 'ﾅ'], ¬ ShiftJis.IsPrivate c) ∧
      ¬ Utf8.WellFormed (ShiftJis.encode ['ｶ', 'ﾅ']) :=
    ⟨by simpa only [List.all_eq_true, Bool.not_eq_true', decide_eq_false_iff_not] using hprivate,
      hwritten ▸ hutf8⟩
  obtain ⟨_, htext, hfile⟩ := shift_jis_keeps_text_iff_written_and_not_utf8 hmark hutf8 hread
  obtain ⟨t', raw, _, hwrite, hreread, hraw, hencoding⟩ :=
    hfile ⟨"st", "a.st"⟩ ⟨[(⟨.above 0, ["a.st"]⟩, .file [0xB6, 0xC5])]⟩ rfl
  exact ⟨⟨hmark, hutf8, hread⟩, htext.mpr hkept, t', raw, hwrite, hreread, hraw.mpr hkept,
    hencoding hkept.2⟩

/-- The sign `≡` is written where it stands in the second row. -/
theorem encodeChar?_identical : ShiftJis.encodeChar? '≡' = some [0x81, 0xDF] := by
  obtain ⟨first, text, rest, hdata, hfirst, hfound⟩ : ∃ first text rest,
      writtenData = [(1, first)] ++ (2, text) :: rest ∧ '≡' ∉ first.toList ∧
        (cellsOf text).findIdx? (· == some '≡') = some 64 := by
    refine ⟨_, _, _, rfl, ?_, ?_⟩
    · rw [String.toList_ofList]
      decide +kernel
    · rw [cellsOf, String.toList_ofList]
      decide +kernel
  have hof : kutenOf? '≡' = some (2, 65) :=
    kutenOf?_of_first hdata (List.forall_mem_singleton.mpr hfirst) hfound
  rw [ShiftJis.encodeChar?_of_isSetChar (by decide), hof]
  rfl

/-- It stands in the row of additional signs, too. -/
theorem pair?_identical : ShiftJis.pair? 0x87 0x91 = some '≡' := by
  obtain ⟨text, hrow, hcell⟩ : ∃ text, (13, text) ∈ kutenSigns ∧ text.toList[80]? = some '≡' := by
    refine ⟨_, List.mem_of_getElem? (i := 8) rfl, ?_⟩
    rw [String.toList_ofList]
    decide +kernel
  have hwritten : (13, text) ∈ writtenData :=
    List.mem_append_left _ (List.mem_append_left _ (List.mem_append_left _ hrow))
  have hchar : kutenChar? 13 81 = some '≡' := by
    rw [kutenChar?, lookup_of_mem (List.mem_append_left _ hwritten), Option.bind_some, cellsOf,
      List.getElem?_map, hcell]
    rfl
  rw [ShiftJis.pair?, show ShiftJis.pointer? 0x87 0x91 = some 1208 by decide, Option.bind_some,
    ShiftJis.charAt?, if_neg (by decide)]
  exact hchar

/-- Two texts that are not read again after they have been written: a private character, which is read as a
reference, and three characters, one of which stands in two rows, that are taken for two in UTF-8. -/
theorem private_and_twofold_characters_read_otherwise :
    (TextEncoding.HasNoMark [0xF0, 0x40] ∧ ¬ Utf8.WellFormed [0xF0, 0x40] ∧
      (ShiftJis.decode [0xF0, 0x40]).strict? = some ['\ue000'] ∧
      (TextEncoding.decode (TextEncoding.shiftJis.encode ['\ue000'])).1 =
        ['&', '#', '5', '7', '3', '4', '4', ';']) ∧
    TextEncoding.HasNoMark [0xC2, 0x87, 0x91, 0xA1] ∧ ¬ Utf8.WellFormed [0xC2, 0x87, 0x91, 0xA1] ∧
      (ShiftJis.decode [0xC2, 0x87, 0x91, 0xA1]).strict? = some ['ﾂ', '≡', '｡'] ∧
      (TextEncoding.decode (TextEncoding.shiftJis.encode ['ﾂ', '≡', '｡'])).1 =
        ['\u0081', '\u07e1'] := by
  have hprivate : TextEncoding.shiftJis.encode ['\ue000'] =
      [0x26, 0x23, 0x35, 0x37, 0x33, 0x34, 0x34, 0x3B] := by
    rw [TextEncoding.encode_shiftJis, ShiftJis.encode_cons, ShiftJis.octetsOf_private (by decide)]
    decide
  have htwofold : TextEncoding.shiftJis.encode ['ﾂ', '≡', '｡'] = [0xC2, 0x81, 0xDF, 0xA1] := by
    rw [TextEncoding.encode_shiftJis, ShiftJis.encode_cons, ShiftJis.encode_cons, ShiftJis.octetsOf,
      ShiftJis.octetsOf, encodeChar?_identical]
    rfl
  have hdecoded : ShiftJis.decode [0xC2, 0x87, 0x91, 0xA1] = [some 'ﾂ', some '≡', some '｡'] := by
    rw [ShiftJis.decode, ShiftJis.decodeAfter, if_neg (by decide), ShiftJis.decodeAfter,
      if_pos (by decide), ShiftJis.decodeAfter, pair?_identical]
    rfl
  refine ⟨⟨by decide, by decide +kernel, by decide, ?_⟩, by decide, by decide +kernel, ?_, ?_⟩
  · rw [hprivate]
    decide +kernel
  · rw [hdecoded]
    rfl
  · rw [htwofold]
    decide +kernel

end Ini

end FighterCheck
