import FighterCheck.Ini.SourceFile
import FighterCheck.Proofs.Encoding.Detection
import FighterCheck.Proofs.Files.Writing

/-!
# Reading a file and writing it back

A text is read from a file along with the encoding it is found in, and written back in that one. For the
encodings of Unicode nothing is lost on either way: a file that is read and written back holds the
octets that it held (`exists_writeRaw_of_isUnicode`), and a text that is written and read comes back
with its encoding (`readRaw_of_writeRaw`).
-/

namespace FighterCheck.Ini

open Encoding Files

namespace SourceFile

variable {f : SourceFile} {raw : RawText} {t t' : Tree} {octets : List UInt8}

theorem readRaw_of_read (h : t.read f.path = .ok octets) :
    f.readRaw t =
      .ok ⟨String.ofList (TextEncoding.decode octets).1, (TextEncoding.decode octets).2⟩ := by
  rw [readRaw, h]

theorem writeRaw_eq_ok_iff :
    f.writeRaw raw t = .ok t' ↔ t.write f.path (raw.encoding.encode raw.text.toList) = .ok t' := by
  unfold writeRaw
  cases t.write f.path (raw.encoding.encode raw.text.toList) with
  | error fault => exact iff_of_false (fun h => nomatch h) (fun h => nomatch h)
  | ok t₁ => simp

/-- **What has been written to a file** in an encoding of Unicode is read from it, and its encoding
found. -/
theorem readRaw_of_writeRaw (he : raw.encoding ∈ TextEncoding.unicode)
    (hno : ¬ (raw.encoding = .plain ∧ raw.text.toList.head? = some '\ufeff'))
    (h : f.writeRaw raw t = .ok t') : f.readRaw t' = .ok raw := by
  have hread := Tree.read_write (writeRaw_eq_ok_iff.mp h)
  rw [readRaw_of_read hread, (TextEncoding.decode_encode_iff he _).mpr hno, String.ofList_toList]

/-- **A file in Unicode** holds the same octets after it has been read and written back. -/
theorem exists_writeRaw_of_isUnicode (h : t.read f.path = .ok octets)
    (hoctets : TextEncoding.IsUnicode octets) :
    ∃ raw t', f.readRaw t = .ok raw ∧ f.writeRaw raw t = .ok t' ∧ t'.read f.path = .ok octets := by
  obtain ⟨t', hwrite⟩ := Tree.exists_write_of_read h octets
  -- what is written is what was read, since the octets are in Unicode
  refine ⟨_, t', readRaw_of_read h, writeRaw_eq_ok_iff.mpr ?_, Tree.read_write hwrite⟩
  rw [String.toList_ofList, (TextEncoding.isUnicode_iff.mp hoctets).2]
  exact hwrite

end SourceFile

/-- **Texts in Unicode come through reading and writing unchanged.** A text in an encoding of Unicode is
decoded to itself, and its encoding found, but for one without a mark that begins with U+FEFF; a mark is
put before the text and taken away again just once, as if it were one more U+FEFF. The octets that are
well formed in one of these encodings are those that are decoded to a text in one of them and encoded
as they were. So a file of such octets holds the same ones after it has been read and written back,
and a text that has been written to a file is read from it. -/
theorem unicode_survives_reading_and_writing :
    (∀ e ∈ TextEncoding.unicode, ∀ cs : List Char,
      TextEncoding.decode (e.encode cs) = (cs, e) ↔ ¬ (e = .plain ∧ cs.head? = some '\ufeff')) ∧
    (∀ charset : Charset, charset ≠ .shiftJis → ∀ cs : List Char,
      TextEncoding.encode ⟨charset, true⟩ cs = charset.encode ('\ufeff' :: cs) ∧
        TextEncoding.decode (charset.encode ('\ufeff' :: cs)) = (cs, ⟨charset, true⟩)) ∧
    (∀ octets : List UInt8, TextEncoding.IsUnicode octets ↔
      (TextEncoding.decode octets).2 ∈ TextEncoding.unicode ∧
        (TextEncoding.decode octets).2.encode (TextEncoding.decode octets).1 = octets) ∧
    ∀ f : SourceFile,
      (∀ t octets, t.read f.path = .ok octets → TextEncoding.IsUnicode octets →
        ∃ raw t', f.readRaw t = .ok raw ∧ f.writeRaw raw t = .ok t' ∧ t'.read f.path = .ok octets) ∧
      ∀ raw t t', raw.encoding ∈ TextEncoding.unicode →
        ¬ (raw.encoding = .plain ∧ raw.text.toList.head? = some '\ufeff') →
        f.writeRaw raw t = .ok t' → f.readRaw t' = .ok raw := by
  refine ⟨fun e he cs => TextEncoding.decode_encode_iff he cs, fun charset h cs => ?_,
    fun octets => TextEncoding.isUnicode_iff, fun f =>
    ⟨fun t octets => SourceFile.exists_writeRaw_of_isUnicode, fun raw t t' =>
      SourceFile.readRaw_of_writeRaw⟩⟩
  rw [Charset.encode_mark h]
  exact ⟨rfl, TextEncoding.decode_marked h cs⟩

/-- A file in UTF-16 with the more significant octets first: its mark, U+FEFF once more, and a
character outside the first plane. -/
def markedTwice : List UInt8 := [0xFE, 0xFF, 0xFE, 0xFF, 0xD8, 0x3D, 0xDE, 0x00]

/-- The second U+FEFF is part of the text, and the file is written back as it was; without a mark, such
a text in UTF-8 is not read as it was written. -/
theorem markedTwice_survives_reading_and_writing :
    TextEncoding.decode markedTwice = (['\ufeff', '😀'], ⟨.utf16 .big, true⟩) ∧
    TextEncoding.encode ⟨.utf16 .big, true⟩ ['\ufeff', '😀'] = markedTwice ∧
    TextEncoding.decode (TextEncoding.plain.encode ['\ufeff', '😀']) ≠
      (['\ufeff', '😀'], TextEncoding.plain) ∧
    ∃ raw t', SourceFile.readRaw ⟨"st", "a.st"⟩ ⟨[(⟨.above 0, ["a.st"]⟩, .file markedTwice)]⟩ = .ok raw ∧
      SourceFile.writeRaw ⟨"st", "a.st"⟩ raw ⟨[(⟨.above 0, ["a.st"]⟩, .file markedTwice)]⟩ = .ok t' ∧
      t'.read "a.st" = .ok markedTwice := by
  obtain ⟨hdecode, _, hoctets, hfile⟩ := unicode_survives_reading_and_writing
  have hunicode : TextEncoding.IsUnicode markedTwice :=
    .big (.single (by decide) (by decide) (.pair (by decide) (by decide) .nil))
  have hmarked : (⟨.utf16 .big, true⟩ : TextEncoding) ∈ TextEncoding.unicode := by decide
  have hread : TextEncoding.decode markedTwice = (['\ufeff', '😀'], ⟨.utf16 .big, true⟩) :=
    (hdecode _ hmarked ['\ufeff', '😀']).mpr (by decide)
  refine ⟨hread, ?_, fun h => ?_, (hfile ⟨"st", "a.st"⟩).1 _ _ rfl hunicode⟩
  · have hwritten := ((hoctets markedTwice).mp hunicode).2
    rw [hread] at hwritten
    exact hwritten
  · exact (hdecode _ (by decide) _).mp h ⟨rfl, rfl⟩

end FighterCheck.Ini
