import FighterCheck.Encoding.ShiftJis
import FighterCheck.Proofs.Encoding.Kuten
import FighterCheck.Proofs.Encoding.Utf8
import FighterCheck.Proofs.Text.Pieces

/-!
# What Shift_JIS keeps

A character that is read in Shift_JIS is of one of four kinds (`Readable`): it stands on its own, as ASCII
or half-width kana, it is of the Japanese character set, or it is private. Of these, all but the private
ones are written and read again (`decode_octetsOf_append`), though not always as the octets that they
were read from. A private character is not written; what stands for it is a reference of several ASCII
characters, and these are read. So a text that was read and is written and read again is the same if and
only if it has no private character (`decode_encode`, `flatMap_rewritten_eq_self_iff`).
-/

namespace FighterCheck.Encoding.ShiftJis

/-- The character is that of a private row. -/
def IsPrivate (c : Char) : Prop := 0xE000 ≤ c.toNat ∧ c.toNat ≤ 0xE757

instance (c : Char) : Decidable (IsPrivate c) := inferInstanceAs (Decidable (_ ∧ _))

/-- The characters that are read. -/
inductive Readable (c : Char) : Prop where
  /-- ASCII, and U+0080 -/
  | ascii (h : c.toNat ≤ 0x80) : Readable c
  /-- half-width kana -/
  | kana (h : 0xFF61 ≤ c.toNat ∧ c.toNat ≤ 0xFF9F) : Readable c
  /-- a character in a cell of the table -/
  | pair {row cell : Nat} (h : kutenChar? row cell = some c) : Readable c
  /-- a character of a private row -/
  | ofPrivate (h : IsPrivate c) : Readable c

variable {c : Char} {cs : List Char} {octets rest : List UInt8} {row cell : Nat}

theorem isSetChar_iff : isSetChar c = true ↔ 0x80 < c.toNat ∧
    ¬ (0xE000 ≤ c.toNat ∧ c.toNat ≤ 0xF8FF) ∧ ¬ (0xFF61 ≤ c.toNat ∧ c.toNat ≤ 0xFF9F) ∧
      c ≠ '¥' ∧ c ≠ '‾' ∧ c ≠ '−' := by
  simp only [isSetChar, Bool.and_eq_true, Bool.not_eq_true', ← Bool.not_eq_true, decide_eq_true_iff,
    bne_iff_ne, and_assoc, ne_eq]

/-! ## What is read -/

/-- An octet that stands on its own is that of ASCII, of U+0080 or of half-width kana. -/
theorem toNat_of_single? {o : UInt8} (h : single? o = some c) :
    o.toNat ≤ 0x80 ∧ c.toNat = o.toNat ∨
      (0xA1 ≤ o.toNat ∧ o.toNat ≤ 0xDF) ∧ c.toNat = 0xFF61 + (o.toNat - 0xA1) := by
  unfold single? at h
  dsimp only at h
  split at h
  · next hlow =>
    obtain rfl := Option.some.inj h
    exact Or.inl ⟨hlow, toNat_ofNat (by omega)⟩
  · split at h
    · next hkana =>
      obtain rfl := Option.some.inj h
      exact Or.inr ⟨hkana, toNat_ofNat (by omega)⟩
    · exact nomatch h

/-- What is read from a pair is private or in a cell of the table. -/
theorem isPrivate_or_kutenChar?_of_pair? {lead trail : UInt8} (h : pair? lead trail = some c) :
    IsPrivate c ∨ ∃ row cell, kutenChar? row cell = some c := by
  obtain ⟨pointer, _, hc⟩ := Option.bind_eq_some_iff.mp h
  unfold charAt? at hc
  split at hc
  · obtain rfl := Option.some.inj hc
    refine Or.inl ?_
    rw [IsPrivate, toNat_ofNat (by omega)]
    omega
  · exact Or.inr ⟨_, _, hc⟩

theorem readable_of_single? {o : UInt8} (h : single? o = some c) : Readable c := by
  rcases toNat_of_single? h with hascii | hkana
  · exact .ascii (by omega)
  · exact .kana (by omega)

theorem readable_of_pair? {lead trail : UInt8} (h : pair? lead trail = some c) : Readable c := by
  rcases isPrivate_or_kutenChar?_of_pair? h with hprivate | ⟨_, _, hc⟩
  · exact .ofPrivate hprivate
  · exact .pair hc

theorem readable_of_mem_decodeAfter {pending : Option UInt8} {octets : List UInt8}
    (h : some c ∈ decodeAfter pending octets) : Readable c := by
  induction pending, octets using decodeAfter.induct with
  | case1 => exact absurd h List.not_mem_nil
  | case2 => simp [decodeAfter] at h
  | case3 o octets hlead ih =>
    rw [decodeAfter, if_pos hlead] at h
    exact ih h
  | case4 o octets hlead ih =>
    rw [decodeAfter, if_neg hlead] at h
    rcases List.mem_cons.mp h with hc | h
    · exact readable_of_single? hc.symm
    · exact ih h
  | case5 lead o octets d hpair ih =>
    rw [decodeAfter, hpair] at h
    rcases List.mem_cons.mp h with hc | h
    · exact readable_of_pair? (hpair.trans hc.symm)
    · exact ih h
  | case6 lead o octets hpair ih =>
    rw [decodeAfter, hpair] at h
    rcases List.mem_append.mp h with hmem | h
    · split at hmem
      · simp only [List.mem_cons, List.not_mem_nil, or_false, reduceCtorEq, false_or] at hmem
        exact readable_of_single? hmem.symm
      · simp at hmem
    · exact ih h

/-- **Every character that is read is of one of the four kinds.** -/
theorem readable_of_decode (h : decode octets = cs.map some) : ∀ c ∈ cs, Readable c := by
  intro c hc
  refine @readable_of_mem_decodeAfter c none octets ?_
  rw [show decodeAfter none octets = cs.map some from h]
  exact List.mem_map_of_mem hc

/-! ## What is written -/

/-- The octets in which the character is written, or the reference to it. -/
def octetsOf (c : Char) : List UInt8 := (encodeChar? c).getD (reference c)

theorem encode_cons (c : Char) (cs : List Char) : encode (c :: cs) = octetsOf c ++ encode cs :=
  List.flatMap_cons

theorem octetsOf_ascii (h : c.toNat ≤ 0x80) : octetsOf c = [c.toNat.toUInt8] := by
  rw [octetsOf, encodeChar?, if_pos h]
  rfl

theorem octetsOf_kana (h : 0xFF61 ≤ c.toNat ∧ c.toNat ≤ 0xFF9F) :
    octetsOf c = [(c.toNat - 0xFF61 + 0xA1).toUInt8] := by
  have hyen : c ≠ '¥' := by rintro rfl; exact absurd h (by decide)
  have hline : c ≠ '‾' := by rintro rfl; exact absurd h (by decide)
  rw [octetsOf, encodeChar?, if_neg (by omega), if_neg hyen, if_neg hline, if_pos h]
  rfl

theorem encodeChar?_of_isSetChar (h : isSetChar c = true) :
    encodeChar? c = (kutenOf? c).map fun p => octetsOfKuten p.1 p.2 := by
  obtain ⟨hlow, _, hkana, hyen, hline, hminus⟩ := isSetChar_iff.mp h
  rw [encodeChar?, if_neg (by omega), if_neg hyen, if_neg hline, if_neg hkana, if_neg hminus]

/-- **A character in a cell is written as one of the cells that it is in.** -/
theorem octetsOf_pair (h : kutenChar? row cell = some c) :
    ∃ row' cell', octetsOf c = octetsOfKuten row' cell' ∧ kutenChar? row' cell' = some c ∧
      (1 ≤ row' ∧ row' ≤ 84 ∨ 115 ≤ row' ∧ row' ≤ 119) ∧ 1 ≤ cell' ∧ cell' ≤ 94 := by
  obtain ⟨row', cell', hof⟩ := exists_kutenOf? h
  obtain ⟨hread, hrow, hcell⟩ := kutenChar?_of_kutenOf? hof
  refine ⟨row', cell', ?_, hread, hrow, hcell⟩
  rw [octetsOf, encodeChar?_of_isSetChar (isSetChar_of_kutenChar? h), hof]
  rfl

/-- **A private character is not written.** -/
theorem octetsOf_private (h : IsPrivate c) : octetsOf c = reference c := by
  obtain ⟨hlow, hhigh⟩ := h
  have hyen : c ≠ '¥' := by rintro rfl; exact absurd hlow (by decide)
  have hline : c ≠ '‾' := by rintro rfl; exact absurd hlow (by decide)
  have hminus : c ≠ '−' := by rintro rfl; exact absurd hlow (by decide)
  have hnone : kutenOf? c = none := by
    cases hof : kutenOf? c with
    | none => rfl
    | some p =>
      obtain ⟨hread, _⟩ := kutenChar?_of_kutenOf? hof
      obtain ⟨_, hprivate, _⟩ := isSetChar_iff.mp (isSetChar_of_kutenChar? hread)
      exact absurd ⟨hlow, by omega⟩ hprivate
  rw [octetsOf, encodeChar?, if_neg (by omega), if_neg hyen, if_neg hline, if_neg (by omega),
    if_neg hminus, hnone]
  rfl

/-! ## Reading what was written -/

theorem decode_ascii_append {n : Nat} (h : n ≤ 0x80) (rest : List UInt8) :
    decode (n.toUInt8 :: rest) = some (Char.ofNat n) :: decode rest := by
  have hn : n.toUInt8.toNat = n := toNat_toUInt8 (by omega)
  have hlead : isLead n.toUInt8 = false := by
    unfold isLead
    rw [hn]
    simp only [Bool.or_eq_false_iff, Bool.and_eq_false_iff, decide_eq_false_iff_not]
    omega
  rw [decode, decodeAfter, hlead, if_neg Bool.false_ne_true, single?, hn, if_pos h]
  rfl

theorem decode_kana_append (h : 0xFF61 ≤ c.toNat ∧ c.toNat ≤ 0xFF9F) (rest : List UInt8) :
    decode ((c.toNat - 0xFF61 + 0xA1).toUInt8 :: rest) = some c :: decode rest := by
  have hn : (c.toNat - 0xFF61 + 0xA1).toUInt8.toNat = c.toNat - 0xFF61 + 0xA1 :=
    toNat_toUInt8 (by omega)
  have hlead : isLead (c.toNat - 0xFF61 + 0xA1).toUInt8 = false := by
    unfold isLead
    rw [hn]
    simp only [Bool.or_eq_false_iff, Bool.and_eq_false_iff, decide_eq_false_iff_not]
    omega
  have hsingle : single? (c.toNat - 0xFF61 + 0xA1).toUInt8 = some c := by
    rw [single?, hn, if_neg (by omega), if_pos (by omega),
      show 0xFF61 + (c.toNat - 0xFF61 + 0xA1 - 0xA1) = c.toNat by omega, Char.ofNat_toNat]
  rw [decode, decodeAfter, hlead, if_neg Bool.false_ne_true, hsingle]
  rfl

/-- The two octets of a cell, by the number of the row and that of the cell in its pair of rows. -/
theorem octetsOfKuten_bounds (hrow : 1 ≤ row ∧ row ≤ 120) (hcell : 1 ≤ cell ∧ cell ≤ 94) :
    ∃ lead trail, octetsOfKuten row cell = [lead, trail] ∧
      (row ≤ 62 ∧ lead.toNat = 0x81 + (row - 1) / 2 ∨
        62 < row ∧ lead.toNat = 0xC1 + (row - 1) / 2) ∧
      (0x40 ≤ trail.toNat ∧ trail.toNat ≤ 0x7E ∧
          trail.toNat = 0x40 + ((row - 1) % 2 * 94 + (cell - 1)) ∨
        0x80 ≤ trail.toNat ∧ trail.toNat ≤ 0xFC ∧
          trail.toNat = 0x41 + ((row - 1) % 2 * 94 + (cell - 1))) := by
  refine ⟨_, _, rfl, ?_, ?_⟩
  · split
    · rw [toNat_toUInt8 (by omega)]
      omega
    · rw [toNat_toUInt8 (by omega)]
      omega
  · split
    · rw [toNat_toUInt8 (by omega)]
      omega
    · rw [toNat_toUInt8 (by omega)]
      omega

/-- **The octets of a cell are read as what is in the cell**, if its row is not private. -/
theorem decode_octetsOfKuten_append (hread : kutenChar? row cell = some c)
    (hrow : 1 ≤ row ∧ row ≤ 84 ∨ 115 ≤ row ∧ row ≤ 119) (hcell : 1 ≤ cell ∧ cell ≤ 94)
    (rest : List UInt8) :
    decode (octetsOfKuten row cell ++ rest) = some c :: decode rest := by
  have hrow' : 1 ≤ row ∧ row ≤ 120 := by omega
  obtain ⟨lead, trail, hoctets, hlead, htrail⟩ := octetsOfKuten_bounds hrow' hcell
  have hislead : isLead lead = true := by
    simp only [isLead, Bool.or_eq_true, Bool.and_eq_true, decide_eq_true_iff]
    omega
  have hpointer : pointer? lead trail = some ((row - 1) * 94 + (cell - 1)) := by
    have hbase : (if lead.toNat < 0xA0 then lead.toNat - 0x81 else lead.toNat - 0xC1) =
        (row - 1) / 2 := by
      split <;> omega
    unfold pointer?
    dsimp only
    rw [hbase]
    rcases htrail with ⟨hlow, hhigh, htrail⟩ | ⟨hlow, hhigh, htrail⟩
    · rw [if_pos ⟨hlow, hhigh⟩, Option.some.injEq]
      omega
    · rw [if_neg (by omega), if_pos ⟨hlow, hhigh⟩, Option.some.injEq]
      omega
  have hchar : charAt? ((row - 1) * 94 + (cell - 1)) = some c := by
    rw [charAt?, if_neg (by omega), show ((row - 1) * 94 + (cell - 1)) / 94 + 1 = row by omega,
      show ((row - 1) * 94 + (cell - 1)) % 94 + 1 = cell by omega, hread]
  have hpair : pair? lead trail = some c := by rw [pair?, hpointer, Option.bind_some, hchar]
  rw [hoctets, decode, List.cons_append, List.cons_append, List.nil_append, decodeAfter,
    if_pos hislead, decodeAfter, hpair]
  rfl

/-- The text that a reference to the character is read as. -/
def referenceText (c : Char) : List Char := ['&', '#'] ++ Nat.toDigits 10 c.toNat ++ [';']

theorem isAscii_of_mem_referenceText {x : Char} (h : x ∈ referenceText c) : x.toNat < 0x80 := by
  simp only [referenceText, List.mem_append, List.mem_cons, List.not_mem_nil, or_false] at h
  rcases h with ((rfl | rfl) | hdigit) | rfl
  · decide
  · decide
  · have h := Nat.isDigit_of_mem_toDigits (by decide) (by decide) hdigit
    simp only [Char.isDigit, Bool.and_eq_true, decide_eq_true_iff] at h
    have hle : x.toNat ≤ '9'.toNat := UInt32.le_iff_toNat_le.mp h.2
    exact Nat.lt_of_le_of_lt hle (by decide)
  · decide

theorem decode_asciis_append {l : List Char} (h : ∀ x ∈ l, x.toNat < 0x80) (rest : List UInt8) :
    decode (l.map (fun x => x.toNat.toUInt8) ++ rest) = l.map some ++ decode rest := by
  induction l with
  | nil => rfl
  | cons x l ih =>
    obtain ⟨hx, hl⟩ := List.forall_mem_cons.mp h
    rw [List.map_cons, List.cons_append, decode_ascii_append (by omega), ih hl, Char.ofNat_toNat]
    rfl

/-- What a character is read as after it has been written: a private one as a reference, and every other
as itself. -/
def rewritten (c : Char) : List Char := if IsPrivate c then referenceText c else [c]

/-- **What is written for a character that can be read is read as the character**, or as a reference to
it if it is private. -/
theorem decode_octetsOf_append (h : Readable c) (rest : List UInt8) :
    decode (octetsOf c ++ rest) = (rewritten c).map some ++ decode rest := by
  cases h with
  | ascii h =>
    rw [octetsOf_ascii h, rewritten, if_neg (by unfold IsPrivate; omega), List.singleton_append,
      decode_ascii_append h, Char.ofNat_toNat]
    rfl
  | kana h =>
    rw [octetsOf_kana h, rewritten, if_neg (by unfold IsPrivate; omega), List.singleton_append,
      decode_kana_append h]
    rfl
  | pair h =>
    obtain ⟨row', cell', hoctets, hread, hrow, hcell⟩ := octetsOf_pair h
    obtain ⟨_, hprivate, _⟩ := isSetChar_iff.mp (isSetChar_of_kutenChar? h)
    rw [hoctets, rewritten, if_neg (by unfold IsPrivate; omega),
      decode_octetsOfKuten_append hread hrow hcell]
    rfl
  | ofPrivate h =>
    rw [octetsOf_private h, rewritten, if_pos h]
    exact decode_asciis_append (fun x hx => isAscii_of_mem_referenceText hx) rest

/-- **A text that was written is read**, with references in the places of its private characters. -/
theorem decode_encode (h : ∀ c ∈ cs, Readable c) :
    decode (encode cs) = (cs.flatMap rewritten).map some := by
  induction cs with
  | nil => rfl
  | cons c cs ih =>
    obtain ⟨hc, hcs⟩ := List.forall_mem_cons.mp h
    rw [encode_cons, decode_octetsOf_append hc, ih hcs, List.flatMap_cons, List.map_append]

/-- **A text comes back if and only if it has no private character**, as a reference is longer than
the character. -/
theorem flatMap_rewritten_eq_self_iff : cs.flatMap rewritten = cs ↔ ∀ c ∈ cs, ¬ IsPrivate c := by
  have hself : cs.flatMap (fun c => [c]) = cs := List.flatMap_singleton' cs
  constructor
  · intro h c hc hprivate
    have hlength := Text.measure_eq_of_flatMap_eq (m := List.length) (f := fun c => [c])
      (g := rewritten) (fun _ _ => List.length_append) (fun c _ => ?_) (hself.trans h.symm) c hc
    · rw [rewritten, if_pos hprivate] at hlength
      simp [referenceText] at hlength
    · unfold rewritten
      split
      · simp [referenceText]
      · exact Nat.le_refl _
  · intro h
    have heq : ∀ c ∈ cs, rewritten c = [c] := fun c hc => if_neg (h c hc)
    rw [List.flatMap_congr heq, hself]

/-! ## Beside UTF-8 -/

/-- The octets of a character that is read, by their ranges. -/
inductive Written (c : Char) : List UInt8 → Prop where
  /-- ASCII, and U+0080 -/
  | ascii (h : c.toNat ≤ 0x80) : Written c [c.toNat.toUInt8]
  /-- half-width kana -/
  | kana (h : 0xFF61 ≤ c.toNat ∧ c.toNat ≤ 0xFF9F) (o : UInt8) (ho : 0xA1 ≤ o.toNat ∧ o.toNat ≤ 0xDF) :
    Written c [o]
  /-- a character of the set; the first octet is that of a row that is written -/
  | pair (h : isSetChar c = true) (lead trail : UInt8)
    (hlead : 0x81 ≤ lead.toNat ∧ lead.toNat ≤ 0x9F ∨ 0xE0 ≤ lead.toNat ∧ lead.toNat ≤ 0xEA ∨
      0xFA ≤ lead.toNat ∧ lead.toNat ≤ 0xFC) : Written c [lead, trail]
  /-- a private character -/
  | reference (h : IsPrivate c) (digits : List UInt8) : Written c (0x26 :: digits)

theorem written_octetsOf (h : Readable c) : Written c (octetsOf c) := by
  cases h with
  | ascii h => exact octetsOf_ascii h ▸ .ascii h
  | kana h =>
    refine octetsOf_kana h ▸ .kana h _ ?_
    rw [toNat_toUInt8 (by omega)]
    omega
  | pair h =>
    obtain ⟨row, cell, hoctets, _, hrow, hcell⟩ := octetsOf_pair h
    have hrow' : 1 ≤ row ∧ row ≤ 120 := by omega
    obtain ⟨lead, trail, hpair, hlead, _⟩ := octetsOfKuten_bounds hrow' hcell
    rw [hoctets, hpair]
    exact .pair (isSetChar_of_kutenChar? h) lead trail (by omega)
  | ofPrivate h => exact octetsOf_private h ▸ .reference h _

/-- In UTF-8, every octet of a character beyond ASCII has its highest bit set. -/
theorem high_of_mem_encodeChar (h : 0x80 ≤ c.toNat) : ∀ o ∈ Utf8.encodeChar c, 0x80 ≤ o.toNat := by
  have hbounds := toNat_bounds c
  unfold Utf8.encodeChar
  generalize c.toNat = n at h hbounds
  dsimp only
  rw [if_neg (by omega)]
  split
  · simp (disch := omega) only [List.forall_mem_cons, toNat_toUInt8, List.not_mem_nil, false_implies,
      implies_true, and_true]
    omega
  split
  all_goals
    simp (disch := omega) only [List.forall_mem_cons, toNat_toUInt8, List.not_mem_nil, false_implies,
      implies_true, and_true]
    omega

theorem encodeChar_ascii (h : c.toNat < 0x80) : Utf8.encodeChar c = [c.toNat.toUInt8] := if_pos h

theorem two_le_length_encodeChar (h : 0x80 ≤ c.toNat) : 2 ≤ (Utf8.encodeChar c).length := by
  unfold Utf8.encodeChar
  dsimp only
  rw [if_neg (by omega)]
  split
  · exact Nat.le_refl _
  · split
    · exact Nat.le_succ 2
    · exact Nat.le_add_right 2 2

/-- **Ampersands are no rarer than in UTF-8**, and there is one more for each private character. -/
theorem count_encodeChar_le (c : Char) :
    (Utf8.encodeChar c).count 0x26 + (if IsPrivate c then 1 else 0) ≤ (octetsOf c).count 0x26 := by
  by_cases hc : c.toNat < 0x80
  · rw [octetsOf_ascii (by omega), encodeChar_ascii hc, if_neg (by unfold IsPrivate; omega)]
    exact Nat.le_refl _
  · have hnone : (Utf8.encodeChar c).count 0x26 = 0 := by
      rw [List.count_eq_zero]
      intro hmem
      exact absurd (high_of_mem_encodeChar (by omega) _ hmem) (by decide)
    rw [hnone]
    split
    · next hprivate =>
      rw [octetsOf_private hprivate, Nat.zero_add, Nat.one_le_iff_ne_zero, ← Nat.pos_iff_ne_zero,
        List.count_pos_iff]
      exact List.mem_cons_self
    · exact Nat.zero_le _

/-- **No character that is not private takes more octets than in UTF-8.** -/
theorem length_octetsOf_le (h : Readable c) (hprivate : ¬ IsPrivate c) :
    (octetsOf c).length ≤ (Utf8.encodeChar c).length := by
  by_cases hc : c.toNat < 0x80
  · refine Nat.le_of_eq ?_
    rw [octetsOf_ascii (by omega), encodeChar_ascii hc]
  · refine Nat.le_trans ?_ (two_le_length_encodeChar (by omega))
    have hwritten := written_octetsOf h
    generalize octetsOf c = s at hwritten
    cases hwritten with
    | ascii => exact Nat.le_succ 1
    | kana => exact Nat.le_succ 1
    | pair => exact Nat.le_refl 2
    | reference hyes => exact absurd hyes hprivate

/-- **Only ASCII is written as in UTF-8**, besides private characters. -/
theorem isAscii_of_octetsOf_eq (h : Readable c) (hprivate : ¬ IsPrivate c)
    (heq : octetsOf c = Utf8.encodeChar c) : c.toNat < 0x80 := by
  have hsequence := Utf8.sequence_encodeChar c
  have hpoint := Utf8.codePoint_encodeChar c
  have hwritten := written_octetsOf h
  rw [← heq] at hsequence hpoint
  generalize octetsOf c = s at hwritten hsequence hpoint
  cases hwritten with
  | ascii =>
    cases hsequence with
    | one ha =>
      rw [Utf8.codePoint_one] at hpoint
      omega
  | kana _ o ho =>
    cases hsequence with
    | one ha => omega
  | pair _ lead trail hlead =>
    cases hsequence with
    | two ha hb => omega
  | reference hyes => exact absurd hyes hprivate

/-- **A text of characters that are read is written as in UTF-8 only if it is ASCII.** -/
theorem isAscii_of_encode_eq (h : ∀ c ∈ cs, Readable c) (heq : encode cs = Utf8.encode cs) :
    ∀ c ∈ cs, c.toNat < 0x80 := by
  have hprivate : ∀ c ∈ cs, ¬ IsPrivate c := by
    intro c hc hyes
    have hcount := Text.measure_eq_of_flatMap_eq (m := List.count 0x26) (f := Utf8.encodeChar)
      (g := octetsOf) (fun _ _ => List.count_append)
      (fun c _ => Nat.le_trans (Nat.le_add_right _ _) (count_encodeChar_le c)) heq.symm c hc
    have hle := count_encodeChar_le c
    rw [if_pos hyes] at hle
    omega
  have hlength := Text.measure_eq_of_flatMap_eq (m := List.length) (f := octetsOf)
    (g := Utf8.encodeChar) (fun _ _ => List.length_append)
    (fun c hc => length_octetsOf_le (h c hc) (hprivate c hc)) heq
  have hpieces := Text.eq_of_flatMap_eq hlength heq
  exact fun c hc => isAscii_of_octetsOf_eq (h c hc) (hprivate c hc) (hpieces c hc)

theorem not_isAscii_of_pair? {lead trail : UInt8} (h : pair? lead trail = some c) :
    ¬ c.toNat < 0x80 := by
  rcases isPrivate_or_kutenChar?_of_pair? h with ⟨hlow, _⟩ | ⟨_, _, hc⟩
  · omega
  · have hset := (isSetChar_iff.mp (isSetChar_of_kutenChar? hc)).1
    omega

theorem isAscii_of_single? {o : UInt8} (h : single? o = some c) (hc : c.toNat < 0x80) :
    o.toNat ≤ 0x7F := by
  rcases toNat_of_single? h with hascii | hkana
  · omega
  · omega

theorem wellFormed_of_decodeAfter {pending : Option UInt8} {octets : List UInt8}
    (h : decodeAfter pending octets = cs.map some) (hcs : ∀ c ∈ cs, c.toNat < 0x80) :
    pending = none ∧ Utf8.WellFormed octets := by
  -- a malformed sequence is none of the characters
  have hno : ∀ {d : Decoded} {cs : List Char}, none :: d ≠ cs.map some := by
    intro d cs hd
    cases cs with
    | nil => exact nomatch hd
    | cons c cs => exact nomatch (List.cons.inj hd).1
  induction pending, octets using decodeAfter.induct generalizing cs with
  | case1 => exact ⟨rfl, .nil⟩
  | case2 =>
    rw [decodeAfter] at h
    exact absurd h hno
  | case3 o octets hlead ih =>
    rw [decodeAfter, if_pos hlead] at h
    exact nomatch (ih h hcs).1
  | case4 o octets hlead ih =>
    rw [decodeAfter, if_neg hlead] at h
    cases cs with
    | nil => exact nomatch h
    | cons c cs =>
      obtain ⟨hsingle, hrest⟩ := List.cons.inj h
      obtain ⟨hc, hcs⟩ := List.forall_mem_cons.mp hcs
      exact ⟨rfl, .append (.one (isAscii_of_single? hsingle hc)) (ih hrest hcs).2⟩
  | case5 lead o octets d hpair ih =>
    rw [decodeAfter, hpair] at h
    cases cs with
    | nil => exact nomatch h
    | cons c cs =>
      obtain rfl := Option.some.inj (List.cons.inj h).1
      exact absurd (hcs _ List.mem_cons_self) (not_isAscii_of_pair? hpair)
  | case6 lead o octets hpair ih =>
    rw [decodeAfter, hpair] at h
    dsimp only at h
    split at h <;> exact absurd h hno

/-- **Octets that are read as ASCII are ASCII**, and so are well formed in UTF-8. -/
theorem wellFormed_of_decode (h : decode octets = cs.map some) (hcs : ∀ c ∈ cs, c.toNat < 0x80) :
    Utf8.WellFormed octets :=
  (wellFormed_of_decodeAfter h hcs).2

end FighterCheck.Encoding.ShiftJis
