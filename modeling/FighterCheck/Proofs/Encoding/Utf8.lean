import FighterCheck.Encoding.Utf8

/-!
# Well-formed UTF-8

`Sequence` lists the sequences of octets that stand for a character, by the ranges of their octets, and
a text in UTF-8 is well formed if it is made of such sequences. The code point of a sequence is put
together from the bits that its octets carry; a sequence is exactly what is written for the character of
that code point (`encodeChar_of_sequence`, `codePoint_encodeChar`), and it is read as that character
(`decode_append_of_sequence`). What is read without a fault is made of sequences in turn
(`exists_sequence_of_next`), so that the texts read without a fault are the well-formed ones
(`wellFormed_iff`), and each of them is what is written for the characters read.
-/

namespace FighterCheck.Encoding

/-! ## Octets and code points -/

theorem toNat_toUInt8 {n : Nat} (h : n < 0x100) : n.toUInt8.toNat = n :=
  UInt8.toNat_ofNat_of_lt' h

theorem toUInt8_eq {n : Nat} {o : UInt8} (h : n = o.toNat) : n.toUInt8 = o := by
  rw [h]
  exact UInt8.ofNat_toNat

/-- The code point of a character is no surrogate and not beyond the last. -/
theorem toNat_bounds (c : Char) : c.toNat < 0xD800 ∨ 0xDFFF < c.toNat ∧ c.toNat < 0x110000 :=
  c.valid

theorem toNat_ofNat {n : Nat} (h : n < 0xD800 ∨ 0xDFFF < n ∧ n < 0x110000) :
    (Char.ofNat n).toNat = n := by
  rw [Char.ofNat, dif_pos h]
  rfl

namespace Utf8

/-! ## Sequences -/

/-- An octet that goes on with a character. -/
def IsTrail (o : UInt8) : Prop := 0x80 ≤ o.toNat ∧ o.toNat ≤ 0xBF

/-- The octets of one character, by their ranges. The second octet is bounded further where the
character would otherwise have a shorter form, be a surrogate, or lie beyond the last code point. -/
inductive Sequence : List UInt8 → Prop where
  /-- one octet -/
  | one {a : UInt8} (ha : a.toNat ≤ 0x7F) : Sequence [a]
  /-- two octets -/
  | two {a b : UInt8} (ha : 0xC2 ≤ a.toNat ∧ a.toNat ≤ 0xDF) (hb : IsTrail b) : Sequence [a, b]
  /-- three octets -/
  | three {a b c : UInt8} (ha : 0xE0 ≤ a.toNat ∧ a.toNat ≤ 0xEF) (hb : IsTrail b)
    (hlow : a.toNat = 0xE0 → 0xA0 ≤ b.toNat) (hhigh : a.toNat = 0xED → b.toNat ≤ 0x9F)
    (hc : IsTrail c) : Sequence [a, b, c]
  /-- four octets -/
  | four {a b c d : UInt8} (ha : 0xF0 ≤ a.toNat ∧ a.toNat ≤ 0xF4) (hb : IsTrail b)
    (hlow : a.toNat = 0xF0 → 0x90 ≤ b.toNat) (hhigh : a.toNat = 0xF4 → b.toNat ≤ 0x8F)
    (hc : IsTrail c) (hd : IsTrail d) : Sequence [a, b, c, d]

/-- The octets are those of characters, one after the other. -/
inductive WellFormed : List UInt8 → Prop where
  /-- no characters -/
  | nil : WellFormed []
  /-- a character, and more -/
  | append {s octets : List UInt8} (hs : Sequence s) (h : WellFormed octets) :
    WellFormed (s ++ octets)

/-- The code point that a sequence stands for. -/
def codePoint : List UInt8 → Nat
  | [a] => a.toNat
  | [a, b] => (a.toNat - 0xC0) * 0x40 + (b.toNat - 0x80)
  | [a, b, c] => ((a.toNat - 0xE0) * 0x40 + (b.toNat - 0x80)) * 0x40 + (c.toNat - 0x80)
  | [a, b, c, d] =>
    (((a.toNat - 0xF0) * 0x40 + (b.toNat - 0x80)) * 0x40 + (c.toNat - 0x80)) * 0x40 +
      (d.toNat - 0x80)
  | _ => 0

variable {a b c d : UInt8}

theorem codePoint_one : codePoint [a] = a.toNat := rfl

theorem codePoint_two : codePoint [a, b] = (a.toNat - 0xC0) * 0x40 + (b.toNat - 0x80) := rfl

theorem codePoint_three : codePoint [a, b, c] =
    ((a.toNat - 0xE0) * 0x40 + (b.toNat - 0x80)) * 0x40 + (c.toNat - 0x80) := rfl

theorem codePoint_four : codePoint [a, b, c, d] =
    (((a.toNat - 0xF0) * 0x40 + (b.toNat - 0x80)) * 0x40 + (c.toNat - 0x80)) * 0x40 +
      (d.toNat - 0x80) := rfl

/-! ## Sequences and characters -/

/-- **The octets of a character are a sequence.** -/
theorem sequence_encodeChar (c : Char) : Sequence (encodeChar c) := by
  have hbounds := toNat_bounds c
  unfold encodeChar
  generalize c.toNat = n at hbounds
  dsimp only
  split
  · refine .one ?_
    rw [toNat_toUInt8 (by omega)]
    omega
  split
  · refine .two ?_ ?_
    all_goals
      simp (disch := omega) only [IsTrail, toNat_toUInt8]
      omega
  split
  · refine .three ?_ ?_ ?_ ?_ ?_
    all_goals
      simp (disch := omega) only [IsTrail, toNat_toUInt8]
      omega
  · refine .four ?_ ?_ ?_ ?_ ?_ ?_
    all_goals
      simp (disch := omega) only [IsTrail, toNat_toUInt8]
      omega

/-- **A character is that of the code point of its octets.** -/
theorem codePoint_encodeChar (x : Char) : codePoint (encodeChar x) = x.toNat := by
  have hbounds := toNat_bounds x
  unfold encodeChar
  generalize x.toNat = n at hbounds
  dsimp only
  split
  · rw [codePoint_one, toNat_toUInt8 (by omega)]
  split
  · rw [codePoint_two, toNat_toUInt8 (by omega), toNat_toUInt8 (by omega)]
    omega
  split
  · rw [codePoint_three, toNat_toUInt8 (by omega), toNat_toUInt8 (by omega),
      toNat_toUInt8 (by omega)]
    omega
  · rw [codePoint_four, toNat_toUInt8 (by omega), toNat_toUInt8 (by omega),
      toNat_toUInt8 (by omega), toNat_toUInt8 (by omega)]
    omega

/-- The octets of the character of a code point. -/
theorem encodeChar_ofNat {n : Nat} (h : n < 0xD800 ∨ 0xDFFF < n ∧ n < 0x110000) :
    encodeChar (Char.ofNat n) =
      if n < 0x80 then [n.toUInt8]
      else if n < 0x800 then [(0xC0 + n / 0x40).toUInt8, (0x80 + n % 0x40).toUInt8]
      else if n < 0x10000 then
        [(0xE0 + n / 0x1000).toUInt8, (0x80 + n / 0x40 % 0x40).toUInt8, (0x80 + n % 0x40).toUInt8]
      else
        [(0xF0 + n / 0x40000).toUInt8, (0x80 + n / 0x1000 % 0x40).toUInt8,
          (0x80 + n / 0x40 % 0x40).toUInt8, (0x80 + n % 0x40).toUInt8] := by
  unfold encodeChar
  rw [toNat_ofNat h]

/-- **A sequence is the octets of the character of its code point.** -/
theorem encodeChar_of_sequence {s : List UInt8} (h : Sequence s) :
    encodeChar (Char.ofNat (codePoint s)) = s := by
  cases h with
  | @one a ha =>
    rw [codePoint_one, encodeChar_ofNat (by omega), if_pos (by omega), toUInt8_eq rfl]
  | @two a b ha hb =>
    obtain ⟨hb, hb'⟩ := hb
    rw [codePoint_two, encodeChar_ofNat (by omega), if_neg (by omega), if_pos (by omega),
      toUInt8_eq (o := a) (by omega), toUInt8_eq (o := b) (by omega)]
  | @three a b c ha hb hlow hhigh hc =>
    obtain ⟨hb, hb'⟩ := hb
    obtain ⟨hc, hc'⟩ := hc
    rw [codePoint_three, encodeChar_ofNat (by omega), if_neg (by omega), if_neg (by omega),
      if_pos (by omega), toUInt8_eq (o := a) (by omega), toUInt8_eq (o := b) (by omega),
      toUInt8_eq (o := c) (by omega)]
  | @four a b c d ha hb hlow hhigh hc hd =>
    obtain ⟨hb, hb'⟩ := hb
    obtain ⟨hc, hc'⟩ := hc
    obtain ⟨hd, hd'⟩ := hd
    rw [codePoint_four, encodeChar_ofNat (by omega), if_neg (by omega), if_neg (by omega),
      if_neg (by omega), toUInt8_eq (o := a) (by omega), toUInt8_eq (o := b) (by omega),
      toUInt8_eq (o := c) (by omega), toUInt8_eq (o := d) (by omega)]

/-! ## What is read at the beginning of a text -/

theorem takeTrails_cons {o : UInt8} {low high : Nat} (h : low ≤ o.toNat ∧ o.toNat ≤ high)
    (value count : Nat) (octets : List UInt8) :
    takeTrails value (count + 1) low high (o :: octets) =
      takeTrails (value * 0x40 + (o.toNat - 0x80)) count 0x80 0xBF octets := if_pos h

theorem takeTrails_eq_some {value count low high : Nat} {octets rest : List UInt8} {c : Char}
    (h : takeTrails value (count + 1) low high octets = (some c, rest)) :
    ∃ o octets', octets = o :: octets' ∧ (low ≤ o.toNat ∧ o.toNat ≤ high) ∧
      takeTrails (value * 0x40 + (o.toNat - 0x80)) count 0x80 0xBF octets' = (some c, rest) := by
  cases octets with
  | nil => exact nomatch (Prod.mk.inj h).1
  | cons o octets =>
    rw [takeTrails] at h
    split at h
    · next hbounds => exact ⟨o, octets, rfl, hbounds, h⟩
    · exact nomatch (Prod.mk.inj h).1

/-- The bounds on a second octet that may be narrower than those on any other. -/
theorem second_bounds_iff {low high x y : Nat} (hlow : 0x80 ≤ low) (hhigh : high ≤ 0xBF) :
    ((if a.toNat = x then low else 0x80) ≤ b.toNat ∧
        b.toNat ≤ if a.toNat = y then high else 0xBF) ↔
      IsTrail b ∧ (a.toNat = x → low ≤ b.toNat) ∧ (a.toNat = y → b.toNat ≤ high) := by
  unfold IsTrail
  split <;> split <;> omega

/-- **A sequence is read as the character of its code point**, whatever follows. -/
theorem decode_append_of_sequence {s : List UInt8} (h : Sequence s) (rest : List UInt8) :
    decode (s ++ rest) = some (Char.ofNat (codePoint s)) :: decode rest := by
  -- the bounds on the second octet are those that the first one announces
  cases h with
  | @one a ha =>
    have hlead : lead? a = some ⟨a.toNat, 0, 0x80, 0xBF⟩ := if_pos (by omega)
    rw [List.singleton_append, decode, next, hlead]
    rfl
  | @two a b ha hb =>
    have hlead : lead? a = some ⟨a.toNat - 0xC0, 1, 0x80, 0xBF⟩ := by
      unfold lead?
      rw [if_neg (by omega), if_neg (by omega), if_pos (by omega)]
    rw [List.cons_append, List.cons_append, List.nil_append, decode, next, hlead]
    dsimp only
    rw [takeTrails_cons hb]
    rfl
  | @three a b c ha hb hlow hhigh hc =>
    have hlead : lead? a = some ⟨a.toNat - 0xE0, 2, if a.toNat = 0xE0 then 0xA0 else 0x80,
        if a.toNat = 0xED then 0x9F else 0xBF⟩ := by
      unfold lead?
      rw [if_neg (by omega), if_neg (by omega), if_neg (by omega), if_pos (by omega)]
    have hsecond := (second_bounds_iff (by decide) (by decide)).mpr ⟨hb, hlow, hhigh⟩
    rw [List.cons_append, List.cons_append, List.cons_append, List.nil_append, decode, next, hlead]
    dsimp only
    rw [takeTrails_cons hsecond, takeTrails_cons hc]
    rfl
  | @four a b c d ha hb hlow hhigh hc hd =>
    have hlead : lead? a = some ⟨a.toNat - 0xF0, 3, if a.toNat = 0xF0 then 0x90 else 0x80,
        if a.toNat = 0xF4 then 0x8F else 0xBF⟩ := by
      unfold lead?
      rw [if_neg (by omega), if_neg (by omega), if_neg (by omega), if_neg (by omega),
        if_pos (by omega)]
    have hsecond := (second_bounds_iff (by decide) (by decide)).mpr ⟨hb, hlow, hhigh⟩
    rw [List.cons_append, List.cons_append, List.cons_append, List.cons_append, List.nil_append,
      decode, next, hlead]
    dsimp only
    rw [takeTrails_cons hsecond, takeTrails_cons hc, takeTrails_cons hd]
    rfl

/-- **What is read as a character is a sequence.** -/
theorem exists_sequence_of_next {o : UInt8} {octets rest : List UInt8} {x : Char}
    (h : next o octets = (some x, rest)) : ∃ s, Sequence s ∧ o :: octets = s ++ rest := by
  unfold next at h
  split at h
  · exact nomatch (Prod.mk.inj h).1
  · next l hlead =>
    unfold lead? at hlead
    dsimp only at hlead
    split at hlead
    · next ho =>
      obtain rfl := Option.some.inj hlead
      exact ⟨[o], .one (by omega), by rw [← (Prod.mk.inj h).2]; rfl⟩
    split at hlead
    · exact nomatch hlead
    split at hlead
    · next ho =>
      obtain rfl := Option.some.inj hlead
      obtain ⟨b, os, rfl, hb, h⟩ := takeTrails_eq_some h
      exact ⟨[o, b], .two (by omega) hb, by rw [← (Prod.mk.inj h).2]; rfl⟩
    split at hlead
    · next ho =>
      obtain rfl := Option.some.inj hlead
      obtain ⟨b, os, rfl, hb, h⟩ := takeTrails_eq_some h
      obtain ⟨c, os, rfl, hc, h⟩ := takeTrails_eq_some h
      obtain ⟨hb, hlow, hhigh⟩ := (second_bounds_iff (by decide) (by decide)).mp hb
      exact ⟨[o, b, c], .three (by omega) hb hlow hhigh hc, by rw [← (Prod.mk.inj h).2]; rfl⟩
    split at hlead
    · next ho =>
      obtain rfl := Option.some.inj hlead
      obtain ⟨b, os, rfl, hb, h⟩ := takeTrails_eq_some h
      obtain ⟨c, os, rfl, hc, h⟩ := takeTrails_eq_some h
      obtain ⟨d, os, rfl, hd, h⟩ := takeTrails_eq_some h
      obtain ⟨hb, hlow, hhigh⟩ := (second_bounds_iff (by decide) (by decide)).mp hb
      exact ⟨[o, b, c, d], .four (by omega) hb hlow hhigh hc hd,
        by rw [← (Prod.mk.inj h).2]; rfl⟩
    · exact nomatch hlead

/-! ## Whole texts -/

theorem decode_encodeChar_append (x : Char) (rest : List UInt8) :
    decode (encodeChar x ++ rest) = some x :: decode rest := by
  rw [decode_append_of_sequence (sequence_encodeChar x), codePoint_encodeChar, Char.ofNat_toNat]

/-- **A text that was written is read.** -/
theorem decode_encode (cs : List Char) : decode (encode cs) = cs.map some := by
  induction cs with
  | nil => rw [encode, List.flatMap_nil, decode]; rfl
  | cons x cs ih =>
    rw [encode, List.flatMap_cons, decode_encodeChar_append, List.map_cons, ← ih]
    rfl

/-- **What is written is well formed.** -/
theorem wellFormed_encode (cs : List Char) : WellFormed (encode cs) := by
  induction cs with
  | nil => exact .nil
  | cons x cs ih =>
    rw [encode, List.flatMap_cons]
    exact .append (sequence_encodeChar x) ih

/-- **A well-formed text is what is written for some characters.** -/
theorem exists_encode_of_wellFormed {octets : List UInt8} (h : WellFormed octets) :
    ∃ cs, encode cs = octets := by
  induction h with
  | nil => exact ⟨[], rfl⟩
  | @append s octets hs _ ih =>
    obtain ⟨cs, hcs⟩ := ih
    refine ⟨Char.ofNat (codePoint s) :: cs, ?_⟩
    rw [encode, List.flatMap_cons, encodeChar_of_sequence hs, ← hcs]
    rfl

/-- What is read without a fault is well formed. -/
theorem wellFormed_of_decode {octets : List UInt8} {cs : List Char}
    (h : decode octets = cs.map some) : WellFormed octets := by
  induction cs generalizing octets with
  | nil =>
    cases octets with
    | nil => exact .nil
    | cons o octets =>
      rw [decode] at h
      exact absurd h (List.cons_ne_nil _ _)
  | cons x cs ih =>
    cases octets with
    | nil =>
      rw [decode] at h
      exact absurd h.symm (List.cons_ne_nil _ _)
    | cons o octets =>
      rw [decode, List.map_cons] at h
      obtain ⟨hx, hrest⟩ := List.cons.inj h
      obtain ⟨s, hs, hsplit⟩ := exists_sequence_of_next (Prod.ext hx rfl)
      rw [hsplit]
      exact .append hs (ih hrest)

/-- **A text is read without a fault if and only if it is well formed.** -/
theorem wellFormed_iff {octets : List UInt8} :
    WellFormed octets ↔ ∃ cs, (decode octets).strict? = some cs := by
  simp only [Decoded.strict?_eq_some_iff]
  refine ⟨fun h => ?_, fun ⟨cs, hcs⟩ => wellFormed_of_decode hcs⟩
  obtain ⟨cs, rfl⟩ := exists_encode_of_wellFormed h
  exact ⟨cs, decode_encode cs⟩

instance (octets : List UInt8) : Decidable (WellFormed octets) :=
  decidable_of_iff ((decode octets).strict?.isSome = true)
    (Option.isSome_iff_exists.trans wellFormed_iff.symm)

end Utf8

end FighterCheck.Encoding
