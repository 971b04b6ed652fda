import FighterCheck.Encoding.Utf16
import FighterCheck.Proofs.Encoding.Utf8

/-!
# Well-formed UTF-16

A text in UTF-16 is well formed if it is made of whole units, and each of them is a character of its own
or belongs to a pair of surrogates. Reading takes such a text apart unit by unit, and writing puts it
together from the units of its characters; both turn a unit into its two octets and back in the order of
the text. So the well-formed texts are those that are written (`wellFormed_encode`,
`exists_encode_of_wellFormed`), and what is written is read (`decode_encode`).
-/

namespace FighterCheck.Encoding.Utf16

variable {order : Order} {a b c d : UInt8} {octets : List UInt8}

/-- The octets are whole units in that order, each of them a character or in a pair. -/
inductive WellFormed (order : Order) : List UInt8 → Prop where
  /-- no units -/
  | nil : WellFormed order []
  /-- a unit that is no surrogate, and more -/
  | single {a b : UInt8} {octets : List UInt8} (hlead : isLeading (unit order a b) = false)
    (htrail : isTrailing (unit order a b) = false) (h : WellFormed order octets) :
    WellFormed order (a :: b :: octets)
  /-- a leading and a trailing surrogate, and more -/
  | pair {a b c d : UInt8} {octets : List UInt8} (hlead : isLeading (unit order a b) = true)
    (htrail : isTrailing (unit order c d) = true) (h : WellFormed order octets) :
    WellFormed order (a :: b :: c :: d :: octets)

/-! ## Units and octets -/

theorem isLeading_iff {u : Nat} : isLeading u = true ↔ 0xD800 ≤ u ∧ u < 0xDC00 := by
  simp [isLeading]

theorem isTrailing_iff {u : Nat} : isTrailing u = true ↔ 0xDC00 ≤ u ∧ u < 0xE000 := by
  simp [isTrailing]

theorem unit_lt (order : Order) (a b : UInt8) : unit order a b < 0x10000 := by
  have ha := a.toNat_lt
  have hb := b.toNat_lt
  cases order <;> simp only [unit] <;> omega

/-- **A unit is put together from its two octets.** -/
theorem exists_octetsOf {u : Nat} (hu : u < 0x10000) (order : Order) :
    ∃ a b, octetsOf order u = [a, b] ∧ unit order a b = u := by
  have hlow : (u % 0x100).toUInt8.toNat = u % 0x100 := toNat_toUInt8 (by omega)
  have hhigh : (u / 0x100).toUInt8.toNat = u / 0x100 := toNat_toUInt8 (by omega)
  cases order with
  | little => exact ⟨_, _, rfl, by rw [unit, hlow, hhigh]; omega⟩
  | big => exact ⟨_, _, rfl, by rw [unit, hlow, hhigh]; omega⟩

theorem octetsOf_unit (order : Order) (a b : UInt8) : octetsOf order (unit order a b) = [a, b] := by
  have ha := a.toNat_lt
  have hb := b.toNat_lt
  cases order <;>
    simp only [octetsOf, unit, List.cons.injEq, and_true, Nat.toUInt8, ← UInt8.toNat_inj,
      UInt8.toNat_ofNat'] <;> omega

/-! ## Units and characters -/

/-- **A character has one unit, which is no surrogate, or a pair of surrogates**, and they stand for
it. -/
theorem unitsOf_cases (x : Char) :
    (∃ u, unitsOf x = [u] ∧ u < 0x10000 ∧ isLeading u = false ∧ isTrailing u = false ∧
      Char.ofNat u = x) ∨
    ∃ l t, unitsOf x = [l, t] ∧ isLeading l = true ∧ isTrailing t = true ∧ ofPair l t = x := by
  have hvalid := toNat_bounds x
  by_cases hx : x.toNat < 0x10000
  · refine Or.inl ⟨x.toNat, if_pos hx, hx, ?_, ?_, Char.ofNat_toNat x⟩
    · rw [← Bool.not_eq_true, isLeading_iff]
      omega
    · rw [← Bool.not_eq_true, isTrailing_iff]
      omega
  · refine Or.inr ⟨_, _, if_neg hx, ?_, ?_, ?_⟩
    · rw [isLeading_iff]
      omega
    · rw [isTrailing_iff]
      omega
    · have hvalue : 0x10000 + (0xD800 + (x.toNat - 0x10000) / 0x400 - 0xD800) * 0x400 +
          (0xDC00 + (x.toNat - 0x10000) % 0x400 - 0xDC00) = x.toNat := by omega
      rw [ofPair, hvalue, Char.ofNat_toNat]

/-- **The octets of a character** are those of a unit that stands for it, or of a pair. -/
theorem octets_cases (order : Order) (x : Char) :
    (∃ a b, (unitsOf x).flatMap (octetsOf order) = [a, b] ∧
      isLeading (unit order a b) = false ∧ isTrailing (unit order a b) = false ∧
      Char.ofNat (unit order a b) = x) ∨
    ∃ a b c d, (unitsOf x).flatMap (octetsOf order) = [a, b, c, d] ∧
      isLeading (unit order a b) = true ∧ isTrailing (unit order c d) = true ∧
      ofPair (unit order a b) (unit order c d) = x := by
  rcases unitsOf_cases x with ⟨u, hunits, hu, hlead, htrail, hx⟩ | ⟨l, t, hunits, hl, ht, hx⟩
  · obtain ⟨a, b, hab, rfl⟩ := exists_octetsOf hu order
    exact Or.inl ⟨a, b, by rw [hunits, List.flatMap_singleton, hab], hlead, htrail, hx⟩
  · have hl' : l < 0x10000 := by rw [isLeading_iff] at hl; omega
    have ht' : t < 0x10000 := by rw [isTrailing_iff] at ht; omega
    obtain ⟨a, b, hab, rfl⟩ := exists_octetsOf hl' order
    obtain ⟨c, d, hcd, rfl⟩ := exists_octetsOf ht' order
    refine Or.inr ⟨a, b, c, d, ?_, hl, ht, hx⟩
    rw [hunits, List.flatMap_cons, List.flatMap_singleton, hab, hcd]
    rfl

theorem unitsOf_ofNat {u : Nat} (hu : u < 0x10000) (hlead : isLeading u = false)
    (htrail : isTrailing u = false) : unitsOf (Char.ofNat u) = [u] := by
  rw [← Bool.not_eq_true, isLeading_iff] at hlead
  rw [← Bool.not_eq_true, isTrailing_iff] at htrail
  unfold unitsOf
  rw [toNat_ofNat (by omega)]
  exact if_pos hu

theorem unitsOf_ofPair {l t : Nat} (hl : isLeading l = true) (ht : isTrailing t = true) :
    unitsOf (ofPair l t) = [l, t] := by
  rw [isLeading_iff] at hl
  rw [isTrailing_iff] at ht
  unfold unitsOf ofPair
  rw [toNat_ofNat (by omega)]
  dsimp only
  rw [if_neg (by omega)]
  simp only [List.cons.injEq, and_true]
  omega

/-! ## What is read at the beginning of a text -/

/-- A unit that is no surrogate is read as its character. -/
theorem decode_single (hlead : isLeading (unit order a b) = false)
    (htrail : isTrailing (unit order a b) = false) (octets : List UInt8) :
    decode order (a :: b :: octets) =
      some (Char.ofNat (unit order a b)) :: decode order octets := by
  unfold decode
  rw [units]
  dsimp only
  rw [ofUnits, htrail, hlead]
  rfl

/-- A pair of surrogates is read as its character. -/
theorem decode_pair (hlead : isLeading (unit order a b) = true)
    (htrail : isTrailing (unit order c d) = true) (octets : List UInt8) :
    decode order (a :: b :: c :: d :: octets) =
      some (ofPair (unit order a b) (unit order c d)) :: decode order octets := by
  have hnot : isTrailing (unit order a b) = false := by
    rw [isLeading_iff] at hlead
    rw [← Bool.not_eq_true, isTrailing_iff]
    omega
  unfold decode
  rw [units, units]
  dsimp only
  rw [ofUnits, hnot, hlead]
  show ofUnits _ (some _) (unit order c d :: _) = _
  rw [ofUnits, htrail]
  rfl

/-- **A character is read from its octets**, whatever follows. -/
theorem decode_octets_append (order : Order) (x : Char) (rest : List UInt8) :
    decode order ((unitsOf x).flatMap (octetsOf order) ++ rest) = some x :: decode order rest := by
  rcases octets_cases order x with ⟨a, b, hab, hlead, htrail, rfl⟩ |
    ⟨a, b, c, d, habcd, hlead, htrail, rfl⟩
  · rw [hab]
    exact decode_single hlead htrail rest
  · rw [habcd]
    exact decode_pair hlead htrail rest

/-! ## Whole texts -/

theorem encode_cons (order : Order) (x : Char) (cs : List Char) :
    encode order (x :: cs) = (unitsOf x).flatMap (octetsOf order) ++ encode order cs := by
  rw [encode, List.flatMap_cons, List.flatMap_append]
  rfl

/-- **A text that was written is read.** -/
theorem decode_encode (order : Order) (cs : List Char) :
    decode order (encode order cs) = cs.map some := by
  induction cs with
  | nil => rfl
  | cons x cs ih => rw [encode_cons, decode_octets_append, ih, List.map_cons]

/-- **What is written is well formed.** -/
theorem wellFormed_encode (order : Order) (cs : List Char) : WellFormed order (encode order cs) := by
  induction cs with
  | nil => exact .nil
  | cons x cs ih =>
    rw [encode_cons]
    rcases octets_cases order x with ⟨a, b, hab, hlead, htrail, _⟩ |
      ⟨a, b, c, d, habcd, hlead, htrail, _⟩
    · rw [hab]
      exact .single hlead htrail ih
    · rw [habcd]
      exact .pair hlead htrail ih

/-- **A well-formed text is what is written for some characters.** -/
theorem exists_encode_of_wellFormed (h : WellFormed order octets) :
    ∃ cs, encode order cs = octets := by
  induction h with
  | nil => exact ⟨[], rfl⟩
  | @single a b octets hlead htrail _ ih =>
    obtain ⟨cs, rfl⟩ := ih
    refine ⟨Char.ofNat (unit order a b) :: cs, ?_⟩
    rw [encode_cons, unitsOf_ofNat (unit_lt order a b) hlead htrail, List.flatMap_singleton,
      octetsOf_unit]
    rfl
  | @pair a b c d octets hlead htrail _ ih =>
    obtain ⟨cs, rfl⟩ := ih
    refine ⟨ofPair (unit order a b) (unit order c d) :: cs, ?_⟩
    rw [encode_cons, unitsOf_ofPair hlead htrail, List.flatMap_cons, List.flatMap_singleton,
      octetsOf_unit, octetsOf_unit]
    rfl

end FighterCheck.Encoding.Utf16
