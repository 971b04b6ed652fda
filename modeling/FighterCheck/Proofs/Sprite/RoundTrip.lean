import FighterCheck.Sprite.Header

/-!
# Writing a header and reading it again

Both layouts are one pattern: the signature, the version tag, a number of reserved octets, which is
zero in the first layout, and the numbers. `LaidOut` says that data begin with this pattern, whatever
the reserved octets are and whatever follows, and `Header.read_eq_ok_iff` that this is all that reading
asks for, along with a tag that belongs to the layout. What is written is laid out so, and so are data
after any change to the octets that the pattern leaves open. The round trips in both directions are read
off this one equivalence.
-/

namespace FighterCheck.Sprite

variable {data : List UInt8}

/-! ## Numbers -/

theorem length_numberOctets (n : UInt32) : (numberOctets n).length = 4 := rfl

/-- A number is made of its octets. -/
theorem numberOctets_value (n : UInt32) :
    UInt32.ofNat (n.toNat.toUInt8.toNat + 0x100 * ((n.toNat / 0x100).toUInt8.toNat +
      0x100 * ((n.toNat / 0x10000).toUInt8.toNat +
        0x100 * (n.toNat / 0x1000000).toUInt8.toNat))) = n := by
  have hlt := n.toNat_lt
  refine UInt32.toNat_inj.mp ?_
  simp only [UInt32.toNat_ofNat', Nat.toUInt8, UInt8.toNat_ofNat']
  omega

/-- Four octets are those of the number they make. -/
theorem numberOctets_ofNat (a b c d : UInt8) :
    numberOctets (UInt32.ofNat (a.toNat + 0x100 * (b.toNat + 0x100 * (c.toNat + 0x100 * d.toNat)))) =
      [a, b, c, d] := by
  have ha := a.toNat_lt
  have hb := b.toNat_lt
  have hc := c.toNat_lt
  have hd := d.toNat_lt
  simp only [numberOctets, UInt32.toNat_ofNat', List.cons.injEq, and_true, ← UInt8.toNat_inj,
    Nat.toUInt8, UInt8.toNat_ofNat']
  omega

theorem numberAt_of_drop {offset : Nat} {n : UInt32} {rest : List UInt8}
    (h : data.drop offset = numberOctets n ++ rest) : numberAt data offset = n := by
  unfold numberAt
  rw [h]
  exact numberOctets_value n

theorem drop_eq_numberOctets_append {offset : Nat} (h : offset + 4 ≤ data.length) :
    data.drop offset = numberOctets (numberAt data offset) ++ data.drop (offset + 4) := by
  have hlength : (data.drop offset).length = data.length - offset := List.length_drop
  rw [← List.drop_drop]
  unfold numberAt
  match hdrop : data.drop offset with
  | a :: b :: c :: d :: rest =>
    rw [numberOctets_ofNat]
    rfl
  | [] | [_] | [_, _] | [_, _, _] =>
    rw [hdrop] at hlength
    simp only [List.length_cons, List.length_nil] at hlength
    omega

/-- So many numbers, one after the other from an offset on. -/
def numbersFrom (data : List UInt8) (offset : Nat) : (count : Nat) → List UInt32
  | 0 => []
  | count + 1 => numberAt data offset :: numbersFrom data (offset + 4) count

/-- **Numbers that were written one after the other are read.** -/
theorem numbersFrom_of_drop {offset : Nat} {ns : List UInt32} {rest : List UInt8}
    (h : data.drop offset = ns.flatMap numberOctets ++ rest) :
    numbersFrom data offset ns.length = ns := by
  induction ns generalizing offset with
  | nil => rfl
  | cons n ns ih =>
    rw [List.flatMap_cons, List.append_assoc] at h
    have hnext : data.drop (offset + 4) = ns.flatMap numberOctets ++ rest := by
      rw [← List.drop_drop, h, List.drop_left' (length_numberOctets n)]
    rw [List.length_cons, numbersFrom, numberAt_of_drop h, ih hnext]

/-- **Numbers that are read were written there.** -/
theorem drop_eq_flatMap_numbersFrom {offset count : Nat} (h : offset + 4 * count ≤ data.length) :
    data.drop offset =
      (numbersFrom data offset count).flatMap numberOctets ++ data.drop (offset + 4 * count) := by
  induction count generalizing offset with
  | zero => rfl
  | succ count ih =>
    have hrest : data.drop (offset + 4) = _ := ih (by omega)
    rw [numbersFrom, List.flatMap_cons, List.append_assoc, drop_eq_numberOctets_append (by omega),
      hrest]
    congr 3
    omega

/-! ## The version tag -/

theorem Version.read?_eq_some_iff {v : Version} :
    Version.read? data = some v ↔ ∃ rest, data.drop 12 = v.octets ++ rest := by
  unfold Version.read?
  constructor
  · intro h
    split at h
    · next build patch minor major rest hdrop =>
      obtain rfl := Option.some.inj h
      exact ⟨rest, hdrop⟩
    · exact nomatch h
  · rintro ⟨rest, hdrop⟩
    rw [hdrop]
    rfl

theorem Version.isFirst_iff {v : Version} : v.isFirst = true ↔ v = .first := beq_iff_eq

/-! ## Layouts -/

/-- How many octets are reserved between the version tag and the numbers. -/
def Layout.reserved : Layout → Nat
  | .first => 0
  | .second => 20

/-- The data begin with the signature, the version tag, so many octets and the numbers. -/
def LaidOut (reserved : Nat) (v : Version) (ns : List UInt32) (data : List UInt8) : Prop :=
  ∃ gap rest, gap.length = reserved ∧
    data = signature ++ (v.octets ++ (gap ++ (ns.flatMap numberOctets ++ rest)))

theorem length_signature : signature.length = 12 := rfl

theorem Version.length_octets (v : Version) : v.octets.length = 4 := rfl

theorem length_flatMap_numberOctets (ns : List UInt32) :
    (ns.flatMap numberOctets).length = 4 * ns.length := by
  induction ns with
  | nil => rfl
  | cons n ns ih =>
    rw [List.flatMap_cons, List.length_append, length_numberOctets, ih, List.length_cons]
    omega

/-- Behind the signature, the version tag and the reserved octets stand the numbers. -/
theorem drop_laidOut (v : Version) {gap : List UInt8} {reserved : Nat} (hgap : gap.length = reserved)
    (ns : List UInt32) (rest : List UInt8) :
    (signature ++ (v.octets ++ (gap ++ (ns.flatMap numberOctets ++ rest)))).drop (16 + reserved) =
      ns.flatMap numberOctets ++ rest := by
  rw [← List.append_assoc, ← List.append_assoc]
  refine List.drop_left' ?_
  rw [List.length_append, List.length_append, length_signature, Version.length_octets, hgap]

theorem readPrefix_eq_ok_iff {layout : Layout} {v : Version} :
    readPrefix layout data = .ok v ↔
      layout.length ≤ data.length ∧ ∃ rest, data = signature ++ (v.octets ++ rest) := by
  have htag : (signature <+: data ∧ Version.read? data = some v) ↔
      ∃ rest, data = signature ++ (v.octets ++ rest) := by
    constructor
    · rintro ⟨⟨rest, rfl⟩, hread⟩
      obtain ⟨rest', hdrop⟩ := Version.read?_eq_some_iff.mp hread
      rw [List.drop_left' length_signature] at hdrop
      exact ⟨rest', by rw [hdrop]⟩
    · rintro ⟨rest, rfl⟩
      exact ⟨List.prefix_append _ _, Version.read?_eq_some_iff.mpr
        ⟨rest, List.drop_left' length_signature⟩⟩
  rw [← htag]
  unfold readPrefix
  by_cases hlong : layout.length ≤ data.length
  · rw [if_neg (Nat.not_lt.mpr hlong)]
    by_cases hsign : signature <+: data
    · rw [List.isPrefixOf_iff_prefix.mpr hsign]
      cases Version.read? data <;> simp [hlong, hsign]
    · rw [Bool.eq_false_iff.mpr (mt List.isPrefixOf_iff_prefix.mp hsign)]
      simp [hsign]
  · simp [hlong, Nat.not_le.mp hlong]

/-- **What is laid out is what the prefix and the numbers say.** -/
theorem laidOut_iff (layout : Layout) {v : Version} {ns : List UInt32}
    (hlength : layout.length = 16 + layout.reserved + 4 * ns.length) :
    LaidOut layout.reserved v ns data ↔
      readPrefix layout data = .ok v ∧
        numbersFrom data (16 + layout.reserved) ns.length = ns := by
  rw [readPrefix_eq_ok_iff]
  constructor
  · rintro ⟨gap, rest, hgap, rfl⟩
    refine ⟨⟨?_, _, rfl⟩, numbersFrom_of_drop (drop_laidOut v hgap ns rest)⟩
    simp only [List.length_append, length_signature, Version.length_octets, hgap,
      length_flatMap_numberOctets]
    omega
  · rintro ⟨⟨hlong, rest, rfl⟩, hnumbers⟩
    have hrest : (signature ++ (v.octets ++ rest)).drop (16 + layout.reserved) =
        rest.drop layout.reserved := by
      rw [← List.append_assoc, ← List.drop_drop]
      rfl
    obtain ⟨tail, htail⟩ : ∃ tail, rest.drop layout.reserved = ns.flatMap numberOctets ++ tail := by
      rw [← hrest, drop_eq_flatMap_numbersFrom (hlength ▸ hlong), hnumbers]
      exact ⟨_, rfl⟩
    have hgap : (rest.take layout.reserved).length = layout.reserved := by
      rw [List.length_take]
      simp only [List.length_append, length_signature, Version.length_octets] at hlong
      omega
    exact ⟨_, tail, hgap, by rw [← htail, List.take_append_drop]⟩

/-! ## Headers -/

/-- A header is its version tag and its numbers. -/
theorem FirstHeader.eq_of_fields {g h : FirstHeader} (hversion : g.version = h.version)
    (hfields : g.fields = h.fields) : g = h := by
  cases g
  cases h
  simp_all [FirstHeader.fields]

/-- A header is its version tag and its numbers. -/
theorem SecondHeader.eq_of_fields {g h : SecondHeader} (hversion : g.version = h.version)
    (hfields : g.fields = h.fields) : g = h := by
  cases g
  cases h
  simp_all [SecondHeader.fields]

/-- A step whose result is checked before it is used. -/
theorem checked_eq_ok_iff {ε α β : Type} {r : Except ε α} {p : α → Bool} {e : α → ε} {f : α → β}
    {b : β} :
    (do
      let v ← r
      if p v then throw (e v)
      pure (f v)) = Except.ok b ↔ ∃ v, r = .ok v ∧ p v = false ∧ f v = b := by
  cases r with
  | error e => exact iff_of_false (fun he => nomatch he) (fun ⟨_, he, _⟩ => nomatch he)
  | ok v =>
    cases hp : p v <;> simp [bind, Except.bind, pure, Except.pure, throw, throwThe,
      MonadExceptOf.throw, hp]

theorem FirstHeader.read_eq_ok_iff {h : FirstHeader} :
    FirstHeader.read data = .ok h ↔
      h.version = .first ∧ LaidOut 0 h.version h.fields data := by
  have hlaid : LaidOut 0 h.version h.fields data ↔ readPrefix .first data = .ok h.version ∧
      numbersFrom data 16 4 = h.fields := laidOut_iff .first rfl
  rw [hlaid, FirstHeader.read, checked_eq_ok_iff]
  constructor
  · rintro ⟨v, hprefix, htag, rfl⟩
    exact ⟨Version.isFirst_iff.mp (by simpa using htag), hprefix, rfl⟩
  · rintro ⟨htag, hprefix, hfields⟩
    refine ⟨h.version, hprefix, ?_, FirstHeader.eq_of_fields rfl hfields⟩
    rw [htag]
    rfl

theorem SecondHeader.read_eq_ok_iff {h : SecondHeader} :
    SecondHeader.read data = .ok h ↔
      h.version ≠ .first ∧ LaidOut 20 h.version h.fields data := by
  have hlaid : LaidOut 20 h.version h.fields data ↔ readPrefix .second data = .ok h.version ∧
      numbersFrom data 36 8 = h.fields := laidOut_iff .second rfl
  rw [hlaid, SecondHeader.read, checked_eq_ok_iff]
  constructor
  · rintro ⟨v, hprefix, htag, rfl⟩
    exact ⟨fun hv => Bool.noConfusion (htag.symm.trans (Version.isFirst_iff.mpr hv)), hprefix, rfl⟩
  · rintro ⟨htag, hprefix, hfields⟩
    exact ⟨h.version, hprefix, Bool.eq_false_iff.mpr (mt Version.isFirst_iff.mp htag),
      SecondHeader.eq_of_fields rfl hfields⟩

theorem LaidOut.read?_eq {reserved : Nat} {v : Version} {ns : List UInt32}
    (h : LaidOut reserved v ns data) : Version.read? data = some v := by
  obtain ⟨gap, rest, _, rfl⟩ := h
  exact Version.read?_eq_some_iff.mpr ⟨_, List.drop_left' length_signature⟩

namespace Header

/-- The layout of a header. -/
def layout : Header → Layout
  | .first _ => .first
  | .second _ => .second

/-- The numbers of a header, in the order in which they are stored. -/
def fields : Header → List UInt32
  | .first h => h.fields
  | .second h => h.fields

/-- The layout is chosen by the version tag. -/
theorem layoutOf_of_laidOut {reserved : Nat} {v : Version} {ns : List UInt32}
    (h : LaidOut reserved v ns data) :
    layoutOf data = if v = .first then .first else .second := by
  rw [layoutOf, h.read?_eq, Option.any_some]
  by_cases hv : v = .first
  · rw [if_pos hv, if_pos (Version.isFirst_iff.mpr hv)]
  · rw [if_neg hv, if_neg (mt Version.isFirst_iff.mp hv)]

/-- **A header is read if and only if its tag fits its layout and the data are laid out as it says.** -/
theorem read_eq_ok_iff {h : Header} :
    Header.read data = .ok h ↔ (h.layout = .first ↔ h.version = .first) ∧
      LaidOut h.layout.reserved h.version h.fields data := by
  cases h with
  | first g =>
    have hread : Header.read data = .ok (.first g) ↔
        layoutOf data = .first ∧ FirstHeader.read data = .ok g := by
      unfold Header.read
      cases layoutOf data with
      | first => cases FirstHeader.read data <;> simp [Except.map]
      | second => cases SecondHeader.read data <;> simp [Except.map]
    rw [hread, FirstHeader.read_eq_ok_iff]
    constructor
    · rintro ⟨_, htag, hlaid⟩
      exact ⟨iff_of_true rfl htag, hlaid⟩
    · rintro ⟨htag, hlaid⟩
      have hfirst : g.version = .first := htag.mp rfl
      exact ⟨by rw [layoutOf_of_laidOut hlaid]; exact if_pos hfirst, hfirst, hlaid⟩
  | second g =>
    have hread : Header.read data = .ok (.second g) ↔
        layoutOf data = .second ∧ SecondHeader.read data = .ok g := by
      unfold Header.read
      cases layoutOf data with
      | first => cases FirstHeader.read data <;> simp [Except.map]
      | second => cases SecondHeader.read data <;> simp [Except.map]
    rw [hread, SecondHeader.read_eq_ok_iff]
    constructor
    · rintro ⟨_, htag, hlaid⟩
      exact ⟨iff_of_false (fun h => nomatch h) htag, hlaid⟩
    · rintro ⟨htag, hlaid⟩
      have hsecond : g.version ≠ .first := fun hv => nomatch htag.mpr hv
      exact ⟨by rw [layoutOf_of_laidOut hlaid]; exact if_neg hsecond, hsecond, hlaid⟩

/-- **What is written is laid out** as the header says, with zeros in the reserved octets. -/
theorem laidOut_octets (h : Header) :
    LaidOut h.layout.reserved h.version h.fields h.octets := by
  refine ⟨List.replicate h.layout.reserved 0, [], List.length_replicate, ?_⟩
  cases h with
  | first g => simp [octets, FirstHeader.octets, version, fields, layout, Layout.reserved]
  | second g => simp [octets, SecondHeader.octets, version, fields, layout, Layout.reserved]

end Header

/-! ## What reading depends on -/

section

variable {reserved : Nat} {v : Version} {ns : List UInt32}

theorem LaidOut.take_eq (h : LaidOut reserved v ns data) :
    data.take 16 = signature ++ v.octets := by
  obtain ⟨gap, rest, _, rfl⟩ := h
  rw [← List.append_assoc]
  exact List.take_left' rfl

theorem LaidOut.numbers_eq (h : LaidOut reserved v ns data) :
    (data.take (16 + reserved + 4 * ns.length)).drop (16 + reserved) = ns.flatMap numberOctets := by
  obtain ⟨gap, rest, hgap, rfl⟩ := h
  rw [List.drop_take, drop_laidOut v hgap, Nat.add_sub_cancel_left]
  exact List.take_left' (length_flatMap_numberOctets ns)

/-- **Reading depends neither on the reserved octets nor on what follows.** -/
theorem LaidOut.replace (h : LaidOut reserved v ns data) {gap : List UInt8}
    (hgap : gap.length = reserved) (rest : List UInt8) :
    LaidOut reserved v ns (data.take 16 ++ gap ++
      (data.take (16 + reserved + 4 * ns.length)).drop (16 + reserved) ++ rest) := by
  rw [h.take_eq, h.numbers_eq]
  exact ⟨gap, rest, hgap, by simp only [List.append_assoc]⟩

end

/-- **Writing and reading a header are inverse exactly if its tag fits its layout.** A header that is
written and read again comes back if and only if it is in the first layout just when its tag is
`1.010`. Conversely, a header that was read is written as the octets that it was read from: the first 32
of a container in the first layout, and the first 68 of one in the second, with the twenty reserved
octets made zero. No other octets matter to reading. -/
theorem round_trip_iff_tag_fits_layout :
    (∀ h : Header,
      Header.read h.octets = .ok h ↔ ((∃ g, h = .first g) ↔ h.version = .first)) ∧
    (∀ data g, Header.read data = .ok (.first g) →
      g.octets = data.take 32 ∧
      ∀ rest, Header.read (data.take 32 ++ rest) = .ok (.first g)) ∧
    ∀ data g, Header.read data = .ok (.second g) →
      g.octets = data.take 16 ++ List.replicate 20 0 ++ (data.take 68).drop 36 ∧
      ∀ reserved rest, reserved.length = 20 →
        Header.read (data.take 16 ++ reserved ++ (data.take 68).drop 36 ++ rest) =
          .ok (.second g) := by
  refine ⟨fun h => ?_, fun data g hread => ?_, fun data g hread => ?_⟩
  · rw [Header.read_eq_ok_iff, and_iff_left h.laidOut_octets]
    cases h <;> simp [Header.layout]
  · obtain ⟨htag, hlaid⟩ := Header.read_eq_ok_iff.mp hread
    have hsplit : data.take 32 = data.take 16 ++ [] ++ (data.take 32).drop 16 := by
      rw [List.append_nil, List.drop_take, ← List.take_add]
    have hnumbers : (data.take 32).drop 16 = g.fields.flatMap numberOctets := hlaid.numbers_eq
    refine ⟨?_, fun rest => Header.read_eq_ok_iff.mpr ⟨htag, ?_⟩⟩
    · rw [hsplit, hlaid.take_eq, hnumbers, List.append_nil]
      rfl
    · rw [hsplit]
      exact hlaid.replace rfl rest
  · obtain ⟨htag, hlaid⟩ := Header.read_eq_ok_iff.mp hread
    have hnumbers : (data.take 68).drop 36 = g.fields.flatMap numberOctets := hlaid.numbers_eq
    refine ⟨?_, fun reserved rest hreserved =>
      Header.read_eq_ok_iff.mpr ⟨htag, hlaid.replace hreserved rest⟩⟩
    rw [hlaid.take_eq, hnumbers]
    rfl

/-- The tag `2.100`, eight numbers of which no two are alike, ones in the reserved octets, and more
after the header. -/
def busyContainer : List UInt8 :=
  signature ++ [0, 0, 1, 2] ++ List.replicate 20 1 ++
    [4, 3, 2, 1, 0, 1, 0, 0, 255, 255, 255, 255, 7, 0, 0, 0, 0, 0, 0, 128, 5, 0, 0, 0, 0, 9, 0, 0,
      6, 0, 0, 0] ++ [8, 8]

/-- The octets that come back are those of the container, but for the reserved ones and the last two;
with its numbers cut to those of the first layout and the tag of the second kept, a header is lost. -/
theorem round_trip_of_busyContainer :
    ∃ g : SecondHeader, Header.read busyContainer = .ok (.second g) ∧
      g = ⟨.fresh, 0x01020304, 256, 0xFFFFFFFF, 7, 0x80000000, 5, 0x900, 6⟩ ∧
      g.octets = signature ++ [0, 0, 1, 2] ++ List.replicate 20 0 ++ (busyContainer.take 68).drop 36 ∧
      Header.read (Header.first ⟨.fresh, 0x01020304, 256, 0xFFFFFFFF, 7⟩).octets ≠
        .ok (.first ⟨.fresh, 0x01020304, 256, 0xFFFFFFFF, 7⟩) := by
  obtain ⟨hwritten, _, hread⟩ := round_trip_iff_tag_fits_layout
  have hbusy : Header.read busyContainer =
      .ok (.second ⟨.fresh, 0x01020304, 256, 0xFFFFFFFF, 7, 0x80000000, 5, 0x900, 6⟩) := rfl
  refine ⟨_, hbusy, rfl, (hread _ _ hbusy).1, fun h => ?_⟩
  exact absurd (((hwritten _).mp h).mp ⟨_, rfl⟩) (by decide)

end FighterCheck.Sprite
