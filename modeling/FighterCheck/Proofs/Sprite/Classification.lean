import FighterCheck.Proofs.Sprite.RoundTrip
import FighterCheck.Sprite.File

/-!
# What reading makes of any octets

The tag is looked at twice: before anything else, to choose the layout, and again by the reader of that
layout, which refuses the tag of the other one. Both look at the same four octets, so the second check
never fails, and octets that are no header are either too few or unsigned.

The tag of the first layout may as well be told by how it is written. Not every tag can: `1.01111` is
written for three of them. But `1.010` has only five signs, which leaves one digit for each of the four
octets (`Version.text_eq_iff`).

Nothing behind the first 68 octets is looked at, neither by the choice of the layout nor by the readers,
so a file of which only so much is taken is read as the whole of it would be.
-/

namespace FighterCheck.Sprite

open Files (Tree)

variable {data : List UInt8}

/-! ## The tag in words -/

theorem eq_of_toDigits_eq_singleton {n : UInt8} {c : Char} (h : Nat.toDigits 10 n.toNat = [c]) :
    n = UInt8.ofNat (c.toNat - '0'.toNat) := by
  have hvalue := Nat.ofDigitChars_toDigits (b := 10) (n := n.toNat) (by decide) (by decide)
  rw [h, Nat.ofDigitChars_cons, Nat.ofDigitChars_nil, Nat.mul_zero, Nat.zero_add] at hvalue
  rw [hvalue, UInt8.ofNat_toNat]

/-- **A tag is written `1.010` only if it is that of the first layout.** -/
theorem Version.text_eq_iff {v : Version} : v.text = "1.010" ↔ v = .first := by
  refine ⟨fun htext => ?_, fun h => h ▸ by decide +kernel⟩
  have hlist := congrArg String.toList htext
  simp only [text, Text.showNat, String.toList_append, String.toList_ofList, List.append_assoc] at hlist
  -- each of the four parts has a digit, and there is no place for more
  have hdigit : ∀ n : UInt8, 0 < (Nat.toDigits 10 n.toNat).length := fun n => Nat.length_toDigits_pos
  have hone : (Nat.toDigits 10 v.major.toNat).length = 1 ∧ (Nat.toDigits 10 v.minor.toNat).length = 1 ∧
      (Nat.toDigits 10 v.patch.toNat).length = 1 ∧ (Nat.toDigits 10 v.build.toNat).length = 1 := by
    have hlength := congrArg List.length hlist
    simp only [List.length_append, show ".".toList.length = 1 by decide,
      show "1.010".toList.length = 5 by decide] at hlength
    have hmajor := hdigit v.major
    have hminor := hdigit v.minor
    have hpatch := hdigit v.patch
    have hbuild := hdigit v.build
    omega
  simp only [List.length_eq_one_iff] at hone
  obtain ⟨⟨a, ha⟩, ⟨b, hb⟩, ⟨c, hc⟩, d, hd⟩ := hone
  rw [ha, hb, hc, hd] at hlist
  obtain ⟨rfl, rfl, rfl, rfl⟩ : a = '1' ∧ b = '0' ∧ c = '1' ∧ d = '0' := by simpa using hlist
  cases v
  simp only [first, Version.mk.injEq]
  exact ⟨eq_of_toDigits_eq_singleton ha, eq_of_toDigits_eq_singleton hb,
    eq_of_toDigits_eq_singleton hc, eq_of_toDigits_eq_singleton hd⟩

/-! ## The octets of the tag -/

/-- A tag is read where its four octets stand. -/
theorem Version.read?_eq_some_iff_take {v : Version} :
    Version.read? data = some v ↔ (data.drop 12).take 4 = v.octets := by
  rw [Version.read?_eq_some_iff]
  constructor
  · rintro ⟨rest, hdrop⟩
    rw [hdrop]
    exact List.take_left' v.length_octets
  · intro htake
    exact ⟨(data.drop 12).drop 4, by rw [← htake, List.take_append_drop]⟩

/-- Data that are long enough have a tag. -/
theorem Version.exists_read?_eq_some (h : 16 ≤ data.length) : ∃ v, Version.read? data = some v := by
  have hlength : (data.drop 12).length = data.length - 12 := List.length_drop
  unfold Version.read?
  split
  · next build patch minor major rest hdrop => exact ⟨_, rfl⟩
  · next hshort =>
    match hdrop : data.drop 12 with
    | build :: patch :: minor :: major :: rest =>
      exact absurd hdrop (hshort build patch minor major rest)
    | [] | [_] | [_, _] | [_, _, _] =>
      rw [hdrop] at hlength
      simp only [List.length_cons, List.length_nil] at hlength
      omega

theorem Version.length_le_of_read? {v : Version} (h : Version.read? data = some v) :
    16 ≤ data.length := by
  have hlength := congrArg List.length (Version.read?_eq_some_iff_take.mp h)
  rw [List.length_take, List.length_drop, v.length_octets] at hlength
  omega

namespace Header

theorem layoutOf_eq_first_iff : layoutOf data = .first ↔ Version.read? data = some .first := by
  unfold layoutOf
  cases Version.read? data with
  | none => simp
  | some v =>
    rw [Option.any_some, Option.some.injEq, ← Version.isFirst_iff]
    cases v.isFirst <;> simp

/-- **The layout is the first just for data whose tag is written `1.010`.** -/
theorem layoutOf_eq_first_iff_text :
    layoutOf data = .first ↔
      16 ≤ data.length ∧ ∃ v : Version, (data.drop 12).take 4 = v.octets ∧ v.text = "1.010" := by
  rw [layoutOf_eq_first_iff]
  constructor
  · intro hread
    exact ⟨Version.length_le_of_read? hread, .first, Version.read?_eq_some_iff_take.mp hread,
      Version.text_eq_iff.mpr rfl⟩
  · rintro ⟨_, v, htake, htext⟩
    obtain rfl := Version.text_eq_iff.mp htext
    exact Version.read?_eq_some_iff_take.mpr htake

/-! ## The three outcomes -/

theorem read_of_readPrefix_eq_error {e : HeaderError}
    (h : readPrefix (layoutOf data) data = .error e) : Header.read data = .error e := by
  unfold Header.read
  cases hlayout : layoutOf data with
  | first =>
    rw [hlayout] at h
    rw [FirstHeader.read, h]
    rfl
  | second =>
    rw [hlayout] at h
    rw [SecondHeader.read, h]
    rfl

/-- **The reader of the chosen layout does not refuse the tag** that the layout was chosen by. -/
theorem exists_read_of_readPrefix_eq_ok {v : Version}
    (h : readPrefix (layoutOf data) data = .ok v) :
    ∃ g, Header.read data = .ok g ∧ g.layout = layoutOf data := by
  have htag : Version.read? data = some v := by
    obtain ⟨_, rest, rfl⟩ := readPrefix_eq_ok_iff.mp h
    exact Version.read?_eq_some_iff.mpr ⟨rest, List.drop_left' length_signature⟩
  unfold Header.read
  cases hlayout : layoutOf data with
  | first =>
    have hfirst : v.isFirst = true := by
      rw [layoutOf_eq_first_iff, htag] at hlayout
      exact Version.isFirst_iff.mpr (Option.some.inj hlayout)
    rw [hlayout] at h
    obtain ⟨g, hg⟩ : ∃ g, FirstHeader.read data = .ok g :=
      ⟨_, checked_eq_ok_iff.mpr ⟨v, h, by rw [hfirst]; rfl, rfl⟩⟩
    exact ⟨.first g, by rw [hg]; rfl, rfl⟩
  | second =>
    have hsecond : v.isFirst = false := by
      refine Bool.eq_false_iff.mpr fun hv => ?_
      have hfirst : layoutOf data = .first := by
        rw [layoutOf_eq_first_iff, htag, Version.isFirst_iff.mp hv]
      exact nomatch hlayout.symm.trans hfirst
    rw [hlayout] at h
    obtain ⟨g, hg⟩ : ∃ g, SecondHeader.read data = .ok g :=
      ⟨_, checked_eq_ok_iff.mpr ⟨v, h, hsecond, rfl⟩⟩
    exact ⟨.second g, by rw [hg]; rfl, rfl⟩

end Header

/-! ## What the readers ask for -/

section

variable {layout : Layout}

theorem readPrefix_of_short (h : data.length < layout.length) :
    readPrefix layout data = .error (.truncated layout.length data.length) := if_pos h

theorem readPrefix_of_unsigned (h : layout.length ≤ data.length) (hsign : ¬ signature <+: data) :
    readPrefix layout data = .error .malformed := by
  rw [readPrefix, if_neg (Nat.not_lt.mpr h),
    Bool.eq_false_iff.mpr (mt List.isPrefixOf_iff_prefix.mp hsign)]
  rfl

theorem exists_readPrefix_eq_ok (h : layout.length ≤ data.length) (hsign : signature <+: data) :
    ∃ v, readPrefix layout data = .ok v := by
  have hlong : 16 ≤ layout.length := by cases layout <;> decide
  obtain ⟨v, hv⟩ := Version.exists_read?_eq_some (Nat.le_trans hlong h)
  refine ⟨v, ?_⟩
  rw [readPrefix, if_neg (Nat.not_lt.mpr h), List.isPrefixOf_iff_prefix.mpr hsign, hv]
  rfl

end

namespace Header

theorem read_of_short (h : data.length < (layoutOf data).length) :
    Header.read data = .error (.truncated (layoutOf data).length data.length) :=
  read_of_readPrefix_eq_error (readPrefix_of_short h)

theorem read_of_unsigned (h : (layoutOf data).length ≤ data.length) (hsign : ¬ signature <+: data) :
    Header.read data = .error .malformed :=
  read_of_readPrefix_eq_error (readPrefix_of_unsigned h hsign)

theorem exists_read_eq_ok (h : (layoutOf data).length ≤ data.length) (hsign : signature <+: data) :
    ∃ g, Header.read data = .ok g ∧ g.layout = layoutOf data := by
  obtain ⟨v, hv⟩ := exists_readPrefix_eq_ok h hsign
  exact exists_read_of_readPrefix_eq_ok hv

/-- **No tag is refused.** -/
theorem read_ne_wrongVersion (v : Version) (layout : Layout) :
    Header.read data ≠ .error (.wrongVersion v layout) := by
  intro hread
  by_cases hlong : (layoutOf data).length ≤ data.length
  · by_cases hsign : signature <+: data
    · obtain ⟨g, hg, _⟩ := exists_read_eq_ok hlong hsign
      exact nomatch hread.symm.trans hg
    · exact nomatch hread.symm.trans (read_of_unsigned hlong hsign)
  · exact nomatch hread.symm.trans (read_of_short (Nat.not_le.mp hlong))

end Header

/-! ## How far reading looks -/

theorem take_drop_flatMap_numberOctets {ns : List UInt32} {i : Nat} {n : UInt32}
    (hn : ns[i]? = some n) (rest : List UInt8) :
    ((ns.flatMap numberOctets ++ rest).drop (4 * i)).take 4 = numberOctets n := by
  induction ns generalizing i with
  | nil => exact nomatch hn
  | cons m ns ih =>
    rw [List.flatMap_cons, List.append_assoc]
    cases i with
    | zero =>
      obtain rfl := Option.some.inj hn
      exact List.take_left' (length_numberOctets m)
    | succ i =>
      rw [show 4 * (i + 1) = 4 + 4 * i by omega, ← List.drop_drop,
        List.drop_left' (length_numberOctets m)]
      exact ih hn

section

variable {reserved : Nat} {v : Version} {ns : List UInt32}

/-- **Every number that is read stands in the data**, with all of its four octets. -/
theorem LaidOut.take_number (h : LaidOut reserved v ns data) {i : Nat} {n : UInt32}
    (hn : ns[i]? = some n) :
    (data.drop (16 + reserved + 4 * i)).take 4 = numberOctets n := by
  obtain ⟨gap, rest, hgap, rfl⟩ := h
  rw [← List.drop_drop, drop_laidOut v hgap, take_drop_flatMap_numberOctets hn]

/-- What is laid out is so without the octets that follow. -/
theorem LaidOut.take (h : LaidOut reserved v ns data) {n : Nat}
    (hn : 16 + reserved + 4 * ns.length ≤ n) : LaidOut reserved v ns (data.take n) := by
  obtain ⟨gap, rest, hgap, rfl⟩ := h
  refine ⟨gap, rest.take (n - (16 + reserved + 4 * ns.length)), hgap, ?_⟩
  have hlength : (signature ++ (v.octets ++ (gap ++ ns.flatMap numberOctets))).length =
      16 + reserved + 4 * ns.length := by
    simp only [List.length_append, length_signature, Version.length_octets, hgap,
      length_flatMap_numberOctets]
    omega
  have hsplit : ∀ tail, signature ++ (v.octets ++ (gap ++ (ns.flatMap numberOctets ++ tail))) =
      (signature ++ (v.octets ++ (gap ++ ns.flatMap numberOctets))) ++ tail := by
    simp only [List.append_assoc, implies_true]
  rw [hsplit, hsplit, List.take_append, hlength, List.take_of_length_le (hlength ▸ hn)]

end

theorem Version.read?_take {n : Nat} (hn : 16 ≤ n) :
    Version.read? (data.take n) = Version.read? data := by
  refine Option.ext fun v => ?_
  rw [read?_eq_some_iff_take, read?_eq_some_iff_take, List.drop_take, List.take_take,
    Nat.min_eq_left (by omega)]

namespace Header

theorem layoutOf_take {n : Nat} (hn : 16 ≤ n) : layoutOf (data.take n) = layoutOf data := by
  rw [layoutOf, Version.read?_take hn, layoutOf]

theorem fields_fit (g : Header) : 16 + g.layout.reserved + 4 * g.fields.length ≤ 68 := by
  cases g with
  | first g => exact (by decide : 32 ≤ 68)
  | second g => exact Nat.le_refl 68

/-- **The first 68 octets suffice.** -/
theorem read_take {n : Nat} (hn : 68 ≤ n) : Header.read (data.take n) = Header.read data := by
  by_cases hshort : data.length ≤ n
  · rw [List.take_of_length_le hshort]
  have htake : (data.take n).length = n := List.length_take_of_le (Nat.le_of_not_le hshort)
  have hlayout : layoutOf (data.take n) = layoutOf data := layoutOf_take (by omega)
  have hlength : (layoutOf data).length ≤ 68 := by cases layoutOf data <;> decide
  by_cases hsign : signature <+: data
  · obtain ⟨g, hread, _⟩ := exists_read_eq_ok (by omega) hsign
    obtain ⟨htag, hlaid⟩ := read_eq_ok_iff.mp hread
    rw [hread, read_eq_ok_iff]
    exact ⟨htag, hlaid.take (Nat.le_trans g.fields_fit hn)⟩
  · have hsign' : ¬ signature <+: data.take n := fun h => hsign (List.prefix_take_iff.mp h).1
    rw [read_of_unsigned (by omega) hsign, read_of_unsigned (by rw [hlayout]; omega) hsign']

end Header

/-- A file is read as the whole of its octets would be. -/
theorem readHeader_of_read {t : Tree} {path : String} (h : t.read path = .ok data) :
    readHeader t path = (Header.read data).mapError .header := by
  unfold readHeader
  rw [h]
  dsimp only
  rw [Header.read_take (show 68 ≤ Layout.second.length from Nat.le_refl 68)]
  cases Header.read data <;> rfl

/-- **Any octets are classified, and the first 68 of them decide.** Data are in the first layout if and
only if they have a tag and it is written `1.010`, and in the second otherwise. If they are shorter than
a header in that layout, reading says so, and names both lengths; if they are long enough and do not
begin with the signature, they are malformed; otherwise a header of that layout is read, each number of
it from four octets of the data. The tag is never refused. Reading the first 68 octets comes to the same
as reading all, so that a file is read as all its octets are. -/
theorem octets_are_classified_by_the_first_68 (data : List UInt8) :
    (Header.layoutOf data = .first ↔
      16 ≤ data.length ∧ ∃ v : Version, (data.drop 12).take 4 = v.octets ∧ v.text = "1.010") ∧
    (data.length < (Header.layoutOf data).length →
      Header.read data = .error (.truncated (Header.layoutOf data).length data.length)) ∧
    ((Header.layoutOf data).length ≤ data.length → ¬ signature <+: data →
      Header.read data = .error .malformed) ∧
    ((Header.layoutOf data).length ≤ data.length → signature <+: data →
      ∃ g, Header.read data = .ok g ∧ g.layout = Header.layoutOf data ∧
        (data.drop 12).take 4 = g.version.octets ∧
        ∀ i n, g.fields[i]? = some n →
          (data.drop (16 + g.layout.reserved + 4 * i)).take 4 = numberOctets n) ∧
    (∀ v layout, Header.read data ≠ .error (.wrongVersion v layout)) ∧
    Header.read (data.take 68) = Header.read data ∧
    ∀ (t : Tree) (path : String), t.read path = .ok data →
      readHeader t path = (Header.read data).mapError .header := by
  refine ⟨Header.layoutOf_eq_first_iff_text, Header.read_of_short, Header.read_of_unsigned,
    fun hlong hsign => ?_, Header.read_ne_wrongVersion, Header.read_take (Nat.le_refl 68),
    fun t path => readHeader_of_read⟩
  obtain ⟨g, hread, hlayout⟩ := Header.exists_read_eq_ok hlong hsign
  obtain ⟨_, hlaid⟩ := Header.read_eq_ok_iff.mp hread
  exact ⟨g, hread, hlayout, Version.read?_eq_some_iff_take.mp hlaid.read?_eq,
    fun i n => hlaid.take_number⟩

/-- Twenty octets with the tag `1.010` are too few for the first layout; thirty-two are malformed if
the last octet of the signature stands before the others; and the busy container is in the second layout,
also as a file. -/
theorem short_unsigned_and_whole_octets_are_classified :
    Header.read (signature ++ [0, 1, 0, 1, 7, 7, 7, 7]) = .error (.truncated 32 20) ∧
    Header.read (0 :: signature.take 11 ++ [0, 1, 0, 1] ++ List.replicate 16 7) = .error .malformed ∧
    (∃ g, Header.read busyContainer = .ok g ∧ g.layout = .second ∧
      (busyContainer.drop 40).take 4 = numberOctets 256) ∧
    readHeader ⟨[(⟨.above 0, ["k.sff"]⟩, .file busyContainer)]⟩ "k.sff" =
      (Header.read busyContainer).mapError .header := by
  obtain ⟨_, hshort, _⟩ :=
    octets_are_classified_by_the_first_68 (signature ++ [0, 1, 0, 1, 7, 7, 7, 7])
  obtain ⟨_, _, hunsigned, _⟩ := octets_are_classified_by_the_first_68
    (0 :: signature.take 11 ++ [0, 1, 0, 1] ++ List.replicate 16 7)
  obtain ⟨_, _, _, hwhole, _, _, hfile⟩ := octets_are_classified_by_the_first_68 busyContainer
  obtain ⟨g, hread, hlayout, _, hnumbers⟩ := hwhole (by decide) (by decide)
  have hbusy : Header.read busyContainer =
      .ok (.second ⟨.fresh, 0x01020304, 256, 0xFFFFFFFF, 7, 0x80000000, 5, 0x900, 6⟩) := rfl
  obtain rfl := Except.ok.inj (hread.symm.trans hbusy)
  exact ⟨hshort (by decide), hunsigned (by decide) (by decide),
    ⟨_, hread, hlayout, hnumbers 1 256 rfl⟩, hfile _ _ rfl⟩

end FighterCheck.Sprite
