/-!
# The outcome of decoding octets

A decoder turns octets into a list with one item for each character and for each malformed sequence.
Reading leniently puts the replacement character in place of a malformed sequence; reading strictly
refuses a text that has one.
-/

namespace FighterCheck.Encoding

/-- What one stretch of octets stands for: a character, or nothing where they are malformed. -/
abbrev Decoded := List (Option Char)

/-- The character that stands for a malformed sequence. -/
def replacement : Char := '\ufffd'

/-- The text, with the replacement character for each malformed sequence. -/
def Decoded.lenient (d : Decoded) : List Char := d.map (·.getD replacement)

/-- The text, if no sequence is malformed. -/
def Decoded.strict? : Decoded → Option (List Char)
  | [] => some []
  | none :: _ => none
  | some c :: d => (Decoded.strict? d).map (c :: ·)

theorem Decoded.strict?_eq_some_iff {d : Decoded} {cs : List Char} :
    d.strict? = some cs ↔ d = cs.map some := by
  induction d generalizing cs with
  | nil => cases cs <;> simp [Decoded.strict?]
  | cons x d ih =>
    cases x with
    | none => cases cs <;> simp [Decoded.strict?]
    | some c =>
      cases cs with
      | nil => simp [Decoded.strict?]
      | cons c' cs =>
        simp only [Decoded.strict?, Option.map_eq_some_iff, ih, List.cons.injEq, List.map_cons,
          Option.some.injEq]
        constructor
        · rintro ⟨_, rfl, rfl, rfl⟩
          exact ⟨rfl, rfl⟩
        · rintro ⟨rfl, rfl⟩
          exact ⟨_, rfl, rfl, rfl⟩

/-- A text without malformed sequences reads the same leniently and strictly. -/
theorem Decoded.lenient_of_strict? {d : Decoded} {cs : List Char} (h : d.strict? = some cs) :
    d.lenient = cs := by
  rw [Decoded.strict?_eq_some_iff] at h
  subst h
  simp [Decoded.lenient, Function.comp_def]

end FighterCheck.Encoding
