import FighterCheck.Proofs.Json.Numbers
import FighterCheck.Proofs.Json.Strings
import FighterCheck.Proofs.Text.Cutting

/-!
# Cutting a text into tokens

What is cut from a text depends on what stands after it: a word or a number goes on as long as there are
letters, or the digits, signs and marks that numbers are made of. `Lexes cs ts` therefore speaks of `cs`
in front of any rest that ends them, and a text is cut by composing it from left to right.
-/

namespace FighterCheck.Json

variable {c : Char} {cs ds rest : List Char} {ts us : List Token} {n m : Nat}

/-! ## Cutting without counting

The reader counts down as it cuts, from the length of the text. A higher count changes nothing, which
leaves one equation for each kind of token.
-/

/-- The characters that stand between tokens. -/
def blanks : List Char := [' ', '\n', '\r', '\t']

/-- The characters that are tokens by themselves. -/
def marks : List Char := ['[', ']', '\x7b', '\x7d', ',', ':']

theorem mem_blanks : c ∈ blanks ↔ c = ' ' ∨ c = '\n' ∨ c = '\r' ∨ c = '\t' := by
  simp only [blanks, List.mem_cons, List.not_mem_nil, or_false]

theorem mem_marks :
    c ∈ marks ↔ c = '[' ∨ c = ']' ∨ c = '\x7b' ∨ c = '\x7d' ∨ c = ',' ∨ c = ':' := by
  simp only [marks, List.mem_cons, List.not_mem_nil, or_false]

theorem notMem_blanks_of_mem_marks (hc : c ∈ marks) : c ∉ blanks := by
  intro hblank
  rcases mem_blanks.mp hblank with rfl | rfl | rfl | rfl <;> exact absurd hc (by decide)

/-- The tokens of a text. -/
def lex (cs : List Char) : Option (List Token) := tokens cs.length cs

theorem length_dropWhile_le (p : Char → Bool) (cs : List Char) :
    (cs.dropWhile p).length ≤ cs.length :=
  (List.dropWhile_sublist p).length_le

/-- One token is cut in the same way by two counts that agree on what may follow it. -/
theorem tokens_succ_congr
    (h : ∀ rest : List Char, rest.length ≤ cs.length → tokens n rest = tokens m rest) :
    tokens (n + 1) (c :: cs) = tokens (m + 1) (c :: cs) := by
  rw [tokens.eq_3, tokens.eq_3, h cs (Nat.le_refl _), h _ (length_dropWhile_le isNumberChar cs),
    h _ (length_dropWhile_le Char.isAlpha cs)]
  cases hscan : scanText cs with
  | none => rfl
  | some p => simp only [h p.2 (length_le_of_scanText hscan)]

theorem tokens_eq_of_length_le (hn : cs.length ≤ n) (hm : cs.length ≤ m) :
    tokens n cs = tokens m cs := by
  induction n generalizing m cs with
  | zero =>
    obtain rfl := List.eq_nil_of_length_eq_zero (Nat.le_zero.mp hn)
    rw [tokens.eq_1, tokens.eq_1]
  | succ n ih =>
    cases cs with
    | nil => rw [tokens.eq_1, tokens.eq_1]
    | cons c cs =>
      rw [List.length_cons] at hn hm
      obtain ⟨m, rfl⟩ := Nat.exists_eq_add_one_of_ne_zero (Nat.ne_zero_of_lt hm)
      exact tokens_succ_congr fun rest hrest => ih (by omega) (by omega)

theorem tokens_eq_lex (h : cs.length ≤ n) : tokens n cs = lex cs :=
  tokens_eq_of_length_le h (Nat.le_refl _)

theorem lex_nil : lex [] = some [] := tokens.eq_1 _

/-- **What the first character makes of a text**, without a count. -/
theorem lex_cons (c : Char) (cs : List Char) :
    lex (c :: cs) =
      if c ∈ blanks then lex cs
      else if c ∈ marks then (lex cs).map (.mark c :: ·)
      else if c = '"' then
        match scanText cs with
        | none => none
        | some (us, rest) =>
          (lex rest).map (.text ((joinSurrogates none us).map String.ofList) :: ·)
      else if c.isDigit ∨ c = '-' then
        if isNumber (c :: cs.takeWhile isNumberChar) then
          (lex (cs.dropWhile isNumberChar)).map
            (.number (String.ofList (c :: cs.takeWhile isNumberChar)) :: ·)
        else none
      else if c.isAlpha then
        (lex (cs.dropWhile Char.isAlpha)).map
          (.word (String.ofList (c :: cs.takeWhile Char.isAlpha)) :: ·)
      else none := by
  rw [lex, List.length_cons, tokens.eq_3, tokens_eq_lex (length_dropWhile_le isNumberChar cs),
    tokens_eq_lex (length_dropWhile_le Char.isAlpha cs)]
  simp only [mem_blanks, mem_marks]
  cases hscan : scanText cs with
  | none => rfl
  | some p => simp only [tokens_eq_lex (length_le_of_scanText hscan), lex]

theorem lex_cons_blank (hc : c ∈ blanks) : lex (c :: cs) = lex cs := by
  rw [lex_cons, if_pos hc]

theorem lex_cons_mark (hc : c ∈ marks) : lex (c :: cs) = (lex cs).map (.mark c :: ·) := by
  rw [lex_cons, if_neg (notMem_blanks_of_mem_marks hc), if_pos hc]

theorem lex_quote {vs : List Nat} (h : scanText cs = some (vs, rest)) :
    lex ('"' :: cs) =
      (lex rest).map (.text ((joinSurrogates none vs).map String.ofList) :: ·) := by
  rw [lex_cons, if_neg (by decide), if_neg (by decide), if_pos rfl, h]

/-- No character that begins a number or a word has another meaning. -/
theorem notMem_of_begins (hc : (c.isDigit ∨ c = '-') ∨ c.isAlpha) :
    c ∉ blanks ∧ c ∉ marks ∧ c ≠ '"' := by
  have hall : (blanks ++ marks ++ ['"']).all fun c =>
      decide (¬ ((c.isDigit ∨ c = '-') ∨ c.isAlpha)) := by
    decide
  have hnot : c ∉ blanks ++ marks ++ ['"'] := fun hmem =>
    of_decide_eq_true (List.all_eq_true.mp hall c hmem) hc
  simpa only [List.mem_append, List.mem_singleton, not_or, and_assoc] using hnot

theorem lex_cons_number (hc : c.isDigit ∨ c = '-')
    (h : isNumber (c :: cs.takeWhile isNumberChar)) :
    lex (c :: cs) =
      (lex (cs.dropWhile isNumberChar)).map
        (.number (String.ofList (c :: cs.takeWhile isNumberChar)) :: ·) := by
  obtain ⟨hblank, hmark, hquote⟩ := notMem_of_begins (.inl hc)
  rw [lex_cons, if_neg hblank, if_neg hmark, if_neg hquote, if_pos hc, if_pos h]

theorem not_isDigit_of_isAlpha (hc : c.isAlpha) : ¬ (c.isDigit ∨ c = '-') := by
  rintro (hdigit | rfl)
  · -- all letters come after the last digit
    have hnine : c.val ≤ '9'.val := of_decide_eq_true ((Bool.and_eq_true _ _).mp hdigit).2
    rcases (Bool.or_eq_true _ _).mp hc with hupper | hlower
    · have hle : 'A'.val ≤ c.val := (of_decide_eq_true hupper).1
      exact absurd (UInt32.le_trans hle hnine) (by decide)
    · have hle : 'a'.val ≤ c.val := of_decide_eq_true ((Bool.and_eq_true _ _).mp hlower).1
      exact absurd (UInt32.le_trans hle hnine) (by decide)
  · revert hc
    decide

theorem lex_cons_word (hc : c.isAlpha) :
    lex (c :: cs) =
      (lex (cs.dropWhile Char.isAlpha)).map
        (.word (String.ofList (c :: cs.takeWhile Char.isAlpha)) :: ·) := by
  obtain ⟨hblank, hmark, hquote⟩ := notMem_of_begins (.inr hc)
  rw [lex_cons, if_neg hblank, if_neg hmark, if_neg hquote, if_neg (not_isDigit_of_isAlpha hc), if_pos hc]

/-! ## A beginning of a text -/

/-- The rest of a text ends a word or a number that stands in front of it. -/
def Breaks (rest : List Char) : Prop :=
  ∀ c ∈ rest.head?, isNumberChar c = false ∧ c.isAlpha = false

theorem breaks_nil : Breaks [] := fun _ h => nomatch h

theorem breaks_cons (hc : c ∈ blanks ++ marks) : Breaks (c :: cs) := by
  have hall : (blanks ++ marks).all fun c => !isNumberChar c && !c.isAlpha := by decide
  intro d hd
  obtain rfl : c = d := Option.some.inj hd
  simpa using List.all_eq_true.mp hall c hc

/-- In front of any rest that ends them, these characters are cut into these tokens. -/
def Lexes (cs : List Char) (ts : List Token) : Prop :=
  ∀ rest, Breaks rest → lex (cs ++ rest) = (lex rest).map (ts ++ ·)

theorem Lexes.lex_eq (h : Lexes cs ts) : lex cs = some ts := by
  have hcs := h [] breaks_nil
  rwa [List.append_nil, lex_nil, Option.map_some, List.append_nil] at hcs

theorem lexes_nil : Lexes [] [] := by
  intro rest _
  simp only [List.nil_append, Option.map_id_fun', id_eq]

theorem Lexes.append (hcs : Lexes cs ts) (hds : Lexes ds us)
    (hbreaks : ∀ rest, Breaks rest → Breaks (ds ++ rest)) : Lexes (cs ++ ds) (ts ++ us) := by
  intro rest hrest
  rw [List.append_assoc, hcs _ (hbreaks rest hrest), hds rest hrest, Option.map_map]
  simp only [Function.comp_def, List.append_assoc]

theorem Lexes.cons_blank (h : Lexes cs ts) (hc : c ∈ blanks) : Lexes (c :: cs) ts := by
  intro rest hrest
  rw [List.cons_append, lex_cons_blank hc, h rest hrest]

theorem Lexes.cons_mark (h : Lexes cs ts) (hc : c ∈ marks) : Lexes (c :: cs) (.mark c :: ts) := by
  intro rest hrest
  rw [List.cons_append, lex_cons_mark hc, h rest hrest, Option.map_map]
  rfl

/-- What follows a mark does not reach back over it. -/
theorem Lexes.append_mark (hcs : Lexes cs ts) (hds : Lexes ds us) (hc : c ∈ marks) :
    Lexes (cs ++ c :: ds) (ts ++ .mark c :: us) :=
  hcs.append (hds.cons_mark hc) fun _ _ => breaks_cons (List.mem_append_right blanks hc)

theorem Lexes.append_blank (h : Lexes cs ts) (hc : c ∈ blanks) : Lexes (cs ++ [c]) ts := by
  rw [← List.append_nil ts]
  exact h.append (lexes_nil.cons_blank hc) fun _ _ => breaks_cons (List.mem_append_left marks hc)

/-! ## Words, numbers and texts -/

theorem lexes_word (hc : c.isAlpha) (hcs : cs.all Char.isAlpha) :
    Lexes (c :: cs) [.word (String.ofList (c :: cs))] := by
  intro rest hrest
  have hend : ∀ d ∈ rest.head?, d.isAlpha = false := fun d hd => (hrest d hd).2
  rw [List.cons_append, lex_cons_word hc, Text.takeWhile_append_of_breaks hcs hend,
    Text.dropWhile_append_of_breaks hcs hend]
  rfl

theorem lexes_number (h : isNumber cs) : Lexes cs [.number (String.ofList cs)] := by
  intro rest hrest
  obtain ⟨c, ds, rfl, hc⟩ := exists_cons_of_isNumber h
  have hds : ds.all isNumberChar := by
    have hall := all_of_isNumber h
    rw [List.all_cons, Bool.and_eq_true] at hall
    exact hall.2
  have hend : ∀ d ∈ rest.head?, isNumberChar d = false := fun d hd => (hrest d hd).1
  have htake := Text.takeWhile_append_of_breaks hds hend
  rw [List.cons_append, lex_cons_number hc (by rwa [htake]), htake, Text.dropWhile_append_of_breaks hds hend]
  rfl

theorem lexes_showString (s : String) : Lexes (showString s).toList [.text (some s)] := by
  intro rest _
  rw [showString, String.toList_ofList, List.cons_append, List.append_assoc, List.singleton_append,
    lex_quote (scanText_flatMap_escapeChar s.toList rest), joinSurrogates_map_toNat, Option.map_some,
    String.ofList_toList]
  rfl

end FighterCheck.Json
