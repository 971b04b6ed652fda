import FighterCheck.Proofs.Json.Tokens

/-!
# Written values are read back

A value is written in a compact form and laid out on lines, and the reader drops the blanks between
tokens, so that both forms should be cut alike. `toTokens` names those tokens without going through a
text. Both forms are cut into them (`lexes_compact`, `lexes_laidOut`), and the value is read from them
whatever comes next (`readValue_toTokens`); one theorem for each form follows.
-/

namespace FighterCheck.Json

variable {cs : List Char} {v : Json} {level : Nat}

/-! ## The tokens of a value -/

mutual

/-- The tokens of a value. -/
def toTokens : Json → List Token
  | .null => [.word "null"]
  | .bool true => [.word "true"]
  | .bool false => [.word "false"]
  | .number literal => [.number literal]
  | .string s => [.text (some s)]
  | .unpaired => [.word "null"]
  | .array items => .mark '[' :: ([.mark ','].intercalate (itemTokens items) ++ [.mark ']'])
  | .object members =>
    .mark '\x7b' :: ([.mark ','].intercalate (memberTokens members) ++ [.mark '\x7d'])

/-- The tokens of each item of an array. -/
def itemTokens : List Json → List (List Token)
  | [] => []
  | v :: vs => toTokens v :: itemTokens vs

/-- The tokens of each member of an object. -/
def memberTokens : List (String × Json) → List (List Token)
  | [] => []
  | (name, v) :: ms => (.text (some name) :: .mark ':' :: toTokens v) :: memberTokens ms

end

/-- The tokens of a member of an object. -/
def memberToTokens (m : String × Json) : List Token := .text (some m.1) :: .mark ':' :: toTokens m.2

theorem itemTokens_eq (items : List Json) : itemTokens items = items.map toTokens := by
  induction items with
  | nil => rfl
  | cons v vs ih => rw [itemTokens, ih, List.map_cons]

theorem memberTokens_eq (members : List (String × Json)) :
    memberTokens members = members.map memberToTokens := by
  induction members with
  | nil => rfl
  | cons m ms ih => rw [memberTokens, ih, List.map_cons, memberToTokens]

theorem compactItems_eq (items : List Json) : compactItems items = items.map compact := by
  induction items with
  | nil => rfl
  | cons v vs ih => rw [compactItems, ih, List.map_cons]

theorem compactMembers_eq (members : List (String × Json)) :
    compactMembers members = members.map fun (name, v) => showString name ++ ":" ++ compact v := by
  induction members with
  | nil => rfl
  | cons m ms ih => rw [compactMembers, ih, List.map_cons]

theorem laidOutItems_eq (level : Nat) (items : List Json) :
    laidOutItems level items = items.map (laidOut level) := by
  induction items with
  | nil => rfl
  | cons v vs ih => rw [laidOutItems, ih, List.map_cons]

theorem laidOutMembers_eq (level : Nat) (members : List (String × Json)) :
    laidOutMembers level members =
      members.map fun (name, v) => showString name ++ ": " ++ laidOut level v := by
  induction members with
  | nil => rfl
  | cons m ms ih => rw [laidOutMembers, ih, List.map_cons]

/-- A value whose numbers have the form of numbers, and which holds no half of a surrogate pair. -/
inductive WellFormed : Json → Prop where
  | null : WellFormed .null
  | bool (b : Bool) : WellFormed (.bool b)
  | number {literal : String} (h : isNumber literal.toList) : WellFormed (.number literal)
  | string (s : String) : WellFormed (.string s)
  | array {items : List Json} (h : ∀ v ∈ items, WellFormed v) : WellFormed (.array items)
  | object {members : List (String × Json)} (h : ∀ m ∈ members, WellFormed m.2) :
    WellFormed (.object members)

/-! ## Cutting the written forms -/

theorem lexes_null : Lexes "null".toList [.word "null"] := lexes_word (by decide) (by decide)

theorem lexes_true : Lexes "true".toList [.word "true"] := lexes_word (by decide) (by decide)

theorem lexes_false : Lexes "false".toList [.word "false"] := lexes_word (by decide) (by decide)

/-- Parts are cut one by one, and the commas between them are cut off. -/
theorem lexes_intercalate {α : Type} {form : α → List Char} {tokensOf : α → List Token} {parts : List α}
    (h : ∀ a ∈ parts, Lexes (form a) (tokensOf a)) :
    Lexes ([','].intercalate (parts.map form)) ([.mark ','].intercalate (parts.map tokensOf)) := by
  induction parts with
  | nil => exact lexes_nil
  | cons a parts ih =>
    rw [List.forall_mem_cons] at h
    cases parts with
    | nil => simpa only [List.map_cons, List.map_nil, List.intercalate_singleton] using h.1
    | cons b parts =>
      have hparts := h.1.append_mark (ih h.2) (c := ',') (by decide)
      simpa only [List.map_cons, List.intercalate_cons_cons, List.append_assoc,
        List.singleton_append] using hparts

/-- Parts between the texts that open and close them, the second of which may begin with blanks. -/
theorem lexes_enclosed {α : Type} {form : α → String} {tokensOf : α → List Token} {parts : List α}
    {opening closing : String} {o c : Char} (h : ∀ a ∈ parts, Lexes (form a).toList (tokensOf a))
    (hopening : opening.toList = [o]) (ho : o ∈ marks) (hclosing : Lexes closing.toList [.mark c])
    (hbreaks : ∀ rest, Breaks (closing.toList ++ rest)) :
    Lexes (opening ++ ",".intercalate (parts.map form) ++ closing).toList
      (.mark o :: ([.mark ','].intercalate (parts.map tokensOf) ++ [.mark c])) := by
  rw [String.toList_append, String.toList_append, hopening, String.toList_intercalate, List.map_map,
    List.append_assoc, List.singleton_append]
  exact ((lexes_intercalate h).append hclosing fun rest _ => hbreaks rest).cons_mark ho

theorem Lexes.lineStart_append {ts : List Token} (h : Lexes cs ts) (level : Nat) :
    Lexes ((lineStart level).toList ++ cs) ts := by
  have hblanks : ∀ n, Lexes (List.replicate n ' ' ++ cs) ts := by
    intro n
    induction n with
    | zero => exact h
    | succ n ih => exact ih.cons_blank (by decide)
  rw [lineStart, String.toList_ofList]
  exact (hblanks _).cons_blank (by decide)

theorem breaks_lineStart_append (level : Nat) (rest : List Char) :
    Breaks ((lineStart level).toList ++ rest) := by
  rw [lineStart, String.toList_ofList]
  exact breaks_cons (by decide)

theorem enclose_of_ne_nil {parts : List String} (opening closing : String) (h : parts ≠ []) :
    enclose opening closing level parts =
      opening ++ ",".intercalate (parts.map (lineStart (level + 1) ++ ·)) ++
        (lineStart level ++ closing) := by
  rw [enclose, if_neg (by simpa using h), String.append_assoc]

/-- Parts on lines of their own are cut as they are on one line. -/
theorem lexes_enclose {α : Type} {form : α → String} {tokensOf : α → List Token} {parts : List α}
    {opening closing : String} {o c : Char} (h : ∀ a ∈ parts, Lexes (form a).toList (tokensOf a))
    (hopening : opening.toList = [o]) (ho : o ∈ marks) (hclosing : closing.toList = [c])
    (hc : c ∈ marks) :
    Lexes (enclose opening closing level (parts.map form)).toList
      (.mark o :: ([.mark ','].intercalate (parts.map tokensOf) ++ [.mark c])) := by
  have hend : Lexes [c] [.mark c] := lexes_nil.cons_mark hc
  by_cases hparts : parts = []
  · subst hparts
    have hempty : (enclose opening closing level []).toList = [o, c] := by
      rw [enclose, List.isEmpty_nil, if_pos rfl, String.toList_append, hopening, hclosing]
      rfl
    rw [List.map_nil, hempty]
    exact hend.cons_mark ho
  · rw [enclose_of_ne_nil opening closing (by simpa using hparts), List.map_map]
    refine lexes_enclosed (fun a ha => ?_) hopening ho ?_ fun rest => ?_
    · rw [Function.comp_apply, String.toList_append]
      exact (h a ha).lineStart_append (level + 1)
    · rw [String.toList_append, hclosing]
      exact hend.lineStart_append level
    · rw [String.toList_append, List.append_assoc]
      exact breaks_lineStart_append level _

/-- A member of an object is cut into its name, a colon and what its value is cut into. -/
theorem lexes_member {form : String} {ts : List Token} (name : String) (h : Lexes form.toList ts) :
    Lexes (showString name ++ ":" ++ form).toList (.text (some name) :: .mark ':' :: ts) := by
  have hcolon : ":".toList = [':'] := rfl
  rw [String.toList_append, String.toList_append, hcolon, List.append_assoc, List.singleton_append]
  exact (lexes_showString name).append_mark h (by decide)

theorem lexes_spaced_member {form : String} {ts : List Token} (name : String)
    (h : Lexes form.toList ts) :
    Lexes (showString name ++ ": " ++ form).toList (.text (some name) :: .mark ':' :: ts) := by
  have hcolon : ": ".toList = [':', ' '] := rfl
  rw [String.toList_append, String.toList_append, hcolon, List.append_assoc, List.cons_append,
    List.singleton_append]
  exact (lexes_showString name).append_mark (h.cons_blank (by decide)) (by decide)

/-- **A value in its compact form is cut into its tokens.** -/
theorem lexes_compact (h : v.WellFormed) : Lexes (compact v).toList (toTokens v) := by
  induction h with
  | null =>
    rw [compact, toTokens]
    exact lexes_null
  | bool b =>
    cases b with
    | true =>
      rw [compact, toTokens]
      exact lexes_true
    | false =>
      rw [compact, toTokens]
      exact lexes_false
  | @number literal h =>
    rw [compact, toTokens]
    simpa only [String.ofList_toList] using lexes_number h
  | string s =>
    rw [compact, toTokens]
    exact lexes_showString s
  | @array items _ ih =>
    rw [compact, toTokens, itemTokens_eq, compactItems_eq]
    exact lexes_enclosed ih rfl (by decide) (lexes_nil.cons_mark (by decide))
      fun _ => breaks_cons (by decide)
  | @object members _ ih =>
    rw [compact, toTokens, memberTokens_eq, compactMembers_eq]
    exact lexes_enclosed (fun m hm => lexes_member m.1 (ih m hm)) rfl (by decide)
      (lexes_nil.cons_mark (by decide)) fun _ => breaks_cons (by decide)

/-- **A value laid out on lines is cut into its tokens.** -/
theorem lexes_laidOut (h : v.WellFormed) (level : Nat) :
    Lexes (laidOut level v).toList (toTokens v) := by
  induction h generalizing level with
  -- what has no parts is written as in the compact form
  | null => simpa only [laidOut, compact] using lexes_compact .null
  | bool b =>
    cases b with
    | true => simpa only [laidOut, compact] using lexes_compact (.bool true)
    | false => simpa only [laidOut, compact] using lexes_compact (.bool false)
  | number h => simpa only [laidOut, compact] using lexes_compact (.number h)
  | string s => simpa only [laidOut, compact] using lexes_compact (.string s)
  | @array items _ ih =>
    rw [laidOut, toTokens, itemTokens_eq, laidOutItems_eq]
    exact lexes_enclose (fun v hv => ih v hv (level + 1)) rfl (by decide) rfl (by decide)
  | @object members _ ih =>
    rw [laidOut, toTokens, memberTokens_eq, laidOutMembers_eq]
    exact lexes_enclose (fun m hm => lexes_spaced_member m.1 (ih m hm (level + 1))) rfl (by decide) rfl
      (by decide)

/-! ## Reading the tokens -/

/-- Whatever comes after its tokens, the value is read from them. -/
def Reads (v : Json) : Prop :=
  ∀ fuel ts, 2 * (toTokens v).length ≤ fuel → readValue fuel (toTokens v ++ ts) = some (v, ts)

/-- No value begins with the bracket that closes an array. -/
theorem toTokens_append_ne (v : Json) (ts us : List Token) : toTokens v ++ ts ≠ .mark ']' :: us := by
  intro h
  have hhead := congrArg List.head? h
  revert hhead
  cases v with
  | bool b => cases b <;> (rw [toTokens]; exact nofun)
  | _ =>
    rw [toTokens]
    exact nofun

/-- Between commas, the first part comes first. -/
theorem exists_intercalate_cons {α : Type} (s x : List α) (xs : List (List α)) :
    ∃ ys, s.intercalate (x :: xs) = x ++ ys := by
  cases xs with
  | nil => exact ⟨[], by rw [List.intercalate_singleton, List.append_nil]⟩
  | cons y xs => exact ⟨_, by rw [List.intercalate_cons_cons, List.append_assoc]⟩

theorem reads_of_singleton {t : Token} (htokens : toTokens v = [t])
    (hread : ∀ fuel ts, readValue (fuel + 1) (t :: ts) = some (v, ts)) : Reads v := by
  intro fuel ts hfuel
  rw [htokens, List.length_singleton] at hfuel
  obtain ⟨fuel, rfl⟩ := Nat.exists_eq_add_one_of_ne_zero (Nat.ne_zero_of_lt hfuel)
  rw [htokens, List.singleton_append, hread]

theorem readItems_intercalate {vs : List Json} (h : ∀ v ∈ vs, Reads v) (hne : vs ≠ []) (fuel : Nat)
    (ts : List Token) (hfuel : 2 * ([.mark ','].intercalate (vs.map toTokens)).length + 1 ≤ fuel) :
    readItems fuel ([.mark ','].intercalate (vs.map toTokens) ++ .mark ']' :: ts) = some (vs, ts) := by
  induction vs generalizing fuel with
  | nil => exact absurd rfl hne
  | cons v vs ih =>
    rw [List.forall_mem_cons] at h
    obtain ⟨fuel, rfl⟩ := Nat.exists_eq_add_one_of_ne_zero (Nat.ne_zero_of_lt hfuel)
    cases vs with
    | nil =>
      rw [List.map_cons, List.map_nil, List.intercalate_singleton] at hfuel ⊢
      rw [readItems.eq_2, h.1 fuel _ (by omega)]
      rfl
    | cons w vs =>
      rw [List.map_cons, List.map_cons, List.intercalate_cons_cons, ← List.map_cons] at hfuel ⊢
      simp only [List.length_append, List.length_singleton] at hfuel
      rw [List.append_assoc, List.append_assoc, List.singleton_append, readItems.eq_2,
        h.1 fuel _ (by omega)]
      simp only [ih h.2 (List.cons_ne_nil w vs) fuel (by omega), Option.map_some]

theorem readMembers_intercalate {ms : List (String × Json)} (h : ∀ m ∈ ms, Reads m.2) (hne : ms ≠ [])
    (fuel : Nat) (ts : List Token)
    (hfuel : 2 * ([.mark ','].intercalate (ms.map memberToTokens)).length + 1 ≤ fuel) :
    readMembers fuel ([.mark ','].intercalate (ms.map memberToTokens) ++ .mark '\x7d' :: ts) =
      some (ms.map fun (name, v) => (some name, v), ts) := by
  induction ms generalizing fuel with
  | nil => exact absurd rfl hne
  | cons m ms ih =>
    rw [List.forall_mem_cons] at h
    obtain ⟨fuel, rfl⟩ := Nat.exists_eq_add_one_of_ne_zero (Nat.ne_zero_of_lt hfuel)
    cases ms with
    | nil =>
      rw [List.map_cons, List.map_nil, List.intercalate_singleton, memberToTokens] at hfuel ⊢
      simp only [List.length_cons] at hfuel
      rw [List.cons_append, List.cons_append, readMembers.eq_2, h.1 fuel _ (by omega)]
      rfl
    | cons n ms =>
      rw [List.map_cons, List.map_cons, List.intercalate_cons_cons, ← List.map_cons,
        memberToTokens] at hfuel ⊢
      simp only [List.length_append, List.length_cons, List.length_nil] at hfuel
      rw [List.append_assoc, List.append_assoc, List.singleton_append, List.cons_append,
        List.cons_append, readMembers.eq_2, h.1 fuel _ (by omega)]
      simp only [ih h.2 (List.cons_ne_nil n ms) fuel (by omega), Option.map_some]
      rfl

/-- Names that can all be read make an object. -/
theorem ofMembers_map_some (ms : List (String × Json)) :
    ofMembers (ms.map fun (name, v) => (some name, v)) = .object ms := by
  rw [ofMembers, if_pos (by simp), List.map_map]
  exact congrArg Json.object (List.map_id ms)

theorem reads_array {items : List Json} (h : ∀ v ∈ items, Reads v) : Reads (.array items) := by
  intro fuel ts hfuel
  rw [toTokens, itemTokens_eq, List.length_cons, List.length_append, List.length_singleton] at hfuel
  obtain ⟨fuel, rfl⟩ := Nat.exists_eq_add_one_of_ne_zero (Nat.ne_zero_of_lt hfuel)
  rw [toTokens, itemTokens_eq, List.cons_append, List.append_assoc, List.singleton_append]
  cases items with
  | nil => rfl
  | cons v vs =>
    rw [readValue.eq_10, readItems_intercalate h (List.cons_ne_nil v vs) fuel ts (by omega)]
    · rfl
    · obtain ⟨us, hfirst⟩ := exists_intercalate_cons [.mark ','] (toTokens v) (vs.map toTokens)
      rw [List.map_cons, hfirst, List.append_assoc]
      exact toTokens_append_ne v _

theorem reads_object {members : List (String × Json)} (h : ∀ m ∈ members, Reads m.2) :
    Reads (.object members) := by
  intro fuel ts hfuel
  rw [toTokens, memberTokens_eq, List.length_cons, List.length_append,
    List.length_singleton] at hfuel
  obtain ⟨fuel, rfl⟩ := Nat.exists_eq_add_one_of_ne_zero (Nat.ne_zero_of_lt hfuel)
  rw [toTokens, memberTokens_eq, List.cons_append, List.append_assoc, List.singleton_append]
  cases members with
  | nil => rfl
  | cons m ms =>
    rw [readValue.eq_12, readMembers_intercalate h (List.cons_ne_nil m ms) fuel ts (by omega)]
    · exact congrArg (fun v => some (v, ts)) (ofMembers_map_some (m :: ms))
    · -- a member begins with its name
      obtain ⟨us, hfirst⟩ :=
        exists_intercalate_cons [.mark ','] (memberToTokens m) (ms.map memberToTokens)
      rw [List.map_cons, hfirst]
      exact nofun

/-- **A value is read from its tokens**, and what comes next is left. -/
theorem readValue_toTokens (h : v.WellFormed) : Reads v := by
  induction h with
  | null => exact reads_of_singleton (toTokens.eq_def _) fun _ _ => rfl
  | bool b => cases b <;> exact reads_of_singleton (toTokens.eq_def _) fun _ _ => rfl
  | number h => exact reads_of_singleton (toTokens.eq_def _) fun _ _ => rfl
  | string s => exact reads_of_singleton (toTokens.eq_def _) fun _ _ => rfl
  | array _ ih => exact reads_array ih
  | object _ ih => exact reads_object ih

/-! ## Both forms are read back -/

theorem read?_of_lexes {text : String} (htext : Lexes text.toList (toTokens v)) (hreads : Reads v) :
    read? text = some v := by
  have htokens : tokens text.length text.toList = some (toTokens v) := htext.lex_eq
  have hvalue := hreads (2 * (toTokens v).length + 1) [] (Nat.le_succ _)
  rw [List.append_nil] at hvalue
  simp only [read?, htokens, hvalue]

/-- **A value is read back from its compact form.** -/
theorem read?_compact (h : v.WellFormed) : read? (compact v) = some v :=
  read?_of_lexes (lexes_compact h) (readValue_toTokens h)

/-- **A value is read back from its laid-out form**, whatever the level of indentation. -/
theorem read?_laidOut (h : v.WellFormed) (level : Nat) : read? (laidOut level v) = some v :=
  read?_of_lexes (lexes_laidOut h level) (readValue_toTokens h)

/-- The end of the line that the value is printed on is not in the way. -/
theorem read?_laidOut_append_newline (h : v.WellFormed) (level : Nat) :
    read? (laidOut level v ++ "\n") = some v := by
  refine read?_of_lexes ?_ (readValue_toTokens h)
  rw [String.toList_append]
  exact (lexes_laidOut h level).append_blank (by decide)

end FighterCheck.Json
