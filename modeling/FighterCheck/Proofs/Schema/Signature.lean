import FighterCheck.Proofs.Text.AsciiCase
import FighterCheck.Proofs.Text.Words
import FighterCheck.Schema.Signature
import Mathlib.Data.List.Forall2

/-!
# What type signatures denote

A signature is a list of tokens with blanks between them. A token stands for the kind that it names in any
ASCII case, or for `None` if it names no kind (`StandsFor`): although kinds are found by full lowercasing, no
other spelling is found, the letters of their names being lowercases of ASCII capitals alone
(`standsFor_iff`). What a list of tokens denotes is said by `Denotes`: no tokens, one slot of no known kind;
a second token `tuple` or `triple`, two or three slots of the kind of the first, whatever follows; and one
slot for each token otherwise. The slots of a signature are what its tokens denote (`slots_eq_iff`).
-/

namespace FighterCheck.Schema

open Text (Spaced asciiFold isOwnLetter lowercase sameAscii sameAscii_iff trimmed)

/-- The token is the name of the kind in any ASCII case. -/
def Names (token : String) (kind : PropType) : Prop := sameAscii kind.name token = true

instance (token : String) (kind : PropType) : Decidable (Names token kind) :=
  inferInstanceAs (Decidable (_ = _))

/-- The token names the kind, or it names none and the kind is `None`. -/
def StandsFor (token : String) (kind : PropType) : Prop :=
  Names token kind ∨ kind = .none ∧ ∀ other, ¬ Names token other

/-- The token asks for `n` slots of one kind. -/
inductive Repeats (token : String) : Nat → Prop where
  /-- two slots -/
  | tuple (h : sameAscii "tuple" token = true) : Repeats token 2
  /-- three slots -/
  | triple (h : sameAscii "triple" token = true) : Repeats token 3

/-- The tokens denote slots of these kinds. -/
inductive Denotes : List String → List PropType → Prop where
  /-- no tokens -/
  | nothing : Denotes [] [.none]
  /-- a kind, the number of its slots, and anything after it -/
  | repeated {first second : String} {rest : List String} {kind : PropType} {n : Nat}
    (hfirst : StandsFor first kind) (hsecond : Repeats second n) :
    Denotes (first :: second :: rest) (List.replicate n kind)
  /-- a kind for each slot -/
  | each {tokens : List String} {kinds : List PropType} (hne : tokens ≠ [])
    (hsecond : ∀ second ∈ tokens[1]?, ∀ n, ¬ Repeats second n)
    (hkinds : List.Forall₂ StandsFor tokens kinds) : Denotes tokens kinds

variable {signature token : String} {tokens : List String} {kind kind' : PropType}
  {kinds kinds' : List PropType} {n m : Nat}

/-! ## The kind of a token -/

theorem ofToken_of_lowercase_eq (h : lowercase (trimmed token) = lowercase kind.name) :
    PropType.ofToken token = kind := by
  rw [PropType.ofToken, h]
  cases kind <;> decide +kernel

theorem lowercase_eq_of_ofToken (h : PropType.ofToken token = kind) (hkind : kind ≠ .none) :
    lowercase (trimmed token) = lowercase kind.name := by
  rw [PropType.ofToken] at h
  split at h
  -- the last case is that of the tokens that name no kind
  case h_8 => exact absurd h.symm hkind
  all_goals next hlower => rw [hlower, ← h]; decide +kernel

/-- The names of kinds are lowered to letters that only ASCII capitals are lowered to. -/
theorem isOwnLetter_of_mem_lowercase_name (kind : PropType) :
    ∀ c ∈ (lowercase kind.name).toList, isOwnLetter c = true := by
  rw [← List.all_eq_true]
  cases kind <;> decide +kernel

/-- A token names a kind if and only if it has the lowercase of its name. -/
theorem names_iff_lowercase_eq : Names token kind ↔ lowercase token = lowercase kind.name := by
  rw [Names, Text.sameAscii_comm, Text.sameAscii_iff_lowercase_eq (isOwnLetter_of_mem_lowercase_name kind)]

theorem Names.ofToken_eq (h : Names token kind) : PropType.ofToken token = kind := by
  have hname : trimmed kind.name = kind.name := by cases kind <;> decide +kernel
  refine ofToken_of_lowercase_eq ?_
  rw [Text.trimmed_eq_self_of_sameAscii h hname, names_iff_lowercase_eq.mp h]

/-- A kind that is found for a token, other than `None`, is one that it names. -/
theorem names_of_ofToken_eq (htoken : trimmed token = token) (h : PropType.ofToken token = kind)
    (hkind : kind ≠ .none) : Names token kind := by
  rw [names_iff_lowercase_eq, ← lowercase_eq_of_ofToken h hkind, htoken]

/-- **A token without blanks around it stands for exactly the kind that is found for it.** -/
theorem standsFor_iff (htoken : trimmed token = token) :
    StandsFor token kind ↔ PropType.ofToken token = kind := by
  constructor
  · rintro (h | ⟨rfl, hnone⟩)
    · exact h.ofToken_eq
    · by_contra hkind
      exact hnone _ (names_of_ofToken_eq htoken rfl hkind)
  · intro h
    by_cases hkind : kind = .none
    · by_cases hnamed : Names token kind
      · exact Or.inl hnamed
      · refine Or.inr ⟨hkind, fun other hother => hnamed ?_⟩
        rwa [← h, hother.ofToken_eq]
    · exact Or.inl (names_of_ofToken_eq htoken h hkind)

theorem standsFor_ofToken (htoken : trimmed token = token) : StandsFor token (PropType.ofToken token) :=
  (standsFor_iff htoken).mpr rfl

theorem StandsFor.unique (h : StandsFor token kind) (h' : StandsFor token kind') : kind = kind' := by
  rcases h with h | ⟨rfl, hnone⟩ <;> rcases h' with h' | ⟨rfl, hnone'⟩
  · exact h.ofToken_eq.symm.trans h'.ofToken_eq
  · exact absurd h (hnone' kind)
  · exact absurd h' (hnone kind')
  · rfl

/-! ## The number of slots -/

theorem sameAscii_iff_asciiFold_eq {word : String} (hword : asciiFold word = word) :
    sameAscii word token = true ↔ asciiFold token = word := by
  rw [sameAscii_iff, hword, eq_comm]

theorem Repeats.unique (h : Repeats token n) (h' : Repeats token m) : n = m := by
  have hdiffer : sameAscii "tuple" token = true → sameAscii "triple" token = true → False :=
    fun htuple htriple =>
      absurd ((sameAscii_iff.mp htuple).trans (sameAscii_iff.mp htriple).symm) (by decide)
  cases h with
  | tuple h =>
    cases h' with
    | tuple => rfl
    | triple h' => exact (hdiffer h h').elim
  | triple h =>
    cases h' with
    | tuple h' => exact (hdiffer h' h).elim
    | triple => rfl

/-- A token that asks for a number of slots names no kind. -/
theorem Repeats.not_names (h : Repeats token n) (kind : PropType) : ¬ Names token kind := by
  intro hnames
  have hname := (sameAscii_iff.mp hnames).symm
  cases h with
  | tuple h => exact absurd ((sameAscii_iff.mp h).trans hname) (by cases kind <;> decide)
  | triple h => exact absurd ((sameAscii_iff.mp h).trans hname) (by cases kind <;> decide)

theorem Repeats.standsFor (h : Repeats token n) : StandsFor token .none := Or.inr ⟨rfl, h.not_names⟩

/-! ## What tokens denote -/

theorem Denotes.unique (h : Denotes tokens kinds) (h' : Denotes tokens kinds') : kinds = kinds' := by
  cases h with
  | nothing =>
    cases h' with
    | nothing => rfl
    | each hne => exact absurd rfl hne
  | repeated hfirst hsecond =>
    cases h' with
    | repeated hfirst' hsecond' => rw [hfirst.unique hfirst', hsecond.unique hsecond']
    | each _ hnot => exact absurd hsecond (hnot _ rfl _)
  | each hne hnot hkinds =>
    cases h' with
    | nothing => exact absurd rfl hne
    | repeated _ hsecond => exact absurd hsecond (hnot _ rfl _)
    | each _ _ hkinds' =>
      have hunique : Relator.RightUnique StandsFor := fun _ _ _ hkind => hkind.unique
      exact hunique.forall₂ hkinds hkinds'

/-- Unless the second asks for a number of slots, there is a slot for each token. -/
theorem Denotes.length_eq (h : Denotes tokens kinds) (hne : tokens ≠ [])
    (hsecond : ∀ second ∈ tokens[1]?, ∀ n, ¬ Repeats second n) : kinds.length = tokens.length := by
  cases h with
  | nothing => exact absurd rfl hne
  | repeated _ h => exact absurd h (hsecond _ rfl _)
  | each _ _ hkinds => exact hkinds.length_eq.symm

/-- **The names of kinds denote these kinds.** -/
theorem denotes_of_names (hkinds : kinds ≠ []) (h : List.Forall₂ Names tokens kinds) :
    Denotes tokens kinds := by
  have hstand : List.Forall₂ StandsFor tokens kinds := h.imp fun _ _ => Or.inl
  cases h with
  | nil => exact absurd rfl hkinds
  | cons hfirst hrest =>
    refine .each (List.cons_ne_nil _ _) (fun second hmem n hn => ?_) hstand
    cases hrest with
    | nil => exact nomatch hmem
    | cons hnames _ =>
      obtain rfl := Option.some.inj hmem
      exact hn.not_names _ hnames

theorem forall₂_standsFor (htokens : ∀ t ∈ tokens, trimmed t = t) :
    List.Forall₂ StandsFor tokens (tokens.map PropType.ofToken) := by
  rw [List.forall₂_map_right_iff, List.forall₂_same]
  exact fun t ht => standsFor_ofToken (htokens t ht)

theorem denotes_slotsOfWords (htokens : ∀ t ∈ tokens, trimmed t = t) :
    Denotes tokens (slotsOfWords tokens) := by
  match tokens with
  | [] => exact .nothing
  | [first] =>
    have hfirst := standsFor_ofToken (htokens first List.mem_cons_self)
    exact .each (List.cons_ne_nil _ _) nofun (.cons hfirst .nil)
  | first :: second :: rest =>
    have hfirst := standsFor_ofToken (htokens first List.mem_cons_self)
    rw [slotsOfWords]
    split
    · next h => exact .repeated hfirst (.tuple ((sameAscii_iff_asciiFold_eq (by decide)).mpr h))
    · next h => exact .repeated hfirst (.triple ((sameAscii_iff_asciiFold_eq (by decide)).mpr h))
    · next htuple htriple =>
      refine .each (List.cons_ne_nil _ _) (fun second hmem n hn => ?_) (forall₂_standsFor htokens)
      obtain rfl := Option.some.inj hmem
      cases hn with
      | tuple h => exact htuple ((sameAscii_iff_asciiFold_eq (by decide)).mp h)
      | triple h => exact htriple ((sameAscii_iff_asciiFold_eq (by decide)).mp h)

/-! ## The tokens of a signature -/

theorem map_ofList_map_toList (tokens : List String) :
    (tokens.map String.toList).map String.ofList = tokens := by
  simp only [List.map_map, Function.comp_def, String.ofList_toList, List.map_id']

theorem existsUnique_tokens (signature : String) :
    ∃! tokens : List String, Spaced (tokens.map String.toList) signature.toList := by
  refine ⟨(Text.words signature.toList).map String.ofList, ?_, fun tokens htokens => ?_⟩
  · simp only [List.map_map, Function.comp_def, String.toList_ofList, List.map_id']
    exact Text.spaced_words signature.toList
  · rw [htokens.words_eq, map_ofList_map_toList]

theorem denotes_slots (h : Spaced (tokens.map String.toList) signature.toList) :
    Denotes tokens (slots signature) := by
  have hslots : slots signature = slotsOfWords tokens := by
    rw [slots, h.words_eq, map_ofList_map_toList]
  rw [hslots]
  refine denotes_slotsOfWords fun t ht => Text.trimmed_eq_self_iff.mpr ?_
  exact (h.isWord t.toList (List.mem_map_of_mem ht)).trimmed

/-- **The slots of a signature are what its tokens denote.** -/
theorem slots_eq_iff (h : Spaced (tokens.map String.toList) signature.toList) :
    slots signature = kinds ↔ Denotes tokens kinds :=
  ⟨fun hslots => hslots ▸ denotes_slots h, fun hkinds => (denotes_slots h).unique hkinds⟩

/-- **A signature denotes exactly its slots.** It has at least one, and there is one way to take it for tokens
with blanks between and around them. Tokens that are names of kinds, in any ASCII case, give slots of these
kinds. Whatever the tokens are, the slots are what they denote: two or three of the kind of the first token if
the second is `tuple` or `triple` in any ASCII case, and otherwise one for each token, of the kind for which it
stands, so that there are as many slots as tokens unless there are no tokens. In any other place `tuple` and
`triple` are tokens that name no kind. -/
theorem signatures_denote_exactly_their_slots (signature : String) :
    slots signature ≠ [] ∧
    (∃! tokens : List String, Spaced (tokens.map String.toList) signature.toList) ∧
    (∀ token n, Repeats token n → StandsFor token .none) ∧
    ∀ tokens : List String, Spaced (tokens.map String.toList) signature.toList →
      (∀ kinds, kinds ≠ [] → List.Forall₂ Names tokens kinds → slots signature = kinds) ∧
      (∀ kinds, slots signature = kinds ↔ Denotes tokens kinds) ∧
      (tokens ≠ [] → (∀ second ∈ tokens[1]?, ∀ n, ¬ Repeats second n) →
        (slots signature).length = tokens.length) := by
  refine ⟨slots_ne_nil signature, existsUnique_tokens signature, fun _ _ => Repeats.standsFor,
    fun tokens htokens => ⟨fun kinds hne hnames => ?_, fun kinds => slots_eq_iff htokens, ?_⟩⟩
  · exact (slots_eq_iff htokens).mpr (denotes_of_names hne hnames)
  · exact (denotes_slots htokens).length_eq

/-- Names in any case, with blanks of several kinds between and around them. -/
def spreadSignature : String := "\u3000hitATTR\u00a0 eNUM\tnone\n"

theorem spread_names_denote_their_kinds :
    Spaced (["hitATTR", "eNUM", "none"].map String.toList) spreadSignature.toList ∧
    List.Forall₂ Names ["hitATTR", "eNUM", "none"] [.hitAttr, .choice, .none] ∧
    slots spreadSignature = [.hitAttr, .choice, .none] ∧
    Repeats "TUPLE" 2 ∧ StandsFor "TUPLE" .none ∧
    (∀ second ∈ ["hitATTR", "eNUM", "none"][1]?, ∀ n, ¬ Repeats second n) ∧
    (slots spreadSignature).length = 3 := by
  have hspaced : Spaced (["hitATTR", "eNUM", "none"].map String.toList) spreadSignature.toList :=
    Text.words_eq_iff.mp (by decide +kernel)
  have hnames : List.Forall₂ Names ["hitATTR", "eNUM", "none"] [.hitAttr, .choice, .none] :=
    .cons (by decide) (.cons (by decide) (.cons (by decide) .nil))
  have hrepeats : Repeats "TUPLE" 2 := .tuple (by decide)
  have hsecond : ∀ second ∈ ["hitATTR", "eNUM", "none"][1]?, ∀ n, ¬ Repeats second n := by
    intro second hmem n hn
    obtain rfl := Option.some.inj hmem
    exact hn.not_names .choice (by decide)
  obtain ⟨_, _, hnone, htokens⟩ := signatures_denote_exactly_their_slots spreadSignature
  obtain ⟨hkinds, _, hlength⟩ := htokens _ hspaced
  exact ⟨hspaced, hnames, hkinds _ (List.cons_ne_nil _ _) hnames, hrepeats, hnone _ _ hrepeats, hsecond,
    hlength (List.cons_ne_nil _ _) hsecond⟩

/-- The words for a number of slots count in second place alone, and what follows them does not. -/
example : slots "float TRIPLE tuple" = [.float, .float, .float] ∧
    slots "tuple int triple" = [.none, .int, .none] := by
  decide +kernel

end FighterCheck.Schema
