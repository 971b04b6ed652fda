/-!
# Cutting a text at a character

`cut p cs` finds the first character of `cs` that satisfies `p` and gives what stands before it, the
character, and what stands after it. `split` cuts at every occurrence of one character. The main
statements say that nothing is lost, that the first part holds no such character, and when there is
nothing to cut at.
-/

namespace FighterCheck.Text

/-- What stands before the first character that satisfies `p`, that character, and what follows. -/
def cut (p : Char → Bool) : List Char → Option (List Char × Char × List Char)
  | [] => none
  | c :: cs =>
    if p c then some ([], c, cs)
    else (cut p cs).map fun (before, d, after) => (c :: before, d, after)

/-- The parts of a text between the occurrences of `sep`; there is one more of them than of those. -/
def split (sep : Char) : List Char → List (List Char)
  | [] => [[]]
  | c :: cs =>
    if c = sep then [] :: split sep cs
    else match split sep cs with
      | [] => [[c]]
      | part :: parts => (c :: part) :: parts

theorem cut_eq_none_iff {p : Char → Bool} {cs : List Char} :
    cut p cs = none ↔ ∀ c ∈ cs, p c = false := by
  induction cs with
  | nil => simp [cut]
  | cons c cs ih =>
    by_cases h : p c = true
    · simp [cut, h]
    · simp [cut, h, ih]

theorem cut_eq_some {p : Char → Bool} {cs before after : List Char} {c : Char}
    (h : cut p cs = some (before, c, after)) :
    cs = before ++ c :: after ∧ p c = true ∧ ∀ d ∈ before, p d = false := by
  induction cs generalizing before with
  | nil => simp [cut] at h
  | cons d cs ih =>
    by_cases hd : p d = true
    · simp only [cut, hd, if_true, Option.some.injEq, Prod.mk.injEq] at h
      obtain ⟨rfl, rfl, rfl⟩ := h
      simp [hd]
    · simp only [cut, hd, Bool.false_eq_true, if_false, Option.map_eq_some_iff, Prod.mk.injEq,
        Prod.exists] at h
      obtain ⟨b, e, a, hb, rfl, rfl, rfl⟩ := h
      obtain ⟨rfl, he, hall⟩ := ih hb
      refine ⟨rfl, he, fun x hx => ?_⟩
      rcases List.mem_cons.1 hx with rfl | hx
      · simpa using hd
      · exact hall x hx

theorem cut_append {p : Char → Bool} {before after : List Char} {c : Char}
    (hb : ∀ d ∈ before, p d = false) (hc : p c = true) :
    cut p (before ++ c :: after) = some (before, c, after) := by
  induction before with
  | nil => simp [cut, hc]
  | cons d before ih =>
    simp only [List.mem_cons, forall_eq_or_imp] at hb
    simp [cut, hb.1, ih hb.2]

theorem cut_sign_eq_none_iff {sep : Char} {cs : List Char} : cut (· = sep) cs = none ↔ sep ∉ cs := by
  rw [cut_eq_none_iff]
  exact ⟨fun h hmem => of_decide_eq_false (h _ hmem) rfl,
    fun h c hc => decide_eq_false fun heq => h (heq ▸ hc)⟩

theorem cut_sign_eq_some {sep c : Char} {cs before after : List Char}
    (h : cut (· = sep) cs = some (before, c, after)) :
    c = sep ∧ cs = before ++ sep :: after ∧ sep ∉ before := by
  obtain ⟨rfl, hc, hbefore⟩ := cut_eq_some h
  obtain rfl := of_decide_eq_true hc
  exact ⟨rfl, rfl, fun hmem => of_decide_eq_false (hbefore _ hmem) rfl⟩

/-- A text is cut at a sign that is not in what stands before. -/
theorem cut_sign_append {sep : Char} {before : List Char} (h : sep ∉ before) (after : List Char) :
    cut (· = sep) (before ++ sep :: after) = some (before, sep, after) :=
  cut_append (fun _ hc => decide_eq_false fun heq => h (heq ▸ hc)) (decide_eq_true rfl)

@[simp] theorem split_nil (sep : Char) : split sep [] = [[]] := rfl

theorem split_ne_nil (sep : Char) (cs : List Char) : split sep cs ≠ [] := by
  cases cs with
  | nil => simp
  | cons c cs =>
    by_cases h : c = sep
    · simp [split, h]
    · simp only [split, h, if_false]
      cases split sep cs <;> simp

end FighterCheck.Text
