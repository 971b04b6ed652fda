/-!
# Registries

A registry keeps one value for each key, in ascending order of keys. The order is part of the type. The
first value recorded for a key stays: recording another one for it changes nothing. A value that is put
takes the place of the one before. The main statements, `find?_record` and `find?_put`, say what either
does to every look-up.
-/

namespace FighterCheck

/-- Values by key, in ascending order of keys. -/
structure Registry (κ α : Type) [LT κ] where
  /-- the keys with their values -/
  entries : List (κ × α)
  /-- the keys ascend -/
  ascending : entries.Pairwise fun a b => a.1 < b.1
  deriving Repr, DecidableEq

namespace Registry

variable {κ α : Type}

theorem lookup_cons_eq_ite [DecidableEq κ] (j : κ) (a : κ × α) (es : List (κ × α)) :
    (a :: es).lookup j = if j = a.1 then some a.2 else es.lookup j := by
  by_cases h : j = a.1
  · rw [if_pos h, List.lookup_cons, h, beq_self_eq_true]
  · rw [if_neg h, List.lookup_cons, beq_false_of_ne h]

/-- Entries of another key are not missed. -/
theorem lookup_filter_ne [DecidableEq κ] {j k : κ} (h : j ≠ k) (es : List (κ × α)) :
    (es.filter (·.1 != k)).lookup j = es.lookup j := by
  induction es with
  | nil => rfl
  | cons e es ih =>
    by_cases he : e.1 = k
    · rw [List.filter_cons_of_neg (by simp [he]), ih, lookup_cons_eq_ite, if_neg (he ▸ h)]
    · rw [List.filter_cons_of_pos (by simp [he]), lookup_cons_eq_ite, lookup_cons_eq_ite, ih]

theorem lookup_filter_self [DecidableEq κ] (k : κ) (es : List (κ × α)) :
    (es.filter (·.1 != k)).lookup k = none := by
  refine List.lookup_eq_none_iff.mpr fun e he => ?_
  have hne : e.1 ≠ k := bne_iff_ne.mp (List.mem_filter.mp he).2
  simpa using hne.symm

variable [LT κ]

/-- The registry without entries. -/
def empty : Registry κ α := ⟨[], .nil⟩

instance : EmptyCollection (Registry κ α) := ⟨empty⟩

instance : Inhabited (Registry κ α) := ⟨empty⟩

/-- How many keys have a value. -/
def size (r : Registry κ α) : Nat := r.entries.length

variable [DecidableEq κ]

/-- The value recorded for a key. -/
def find? (r : Registry κ α) (k : κ) : Option α := r.entries.lookup k

/-- Some value is recorded for the key. -/
def contains (r : Registry κ α) (k : κ) : Bool := (r.find? k).isSome

@[simp] theorem find?_empty (k : κ) : (empty : Registry κ α).find? k = none := rfl

variable [DecidableLT κ]

/-- The entries with `(k, v)` in its place among ascending keys, unless `k` is there. -/
def insertNew (k : κ) (v : α) : List (κ × α) → List (κ × α)
  | [] => [(k, v)]
  | (k', v') :: es =>
    if k < k' then (k, v) :: (k', v') :: es
    else if k = k' then (k', v') :: es
    else (k', v') :: insertNew k v es

theorem mem_of_mem_insertNew {k : κ} {v : α} {es : List (κ × α)} {e : κ × α}
    (h : e ∈ insertNew k v es) : e = (k, v) ∨ e ∈ es := by
  induction es with
  | nil => simpa [insertNew] using h
  | cons a es ih =>
    rw [insertNew] at h
    split at h
    · simpa using h
    · split at h
      · exact Or.inr h
      · rcases List.mem_cons.mp h with rfl | h
        · exact Or.inr List.mem_cons_self
        · exact (ih h).imp_right (List.mem_cons_of_mem a)

section Order

variable [LE κ] [Std.IsLinearOrder κ] [Std.LawfulOrderLT κ]

theorem pairwise_insertNew (k : κ) (v : α) {es : List (κ × α)}
    (h : es.Pairwise fun a b => a.1 < b.1) :
    (insertNew k v es).Pairwise fun a b => a.1 < b.1 := by
  induction es with
  | nil => exact List.pairwise_singleton _ _
  | cons a es ih =>
    obtain ⟨hfirst, hrest⟩ := List.pairwise_cons.mp h
    rw [insertNew]
    split
    · next hlt =>
      refine List.pairwise_cons.mpr ⟨fun b hb => ?_, h⟩
      rcases List.mem_cons.mp hb with rfl | hb
      · exact hlt
      · exact Std.lt_trans hlt (hfirst b hb)
    · next hnlt =>
      split
      · exact h
      · next hne =>
        refine List.pairwise_cons.mpr ⟨fun b hb => ?_, ih hrest⟩
        rcases mem_of_mem_insertNew hb with rfl | hb
        · rcases Std.lt_trichotomy k a.1 with hlt | heq | hgt
          · exact absurd hlt hnlt
          · exact absurd heq hne
          · exact hgt
        · exact hfirst b hb

omit [DecidableLT κ] in
/-- A key that is less than the first has no value among ascending ones. -/
theorem lookup_eq_none_of_lt {k : κ} {a : κ × α} {es : List (κ × α)} (hlt : k < a.1)
    (h : (a :: es).Pairwise fun a b => a.1 < b.1) : (a :: es).lookup k = none := by
  obtain ⟨hfirst, _⟩ := List.pairwise_cons.mp h
  refine List.lookup_eq_none_iff.mpr fun e he => ?_
  have hk : k < e.1 := by
    rcases List.mem_cons.mp he with rfl | he
    · exact hlt
    · exact Std.lt_trans hlt (hfirst e he)
  have hne : k ≠ e.1 := fun heq => Std.lt_irrefl (heq ▸ hk)
  simpa using hne

theorem lookup_insertNew (k : κ) (v : α) {es : List (κ × α)}
    (h : es.Pairwise fun a b => a.1 < b.1) (j : κ) :
    (insertNew k v es).lookup j = if j = k then (es.lookup k).or (some v) else es.lookup j := by
  induction es with
  | nil => rw [insertNew, lookup_cons_eq_ite]; rfl
  | cons a es ih =>
    obtain ⟨_, hrest⟩ := List.pairwise_cons.mp h
    rw [insertNew]
    split
    · next hlt => rw [lookup_cons_eq_ite, lookup_eq_none_of_lt hlt h, Option.none_or]
    · split
      · next heq =>
        subst heq
        by_cases hj : j = a.1
        · rw [if_pos hj, hj, lookup_cons_eq_ite, if_pos rfl, Option.some_or]
        · rw [if_neg hj]
      · next hne =>
        rw [lookup_cons_eq_ite, ih hrest, lookup_cons_eq_ite k, if_neg hne, lookup_cons_eq_ite j]
        by_cases hj : j = a.1
        · rw [if_pos hj, if_pos hj, if_neg fun e => hne (e.symm.trans hj)]
        · rw [if_neg hj, if_neg hj]

/-- Where a key has a value, nothing is put in. -/
theorem insertNew_eq_self {k : κ} {v : α} {es : List (κ × α)} (h : es.Pairwise fun a b => a.1 < b.1)
    (hk : es.lookup k ≠ none) : insertNew k v es = es := by
  induction es with
  | nil => exact absurd rfl hk
  | cons a es ih =>
    rw [insertNew]
    split
    · next hlt => exact absurd (lookup_eq_none_of_lt hlt h) hk
    · split
      · rfl
      · next hne =>
        rw [lookup_cons_eq_ite, if_neg hne] at hk
        rw [ih (List.pairwise_cons.mp h).2 hk]

/-- The registry after the value has been recorded for the key, which changes nothing if the key has
one. -/
def record (r : Registry κ α) (k : κ) (v : α) : Registry κ α :=
  ⟨insertNew k v r.entries, pairwise_insertNew k v r.ascending⟩

/-- **The first value of a key stays**, and recording concerns no other key. -/
theorem find?_record (r : Registry κ α) (k : κ) (v : α) (j : κ) :
    (r.record k v).find? j = if j = k then (r.find? k).or (some v) else r.find? j :=
  lookup_insertNew k v r.ascending j

/-- **Recording for a key that has a value changes nothing.** -/
theorem record_eq_self {r : Registry κ α} {k : κ} (v : α) (h : r.find? k ≠ none) :
    r.record k v = r := by
  obtain ⟨es, hes⟩ := r
  have hself : insertNew k v es = es := insertNew_eq_self hes h
  simp only [record, hself]

theorem find?_record_self (r : Registry κ α) (k : κ) (v : α) :
    (r.record k v).find? k = (r.find? k).or (some v) := by
  rw [find?_record, if_pos rfl]

theorem find?_record_of_ne (r : Registry κ α) {j k : κ} (v : α) (h : j ≠ k) :
    (r.record k v).find? j = r.find? j := by
  rw [find?_record, if_neg h]

/-- The registry after the value has been put for the key, in the place of the one that it had. -/
def put (r : Registry κ α) (k : κ) (v : α) : Registry κ α :=
  ⟨insertNew k v (r.entries.filter (·.1 != k)), pairwise_insertNew k v (r.ascending.filter _)⟩

/-- **The last value put for a key counts**, and putting concerns no other key. -/
theorem find?_put (r : Registry κ α) (k : κ) (v : α) (j : κ) :
    (r.put k v).find? j = if j = k then some v else r.find? j := by
  rw [find?, put, lookup_insertNew k v (r.ascending.filter _), lookup_filter_self, Option.none_or]
  by_cases h : j = k
  · rw [if_pos h, if_pos h]
  · rw [if_neg h, if_neg h, lookup_filter_ne h, find?]

theorem find?_put_self (r : Registry κ α) (k : κ) (v : α) : (r.put k v).find? k = some v := by
  rw [find?_put, if_pos rfl]

theorem find?_put_of_ne (r : Registry κ α) {j k : κ} (v : α) (h : j ≠ k) :
    (r.put k v).find? j = r.find? j := by
  rw [find?_put, if_neg h]

omit [DecidableLT κ] [Std.IsLinearOrder κ] in
/-- **The entries are what is found**, each under its own key. -/
theorem mem_entries_iff (r : Registry κ α) {k : κ} {v : α} :
    (k, v) ∈ r.entries ↔ r.find? k = some v := by
  rw [find?, List.lookup_eq_some_iff]
  constructor
  · intro h
    obtain ⟨before, after, hsplit⟩ := List.append_of_mem h
    refine ⟨before, after, hsplit, fun e he => ?_⟩
    -- keys ascend, so that no entry before this one has its key
    have hlt : e.1 < k :=
      (List.pairwise_append.mp (hsplit ▸ r.ascending)).2.2 e he (k, v) List.mem_cons_self
    rw [bne_iff_ne]
    rintro rfl
    exact Std.lt_irrefl hlt
  · rintro ⟨before, after, hsplit, _⟩
    rw [hsplit]
    exact List.mem_append_right before List.mem_cons_self

end Order

end Registry

end FighterCheck
