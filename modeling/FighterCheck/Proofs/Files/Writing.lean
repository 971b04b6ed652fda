import FighterCheck.Files.Tree
import FighterCheck.Registry

/-!
# Writing a file and reading it again

A path is followed name by name, each taken from a directory that stands, and none of them too long.
`Reaches` says that a path comes to its last name so. Writing then puts a file at the place of that name,
which is no directory before and so none of those that the path was followed through: the path can still
be followed, and what was written is read (`read_write`). Conversely, where a file can be read, its last
name leads to a place of its own, since everything around a place that is reached stands as a directory
(`within_of_follow`), and so it can be written, too (`exists_write_of_read`).
-/

namespace FighterCheck.Files.Tree

variable {t : Tree} {p q d : Place} {c : Content} {path : String} {name : List Char}
  {octets : List UInt8}

/-! ## What stands where -/

theorem contentAt_eq_lookup (h : p.names ≠ []) : t.contentAt p = t.entries.lookup p := by
  rw [contentAt, if_neg]
  simpa using h

theorem contentAt_set_self (h : p.names ≠ []) : (t.set p c).contentAt p = some c := by
  rw [contentAt_eq_lookup h, set, List.lookup_cons_self]

/-- **What stands elsewhere** is not changed. -/
theorem contentAt_set_of_ne (h : q ≠ p) : (t.set p c).contentAt q = t.contentAt q := by
  have hq : (q == p) = false := beq_eq_false_iff_ne.mpr h
  unfold contentAt
  rw [set, List.lookup_cons, hq]
  dsimp only
  rw [Registry.lookup_filter_ne h]

theorem asDirectory_eq_ok_iff :
    t.asDirectory p = .ok d ↔ t.contentAt p = some .directory ∧ p = d := by
  unfold asDirectory
  split
  · next h => simp [h]
  · next h => simp [h]
  · next hother h => exact iff_of_false nofun fun ⟨hdir, _⟩ => hother (Option.some.inj (h ▸ hdir))

/-! ## Following names -/

theorem follow_cons_eq_ok_iff {names : List (List Char)} :
    t.follow p (name :: names) = .ok q ↔
      t.contentAt p = some .directory ∧ isOverlong name = false ∧
        t.follow (p.enter name) names = .ok q := by
  rw [follow]
  cases h : t.asDirectory p with
  | error e =>
    refine iff_of_false (fun he => nomatch he) fun ⟨hdir, _⟩ => ?_
    rw [asDirectory_eq_ok_iff.mpr ⟨hdir, rfl⟩] at h
    exact nomatch h
  | ok d =>
    obtain ⟨hdir, rfl⟩ := asDirectory_eq_ok_iff.mp h
    rw [and_iff_right hdir]
    dsimp only
    cases isOverlong name with
    | true => exact iff_of_false (fun he => nomatch he) fun ⟨hlong, _⟩ => nomatch hlong
    | false => exact (and_iff_right rfl).symm

/-- The last of the names is taken from the directory that the others lead to. -/
theorem follow_concat_eq_ok_iff {names : List (List Char)} :
    t.follow p (names ++ [name]) = .ok q ↔
      ∃ d, t.follow p names = .ok d ∧ t.contentAt d = some .directory ∧ isOverlong name = false ∧
        q = d.enter name := by
  induction names generalizing p with
  | nil =>
    rw [List.nil_append, follow_cons_eq_ok_iff]
    simp only [follow, Except.ok.injEq]
    constructor
    · rintro ⟨hdir, hlength, rfl⟩
      exact ⟨p, rfl, hdir, hlength, rfl⟩
    · rintro ⟨d, rfl, hdir, hlength, rfl⟩
      exact ⟨hdir, hlength, rfl⟩
  | cons n names ih =>
    rw [List.cons_append, follow_cons_eq_ok_iff, ih]
    simp only [follow_cons_eq_ok_iff, and_assoc, exists_and_left]

/-- **A file put where no directory stood** is not in the way of names followed before. -/
theorem follow_set {names : List (List Char)} (hq : t.contentAt q ≠ some .directory)
    (h : t.follow p names = .ok d) : (t.set q c).follow p names = .ok d := by
  induction names generalizing p with
  | nil => exact h
  | cons n names ih =>
    obtain ⟨hdir, hlength, hrest⟩ := follow_cons_eq_ok_iff.mp h
    have hne : p ≠ q := fun he => hq (he ▸ hdir)
    exact follow_cons_eq_ok_iff.mpr ⟨(contentAt_set_of_ne hne).trans hdir, hlength, ih hrest⟩

/-- All around a place stands as directories. -/
def Within (t : Tree) (p : Place) : Prop :=
  ∀ n ns, n :: ns <:+ p.names → t.contentAt ⟨p.anchor, ns⟩ = some .directory

/-- What is around a directory is around what it stands in. -/
theorem Within.outer (h : t.Within p) : t.Within p.outer := by
  obtain ⟨anchor, names⟩ := p
  intro n ns hns
  cases names with
  | nil => cases anchor <;> exact absurd (List.suffix_nil.mp hns) (List.cons_ne_nil n ns)
  | cons m names => exact h n ns (hns.trans (List.suffix_cons m names))

theorem Within.contentAt_outer (h : t.Within p) : t.contentAt p.outer = some .directory := by
  obtain ⟨anchor, names⟩ := p
  cases names with
  | nil => cases anchor <;> rfl
  | cons n names => exact h n names List.suffix_rfl

/-- **Around a place that names lead to stand directories.** -/
theorem within_of_follow {names : List (List Char)} (hp : t.Within p)
    (h : t.follow p names = .ok d) : t.Within d := by
  induction names generalizing p with
  | nil => exact Except.ok.inj h ▸ hp
  | cons n names ih =>
    obtain ⟨hdir, _, hrest⟩ := follow_cons_eq_ok_iff.mp h
    refine ih ?_ hrest
    unfold Place.enter
    split
    · exact hp
    split
    · exact hp.outer
    · intro m ms hms
      rcases List.suffix_cons_iff.mp hms with heq | hms
      · rw [(List.cons.inj heq).2]
        exact hdir
      · exact hp m ms hms

/-! ## Paths -/

/-- The path leads to a directory that stands, and then to a name in it. -/
def Reaches (t : Tree) (path : String) (d : Place) (name : List Char) : Prop :=
  pathFault? path = none ∧ ∃ names, (Place.start path).2 = names ++ [name] ∧
    t.follow (Place.start path).1 names = .ok d ∧ t.contentAt d = some .directory ∧
      isOverlong name = false

/-- The name leads to a place of its own. -/
def IsOwn (name : List Char) : Prop := isIdle name = false ∧ name ≠ ['.', '.']

theorem enter_of_isOwn (h : IsOwn name) (d : Place) :
    d.enter name = ⟨d.anchor, String.ofList name :: d.names⟩ := by
  obtain ⟨hidle, hdots⟩ := h
  unfold Place.enter
  rw [hidle, if_neg Bool.false_ne_true, if_neg (by simpa using hdots)]

/-- There is a name in every path. -/
theorem exists_concat_start (path : String) :
    ∃ names name, (Place.start path).2 = names ++ [name] := by
  have hne : (Place.start path).2 ≠ [] := by
    unfold Place.start
    split
    · next habsolute =>
      obtain ⟨cs, hcs⟩ := List.head?_eq_some_iff.mp (by simpa [isAbsolute] using habsolute)
      rw [hcs]
      simpa [Text.split] using Text.split_ne_nil '/' cs
    · exact Text.split_ne_nil '/' path.toList
  exact ⟨_, _, (List.dropLast_concat_getLast hne).symm⟩

/-- Nothing that a path begins from stands in another directory. -/
theorem within_start (path : String) : t.Within (Place.start path).1 := by
  intro n ns hns
  unfold Place.start at hns
  split at hns <;> exact absurd (List.suffix_nil.mp hns) (List.cons_ne_nil n ns)

theorem locate_eq_ok_iff :
    t.locate path = .ok p ↔ ∃ d name, t.Reaches path d name ∧ p = d.enter name := by
  obtain ⟨names, name, hnames⟩ := exists_concat_start path
  unfold locate Reaches
  cases pathFault? path with
  | some fault => simp
  | none =>
    simp only [true_and, hnames, follow_concat_eq_ok_iff]
    constructor
    · rintro ⟨d, hd, hdir, hlength, rfl⟩
      exact ⟨d, name, ⟨names, rfl, hd, hdir, hlength⟩, rfl⟩
    · rintro ⟨d, _, ⟨_, hsame, hd, hdir, hlength⟩, rfl⟩
      obtain ⟨rfl, hname⟩ := List.append_inj' hsame rfl
      obtain rfl := (List.cons.inj hname).1
      exact ⟨d, hd, hdir, hlength, rfl⟩

theorem read_eq_ok_iff :
    t.read path = .ok octets ↔ ∃ p, t.locate path = .ok p ∧ t.contentAt p = some (.file octets) := by
  unfold read lookup
  cases t.locate path with
  | error e => exact iff_of_false (fun he => nomatch he) (fun ⟨_, he, _⟩ => nomatch he)
  | ok p =>
    simp only [bind, Except.bind, Except.ok.injEq, exists_eq_left']
    match t.contentAt p with
    | none => simp
    | some .directory => simp
    | some (.barred _) => simp
    | some (.file _) => simp

/-- No slash stands after the last name exactly if it is not empty. -/
theorem dropSlashes_concat_eq_iff {names : List (List Char)} :
    dropSlashes (names ++ [name]) = names ++ [name] ↔ name ≠ [] := by
  unfold dropSlashes
  rw [List.reverse_append, List.reverse_singleton, List.singleton_append, List.dropWhile_cons]
  by_cases h : name = []
  · rw [if_pos (by simpa using h)]
    refine iff_of_false (fun hsame => ?_) (fun hne => hne h)
    have hlength := congrArg List.length hsame
    have hle := (List.dropWhile_sublist (· = []) (l := names.reverse)).length_le
    simp only [List.length_reverse, List.length_append, List.length_singleton] at hlength hle
    omega
  · rw [if_neg (by simpa using h)]
    simp [h]

theorem ne_nil_of_isOwn (h : IsOwn name) : name ≠ [] := by
  rintro rfl
  exact absurd h.1 (by decide)

/-- **A file can be written** where its path leads to a place of its own that neither a directory nor a
barred file takes. -/
theorem target_of_reaches (h : t.Reaches path d name) (hown : IsOwn name)
    (hfree : t.contentAt (d.enter name) ≠ some .directory)
    (hopen : ∀ reason, t.contentAt (d.enter name) ≠ some (.barred reason)) :
    t.target path = .ok (d.enter name) := by
  obtain ⟨hpath, names, hnames, hd, hdir, hlength⟩ := h
  have hclear : ¬ (isIdle name = true ∨ name = ['.', '.']) := by simpa [IsOwn] using hown
  simp only [target, hpath, hnames, hlength, Bool.false_eq_true, if_false, bind, Except.bind, pure,
    Except.pure, dropSlashes_concat_eq_iff.mpr (ne_nil_of_isOwn hown), List.dropLast_concat,
    List.getLast?_concat, hd, asDirectory_eq_ok_iff.mpr ⟨hdir, rfl⟩, ne_eq, not_true, false_or,
    hclear]

/-- It can be written nowhere else. -/
theorem exists_reaches_of_target (h : t.target path = .ok p) :
    ∃ d name, t.Reaches path d name ∧ IsOwn name ∧ t.contentAt p ≠ some .directory ∧
      p = d.enter name := by
  obtain ⟨names, name, hnames⟩ := exists_concat_start path
  simp only [target, bind, Except.bind, pure, Except.pure, throw, throwThe, MonadExceptOf.throw,
    hnames] at h
  split at h
  · exact nomatch h
  next hpath =>
  split at h
  · exact nomatch h
  next d hd =>
  split at h
  · exact nomatch h
  next d' hd' =>
  split at h
  · exact nomatch h
  next last hlast =>
  split at h
  · exact nomatch h
  next hclear =>
  split at h
  · exact nomatch h
  next hlength =>
  split at h
  · exact nomatch h
  · exact nomatch h
  next hfree _ =>
  obtain ⟨hkept, hclear⟩ := not_or.mp hclear
  rw [Decidable.not_not.mp hkept] at hd hlast
  rw [List.dropLast_concat] at hd
  rw [List.getLast?_concat] at hlast
  obtain rfl := Option.some.inj hlast
  obtain ⟨hdir, rfl⟩ := asDirectory_eq_ok_iff.mp hd'
  obtain rfl := Except.ok.inj h
  exact ⟨d, name, ⟨Option.eq_none_iff_forall_not_mem.mpr hpath, names, hnames, hd, hdir,
    Bool.eq_false_iff.mpr hlength⟩, by simpa [IsOwn] using hclear, hfree, rfl⟩

/-! ## Reading and writing -/

/-- **What has been written is read.** -/
theorem read_write {t' : Tree} (h : t.write path octets = .ok t') : t'.read path = .ok octets := by
  unfold write at h
  cases htarget : t.target path with
  | error e =>
    rw [htarget] at h
    exact nomatch h
  | ok p =>
    rw [htarget] at h
    obtain rfl : t.set p (.file octets) = t' := Except.ok.inj h
    obtain ⟨d, name, ⟨hpath, names, hnames, hd, hdir, hlength⟩, hown, hfree, rfl⟩ :=
      exists_reaches_of_target htarget
    have hnew : (d.enter name).names ≠ [] := by
      rw [enter_of_isOwn hown]
      exact List.cons_ne_nil _ _
    -- the file is put where no directory stood, so that none on the way has changed
    have hne : d ≠ d.enter name := fun he => hfree (he ▸ hdir)
    refine read_eq_ok_iff.mpr ⟨d.enter name, locate_eq_ok_iff.mpr ⟨d, name, ?_, rfl⟩,
      contentAt_set_self hnew⟩
    exact ⟨hpath, names, hnames, follow_set hfree hd, (contentAt_set_of_ne hne).trans hdir, hlength⟩

/-- A name that does not lead to a place of its own leads to a standing directory. -/
theorem Reaches.contentAt_enter_of_not_isOwn (h : t.Reaches path d name) (hown : ¬ IsOwn name) :
    t.contentAt (d.enter name) = some .directory := by
  obtain ⟨-, names, -, hd, hdir, -⟩ := h
  unfold Place.enter
  cases hidle : isIdle name with
  | true => exact hdir
  | false =>
    have hdots : name = ['.', '.'] :=
      Decidable.byContradiction fun hne => hown ⟨hidle, hne⟩
    rw [if_neg Bool.false_ne_true, if_pos (by simpa using hdots)]
    exact (within_of_follow (within_start path) hd).contentAt_outer

/-- **A file that can be read can be written.** -/
theorem exists_write_of_read {old : List UInt8} (h : t.read path = .ok old) (octets : List UInt8) :
    ∃ t', t.write path octets = .ok t' := by
  obtain ⟨p, hp, hfile⟩ := read_eq_ok_iff.mp h
  obtain ⟨d, name, hreaches, rfl⟩ := locate_eq_ok_iff.mp hp
  have hfree : t.contentAt (d.enter name) ≠ some .directory := by
    rw [hfile]
    exact fun he => nomatch he
  have hown : IsOwn name :=
    Classical.byContradiction fun hnot => hfree (hreaches.contentAt_enter_of_not_isOwn hnot)
  have hopen : ∀ reason, t.contentAt (d.enter name) ≠ some (.barred reason) := by
    rw [hfile]
    exact fun _ he => nomatch he
  unfold write
  rw [target_of_reaches hreaches hown hfree hopen]
  exact ⟨_, rfl⟩

end FighterCheck.Files.Tree
