import FighterCheck.Files.Path
import FighterCheck.Proofs.Text.Cutting

/-!
# The components of a path

What a path leads through are its components: the root if it begins there, and its names but for those
that lead nowhere, of which a single dot counts at the very beginning only. Taking a path that does not
begin at the root from a directory adds its names to the components of the directory
(`components_join`), so the directory stays in front of it, whatever the path holds.
-/

namespace FighterCheck

namespace Files

/-- The names in a path that lead somewhere. -/
def namesIn (names : List (List Char)) : List String :=
  (names.filter fun name => !isIdle name).map String.ofList

/-- The components of a path with these names: the root if the path begins there, the first name, if
only a dot, and the other names that lead somewhere. -/
def componentsOf (absolute : Bool) (names : List (List Char)) : List String :=
  (if absolute then ["/"] else []) ++ ((names.take 1).filter (· ≠ [])).map String.ofList ++
    namesIn names.tail

/-- The components of a path. -/
def components (path : String) : List String :=
  componentsOf (isAbsolute path) (Text.split '/' path.toList)

theorem componentsOf_append (absolute : Bool) {names : List (List Char)} (h : names ≠ [])
    (more : List (List Char)) :
    componentsOf absolute (names ++ more) = componentsOf absolute names ++ namesIn more := by
  obtain ⟨first, names, rfl⟩ := List.exists_cons_of_ne_nil h
  have hnames : namesIn (names ++ more) = namesIn names ++ namesIn more := by
    rw [namesIn, List.filter_append, List.map_append]
    rfl
  unfold componentsOf
  rw [List.cons_append, List.tail_cons, List.tail_cons, hnames, ← List.append_assoc]
  rfl

variable {base first rest : String}

theorem isAbsolute_append (hbase : base ≠ "") (rest : String) :
    isAbsolute (base ++ rest) = isAbsolute base := by
  rw [isAbsolute, String.toList_append, isAbsolute]
  cases hlist : base.toList with
  | nil => exact absurd (String.toList_eq_nil_iff.mp hlist) hbase
  | cons c cs => rfl

/-- What stands behind a slash adds its names to the components of what stands before it. -/
theorem components_slash_append (hbase : base ≠ "") (rest : String) :
    components (base ++ "/" ++ rest) = components base ++ namesIn (Text.split '/' rest.toList) := by
  have hsplit : Text.split '/' (base ++ "/" ++ rest).toList =
      Text.split '/' base.toList ++ Text.split '/' rest.toList := by
    rw [String.toList_append, String.toList_append, List.append_assoc]
    exact Text.split_append '/' base.toList rest.toList
  rw [components, hsplit, String.append_assoc, isAbsolute_append hbase,
    componentsOf_append _ (Text.split_ne_nil '/' base.toList)]
  rfl

/-! ## Taking a path from a directory -/

/-- What stands before a path that is taken from the directory: its own path, with a slash at the end
unless it is empty. -/
def lead (base : String) : String :=
  if base.isEmpty || base.toList.getLast? == some '/' then base else base ++ "/"

theorem join_eq (hrest : isAbsolute rest = false) : join base rest = lead base ++ rest := by
  unfold join lead
  rw [hrest]
  split
  · next h => exact absurd h Bool.false_ne_true
  · split <;> rfl

theorem lead_of_getLast?_ne (hne : base ≠ "") (hlast : base.toList.getLast? ≠ some '/') :
    lead base = base ++ "/" := by
  have hempty : base.isEmpty = false := by simpa using hne
  have hslash : (base.toList.getLast? == some '/') = false := beq_false_of_ne hlast
  rw [lead, hempty, hslash]
  rfl

theorem isAbsolute_lead (base : String) : isAbsolute (lead base) = isAbsolute base := by
  unfold lead
  split
  · rfl
  · next h =>
    have hne : base ≠ "" := by
      rintro rfl
      exact h rfl
    exact isAbsolute_append hne "/"

/-- **A path taken from a directory adds its names to the components of the directory.** -/
theorem components_join (hrest : isAbsolute rest = false) (hbase : base ≠ "") :
    components (join base rest) = components base ++ namesIn (Text.split '/' rest.toList) := by
  rw [join_eq hrest]
  by_cases hlast : base.toList.getLast? = some '/'
  · -- the slash at the end of the directory separates nothing from the path
    obtain ⟨front, hfront⟩ := List.getLast?_eq_some_iff.mp hlast
    have hsplit : Text.split '/' base.toList = Text.split '/' front ++ [[]] := by
      rw [hfront]
      exact Text.split_append '/' front []
    have hsplit' : Text.split '/' (base ++ rest).toList =
        Text.split '/' front ++ Text.split '/' rest.toList := by
      rw [String.toList_append, hfront, List.append_assoc]
      exact Text.split_append '/' front rest.toList
    have hlead : lead base = base := by
      unfold lead
      rw [hlast]
      exact if_pos (Bool.or_true _)
    have hempty : namesIn [[]] = [] := rfl
    have hfrontne := Text.split_ne_nil '/' front
    rw [hlead, components, components, isAbsolute_append hbase, hsplit, hsplit',
      componentsOf_append _ hfrontne, componentsOf_append _ hfrontne, hempty, List.append_nil]
  · rw [lead_of_getLast?_ne hbase hlast, components_slash_append hbase]

/-- **The directory stays in front of a path that is taken from it.** -/
theorem components_prefix_join (hrest : isAbsolute rest = false) (base : String) :
    components base <+: components (join base rest) := by
  by_cases hbase : base = ""
  · rw [hbase]
    exact List.nil_prefix
  · rw [components_join hrest hbase]
    exact List.prefix_append _ _

/-- **No path that is taken from a directory leads to the root on its own.** -/
theorem isAbsolute_join (hrest : isAbsolute rest = false) (base : String) :
    isAbsolute (join base rest) = isAbsolute base := by
  rw [join_eq hrest]
  by_cases hlead : lead base = ""
  · have hbase : isAbsolute base = false := by rw [← isAbsolute_lead, hlead]; rfl
    rw [hlead, String.empty_append, hrest, hbase]
  · rw [isAbsolute_append hlead, isAbsolute_lead]

/-- Two paths taken one after the other are one path with a slash between them. -/
theorem join_join (hfirst : isAbsolute first = false) (hne : first ≠ "")
    (hlast : first.toList.getLast? ≠ some '/') (hrest : isAbsolute rest = false) (base : String) :
    join (join base first) rest = join base (first ++ "/" ++ rest) := by
  have hboth : isAbsolute (first ++ "/" ++ rest) = false := by
    rw [String.append_assoc, isAbsolute_append hne, hfirst]
  have hne' : lead base ++ first ≠ "" := fun h => hne (String.append_eq_empty_iff.mp h).2
  have hlast' : (lead base ++ first).toList.getLast? ≠ some '/' := by
    have hlist : first.toList ≠ [] := fun h => hne (String.toList_eq_nil_iff.mp h)
    rw [List.getLast?_eq_some_getLast hlist] at hlast
    rwa [String.toList_append, List.getLast?_append, List.getLast?_eq_some_getLast hlist,
      Option.some_or]
  rw [join_eq hfirst, join_eq hrest, join_eq hboth, lead_of_getLast?_ne hne' hlast',
    String.append_assoc, String.append_assoc, String.append_assoc]

end Files

end FighterCheck
