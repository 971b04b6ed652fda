import FighterCheck.Proofs.Character.Reached
import FighterCheck.Proofs.Files.Components

/-!
# How a definition's files are resolved

The files of a character are what its definition declares first under each key in its first section
`files` (`DeclaresFirst`), and nothing else of that section counts: neither the order of entries with
different keys, nor entries of other keys, nor further entries of the same (`KeepsFirst`). `Resolves` lists
what becomes of the declarations, file by file. A declared path loses the slashes and backslashes it
begins with and is taken from the directory of the definition, so that this directory stays in front of
it (`components_prefix_declaredPath`).
-/

namespace FighterCheck.Character

open Files (Tree components isAbsolute join)
open Ini (Document Entry Section SourceFile)
open Resources (CommonTemplate Location)
open Text (sameAscii trimmed)

/-! ## What is declared -/

/-- The entries of the first section `files`; none without such a section. -/
def fileEntries (d : Document) : List Entry :=
  ((d.sections.find? (·.name == filesSection)).map Section.entries).getD []

/-- `value` is the first that the entries declare under the key. -/
def DeclaresFirst (es : List Entry) (key value : String) : Prop :=
  ∃ before after, es = before ++ ⟨key, value⟩ :: after ∧ ∀ e ∈ before, e.key ≠ key

/-- `value` is the first that the entries declare under the key, or else the default. -/
def DeclaresOr (es : List Entry) (key fallback value : String) : Prop :=
  DeclaresFirst es key value ∨ (value = fallback ∧ ∀ e ∈ es, e.key ≠ key)

/-- The path is the one that the entries declare first under the key, seen from the directory. -/
def IsDeclaredPath (base : String) (es : List Entry) (key path : String) : Prop :=
  ∃ v, DeclaresFirst es key v ∧ path = declaredPath base v

/-- The keys under which a definition declares files. -/
def fileKeys : List String := stateKeys ++ ["cmd", "cns", commonKey, "sprite", "anim", "sound", "ai"]

/-- The first value under a key. -/
def firstValue? (es : List Entry) (key : String) : Option String :=
  (es.find? (·.key == key)).map Entry.value

variable {d : Document} {es : List Entry} {key value base path : String}

theorem firstValue?_eq_some_iff : firstValue? es key = some value ↔ DeclaresFirst es key value := by
  rw [firstValue?, Option.map_eq_some_iff]
  constructor
  · rintro ⟨e, he, rfl⟩
    obtain ⟨hkey, before, after, rfl, hbefore⟩ := List.find?_eq_some_iff_append.mp he
    rw [beq_iff_eq] at hkey
    refine ⟨before, after, by rw [← hkey], fun e' he' => ?_⟩
    simpa using hbefore e' he'
  · rintro ⟨before, after, rfl, hbefore⟩
    refine ⟨⟨key, value⟩, List.find?_eq_some_iff_append.mpr ⟨beq_self_eq_true key, before, after, rfl,
      fun e he => ?_⟩, rfl⟩
    simpa using hbefore e he

theorem firstValue?_eq_none_iff : firstValue? es key = none ↔ ∀ e ∈ es, e.key ≠ key := by
  rw [firstValue?, Option.map_eq_none_iff, List.find?_eq_none]
  simp only [beq_iff_eq, ne_eq]

theorem isSome_firstValue? : (firstValue? es key).isSome = es.any (·.key == key) := by
  rw [firstValue?, Option.isSome_map, Bool.eq_iff_iff, List.find?_isSome, List.any_eq_true]

theorem lowercase_of_mem_fileKeys : ∀ key ∈ fileKeys, Text.lowercase key = key := by decide +kernel

/-- **A definition is asked for the first value of a key in its first section `files`.** -/
theorem value?_filesSection (d : Document) (hkey : key ∈ fileKeys) :
    d.value? filesSection key = firstValue? (fileEntries d) key := by
  have hname : Text.lowercase filesSection = filesSection := by decide +kernel
  unfold Document.value? Document.sectionNamed? fileEntries
  rw [hname]
  cases d.sections.find? (·.name == filesSection) with
  | none => rfl
  | some s =>
    rw [Option.bind_some, Option.map_some, Option.getD_some, Section.value?,
      lowercase_of_mem_fileKeys key hkey]
    rfl

theorem declaresOr_valueOr (d : Document) (hkey : key ∈ fileKeys) (fallback : String) :
    DeclaresOr (fileEntries d) key fallback (d.valueOr filesSection key fallback) := by
  rw [Document.valueOr, value?_filesSection d hkey]
  cases h : firstValue? (fileEntries d) key with
  | none => exact Or.inr ⟨rfl, firstValue?_eq_none_iff.mp h⟩
  | some v => exact Or.inl (firstValue?_eq_some_iff.mp h)

theorem declared?_eq_some_iff (hkey : key ∈ fileKeys) :
    declared? d base key = some path ↔ IsDeclaredPath base (fileEntries d) key path := by
  rw [declared?, value?_filesSection d hkey, Option.map_eq_some_iff]
  exact exists_congr fun v => and_congr firstValue?_eq_some_iff eq_comm

/-! ## Declared paths -/

/-- What is left of a declared path: it loses slashes and backslashes at its beginning, and all. -/
theorem relative_spec (declared : String) :
    ∃ signs, declared.toList = signs ++ (relative declared).toList ∧
      (∀ c ∈ signs, c = '/' ∨ c = '\\') ∧
      ∀ c ∈ (relative declared).toList.head?, c ≠ '/' ∧ c ≠ '\\' := by
  refine ⟨declared.toList.takeWhile fun c => c = '/' || c = '\\', ?_, fun c hc => ?_, fun c hc => ?_⟩
  · rw [relative, String.toList_ofList, List.takeWhile_append_dropWhile]
  · simpa using List.all_eq_true.mp List.all_takeWhile c hc
  · rw [relative, String.toList_ofList] at hc
    simpa using Text.head?_dropWhile_eq_false (fun c => c = '/' || c = '\\') declared.toList c hc

theorem isAbsolute_relative (declared : String) : isAbsolute (relative declared) = false := by
  obtain ⟨_, _, _, hhead⟩ := relative_spec declared
  rw [isAbsolute, beq_eq_false_iff_ne]
  intro h
  exact (hhead '/' h).1 rfl

/-- **The directory of the definition stays in front of every declared path.** -/
theorem components_prefix_declaredPath (base declared : String) :
    components base <+: components (declaredPath base declared) :=
  Files.components_prefix_join (isAbsolute_relative declared) base

theorem isAbsolute_declaredPath (base declared : String) :
    isAbsolute (declaredPath base declared) = isAbsolute base :=
  Files.isAbsolute_join (isAbsolute_relative declared) base

/-- The engine's copy stands two directories up and down in the directory `data`. -/
theorem engineCopy_eq (base : String) : engineCopy base = join base "../../data/common1.cns" := by
  unfold engineCopy
  rw [Files.join_join (by decide) (by decide) (by decide) (by decide),
    Files.join_join (by decide) (by decide) (by decide) (by decide),
    Files.join_join (by decide) (by decide) (by decide) (by decide)]
  rfl

/-! ## What the declarations come to -/

/-- The template for a version, blanks around which do not count. -/
inductive IsTemplateFor (version : String) : CommonTemplate → Prop where
  /-- the one for version 1.0 -/
  | v10 (h : trimmed version = "1.0") : IsTemplateFor version .v10
  /-- the one for version 1.1 -/
  | v11 (h : trimmed version = "1.1") : IsTemplateFor version .v11
  /-- the one for every other version -/
  | win (h10 : trimmed version ≠ "1.0") (h11 : trimmed version ≠ "1.1") :
    IsTemplateFor version .win

/-- What becomes of the name of the common state file, in the directory `base`. -/
inductive ResolvesCommon (t : Tree) (resources : Location) (base version name : String) :
    String → CommonSource → Prop where
  /-- a name of its own stands with the character -/
  | declared (h : sameAscii name "common1.cns" = false) :
    ResolvesCommon t resources base version name (declaredPath base name) .declared
  /-- under the standard name, the engine's copy is used if it is there -/
  | engineData (h : sameAscii name "common1.cns" = true)
    (hfile : t.isFile (join base "../../data/common1.cns") = true) :
    ResolvesCommon t resources base version name (join base "../../data/common1.cns") .engineData
  /-- and else the template for the version -/
  | template {c : CommonTemplate} (h : sameAscii name "common1.cns" = true)
    (hfile : t.isFile (join base "../../data/common1.cns") = false) (hc : IsTemplateFor version c) :
    ResolvesCommon t resources base version name
      (join (join resources.root "common") c.fileName) (.template c)

/-- What becomes of the declarations `es` in a definition in the directory `base`. -/
structure Resolves (t : Tree) (resources : Location) (base version : String) (es : List Entry)
    (p : Character) : Prop where
  /-- the state files are those declared, in the order of their keys, each once -/
  stateKeys : p.stateFiles.map SourceFile.key =
    ["st", "st0", "st1", "st2", "st3", "st4", "st5", "st6", "st7", "st8", "st9"].filter
      fun key => es.any (·.key == key)
  /-- they stand where they are declared first -/
  statePaths : ∀ f ∈ p.stateFiles, IsDeclaredPath base es f.key f.path
  /-- the commands have a default -/
  cmd : ∃ v, DeclaresOr es "cmd" "blank.cmd" v ∧ p.cmd = ⟨"cmd", declaredPath base v⟩
  /-- so have the constants -/
  cns : ∃ v, DeclaresOr es "cns" "blank.cns" v ∧ p.cns = ⟨"cns", declaredPath base v⟩
  /-- the sprites are optional -/
  sprite : ∀ path, p.assets.sprite = some path ↔ IsDeclaredPath base es "sprite" path
  /-- so are the animations -/
  anim : ∀ path, p.assets.anim = some path ↔ IsDeclaredPath base es "anim" path
  /-- the sounds -/
  sound : ∀ path, p.assets.sound = some path ↔ IsDeclaredPath base es "sound" path
  /-- and the hints for the computer's play -/
  ai : ∀ path, p.assets.ai = some path ↔ IsDeclaredPath base es "ai" path
  /-- the common state file is resolved by its name -/
  common : p.common.key = "stcommon" ∧ ∃ v, DeclaresOr es "stcommon" "common1.cns" v ∧
    ResolvesCommon t resources base version v p.common.path p.commonSource

variable {t : Tree} {resources : Location} {version : String}

theorem isTemplateFor_ofVersion (version : String) :
    IsTemplateFor version (CommonTemplate.ofVersion version) := by
  unfold CommonTemplate.ofVersion
  split
  · next h => exact .v10 h
  · next h => exact .v11 h
  · next h10 h11 => exact .win h10 h11

theorem resolvesCommon (t : Tree) (resources : Location) (base version name : String) :
    ResolvesCommon t resources base version name (resolveCommon t base name version resources).1
      (resolveCommon t base name version resources).2 := by
  unfold resolveCommon
  rw [engineCopy_eq, Location.commonTemplate, Location.commonDir]
  -- the pairs are taken apart first, as comparing them would evaluate the paths
  split
  · next h =>
    dsimp only
    exact .declared (by simpa [standardCommonFile] using h)
  · next h =>
    have hname : sameAscii name "common1.cns" = true := by simpa [standardCommonFile] using h
    split
    · next hfile =>
      dsimp only
      exact .engineData hname hfile
    · next hfile =>
      dsimp only
      exact .template hname (Bool.eq_false_iff.mpr hfile) (isTemplateFor_ofVersion version)

theorem stateKeys_eq :
    stateKeys = ["st", "st0", "st1", "st2", "st3", "st4", "st5", "st6", "st7", "st8", "st9"] := by
  decide +kernel

theorem mem_fileKeys_of_mem_stateKeys (h : key ∈ stateKeys) : key ∈ fileKeys :=
  List.mem_append_left _ h

theorem otherKeys_mem_fileKeys : "cmd" ∈ fileKeys ∧ "cns" ∈ fileKeys ∧ commonKey ∈ fileKeys ∧
    "sprite" ∈ fileKeys ∧ "anim" ∈ fileKeys ∧ "sound" ∈ fileKeys ∧ "ai" ∈ fileKeys := by
  decide +kernel

/-- The state files in the order of some keys are those of these keys that are declared. -/
theorem map_key_filterMap_declared? {keys : List String} (h : ∀ key ∈ keys, key ∈ fileKeys) :
    (keys.filterMap fun key => (declared? d base key).map fun path =>
      (⟨key, path⟩ : SourceFile)).map SourceFile.key =
      keys.filter fun key => (fileEntries d).any (·.key == key) := by
  induction keys with
  | nil => rfl
  | cons key keys ih =>
    obtain ⟨hkey, hkeys⟩ := List.forall_mem_cons.mp h
    have hsome : (declared? d base key).isSome = (fileEntries d).any (·.key == key) := by
      rw [declared?, Option.isSome_map, value?_filesSection d hkey, isSome_firstValue?]
    rw [List.filterMap_cons, List.filter_cons, ← hsome]
    cases declared? d base key with
    | none => exact ih hkeys
    | some path => exact congrArg (key :: ·) (ih hkeys)

/-- The character of a definition with valid information. -/
theorem ofDocument_of_info {info : Info} (hinfo : Info.ofDocument d path = .ok info) :
    ofDocument t resources path d =
      let base := Files.parent path
      let common := resolveCommon t base (d.valueOr filesSection commonKey standardCommonFile)
        info.version resources
      .ok {
        definition := ⟨"def", path⟩
        info := info
        cmd := ⟨"cmd", declaredOr d base "cmd" "blank.cmd"⟩
        cns := ⟨"cns", declaredOr d base "cns" "blank.cns"⟩
        common := ⟨commonKey, common.1⟩
        commonSource := common.2
        stateFiles := stateFilesOf d base
        assets := ⟨declared? d base "sprite", declared? d base "anim", declared? d base "sound",
          declared? d base "ai"⟩
        results := .empty } := by
  rw [ofDocument, hinfo]
  rfl

theorem ofDocument_of_info_error {e : Error} (hinfo : Info.ofDocument d path = .error e) :
    ofDocument t resources path d = .error e := by
  rw [ofDocument, hinfo]
  rfl

/-- **A definition with valid information resolves**, to what its declarations come to. -/
theorem exists_resolves {info : Info} (hinfo : Info.ofDocument d path = .ok info) :
    ∃ p, ofDocument t resources path d = .ok p ∧ p.info = info ∧
      Resolves t resources (Files.parent path) info.version (fileEntries d) p := by
  obtain ⟨hcmd, hcns, hcommon, hsprite, hanim, hsound, hai⟩ := otherKeys_mem_fileKeys
  refine ⟨_, ofDocument_of_info hinfo, rfl, ?_⟩
  constructor
  case stateKeys =>
    rw [← stateKeys_eq]
    exact map_key_filterMap_declared? fun key => mem_fileKeys_of_mem_stateKeys
  case statePaths =>
    intro f hf
    obtain ⟨key, hkey, hf⟩ := List.mem_filterMap.mp hf
    obtain ⟨q, hq, rfl⟩ := Option.map_eq_some_iff.mp hf
    exact (declared?_eq_some_iff (mem_fileKeys_of_mem_stateKeys hkey)).mp hq
  case cmd => exact ⟨_, declaresOr_valueOr d hcmd _, rfl⟩
  case cns => exact ⟨_, declaresOr_valueOr d hcns _, rfl⟩
  case sprite => exact fun q => declared?_eq_some_iff hsprite
  case anim => exact fun q => declared?_eq_some_iff hanim
  case sound => exact fun q => declared?_eq_some_iff hsound
  case ai => exact fun q => declared?_eq_some_iff hai
  case common =>
    exact ⟨rfl, _, declaresOr_valueOr d hcommon _,
      resolvesCommon t resources (Files.parent path) info.version _⟩

/-! ## What does not count -/

/-- Under each key of a file, both declare the same first. -/
def KeepsFirst (es es' : List Entry) : Prop :=
  ∀ key ∈ fileKeys, ∀ v, DeclaresFirst es' key v ↔ DeclaresFirst es key v

variable {d' : Document} {es' : List Entry} {t' : Tree}

theorem firstValue?_of_keepsFirst (h : KeepsFirst es es') (hkey : key ∈ fileKeys) :
    firstValue? es' key = firstValue? es key := by
  refine Option.ext fun v => ?_
  rw [firstValue?_eq_some_iff, firstValue?_eq_some_iff]
  exact h key hkey v

/-- **Neither the order of entries of different keys counts, nor entries of other keys.** -/
theorem keepsFirst_of_filter
    (h : ∀ key ∈ fileKeys, es'.filter (·.key == key) = es.filter (·.key == key)) :
    KeepsFirst es es' := by
  intro key hkey v
  rw [← firstValue?_eq_some_iff, ← firstValue?_eq_some_iff, firstValue?, firstValue?,
    ← List.head?_filter, ← List.head?_filter, h key hkey]

/-- **A further entry of the same key does not count.** -/
theorem keepsFirst_insert {before after : List Entry} {e : Entry} (h : ∃ e' ∈ before, e'.key = e.key) :
    KeepsFirst (before ++ after) (before ++ e :: after) := by
  intro key _ v
  rw [← firstValue?_eq_some_iff, ← firstValue?_eq_some_iff, firstValue?, firstValue?,
    List.find?_append, List.find?_append, List.find?_cons]
  by_cases hkey : e.key = key
  · -- the entry before it is found first
    obtain ⟨e', he', hsame⟩ := h
    have hsome : (before.find? (·.key == key)).isSome = true :=
      List.find?_isSome.mpr ⟨e', he', beq_iff_eq.mpr (hsame.trans hkey)⟩
    obtain ⟨x, hx⟩ := Option.isSome_iff_exists.mp hsome
    rw [hx, Option.some_or, Option.some_or]
  · rw [beq_false_of_ne hkey]

theorem fileEntries_of_split {pre post : List Section} {s : Section}
    (hd : d.sections = pre ++ s :: post) (hname : s.name = filesSection)
    (hpre : ∀ q ∈ pre, q.name ≠ filesSection) : fileEntries d = s.entries := by
  have hnone : pre.find? (·.name == filesSection) = none := by
    rw [List.find?_eq_none]
    intro q hq
    rw [beq_iff_eq]
    exact hpre q hq
  rw [fileEntries, hd, List.find?_append, hnone, Option.none_or, List.find?_cons, hname,
    beq_self_eq_true]
  rfl

/-- The documents differ at most in the entries of their first section `files`, which are `es` in the one
and `es'` in the other. -/
def DiffersInFiles (d d' : Document) (es es' : List Entry) : Prop :=
  ∃ pre s post, d.sections = pre ++ s :: post ∧ s.entries = es ∧
    d'.sections = pre ++ { s with entries := es' } :: post ∧ s.name = filesSection ∧
    ∀ q ∈ pre, q.name ≠ filesSection

namespace DiffersInFiles

variable (h : DiffersInFiles d d' es es')
include h

theorem fileEntries_eq : fileEntries d = es ∧ fileEntries d' = es' := by
  obtain ⟨pre, s, post, hd, rfl, hd', hname, hpre⟩ := h
  exact ⟨fileEntries_of_split hd hname hpre, fileEntries_of_split hd' hname hpre⟩

theorem value?_infoSection (key : String) : d'.value? infoSection key = d.value? infoSection key := by
  obtain ⟨pre, s, post, hd, _, hd', hname, _⟩ := h
  have hother : (s.name == Text.lowercase infoSection) = false := by
    rw [hname]
    decide +kernel
  unfold Document.value? Document.sectionNamed?
  rw [hd, hd', List.find?_append, List.find?_append, List.find?_cons, List.find?_cons, hother]

/-- The same is declared for every file if the same is declared first. -/
theorem value?_filesSection (hkeeps : KeepsFirst es es') :
    ∀ key ∈ fileKeys, d'.value? filesSection key = d.value? filesSection key := by
  intro key hkey
  obtain ⟨hes, hes'⟩ := h.fileEntries_eq
  rw [Character.value?_filesSection d hkey, Character.value?_filesSection d' hkey, hes, hes',
    firstValue?_of_keepsFirst hkeeps hkey]

end DiffersInFiles

theorem info_ofDocument_congr (h : ∀ key, d'.value? infoSection key = d.value? infoSection key) :
    Info.ofDocument d' path = Info.ofDocument d path := by
  unfold Info.ofDocument quotedOr Document.valueOr
  simp only [h]

theorem resolveCommon_congr (hfile : t'.isFile (engineCopy base) = t.isFile (engineCopy base))
    (name : String) :
    resolveCommon t' base name version resources = resolveCommon t base name version resources := by
  unfold resolveCommon
  rw [hfile]

/-- **The same first declarations resolve to the same character**, or fail with the same error. -/
theorem ofDocument_congr (hdiff : DiffersInFiles d d' es es') (hkeeps : KeepsFirst es es')
    (hfile : t'.isFile (engineCopy (Files.parent path)) = t.isFile (engineCopy (Files.parent path))) :
    ofDocument t' resources path d' = ofDocument t resources path d := by
  have hvalue := hdiff.value?_filesSection hkeeps
  have hinfo : Info.ofDocument d' path = Info.ofDocument d path :=
    info_ofDocument_congr hdiff.value?_infoSection
  have hdeclared : ∀ base, ∀ key ∈ fileKeys, declared? d' base key = declared? d base key :=
    fun base key hkey => by rw [declared?, declared?, hvalue key hkey]
  have hvalueOr : ∀ key ∈ fileKeys, ∀ fallback,
      d'.valueOr filesSection key fallback = d.valueOr filesSection key fallback :=
    fun key hkey fallback => by rw [Document.valueOr, Document.valueOr, hvalue key hkey]
  have hstates : ∀ base, stateFilesOf d' base = stateFilesOf d base := fun base =>
    List.filterMap_congr fun key hkey => by
      rw [hdeclared base key (mem_fileKeys_of_mem_stateKeys hkey)]
  cases hd : Info.ofDocument d path with
  | error e => rw [ofDocument_of_info_error hd, ofDocument_of_info_error (hinfo.trans hd)]
  | ok info =>
    obtain ⟨hcmd, hcns, hcommon, hsprite, hanim, hsound, hai⟩ := otherKeys_mem_fileKeys
    rw [ofDocument_of_info hd, ofDocument_of_info (hinfo.trans hd)]
    simp only [hstates, declaredOr, hdeclared _ _ hsprite, hdeclared _ _ hanim, hdeclared _ _ hsound,
      hdeclared _ _ hai, hvalueOr _ hcmd, hvalueOr _ hcns, hvalueOr _ hcommon,
      resolveCommon_congr hfile]

/-- **Files are resolved by their keys, and not by the order of the definition.** A definition with valid
information resolves, and every file is what its section `files`, the first if there are several, declares
first under the key of the file, in the directory of the definition: the state files in the fixed order
of their keys, each once; the commands and constants with a default; the sprites, animations, sounds
and hints if there are such; and the common state file, unless it has its standard name or none, under
which it is the engine's copy if that is a file, and else the template for the version. A declared path
loses the slashes and backslashes at its beginning and no others, so that the directory stays in front of
it and it leads to the root only if the directory does. Definitions that differ in the entries of
this section alone resolve to the same if they declare the same first under every key of a file. That
is so if the entries of each such key are the same in the same order, however they stand among others and
whatever other keys are there, and if an entry is put in behind another of its key. -/
theorem files_resolve_by_key {t : Tree} (resources : Location) {path : String} {d : Document}
    {info : Info} (hread : readDefinition t path = .ok d) (hinfo : Info.ofDocument d path = .ok info) :
    ∃ p, load t resources path = .ok p ∧ p.info = info ∧
      Resolves t resources (Files.parent path) info.version (fileEntries d) p ∧
      (∀ declared, declaredPath (Files.parent path) declared =
          join (Files.parent path) (relative declared) ∧
        (∃ signs, declared.toList = signs ++ (relative declared).toList ∧
          (∀ c ∈ signs, c = '/' ∨ c = '\\') ∧
          ∀ c ∈ (relative declared).toList.head?, c ≠ '/' ∧ c ≠ '\\') ∧
        components (Files.parent path) <+: components (declaredPath (Files.parent path) declared) ∧
        isAbsolute (declaredPath (Files.parent path) declared) = isAbsolute (Files.parent path)) ∧
      (∀ t' d' es', readDefinition t' path = .ok d' → DiffersInFiles d d' (fileEntries d) es' →
        KeepsFirst (fileEntries d) es' →
        t'.isFile (join (Files.parent path) "../../data/common1.cns") =
          t.isFile (join (Files.parent path) "../../data/common1.cns") →
        load t' resources path = .ok p) ∧
      (∀ es', (∀ key ∈ fileKeys,
          es'.filter (·.key == key) = (fileEntries d).filter (·.key == key)) →
        KeepsFirst (fileEntries d) es') ∧
      ∀ before e after, fileEntries d = before ++ after → (∃ e' ∈ before, e'.key = e.key) →
        KeepsFirst (fileEntries d) (before ++ e :: after) := by
  obtain ⟨p, hp, hpinfo, hresolves⟩ := @exists_resolves d path t resources info hinfo
  have hload : ∀ {t' d'}, readDefinition t' path = .ok d' →
      load t' resources path = ofDocument t' resources path d' := by
    intro t' d' h
    rw [load, h]
    rfl
  refine ⟨p, (hload hread).trans hp, hpinfo, hresolves, fun declared => ⟨rfl, relative_spec declared,
    components_prefix_declaredPath _ declared, isAbsolute_declaredPath _ declared⟩,
    fun t' d' es' hread' hdiff hkeeps hfile => ?_, fun es' => keepsFirst_of_filter, ?_⟩
  · rw [← engineCopy_eq] at hfile
    rw [hload hread', ofDocument_congr hdiff hkeeps hfile, hp]
  · intro before e after hes hmem
    rw [hes]
    exact keepsFirst_insert hmem

/-- A tree with a definition of this text. -/
def definitionTree (text : String) : Tree :=
  Tree.empty.putFile "k/x.def" (Encoding.TextEncoding.plain.encode text.toList)

/-- A definition that declares files in no order, one of them twice, and one in a second section. -/
def shuffledText : String :=
  "[Files]\nst9 = \\//a\nAI = b\nst = c\nSTCOMMON = Common1.CNS\nst = e\n[Files]\nst1 = g"

/-- A definition that declares the same files in the order of their keys, and one that is unknown. -/
def orderedText : String :=
  "[Files]\nst = c\nst = e\nst9 = \\//a\nSTCOMMON = Common1.CNS\nhint = h\nAI = b\n[Files]\nst1 = g"

/-- A document with these entries in the first of two sections `files`. -/
def twoFileSections (es : List Entry) : Document :=
  ⟨[⟨"files", 0, es⟩, ⟨"files", 1, [⟨"st1", "g"⟩]⟩]⟩

/-- The entries of `shuffledText`. -/
def shuffledEntries : List Entry :=
  [⟨"st9", "\\//a"⟩, ⟨"ai", "b"⟩, ⟨"st", "c"⟩, ⟨"stcommon", "Common1.CNS"⟩, ⟨"st", "e"⟩]

/-- The entries of `orderedText`. -/
def orderedEntries : List Entry :=
  [⟨"st", "c"⟩, ⟨"st", "e"⟩, ⟨"st9", "\\//a"⟩, ⟨"stcommon", "Common1.CNS"⟩, ⟨"hint", "h"⟩, ⟨"ai", "b"⟩]

/-- Both resolve to the same two state files, each at the path that is declared first. -/
theorem files_resolve_alike_shuffled_and_ordered :
    ∃ p, load (definitionTree shuffledText) ⟨"r"⟩ "k/x.def" = .ok p ∧
      load (definitionTree orderedText) ⟨"r"⟩ "k/x.def" = .ok p ∧
      p.stateFiles.map SourceFile.key = ["st", "st9"] ∧
      components "k" <+: components (declaredPath "k" "\\//a") := by
  have hshuffled : readDefinition (definitionTree shuffledText) "k/x.def" =
      .ok (twoFileSections shuffledEntries) := by decide +kernel
  have hordered : readDefinition (definitionTree orderedText) "k/x.def" =
      .ok (twoFileSections orderedEntries) := by decide +kernel
  have hinfo : Info.ofDocument (twoFileSections shuffledEntries) "k/x.def" =
      .ok ⟨"New character", "NewCharacter", "win", ⟨320, 240⟩⟩ := by decide +kernel
  have hentries : fileEntries (twoFileSections shuffledEntries) = shuffledEntries := by decide
  have hparent : Files.parent "k/x.def" = "k" := by decide +kernel
  have hfile : (definitionTree orderedText).isFile (join "k" "../../data/common1.cns") =
      (definitionTree shuffledText).isFile (join "k" "../../data/common1.cns") := by decide +kernel
  have hfilter : ∀ key ∈ fileKeys,
      orderedEntries.filter (·.key == key) = shuffledEntries.filter (·.key == key) := by
    decide +kernel
  obtain ⟨p, hp, _, hresolves, hdirectory, hsame, hkeeps, _⟩ :=
    files_resolve_by_key ⟨"r"⟩ hshuffled hinfo
  rw [hentries] at hresolves hsame hkeeps
  rw [hparent] at hdirectory hsame
  refine ⟨p, hp, hsame _ _ orderedEntries hordered ?_ (hkeeps _ hfilter) hfile, ?_,
    (hdirectory _).2.2.1⟩
  · exact ⟨[], ⟨"files", 0, shuffledEntries⟩, _, rfl, rfl, rfl, rfl, fun q hq => nomatch hq⟩
  · rw [hresolves.stateKeys]
    decide

end FighterCheck.Character
