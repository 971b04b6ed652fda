import FighterCheck.Proofs.Schema.Lookup
import Mathlib.Control.Monad.Basic

/-!
# What schema documents declare

A document of the shape that is documented declares its rules element by element: `DeclaresOptions`,
`DeclaresProperties` and `DeclaresControllers` say which stream of elements declares which options,
parameters and controllers, with elements of other names anywhere between. Reading such a stream goes
through it in a draft of the parameters (`Draft.Reads`), where a parameter enters at its start tag, takes
its options, and is settled at its end tag; at the end of the element around them all that were declared
are settled, and nothing is left for the next (`reads_of_declaresProperties`). So each document loads to
what it declares.
-/

namespace FighterCheck.Schema

open Markup (Attributes Node)

/-! ## The shape of documents -/

/-- The name of the element that opens or closes. -/
def tagOf : Node → String
  | .opens tag _ => tag
  | .closes tag => tag

/-- The attribute is there, and is the truth value `b` in any case and with blanks. -/
def HasBool (as : Attributes) (attr : String) (b : Bool) : Prop :=
  ∃ v, as.value? attr = some v ∧ Text.asciiFold (Text.trimmed v) = if b then "true" else "false"

/-- Inside an element `property` in the element `parent`, the options that are listed. -/
inductive DeclaresOptions (parent : String) : List Node → List String → Prop where
  /-- no more elements -/
  | nil : DeclaresOptions parent [] []
  /-- an element `value` -/
  | value {as : Attributes} {v : String} {ns : List Node} {vs : List String}
    (hval : as.value? "val" = some v) (hrest : DeclaresOptions parent ns vs) :
    DeclaresOptions parent (.opens "value" as :: ns) (v :: vs)
  /-- the end of an element `value` -/
  | endValue {ns : List Node} {vs : List String} (hrest : DeclaresOptions parent ns vs) :
    DeclaresOptions parent (.closes "value" :: ns) vs
  /-- an element of another name -/
  | other {n : Node} {ns : List Node} {vs : List String}
    (hother : tagOf n ∉ [parent, "property", "value"]) (hrest : DeclaresOptions parent ns vs) :
    DeclaresOptions parent (n :: ns) vs

/-- The parameter that an element `property` with these attributes and options declares: the options
are kept if some slot wants one. -/
def declared (name signature : String) (optional : Bool) (vs : List String) : Property :=
  ⟨name, slots signature, optional,
    if .choice ∈ slots signature ∨ .choices ∈ slots signature then vs else []⟩

/-- Inside the element `parent`, the parameters that are declared. -/
inductive DeclaresProperties (parent : String) : List Node → List Property → Prop where
  /-- no more elements -/
  | nil : DeclaresProperties parent [] []
  /-- an element `property`, from its start tag to its end tag -/
  | property {as : Attributes} {name signature : String} {optional : Bool} {body ns : List Node}
    {vs : List String} {ps : List Property} (hname : as.value? "name" = some name)
    (htype : as.value? "type" = some signature) (hoptional : HasBool as "optional" optional)
    (hbody : DeclaresOptions parent body vs) (hrest : DeclaresProperties parent ns ps) :
    DeclaresProperties parent (.opens "property" as :: (body ++ .closes "property" :: ns))
      (declared name signature optional vs :: ps)
  /-- an element of another name -/
  | other {n : Node} {ns : List Node} {ps : List Property}
    (hother : tagOf n ∉ [parent, "property", "value"]) (hrest : DeclaresProperties parent ns ps) :
    DeclaresProperties parent (n :: ns) ps

/-- Inside the element `controllers`, the controllers that are declared. -/
inductive DeclaresControllers : List Node → List Controller → Prop where
  /-- no more elements -/
  | nil : DeclaresControllers [] []
  /-- an element `controller`, from its start tag to its end tag -/
  | controller {as : Attributes} {name : String} {body ns : List Node} {ps : List Property}
    {cs : List Controller} (hname : as.value? "name" = some name)
    (hbody : DeclaresProperties "controller" body ps) (hrest : DeclaresControllers ns cs) :
    DeclaresControllers (.opens "controller" as :: (body ++ .closes "controller" :: ns))
      (⟨name, ps⟩ :: cs)
  /-- an element of another name -/
  | other {n : Node} {ns : List Node} {cs : List Controller}
    (hother : tagOf n ∉ ["controllers", "controller"]) (hrest : DeclaresControllers ns cs) :
    DeclaresControllers (n :: ns) cs

/-- A document declares the rules for sections of a kind, in its first element `section`. -/
inductive DeclaresSection (kind : String) : List Node → SectionRules → Prop where
  /-- anything but an element `section`, then that element, and anything after it -/
  | intro {before body after : List Node} {as : Attributes} {name signature : String}
    {comment : Bool} {ps : List Property} (hbefore : ∀ bs, .opens "section" bs ∉ before)
    (hname : as.value? "name" = some name) (hkind : Text.sameAscii name kind = true)
    (htype : as.value? "type" = some signature) (hcomment : HasBool as "comment" comment)
    (hbody : DeclaresProperties "section" body ps) :
    DeclaresSection kind (before ++ .opens "section" as :: (body ++ .closes "section" :: after))
      ⟨kind, (slots signature).head (slots_ne_nil signature), comment, ps⟩

/-- A document declares controllers, in its first element `controllers`. -/
inductive DeclaresCatalog : List Node → List Controller → Prop where
  /-- anything but an element `controllers`, then that element, and anything after it -/
  | intro {before body after : List Node} {as : Attributes} {cs : List Controller}
    (hbefore : ∀ n ∈ before, tagOf n ≠ "controllers") (hbody : DeclaresControllers body cs) :
    DeclaresCatalog (before ++ .opens "controllers" as :: (body ++ .closes "controllers" :: after)) cs

/-! ## Attributes -/

variable {path parent : String} {as : Attributes} {ns ms : List Node} {d d₁ d₂ : Draft}
  {ps qs : List Property} {p : Property}

theorem require_of_value? {attr v : String} (h : as.value? attr = some v) (element : String) :
    require path element attr as = .ok v := by
  rw [require, h]

theorem requireBool_of_hasBool {attr : String} {b : Bool} (h : HasBool as attr b) (element : String) :
    requireBool path element attr as = .ok b := by
  obtain ⟨v, hv, hb⟩ := h
  rw [requireBool, require_of_value? hv]
  dsimp only
  rw [hb]
  cases b <;> rfl

theorem propertyOf_eq {name signature : String} {optional : Bool} (hname : as.value? "name" = some name)
    (htype : as.value? "type" = some signature) (hoptional : HasBool as "optional" optional) :
    propertyOf path as = .ok ⟨name, slots signature, optional, []⟩ := by
  rw [propertyOf, require_of_value? hname, require_of_value? htype, requireBool_of_hasBool hoptional]
  rfl

theorem hasChoiceSlot_iff : p.hasChoiceSlot = true ↔ .choice ∈ p.types ∨ .choices ∈ p.types := by
  unfold Property.hasChoiceSlot
  rw [List.any_eq_true]
  constructor
  · rintro ⟨t, ht, hoptions⟩
    cases t with
    | choice => exact .inl ht
    | choices => exact .inr ht
    | _ => exact nomatch hoptions
  · rintro (ht | ht)
    · exact ⟨_, ht, rfl⟩
    · exact ⟨_, ht, rfl⟩

/-- What is settled is what was declared. -/
theorem settle_eq_declared (name signature : String) (optional : Bool) (vs : List String) :
    Property.settle ⟨name, slots signature, optional, vs⟩ = declared name signature optional vs := by
  unfold Property.settle declared
  split
  · next h => rw [if_pos (hasChoiceSlot_iff.mp h)]
  · next h => rw [if_neg (mt hasChoiceSlot_iff.mpr h)]

/-! ## Drafts -/

namespace Draft

theorem tag_ne_of_other {n : Node} (h : tagOf n ∉ [parent, "property", "value"]) :
    tagOf n ≠ parent ∧ tagOf n ≠ "property" ∧ tagOf n ≠ "value" := by
  simpa using h

theorem step_of_other {n : Node} (h : tagOf n ∉ [parent, "property", "value"]) :
    d.step path n = .ok d := by
  obtain ⟨_, hproperty, hvalue⟩ := tag_ne_of_other h
  cases n with
  | opens tag as =>
    have hproperty : tag ≠ "property" := hproperty
    have hvalue : tag ≠ "value" := hvalue
    rw [step, if_neg hproperty, if_neg hvalue]
  | closes tag =>
    have hproperty : tag ≠ "property" := hproperty
    rw [step, if_neg hproperty]

theorem step_property {name signature : String} {optional : Bool} (hname : as.value? "name" = some name)
    (htype : as.value? "type" = some signature) (hoptional : HasBool as "optional" optional) :
    d.step path (.opens "property" as) =
      .ok ⟨d.settled, some ⟨name, slots signature, optional, []⟩⟩ := by
  rw [step, if_pos rfl, propertyOf_eq hname htype hoptional]
  rfl

theorem step_value {v : String} (hval : as.value? "val" = some v) :
    step path ⟨ps, some p⟩ (.opens "value" as) =
      .ok ⟨ps, some { p with options := p.options ++ [v] }⟩ := by
  rw [step, if_neg (by decide), if_pos rfl]
  dsimp only
  rw [require_of_value? hval]
  rfl

theorem step_endValue : d.step path (.closes "value") = .ok d := rfl

theorem step_endProperty : step path ⟨ps, some p⟩ (.closes "property") = .ok ⟨ps ++ [p.settle], none⟩ :=
  rfl

/-- Inside the element `parent`, the draft `d` becomes another one step by step. -/
inductive Reads (path parent : String) : Draft → List Node → Draft → Prop where
  /-- no steps -/
  | nil {d : Draft} : Reads path parent d [] d
  /-- a step inside the element, and more -/
  | cons {d d₁ d₂ : Draft} {n : Node} {ns : List Node} (hn : n ≠ .closes parent)
    (hstep : d.step path n = .ok d₁) (hrest : Reads path parent d₁ ns d₂) :
    Reads path parent d (n :: ns) d₂

theorem Reads.append (h : Reads path parent d ns d₁) (hms : Reads path parent d₁ ms d₂) :
    Reads path parent d (ns ++ ms) d₂ := by
  induction h with
  | nil => exact hms
  | cons hn hstep _ ih => exact .cons hn hstep (ih hms)

theorem ne_closes_of_other {n : Node} (h : tagOf n ∉ [parent, "property", "value"]) :
    n ≠ .closes parent := by
  rintro rfl
  exact (tag_ne_of_other h).1 rfl

-- the element around parameters is neither a parameter nor an option
variable (hparent : parent ∉ ["property", "value"])

include hparent

theorem closes_ne {tag : String} (htag : tag ∈ ["property", "value"]) :
    Node.closes tag ≠ .closes parent := by
  intro h
  obtain rfl := Node.closes.inj h
  exact hparent htag

/-- **The options that are declared** are taken by the parameter that is open. -/
theorem reads_of_declaresOptions {vs : List String} (h : DeclaresOptions parent ns vs) :
    Reads path parent ⟨ps, some p⟩ ns ⟨ps, some { p with options := p.options ++ vs }⟩ := by
  induction h generalizing p with
  | nil =>
    rw [List.append_nil]
    exact .nil
  | @value as v ns vs hval _ ih =>
    -- the option goes behind those taken before, so the induction is over all parameters
    refine .cons nofun (step_value hval) ?_
    have hrest := @ih { p with options := p.options ++ [v] }
    rw [List.append_assoc] at hrest
    exact hrest
  | endValue _ ih => exact .cons (closes_ne hparent (by decide)) step_endValue ih
  | other hother _ ih => exact .cons (ne_closes_of_other hother) (step_of_other hother) ih

/-- **The parameters that are declared** are settled, one after the other. -/
theorem reads_of_declaresProperties (h : DeclaresProperties parent ns qs) :
    Reads path parent ⟨ps, none⟩ ns ⟨ps ++ qs, none⟩ := by
  induction h generalizing ps with
  | nil =>
    rw [List.append_nil]
    exact .nil
  | @property as name signature optional body ns vs qs hname htype hoptional hbody _ ih =>
    -- start tag, options, end tag; then the draft has no open parameter again
    refine .cons nofun (step_property hname htype hoptional)
      ((reads_of_declaresOptions hparent hbody).append ?_)
    refine .cons (closes_ne hparent (by decide)) step_endProperty ?_
    rw [settle_eq_declared, List.nil_append]
    have hrest := @ih (ps ++ [declared name signature optional vs])
    rw [List.append_assoc] at hrest
    exact hrest
  | other hother _ ih => exact .cons (ne_closes_of_other hother) (step_of_other hother) ih

end Draft

/-! ## Rules for sections -/

theorem propertiesUntil_of_reads (h : Draft.Reads path parent d ns d₁) (rest : List Node) :
    propertiesUntil path parent d (ns ++ .closes parent :: rest) = .ok d₁.settled := by
  induction h with
  | nil =>
    rw [List.nil_append, propertiesUntil, if_pos rfl]
  | cons hn hstep _ ih =>
    rw [List.cons_append, propertiesUntil, if_neg hn, hstep]
    exact ih

theorem propertiesUntil_eq (h : DeclaresProperties "section" ns ps) (rest : List Node) :
    propertiesUntil path "section" .empty (ns ++ .closes "section" :: rest) = .ok ps :=
  propertiesUntil_of_reads (Draft.reads_of_declaresProperties (by decide) h) rest

/-- Up to the first element `section`, everything is passed over. -/
theorem sectionRules_append {kind : String} {before : List Node}
    (h : ∀ bs, .opens "section" bs ∉ before) (rest : List Node) :
    sectionRules path kind (before ++ .opens "section" as :: rest) = rulesOf path kind as rest := by
  induction before with
  | nil => rw [List.nil_append, sectionRules, if_pos rfl]
  | cons n before ih =>
    have hrest := ih fun bs hmem => h bs (List.mem_cons_of_mem _ hmem)
    rw [List.cons_append]
    cases n with
    | opens tag bs =>
      have htag : tag ≠ "section" := by
        rintro rfl
        exact h bs List.mem_cons_self
      rw [sectionRules, if_neg htag, hrest]
    | closes tag => rw [sectionRules, hrest]

/-- **Rules for sections are read as they are declared.** -/
theorem sectionRules_of_declaresSection {kind : String} {rules : SectionRules}
    (h : DeclaresSection kind ns rules) : sectionRules path kind ns = .ok rules := by
  cases h with
  | @intro before body after as name signature comment ps hbefore hname hkind htype hcomment hbody =>
    rw [sectionRules_append hbefore, rulesOf, require_of_value? hname, require_of_value? htype,
      requireBool_of_hasBool hcomment, propertiesUntil_eq hbody]
    simp only [bind, Except.bind, hkind, List.head?_eq_some_head (slots_ne_nil signature)]
    rfl

/-! ## Controllers -/

theorem controllersAfter_of_reads {name : String} (h : Draft.Reads path "controller" d ns d₁)
    (rest : List Node) :
    controllersAfter path name d (ns ++ .closes "controller" :: rest) =
      (controllersInside path rest).cons ⟨name, d₁.settled⟩ := by
  induction h with
  | nil => rw [List.nil_append, controllersAfter, if_pos rfl]
  | cons hn hstep _ ih =>
    rw [List.cons_append, controllersAfter, if_neg hn, hstep]
    exact ih

/-- **A controller takes the parameters of its own element**, and none are left for the next. -/
theorem controllersAfter_eq {name : String} (h : DeclaresProperties "controller" ns ps)
    (rest : List Node) :
    controllersAfter path name .empty (ns ++ .closes "controller" :: rest) =
      (controllersInside path rest).cons ⟨name, ps⟩ :=
  controllersAfter_of_reads (Draft.reads_of_declaresProperties (by decide) h) rest

theorem controllersInside_eq {cs : List Controller} (h : DeclaresControllers ns cs) (rest : List Node) :
    controllersInside path (ns ++ .closes "controllers" :: rest) = ⟨cs, none⟩ := by
  induction h with
  | nil => rw [List.nil_append, controllersInside, if_pos rfl]
  | controller hname hbody _ ih =>
    rw [List.cons_append, List.append_assoc, List.cons_append, controllersInside, if_pos rfl,
      require_of_value? hname]
    dsimp only
    rw [controllersAfter_eq hbody, ih]
    rfl
  | @other n ns cs hother _ ih =>
    obtain ⟨hcontrollers, hcontroller⟩ : tagOf n ≠ "controllers" ∧ tagOf n ≠ "controller" := by
      simpa using hother
    rw [List.cons_append]
    cases n with
    | opens tag as =>
      have htag : tag ≠ "controller" := hcontroller
      rw [controllersInside, if_neg htag, ih]
    | closes tag =>
      have htag : tag ≠ "controllers" := hcontrollers
      rw [controllersInside, if_neg htag, ih]

theorem controllersOf_append {before : List Node} (h : ∀ n ∈ before, tagOf n ≠ "controllers")
    (rest : List Node) :
    controllersOf path (before ++ .opens "controllers" as :: rest) = controllersInside path rest := by
  induction before with
  | nil => rw [List.nil_append, controllersOf, if_pos rfl]
  | cons n before ih =>
    obtain ⟨hn, hbefore⟩ := List.forall_mem_cons.mp h
    rw [List.cons_append]
    cases n with
    | opens tag bs =>
      have htag : tag ≠ "controllers" := hn
      rw [controllersOf, if_neg htag, ih hbefore]
    | closes tag =>
      have htag : tag ≠ "controllers" := hn
      rw [controllersOf, if_neg htag, ih hbefore]

/-- **Controllers are read as they are declared.** -/
theorem controllersOf_of_declaresCatalog {cs : List Controller} (h : DeclaresCatalog ns cs) :
    controllersOf path ns = ⟨cs, none⟩ := by
  cases h with
  | intro hbefore hbody => rw [controllersOf_append hbefore, controllersInside_eq hbody]

theorem nodesOf_of_tags {text : String}
    (h : Markup.nodesOfTags (Markup.tagsOf text.toList).2 [] (Markup.tagsOf text.toList).1 = .ok ns) :
    nodesOf path text = .ok ns := by
  unfold nodesOf Markup.nodes
  dsimp only
  rw [h]

/-- A catalog is loaded if the stream of each of its documents is read. -/
theorem load_of_nodes {s : Sources} {statedef state : SectionRules} {cs : List Controller}
    {ns₁ ns₂ ns₃ : List Node} (hns₁ : nodesOf s.statedef.path s.statedef.text = .ok ns₁)
    (hns₂ : nodesOf s.state.path s.state.text = .ok ns₂)
    (hns₃ : nodesOf s.controllers.path s.controllers.text = .ok ns₃)
    (hstatedef : sectionRules s.statedef.path "statedef" ns₁ = .ok statedef)
    (hstate : sectionRules s.state.path "state" ns₂ = .ok state)
    (hcontrollers : controllersOf s.controllers.path ns₃ = ⟨cs, none⟩) :
    s.load = .ok ⟨statedef, state, controllerMapOf cs⟩ := by
  have hrules : s.rules = .ok (statedef, state) := by
    rw [Sources.rules, hns₁, hns₂]
    simp only [bind, Except.bind, hstatedef, hstate]
    rfl
  have hreading : s.controllerReading = .ok ⟨cs, none⟩ := by
    rw [Sources.controllerReading, hns₃, Except.map, hcontrollers]
  rw [Sources.load, hrules, hreading]
  rfl

/-- **The three documents of a catalog load to what they declare.** -/
theorem load_of_declares {s : Sources} {statedef state : SectionRules} {cs : List Controller}
    {ns₁ ns₂ ns₃ : List Node} (hns₁ : nodesOf s.statedef.path s.statedef.text = .ok ns₁)
    (hns₂ : nodesOf s.state.path s.state.text = .ok ns₂)
    (hns₃ : nodesOf s.controllers.path s.controllers.text = .ok ns₃)
    (hstatedef : DeclaresSection "statedef" ns₁ statedef)
    (hstate : DeclaresSection "state" ns₂ state) (hcontrollers : DeclaresCatalog ns₃ cs) :
    s.load = .ok ⟨statedef, state, controllerMapOf cs⟩ :=
  load_of_nodes hns₁ hns₂ hns₃ (sectionRules_of_declaresSection hstatedef)
    (sectionRules_of_declaresSection hstate) (controllersOf_of_declaresCatalog hcontrollers)

/-- **Schema documents load to exactly what they declare.** A document that declares rules for a kind of
section is read as these rules: the parameters in the order of their elements, each with its slots, its
mark, and its options in order if some slot wants one, and without options otherwise. A document
that declares controllers is read as these, each with the parameters of its own element, and of
controllers with equal names the first is found. So three documents make up the catalog that they
declare. -/
theorem documents_load_to_what_they_declare :
    (∀ path kind ns rules, DeclaresSection kind ns rules → sectionRules path kind ns = .ok rules) ∧
    (∀ path ns cs, DeclaresCatalog ns cs →
      (controllersOf path ns).result = .ok cs ∧
        ∀ name, (controllerMapOf cs).value? name = cs.find? (Text.sameAscii ·.name name)) ∧
    ∀ (s : Sources) ns₁ ns₂ ns₃ statedef state cs,
      nodesOf s.statedef.path s.statedef.text = .ok ns₁ → DeclaresSection "statedef" ns₁ statedef →
      nodesOf s.state.path s.state.text = .ok ns₂ → DeclaresSection "state" ns₂ state →
      nodesOf s.controllers.path s.controllers.text = .ok ns₃ → DeclaresCatalog ns₃ cs →
      s.load = .ok ⟨statedef, state, controllerMapOf cs⟩ := by
  refine ⟨fun path kind ns rules h => sectionRules_of_declaresSection h, fun path ns cs h => ⟨?_, ?_⟩,
    fun s ns₁ ns₂ ns₃ statedef state cs hns₁ h₁ hns₂ h₂ hns₃ h₃ =>
      load_of_declares hns₁ hns₂ hns₃ h₁ h₂ h₃⟩
  · rw [controllersOf_of_declaresCatalog h]
    rfl
  · exact value?_controllerMapOf cs

/-- Rules for definitions, in a document with other elements before and between: a parameter of two slots
whose options are kept, the second after another element, and one whose option is not. -/
def leisurelyDocument : String :=
  "<?xml version='1.0'?><doc/><section name='StateDef' type='int tuple' comment=' True'><note><property
  name='type' type='int enum' optional='true'><value val='S'/><hint/><value val='C'></value></property>
  </note><property name='velset' type='float tuple' optional='False'><value val='1'/></property>
  </section>"

/-- Controllers, two of them with equal names, and a parameter that belongs to none. -/
def repeatingDocument : String :=
  "<controllers><controller name='Null'><property name='time' type='int' optional='true'/></controller>
  <property/><controller name='Turn'/><controller name='NULL'/></controllers>"

/-- The stream of `leisurelyDocument`. -/
def leisurelyStream : List Node :=
  [.opens "doc" [], .closes "doc"] ++
    .opens "section" [("name", "StateDef"), ("type", "int tuple"), ("comment", " True")] ::
      ((.opens "note" [] ::
        .opens "property" [("name", "type"), ("type", "int enum"), ("optional", "true")] ::
          ([.opens "value" [("val", "S")], .closes "value", .opens "hint" [], .closes "hint",
            .opens "value" [("val", "C")], .closes "value"] ++ .closes "property" ::
        .closes "note" ::
        .opens "property" [("name", "velset"), ("type", "float tuple"), ("optional", "False")] ::
          ([.opens "value" [("val", "1")], .closes "value"] ++ .closes "property" :: []))) ++
      .closes "section" :: [])

/-- The stream of `repeatingDocument`. -/
def repeatingStream : List Node :=
  .opens "controllers" [] ::
    ((.opens "controller" [("name", "Null")] ::
      ((.opens "property" [("name", "time"), ("type", "int"), ("optional", "true")] ::
        ([] ++ .closes "property" :: [])) ++
      .closes "controller" :: .opens "property" [] :: .closes "property" ::
      .opens "controller" [("name", "Turn")] :: ([] ++ .closes "controller" ::
      .opens "controller" [("name", "NULL")] :: ([] ++ .closes "controller" :: [])))) ++
    .closes "controllers" :: [])

theorem declaresSection_leisurelyStream :
    DeclaresSection "statedef" leisurelyStream
      ⟨"statedef", .int, true, [⟨"type", [.int, .choice], true, ["S", "C"]⟩,
        ⟨"velset", [.float, .float], false, []⟩]⟩ := by
  have htype : (⟨"type", [.int, .choice], true, ["S", "C"]⟩ : Property) =
      declared "type" "int enum" true ["S", "C"] := by decide +kernel
  have hvelset : (⟨"velset", [.float, .float], false, []⟩ : Property) =
      declared "velset" "float tuple" false ["1"] := by decide +kernel
  have hfirst : PropType.int = (slots "int tuple").head (slots_ne_nil _) := by decide +kernel
  rw [htype, hvelset, hfirst]
  refine .intro (fun bs => by simp) rfl (by decide) rfl ⟨" True", rfl, by decide +kernel⟩ ?_
  refine .other (by decide) (.property rfl rfl ⟨"true", rfl, by decide +kernel⟩ ?_ (.other (by decide)
    (.property rfl rfl ⟨"False", rfl, by decide +kernel⟩ (.value rfl (.endValue .nil)) .nil)))
  exact .value rfl (.endValue (.other (by decide) (.other (by decide) (.value rfl (.endValue .nil)))))

theorem declaresCatalog_repeatingStream :
    DeclaresCatalog repeatingStream
      [⟨"Null", [⟨"time", [.int], true, []⟩]⟩, ⟨"Turn", []⟩, ⟨"NULL", []⟩] := by
  have htime : (⟨"time", [.int], true, []⟩ : Property) = declared "time" "int" true [] := by
    decide +kernel
  rw [htime]
  refine @DeclaresCatalog.intro [] _ [] [] _ (by simp) (.controller rfl ?_ (.other (by decide)
    (.other (by decide) (.controller rfl .nil (.controller rfl .nil .nil)))))
  exact .property rfl rfl ⟨"true", rfl, by decide +kernel⟩ .nil .nil

/-- The catalog of these documents, with one of rules for state blocks that has no parameters: the
options and the parameters are where they were declared, and of the two controllers the first is
found. -/
theorem leisurely_documents_load :
    ∃ c, Catalog.ofTexts leisurelyDocument "<section name='STATE' type='' comment='false'/>"
        repeatingDocument = .ok c ∧
      c.statedef = ⟨"statedef", .int, true, [⟨"type", [.int, .choice], true, ["S", "C"]⟩,
        ⟨"velset", [.float, .float], false, []⟩]⟩ ∧
      c.state = ⟨"state", .none, false, []⟩ ∧
      c.controllerMap.value? "null" = some ⟨"Null", [⟨"time", [.int], true, []⟩]⟩ := by
  obtain ⟨_, hcontrollers, hload⟩ := documents_load_to_what_they_declare
  have hstatedef : nodesOf statedefFile leisurelyDocument = .ok leisurelyStream := by
    refine nodesOf_of_tags ?_
    rw [leisurelyDocument, String.toList_ofList]
    decide +kernel
  have hstate : nodesOf stateFile "<section name='STATE' type='' comment='false'/>" =
      .ok (.opens "section" [("name", "STATE"), ("type", ""), ("comment", "false")] ::
        ([] ++ .closes "section" :: [])) := by
    refine nodesOf_of_tags ?_
    rw [String.toList_ofList]
    decide +kernel
  have hcontroller : nodesOf controllerFile repeatingDocument = .ok repeatingStream := by
    refine nodesOf_of_tags ?_
    rw [repeatingDocument, String.toList_ofList]
    decide +kernel
  have hrules : DeclaresSection "state"
      (.opens "section" [("name", "STATE"), ("type", ""), ("comment", "false")] ::
        ([] ++ .closes "section" :: [])) ⟨"state", .none, false, []⟩ :=
    @DeclaresSection.intro "state" [] [] [] _ "STATE" "" false [] (by simp) rfl (by decide) rfl
      ⟨"false", rfl, by decide +kernel⟩ .nil
  refine ⟨_, hload (Sources.ofTexts _ _ _) _ _ _ _ _ _ hstatedef declaresSection_leisurelyStream
    hstate hrules hcontroller declaresCatalog_repeatingStream, rfl, rfl, ?_⟩
  rw [(hcontrollers "controller.xml" _ _ declaresCatalog_repeatingStream).2]
  decide

end FighterCheck.Schema
