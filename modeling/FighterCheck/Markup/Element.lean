import FighterCheck.Markup.Attribute

/-!
# The stream of elements

A document is read as the stream in which its elements open and close; an element written in one tag
opens and closes at once. End tags must name the element that is open, but elements may be left open
at the end, and there may be several outermost ones. Names of spaces are dropped from the names of
elements and attributes.
-/

namespace FighterCheck.Markup

/-- The attributes of an element, by name. -/
abbrev Attributes := List (String × String)

/-- One step in the stream of elements. -/
inductive Node where
  /-- an element opens -/
  | opens (tag : String) (attributes : Attributes)
  /-- an element closes -/
  | closes (tag : String)
  deriving Repr, DecidableEq

/-- The local name of a tag or attribute. -/
def nameText (name : List Char) : String := String.ofList (localName name)

/-- The name in an end tag: blanks after it do not count. -/
def endName (cs : List Char) : List Char :=
  if cs.all isSpace then cs else (cs.reverse.dropWhile isSpace).reverse

/-- The step of an opening tag with that name and text after it. -/
def openNode (name rest : List Char) : Except Fault Node := do
  let as ← attributes (rest.length + 1) [] rest
  pure (.opens (nameText name) (as.map fun (n, v) => (nameText n, String.ofList v)))

/-- The steps of the tags, where `opened` are the names of the open elements, the innermost first.
`fault` is what cuts the document short after its tags. -/
def nodesOfTags (fault : Option Fault) : (opened : List (List Char)) → List (List Char) →
    Except Fault (List Node)
  | _, [] =>
    match fault with
    | some e => .error e
    | none => .ok []
  | opened, ('/' :: tag) :: tags =>
    let name := endName tag
    match opened with
    | [] => .error (.unmatchedEnd (String.ofList name))
    | expected :: opened =>
      if name = expected then do
        pure (.closes (nameText name) :: (← nodesOfTags fault opened tags))
      else .error (.mismatchedEnd (String.ofList expected) (String.ofList name))
  | opened, tag :: tags =>
    let empty := tag.getLast? = some '/'
    let content := if empty then tag.dropLast else tag
    let name := content.takeWhile (!isSpace ·)
    let rest := content.dropWhile (!isSpace ·)
    match openNode name rest with
    | .error e => .error e
    | .ok node =>
      if empty then do
        pure (node :: .closes (nameText name) :: (← nodesOfTags fault opened tags))
      else do
        pure (node :: (← nodesOfTags fault (name :: opened) tags))

/-- The stream of elements that a document holds. -/
def nodes (text : String) : Except Fault (List Node) :=
  let (tags, fault) := tagsOf text.toList
  nodesOfTags fault [] tags

/-- The value of an attribute. -/
def Attributes.value? (as : Attributes) (name : String) : Option String := as.lookup name

end FighterCheck.Markup
