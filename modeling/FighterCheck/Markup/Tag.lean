import FighterCheck.Markup.Fault
import FighterCheck.Text.Cut

/-!
# Cutting a document into its tags

Of a document only the tags matter. Text between tags, comments, character data, processing
instructions and declarations of the document type are passed over, but each must end, and so must a
reference in text. A tag ends at the first `>` that stands outside quotes.
-/

namespace FighterCheck.Markup

/-- The blanks of markup. -/
def isSpace (c : Char) : Bool := c = ' ' || c = '\t' || c = '\n' || c = '\r'

/-- What follows `start` in a text that begins with it. -/
def after? : (start : List Char) → List Char → Option (List Char)
  | [], cs => some cs
  | _ :: _, [] => none
  | s :: start, c :: cs => if s = c then after? start cs else none

/-- What follows the first occurrence of `stop`. -/
def afterFirst? (stop : List Char) : List Char → Option (List Char)
  | [] => after? stop []
  | c :: cs =>
    match after? stop (c :: cs) with
    | some rest => some rest
    | none => afterFirst? stop cs

/-- What stands before and after the first `>` outside quotes; `quoted` is the quote that is open. -/
def tagEnd? : (quoted : Option Char) → List Char → Option (List Char × List Char)
  | _, [] => none
  | none, c :: cs =>
    if c = '>' then some ([], cs)
    else (tagEnd? (if c = '"' ∨ c = '\'' then some c else none) cs).map fun (t, r) => (c :: t, r)
  | some q, c :: cs =>
    (tagEnd? (if c = q then none else some q) cs).map fun (t, r) => (c :: t, r)

/-- What stands before and after the `>` that closes as many `<` as `depth` and one more before it. -/
def balancedEnd? : (depth : Nat) → List Char → Option (List Char × List Char)
  | _, [] => none
  | depth, c :: cs =>
    if c = '<' then (balancedEnd? (depth + 1) cs).map fun (t, r) => (c :: t, r)
    else if c = '>' then
      match depth with
      | 0 => some ([], cs)
      | depth + 1 => (balancedEnd? depth cs).map fun (t, r) => (c :: t, r)
    else (balancedEnd? depth cs).map fun (t, r) => (c :: t, r)

/-- What follows a declaration of the document type, after its `<!`. Its end is found by counting `<`
and `>` alone, those in quotes and comments too. -/
def afterDoctype (cs : List Char) : Except Fault (List Char) :=
  match balancedEnd? 0 cs with
  | none => .error .unclosedDoctype
  | some (declaration, rest) =>
    if (declaration.take 7).map Char.toLower ≠ "doctype".toList then .error .unclosedDoctype
    else if (declaration.drop 7).all isSpace then .error .unnamedDoctype
    else .ok rest

/-- What follows the markup after `<!`. -/
def afterDeclaration : List Char → Except Fault (List Char)
  | '-' :: cs =>
    match (after? ['-'] cs).bind (afterFirst? "-->".toList) with
    | some rest => .ok rest
    | none => .error .unclosedComment
  | '[' :: cs =>
    match (after? "CDATA[".toList cs).bind (afterFirst? "]]>".toList) with
    | some rest => .ok rest
    | none => .error .unclosedData
  | c :: cs => if c = 'D' ∨ c = 'd' then afterDoctype (c :: cs) else .error .unknownMarkup
  | [] => .error .unknownMarkup

/-- What follows a processing instruction, after its `<?`. An instruction is not empty. -/
def afterInstruction (cs : List Char) : Except Fault (List Char) :=
  if cs.head? = some '>' then .error .unclosedInstruction
  else match afterFirst? "?>".toList cs with
    | some rest => .ok rest
    | none => .error .unclosedInstruction

/-- The contents of the tags of a document, and the fault that cuts it short, if one does. `fuel`
bounds the number of tags and other markup. -/
def tags : (fuel : Nat) → List Char → List (List Char) × Option Fault
  | 0, _ => ([], none)
  | fuel + 1, cs =>
    let passOver : Except Fault (List Char) → List (List Char) × Option Fault
      | .ok rest => tags fuel rest
      | .error e => ([], some e)
    match cs.dropWhile fun c => c ≠ '<' && c ≠ '&' with
    | '&' :: cs =>
      match Text.cut (fun c => c = ';' || c = '&' || c = '<') cs with
      | some (_, ';', rest) => tags fuel rest
      | _ => ([], some .unclosedReference)
    | _ :: '!' :: cs => passOver (afterDeclaration cs)
    | _ :: '?' :: cs => passOver (afterInstruction cs)
    | _ :: cs =>
      match tagEnd? none cs with
      | none => ([], some .unclosedTag)
      | some (tag, rest) =>
        let (more, fault) := tags fuel rest
        (tag :: more, fault)
    | [] => ([], none)

/-- The contents of the tags of a document, and the fault that cuts it short, if one does. -/
def tagsOf (cs : List Char) : List (List Char) × Option Fault := tags (cs.length + 1) cs

end FighterCheck.Markup
