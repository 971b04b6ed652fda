import FighterCheck.Schema.PropType
import FighterCheck.Text.AsciiCase

/-!
# Type signatures

A signature lists the kinds of a parameter's slots as words. The word `tuple` or `triple` in second
place stands for two or three slots of the first kind, whatever follows. A signature without words
has one slot of no known kind.
-/

namespace FighterCheck.Schema

/-- The slots of a signature given by its words. -/
def slotsOfWords : List String → List PropType
  | [] => [.none]
  | [t] => [PropType.ofToken t]
  | t :: u :: ts =>
    match Text.asciiFold u with
    | "tuple" => List.replicate 2 (PropType.ofToken t)
    | "triple" => List.replicate 3 (PropType.ofToken t)
    | _ => (t :: u :: ts).map PropType.ofToken

/-- The slots of a signature. -/
def slots (signature : String) : List PropType :=
  slotsOfWords ((Text.words signature.toList).map String.ofList)

theorem slots_ne_nil (signature : String) : slots signature ≠ [] := by
  unfold slots slotsOfWords
  split
  · exact List.cons_ne_nil _ _
  · exact List.cons_ne_nil _ _
  · split
    · exact List.cons_ne_nil _ _
    · exact List.cons_ne_nil _ _
    · exact List.cons_ne_nil _ _

end FighterCheck.Schema
