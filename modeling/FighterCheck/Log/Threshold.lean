import FighterCheck.Log.Event
import FighterCheck.Text.AsciiCase

/-!
# How far down events are shown

A threshold is a level down to which events are shown, or hides all of them. It has a name in small
letters and a number, the rank of its level.
-/

namespace FighterCheck.Log

/-- How far down events are shown; nothing hides all of them. -/
abbrev Threshold := Option Level

/-- How far down a threshold lies. -/
def thresholdRank (t : Threshold) : Nat := (t.map Level.rank).getD 0

/-- The name of a threshold. -/
def thresholdName (t : Threshold) : String := (t.map Level.name).getD "off"

/-- All levels. -/
def levels : List Level := [.error, .warn, .info, .debug, .trace]

/-- All thresholds. -/
def thresholds : List Threshold := none :: levels.map some

/-- The number that a text stands for; it may have a plus sign. -/
def rank? : List Char → Option Nat
  | '+' :: cs => Text.readDigits cs
  | cs => Text.readDigits cs

/-- The threshold of a name, in any case, or of its number. -/
def threshold? (text : String) : Option Threshold :=
  match rank? text.toList with
  | some n => thresholds.find? fun t => thresholdRank t == n
  | none => thresholds.find? fun t => Text.sameAscii text (thresholdName t)

end FighterCheck.Log
