import FighterCheck.Ini.Printer
import FighterCheck.Json.Reader
import FighterCheck.Main
import FighterCheck.Resources.Bundle
import FighterCheck.Proofs.State.Scan
import FighterCheck.Proofs.State.Findings
import FighterCheck.Proofs.State.Ledger
import FighterCheck.Proofs.State.Separator
import FighterCheck.Proofs.State.Blocks
import FighterCheck.Proofs.State.Isolation
import FighterCheck.Proofs.State.Flaws
import FighterCheck.Proofs.State.Parameters
import FighterCheck.Proofs.Ini.WellFormed
import FighterCheck.Proofs.Ini.RoundTrip
import FighterCheck.Proofs.Character.Reached
import FighterCheck.Proofs.Character.Locate
import FighterCheck.Proofs.Character.Reading
import FighterCheck.Proofs.Character.Passes
import FighterCheck.Proofs.Character.Soundness
import FighterCheck.Proofs.Table.Drawing
import FighterCheck.Proofs.Command.Printing
import FighterCheck.Proofs.Command.ExitStatus
import FighterCheck.Proofs.Encoding.Utf16
import FighterCheck.Proofs.Sprite.RoundTrip
import FighterCheck.Proofs.Encoding.Detection
import FighterCheck.Proofs.Files.Writing
import FighterCheck.Proofs.Ini.FileCycle
import FighterCheck.Proofs.Encoding.Kuten
import FighterCheck.Proofs.Text.Pieces
import FighterCheck.Proofs.Encoding.ShiftJis
import FighterCheck.Proofs.Ini.Grammar
import FighterCheck.Proofs.Schema.Declared
import FighterCheck.Proofs.Schema.Lookup
import FighterCheck.Proofs.Command.Listing
import FighterCheck.Proofs.Files.Components
import FighterCheck.Proofs.Character.Resolution
import FighterCheck.Proofs.Ini.ShiftJisCycle
import FighterCheck.Proofs.Sprite.Classification
import FighterCheck.Proofs.Json.Numbers
import FighterCheck.Proofs.Json.Records
import FighterCheck.Proofs.State.Definitions
import FighterCheck.Proofs.State.Splitting
import FighterCheck.Proofs.Schema.Invariant
import FighterCheck.Proofs.State.TypeCoverage
import FighterCheck.Proofs.State.Numbering
import FighterCheck.Proofs.Character.Identity
import FighterCheck.Proofs.Ini.LetterCase
import FighterCheck.Proofs.Ini.Comments
import FighterCheck.Proofs.Ini.Composition
import FighterCheck.Proofs.Schema.NameMap
import FighterCheck.Proofs.Schema.Signature
