import FighterCheck.Character.Basic
import FighterCheck.Table.Grid

/-!
# What commands show

The tables of characters, findings, sprite files and schemas, the line of totals, and the JSON form of
a check.
-/

namespace FighterCheck.Command

open Schema (Controller Property)
open Sprite (SpriteFile)
open Table (Grid)

/-- A table of two columns for fields and their values. -/
def fieldTable (valueAlignment : Table.Alignment) (rows : List (String × String)) : Grid :=
  ⟨[.left, valueAlignment], ["Field", "Value"], rows.map fun (f, v) => [f, v]⟩

/-- What a definition says of its character, and the files it refers to. -/
def overviewTable (p : Character) : Grid :=
  fieldTable .left [
    ("mugenversion", p.info.version),
    ("localcoord", p.info.localCoord.text),
    ("cmd", p.cmd.path),
    ("cns", p.cns.path),
    ("stcommon", p.common.path ++ " (" ++ p.commonSource.text ++ ")"),
    ("state files",
      if p.stateFiles.isEmpty then "-" else ", ".intercalate (p.stateFiles.map (·.key))),
    ("statedefs", Text.showNat p.results.owners.size)]

/-- Findings with their severities and files. -/
def diagnosticsTable (ds : List Diagnostic) : Grid :=
  ⟨[.center, .left, .left], ["Severity", "File", "Message"],
    ds.map fun d => [d.severity.label, d.file.getD "-", d.message]⟩

/-- How findings are drawn: in 160 places, of which the message may claim four fifths of what the lines
between the columns leave. -/
def diagnosticsStyle : Table.Style := .full 160 [none, some 10, some 124]

/-- The number of findings of a severity, in words. -/
def countText (r : Report) (s : Severity) : String :=
  let n := r.count s
  let plural := if n = 1 then "" else "s"
  Text.showNat n ++ " " ++ match s with
    | .error => "error" ++ plural
    | .warning => "warning" ++ plural
    | .info => "info"
    | .debug => "debug"

/-- The numbers of findings by severity, the gravest first. -/
def countsText (r : Report) : String :=
  ", ".intercalate (Severity.all.reverse.map (countText r))

/-- The JSON form of a coordinate space. -/
def coordJson (c : LocalCoord) : Json :=
  .object [("width", .number (Text.showInt32 c.width)),
    ("height", .number (Text.showInt32 c.height))]

/-- The JSON form of a check that shows these findings. -/
def checkJson (p : Character) (shown : List Diagnostic) : Json :=
  .object [
    ("name", .string p.info.name),
    ("display_name", .string p.info.displayName),
    ("version", .string p.info.version),
    ("local_coord", coordJson p.info.localCoord),
    ("has_errors", .bool p.results.report.hasErrors),
    ("diagnostics", .array (shown.map Diagnostic.toJson))]

/-- The fields of a header besides its version. -/
def headerFields : Sprite.Header → List (String × UInt32)
  | .first h => [("groups", h.groupCount), ("sprites", h.spriteCount),
      ("first subfile offset", h.subfileOffset), ("subheader length", h.subheaderLength)]
  | .second h => [("sprites", h.spriteCount), ("first sprite offset", h.firstSpriteOffset),
      ("palettes", h.paletteCount), ("first palette offset", h.firstPaletteOffset),
      ("ldata offset", h.ldataOffset), ("ldata length", h.ldataLength),
      ("tdata offset", h.tdataOffset), ("tdata length", h.tdataLength)]

/-- The header of a sprite file. -/
def spriteTable (s : SpriteFile) : Grid :=
  fieldTable .right (("version", s.header.version.text) ::
    (headerFields s.header).map fun (f, n) => (f, Text.showNat n.toNat))

/-- Controllers and how many parameters each takes. -/
def controllersTable (cs : List (String × Nat)) : Grid :=
  ⟨[.left, .right], ["Controller", "Parameters"], cs.map fun (name, n) => [name, Text.showNat n]⟩

/-- The parameters of a controller. -/
def controllerTable (c : Controller) : Grid :=
  ⟨[.left, .left, .center], ["Parameter", "Type", "Required"],
    c.properties.map fun p => [p.name, p.describe, if p.optional then "-" else "yes"]⟩

end FighterCheck.Command
