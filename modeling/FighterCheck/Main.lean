import FighterCheck.Command.Inputs
import FighterCheck.Command.Run

/-!
# The program

The program reads the files that its command line leads to, runs the command line on them, prints what
comes of it, and writes back what the run has changed.
-/

namespace FighterCheck

open Files (Tree)

/-- The number that the system gives to the failure of reading a directory as a file. -/
def directoryCode : UInt32 := 21

/-- The number that the system gives to the failure of entering a file as a directory. -/
def notDirectoryCode : UInt32 := 20

/-- What stands at a path is no directory: a slash after the path makes it lead nowhere. -/
def isNoDirectory (path : String) : IO Bool := do
  try
    let _ ← IO.FS.readBinFile (path ++ "/")
    return false
  catch
    | .inappropriateType _ code _ => return code == notDirectoryCode
    | _ => return false

/-- The tree with what stands at a path, if something does. -/
def probe (t : Tree) (path : String) : IO Tree := do
  try
    return t.putFile path (← IO.FS.readBinFile path).toList
  catch
    | .inappropriateType _ code _ =>
      return if code == directoryCode then t.putDirectory path else t
    | .permissionDenied .. => return if ← isNoDirectory path then t.putBarred path .denied else t
    | .hardwareFault .. => return t.putBarred path .broken
    | _ => return t

/-- The tree with what stands at some paths and on the way there. -/
def probeAll (t : Tree) (paths : List String) : IO Tree :=
  ((paths.flatMap Command.wayTo).filter (!·.toList.contains '\x00')).foldlM probe t

/-- The files that a command line leads to: those that it names, and those that these name. -/
def gather (environment : Option String) (args : List String) : IO Tree := do
  let named ← probeAll .empty (Command.inputs environment .empty args)
  probeAll named (Command.inputs environment named args)

/-- Writes a file if the run has changed it. -/
def store (before after : Tree) (path : String) : IO Unit :=
  match after.read path with
  | .ok octets =>
    if (before.read path).toOption = some octets then pure ()
    else IO.FS.writeBinFile path ⟨octets.toArray⟩
  | .error _ => pure ()

end FighterCheck

/-- Runs the command line. -/
def main (args : List String) : IO UInt32 := do
  let resources ← IO.getEnv FighterCheck.Resources.directoryVariable
  let logFilter ← IO.getEnv FighterCheck.Command.logFilterVariable
  let before ← FighterCheck.gather resources args
  let outcome := FighterCheck.Command.run ⟨resources, logFilter⟩ before args
  (FighterCheck.Command.inputs resources before args).forM
    (FighterCheck.store before outcome.tree)
  IO.print outcome.stdout
  IO.eprint outcome.stderr
  return outcome.exit.toUInt32
