import ShopClient.CommandLine.Program

/-!
# The executable

The outer layer of the program: it gathers what a run finds (`Surroundings`), and puts into the world
how the run ends (`Ending`). Of the disk it takes two files along, the configuration and the
credentials, and writes the second one back if the run changed it. It has no network, so that every
request goes unanswered.
-/

namespace ShopClient.CommandLine

/-- The variables that a run looks at. -/
def environmentNames : List String := [configVariable, Config.baseUrlVariable, passwordVariable]

/-- The values of the variables that are set. -/
def readEnvironment : IO (List (String × String)) :=
  environmentNames.filterMapM fun name => do return (← IO.getEnv name).map (name, ·)

/-- The disk `d` with what stands at the end of the path, and with the directories on the way. -/
def takeAlong (path : String) (d : Disk) : IO Disk := do
  let p := Disk.Path.ofString path
  let found : Option Disk.Node ← try
      let content ← IO.FS.readBinFile path
      pure (some (.file content.toList Disk.newMode))
    catch e => match e with
      | .noFileOrDirectory .. => pure none
      | _ => pure (some .directory)
  match found with
  | some node => return ((d.makeDirectories p.parent).toOption.getD d).put p node
  | none => return d

/-- What the run finds, apart from the input. -/
def gather (arguments : List String) : IO Surroundings := do
  let w : Surroundings := { environment := ← readEnvironment, link := .down }
  match Arguments.parse (w.get? configVariable) arguments with
  | .error _ => return w
  | .ok a =>
    let path := Config.resolvePath a.config
    let disk ← takeAlong path w.disk
    match Config.loadOrDefault path (w.get? Config.baseUrlVariable) disk with
    | .error _ => return { w with disk }
    | .ok config => return { w with disk := ← takeAlong config.storagePath disk }

/-- Writes the files back that the run changed. -/
def putBack (before after : Disk) : IO Unit := do
  for (p, node) in after.nodes do
    match node with
    | .directory => pure ()
    | .file content _ =>
      if (before.read p).toOption ≠ some content then
        let draft := "/".intercalate (p.parent ++ [p.name ++ ".tmp"])
        if p.parent ≠ [] then IO.FS.createDirAll ("/".intercalate p.parent)
        IO.FS.writeBinFile draft content.toByteArray
        IO.setAccessRights draft { user := { read := true, write := true } }
        IO.FS.rename draft ("/".intercalate p)

/-- The terminal up to the end of its first line. -/
partial def readLine (input : IO.FS.Stream) (line : ByteArray) : IO Terminal := do
  try
    let next ← input.read 1
    if next.isEmpty || next.toList.contains 0x0A then return { bytes := (line ++ next).toList }
    else readLine input (line ++ next)
  catch e => return { bytes := line.toList, failure := some (.refused (toString e)) }

/-- Runs the program on what there is. -/
def start (arguments : List String) : IO UInt32 := do
  let w ← gather arguments
  let prompt := match Arguments.parse (w.get? configVariable) arguments with
    | .ok a => (prompt? a w).getD ""
    | .error _ => ""
  IO.eprint prompt
  let input ← if prompt = "" then pure {} else readLine (← IO.getStdin) .empty
  let ending := run arguments { w with input }
  putBack w.disk ending.disk
  IO.print ending.output
  IO.eprint (ending.errors.drop prompt.length)
  return ending.exitCode.toUInt32

end ShopClient.CommandLine

/-- The program. -/
def main (arguments : List String) : IO UInt32 := ShopClient.CommandLine.start arguments
