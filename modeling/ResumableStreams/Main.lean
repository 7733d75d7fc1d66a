import ResumableStreams.Command.Arguments

namespace ResumableStreams

/-!
# The program

The program puts what its arguments name on a disk, runs the command there,
and puts the outcome back: the standard output, the standard error and the
file named as the sink.  It has no network; every address fails to connect.
-/

namespace Program

/-- More exchanges than any source can need that fits in memory. -/
def exchangeLimit : Nat := 1 <<< 62

/-- Put a path and the directories on the way to it on the disk, as far as
they are there. -/
def load (disk : Disk) (path : String) : IO Disk := do
  let mut disk := disk
  let steps := Path.steps path
  for count in List.range steps.length do
    let here := Path.location (Path.root path ++ "/".intercalate (steps.take (count + 1)))
    try
      if ← (← IO.FS.realPath here.path).isDir then
        disk := { disk with directories := disk.directories ++ [here] }
    catch _ => pure ()
  try
    let bytes <- IO.FS.readBinFile path
    return disk.addEntry path bytes.toList
  catch _ => return disk

/-- Everything the standard input holds.  It is read only if it is named. -/
def readInput (sources : List String) : IO Bytes := do
  if sources.contains "-" then
    return (← (← IO.getStdin).readBinToEnd).toList
  else return []

/-- Run the command and carry its outcome out. -/
def run (arguments : List String) : IO UInt32 := do
  let (sources, output) := match Command.Options.parse arguments with
    | .ok (some options) => (options.sources, options.output)
    | .ok none | .error _ => ([], none)
  let named := sources.filter (· ≠ "-") ++ output.toList.map Path.normalize
  let disk <- named.foldlM load Disk.empty
  let context := Command.start Memory.addressable (← readInput sources) disk (.ofScript [])
  let outcome := Command.runArguments exchangeLimit [] arguments context
  let stdout <- IO.getStdout
  stdout.write ⟨outcome.stdout.toArray⟩
  stdout.flush
  IO.eprint outcome.stderr
  if let some fault := outcome.escaped then IO.eprintln fault.message
  if let some path := output then
    let path := Path.normalize path
    let location := Path.location path
    if outcome.host.disk.hasFile location then
      IO.FS.writeBinFile path ⟨(outcome.host.disk.contents location).toArray⟩
  return outcome.exitCode.toUInt32

end Program

end ResumableStreams

def main (arguments : List String) : IO UInt32 := ResumableStreams.Program.run arguments
