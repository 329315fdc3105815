import Copydesk.Cli.Run

/-! The program: it reads the working folder, runs its arguments and writes the outcome. -/

namespace Copydesk

/-- The tree below some entries of a folder, at most so deep. A file that cannot be read counts as
one that is no text. -/
def readTree : Nat → List IO.FS.DirEntry → IO FileTree
  | 0, _ => return .empty
  | n + 1, entries => do
    let nodes ← entries.mapM fun e => do
      let name := e.fileName.toList
      if ← e.path.isDir then
        let inner ← try e.path.readDir catch _ => pure #[]
        return (name, ← readTree n inner.toList)
      else
        let bytes? ← try some <$> IO.FS.readBinFile e.path catch _ => pure none
        return (name, FileTree.file ((bytes?.bind String.fromUTF8?).map String.toList))
    return .folder nodes

def folderDepth : Nat := 64

def writeOutcome (o : Cli.Outcome) : IO UInt32 := do
  for line in o.messages do IO.eprintln (String.ofList line)
  IO.print (String.ofList o.stdout)
  return o.code.toUInt32

end Copydesk

open Copydesk in
/-- Programs are not run, so markup that needs one is reported as such. -/
def main (args : List String) : IO UInt32 := do
  match Cli.parse (args.map String.toList) with
  | .error e => writeOutcome e.outcome
  | .ok i =>
    let files ← readTree folderDepth (← (← IO.currentDir).readDir).toList
    writeOutcome (Cli.run files Tools.none (← (← IO.getStdout).isTty) i)
