import Telemetry.Lint.Program
import Telemetry.Preview.Program

/-!
# The command line

`lint` checks formats and configuration files; `preview` renders formats while
they are tried out.  Both work on a disk that holds what was read from the files
they are told about.
-/

namespace Telemetry

namespace CommandLine

/-- The location of a path, taken literally: a step up leaves the folder before
it. -/
def place (disk : Disk) (path : String) : Location :=
  (Path.names path).foldl
    (fun location name =>
      if name = "." then location
      else if name = ".." then location.dropLast
      else location ++ [name])
    (disk.origin path)

/-- A disk without files, in the current folder. -/
def currentDisk : IO Disk := do
  let folder ← IO.currentDir
  return { workingFolder := Path.names folder.toString, folders := [], files := [] }

/-- Read a file, or everything in a folder, into a disk.  What cannot be read is
left out. -/
partial def readInto (disk : Disk) (path : String) : IO Disk := do
  try
    let real ← IO.FS.realPath path
    if ← real.isDir then
      let mut disk := { disk with folders := disk.folders ++ [place disk path] }
      for inner in ← real.readDir do
        disk ← readInto disk (Path.join path inner.fileName)
      return disk
    else
      let contents ← IO.FS.readBinFile path
      return disk.put (place disk path) contents.toList
  catch _ => return disk

/-- Write what a program left behind, and return its exit code. -/
def finish (output : ProgramOutput) : IO UInt32 := do
  IO.print output.standardOutput
  IO.eprint output.standardError
  return UInt32.ofNat output.exitCode

partial def converse (session : Preview.Session) (disk : Disk) : IO Unit := do
  IO.print "preview> "
  (← IO.getStdout).flush
  let line ← (← IO.getStdin).getLine
  if !line.isEmpty then
    let command := Preview.Command.ofLine line.toList
    let disk ← match command with
      | .load path => readInto disk path
      | _ => pure disk
    let (session, answer) := session.respond disk command
    IO.print (lines answer)
    if command != .quit then converse session disk

/-- Start a session, and converse if it could be started. -/
def preview (arguments : List String) : IO UInt32 := do
  let disk ← currentDisk
  match Preview.Invocation.ofArguments .default arguments with
  | .start options =>
      let disk ← match options.snapshot? with
        | some path => readInto disk path
        | none => pure disk
      match options.session disk with
      | .error message => finish ⟨1, "", lines [message]⟩
      | .ok (session, opening) =>
          IO.print (lines opening)
          converse session disk
          return 0
  | _ => finish (Preview.run arguments "" disk)

def lint (arguments : List String) : IO UInt32 := do
  let disk ← currentDisk
  let disk ← match arguments with
    | target :: _ => readInto disk target
    | [] => pure disk
  finish (Linter.run arguments disk)

def usage : List String :=
  ["Usage: telemetry lint <arguments>", "       telemetry preview <arguments>"]

end CommandLine

end Telemetry

def main (arguments : List String) : IO UInt32 :=
  match arguments with
  | "lint" :: rest => Telemetry.CommandLine.lint rest
  | "preview" :: rest => Telemetry.CommandLine.preview rest
  | _ =>
      Telemetry.CommandLine.finish ⟨1, "", Telemetry.lines Telemetry.CommandLine.usage⟩
