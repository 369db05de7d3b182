import Vigil.Cli.Run

/-!
# Main

The program.  It looks up the files that a call may touch, carries the call out on them, and
writes back what has changed.  Diagnostics that run do so until the standard input ends.
-/

namespace Vigil.Main

/-- The path to a place. -/
def path (p : Place) : String := "/" ++ "/".intercalate p

/-- Looks up what there is at a place: a file, nothing, or else a directory. -/
def lookUp (t : Tree) (p : Place) : IO Tree := do
  try
    let bytes ← IO.FS.readBinFile (path p)
    return { t.put p (.file t.nextId bytes.toList) with nextId := t.nextId + 1 }
  catch
    | .noFileOrDirectory .. => return t
    | _ => return t.put p .directory

/-- Looks up everything along a path. -/
def lookAlong (t : Tree) (path : String) : IO Tree := do
  let mut t := t
  let mut p : Place := if Path.isAbsolute path then [] else t.workingDirectory
  for name in Path.names path do
    if name = ".." then p := p.dropLast
    else if name ≠ "." then
      if t.isDirectoryAt p then t ← lookUp t (p ++ [name])
      p := p ++ [name]
  return t

/-- Writes what has changed from `before` to `after`. -/
def writeBack (before after : Tree) : IO Unit := do
  for (p, e) in after.entries.reverse do
    if before.find? p ≠ some e then
      match e with
      | .directory => IO.FS.createDirAll (path p)
      | .file _ contents => IO.FS.writeBinFile (path p) ⟨contents.toArray⟩
  for (p, e) in before.entries do
    if (after.find? p).isNone && !e.isDirectory then IO.FS.removeFile (path p)

/-- The first word of a text as a number. -/
def firstNumber (s : String) : Nat :=
  Number.ofDigits ((s.toList.dropWhile (!Number.isDigit ·)).takeWhile Number.isDigit)

/-- When the machine was started, by the wall clock in seconds. -/
def bootTime : IO Nat := do
  let lines := (← IO.FS.readFile "/proc/stat").splitOn "\n"
  return ((lines.find? (·.startsWith "btime")).map firstNumber).getD 0

/-- The platform that a call is carried out on. -/
def platform (files : Tree) : IO Platform := do
  let now := Span.ofSeconds (firstNumber (← IO.FS.readFile "/proc/uptime"))
  let pid := firstNumber (← IO.FS.readFile "/proc/self/stat")
  let wall := Instant.ofUnix? ((← bootTime) + now / 1000000000) 0
  return .new files now (wall.getD ⟨0, 0, by decide⟩) (UInt32.ofNat pid) "" ""

/-- The files that a call may touch: the configuration, and those that it names. -/
def files (args : List String) : IO Tree := do
  let home := Path.names (← IO.currentDir).toString
  let mut t := Tree.new home
  match Cli.parse args with
  | .execute a =>
    t ← lookAlong t a.configPath
    match Config.load t a.configPath with
    | .ok c =>
      t ← lookAlong t c.markerPath
      t ← lookAlong t c.logPath
    | .error _ => pure ()
  | _ => pure ()
  return t

/-- Reads the standard input to its end. -/
partial def waitForEnd (input : IO.FS.Stream) : IO Unit := do
  if (← input.getLine).isEmpty then return () else waitForEnd input

end Vigil.Main

/-- Carries out a call of the program. -/
def main (args : List String) : IO UInt32 := do
  let before ← Vigil.Main.files args
  match Vigil.Cli.execute (← Vigil.Main.platform before) args with
  | .ended after exit =>
    Vigil.Main.writeBack before after
    IO.print exit.output
    match exit.error with
    | some e => IO.eprintln ("Error: " ++ e.debug)
    | none => if exit.code = 2 then IO.eprint Vigil.Cli.Topic.program.text
    return UInt32.ofNat exit.code
  | .running r =>
    Vigil.Main.writeBack before r.files
    Vigil.Main.waitForEnd (← IO.getStdin)
    Vigil.Main.writeBack r.files r.stop.files
    return 0
