import CrossShader.CommandLine.Report

/-!
The program. Files that the words name are read beforehand and files that a command has changed
are written afterwards; the command itself runs in between on values. No process is started from
here, so no shader compiler is found.
-/
namespace CrossShader.CommandLine
open Text

def ofBytes (bytes : Bytes) : ByteArray := ⟨bytes.toArray⟩

def encoded (t : Text) : ByteArray := ofBytes ((t.filter isScalar).flatMap Utf8.encodeChar)

def stringOf (t : Text) : String := String.ofList (t.map Char.ofNat)

def lookUp (word : String) : IO (List (Text × Option Bytes)) := do
  try
    let place ← IO.FS.realPath word
    if ← place.isDir then return [(text word, none)]
    let content ← IO.FS.readBinFile word
    return [(text word, some content.toList)]
  catch _ => return []

def readVariable (name : Text) : IO (List (Text × Text)) := do
  match ← IO.getEnv (stringOf name) with
  | some value => return [(name, text value)]
  | none => return []

def writeBack (before : Files) (after : Files) : IO Unit := do
  for (path, content) in after.contents do
    unless before.contents.contains (path, content) do
      let parent := (Path.tidy path).parent
      unless parent.steps.isEmpty do IO.FS.createDirAll (stringOf parent.render)
      IO.FS.writeBinFile (stringOf path) (ofBytes content)

def exitCode : Status → UInt32
  | .whole n => n.toNat.toUInt32
  | _ => 1

end CrossShader.CommandLine

open CrossShader CommandLine in
def main (words : List String) : IO UInt32 := do
  let found ← words.mapM lookUp
  let env ← [Environment.nagaExecutable, Environment.nagaTimeout].mapM readVariable
  let files := Files.ofList found.flatten
  let absent : Naga.Launch := .numbered 2 (text "No such file or directory") .executable
  let report := CommandLine.run (words.map text)
    ⟨files, .openingOn .posix [.refused absent], env.flatten, []⟩
  writeBack files report.files
  let stdout ← IO.getStdout
  let stderr ← IO.getStderr
  stdout.write (encoded report.stdout)
  stderr.write (encoded report.stderr)
  if let some fault := report.escaped then
    stderr.write (encoded (fault.cause.className ++ text ": " ++ fault.cause.message ++ text "\n"))
  return exitCode report.exit
