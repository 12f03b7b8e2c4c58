import UnitRouting.CommandLine.Run

/-! # The program

Reads the arguments and the file, runs the invocation, and writes what it says. -/

namespace UnitRouting.CommandLine

/-- The string of a text; a surrogate without its partner becomes U+FFFD. -/
def shownString (t : Text) : String :=
  String.ofList (t.map fun c => if c.isSurrogate then Char.ofNat 0xFFFD else Char.ofNat c.val)

/-- How to use the program. -/
def usage : String :=
  "usage: unit-routing validate CONFIG\n"
    ++ "       unit-routing evaluate CONFIG --context CONTEXT [--trace]\n"
    ++ "       unit-routing fields SAMPLE\n"
    ++ "       unit-routing serve [--host HOST] [--port PORT] [--config CONFIG]\n"

/-- Reads a file. The code 21 tells a directory apart from a path that leads through a file. -/
def readContent (path : Text) : IO (Except FileFault Bytes) := do
  try
    let bytes ← IO.FS.readBinFile (shownString (tidyPath path))
    return .ok bytes.toList
  catch
    | .noFileOrDirectory _ _ _ => return .error .missing
    | .permissionDenied _ _ _ => return .error .permissionDenied
    | .inappropriateType _ 21 _ => return .error .isDirectory
    | .inappropriateType _ _ _ => return .error .notDirectory
    | problem => throw problem

/-- The content of the file that an invocation reads. -/
def contentFor (invocation : Invocation) : IO (Except FileFault Bytes) :=
  match invocation.file? with
  | some path => readContent path
  | none => return .ok []

end UnitRouting.CommandLine

open UnitRouting CommandLine in
/-- Runs the program. -/
def main (arguments : List String) : IO UInt32 := do
  match Invocation.ofArguments (arguments.map Text.ofString) with
  | .error .help => do
    IO.print usage
    return 0
  | .error .misuse => do
    IO.eprint usage
    return 2
  | .ok invocation => do
    match invocation.run (← contentFor invocation) with
    | .error fault => do
      IO.eprintln (shownString (fault.message?.getD "unexpected fault"))
      return 1
    | .ok output => do
      IO.eprint (shownString output.stderr)
      IO.print (shownString output.stdout)
      return .ofNat output.status
