import FieldCode.Command

/-!
# The program

Reads the files that the arguments name, prints the answer, and ends with its exit code.  The log and
whatever ended the program go to the error stream.
-/

open FieldCode

/-- What is printed on a usage error and when help is asked for. -/
def usageText : String :=
  "Usage: fieldcode [-v | --verbose] fields (-i | --input) FILE [--options FILE] [--json]\n"

/-- Reads a file. -/
def readFileAt (path : String) : IO (Except FileFault String) := do
  try
    return .ok (← IO.FS.readFile path)
  catch e =>
    match e with
    | .inappropriateType .. => return .error .isDirectory
    | _ => return .error .notFound

/-- Reads the files that a request names, each under its name. -/
def readFilesOf (r : Request) : IO (List (String × Except FileFault String)) :=
  (r.options.toList ++ [r.input]).mapM fun path => do
    return (path, ← readFileAt path)

/-- A text as far as it can be printed. -/
def printable (t : Text) : String :=
  String.ofList (t.filterMap Rune.toChar?)

/-- What is written to the error stream when the program is ended by a fault. -/
def faultText : CommandFault → Text
  | .file _ => "a file could not be read"
  | .json _ => "a file is not JSON"
  | .decode e => e.message?.getD "a file does not hold the record that it should"
  | .report _ => "a missing value is in the way"
  | .fragment e => e.message?.getD "a missing value is in the way"
  | .markup _ => "a closing tag has no opening one"
  | .unprintable => "half of a surrogate pair cannot be printed"

/-- The program. -/
def main (args : List String) : IO UInt32 := do
  match Command.invocation args with
  | .usageError =>
    IO.eprint usageText
    return 2
  | .help =>
    IO.print usageText
    return 0
  | .listing request =>
    let files ← readFilesOf request
    let outcome := Command.answer (fun path => (files.lookup path).getD (.error .notFound)) request
    if request.verbose then
      outcome.log.forM fun text => IO.eprintln (printable text)
    IO.print outcome.output
    match outcome.fault with
    | some fault => IO.eprintln (printable (faultText fault))
    | none => pure ()
    return outcome.exitCode.toUInt32
