import FieldCode.Document.Decode
import FieldCode.Document.Report
import FieldCode.Json.Reader
import FieldCode.Listing

/-!
# The command line

The program has one command, `fields`, which lists the fragments of all fields of a schema file.  The
arguments are read first and decide alone whether there is a usage error, a request for help, or a
request for a listing.  A request is then answered with a function that reads files, so that nothing
here depends on where the files are.

The options file is read before the schema file.  A schema without a graph is an answer of its own, with
a line of text and the exit code one; every other fault ends the program.  What is printed is a sequence
of texts, each printed whole or not at all, and what was printed before a fault stays.
-/

namespace FieldCode

/-- Why a file could not be read. -/
inductive FileFault where
  | notFound
  | isDirectory
  | notDirectory
  /-- A name in the path is too long. -/
  | nameTooLong
  /-- The path holds a NUL character. -/
  | malformedPath
  deriving DecidableEq, Repr

/-- What ends the program. -/
inductive CommandFault where
  /-- A file could not be read. -/
  | file (fault : FileFault)
  /-- A file is not JSON. -/
  | json (fault : Json.Fault)
  /-- A file does not hold the record that it should. -/
  | decode (fault : DecodeFault)
  /-- A missing value is in the way of the build. -/
  | report (fault : ReportFault)
  /-- A fragment cannot be written. -/
  | fragment (fault : FragmentFault)
  /-- A text has markup that cannot be printed. -/
  | markup (fault : Text.MarkupFault)
  /-- A text holds half of a surrogate pair, which cannot be printed. -/
  | unprintable

/-- A request for a listing. -/
structure Request where
  /-- The schema file. -/
  input : String
  /-- The file with the names of the runtime library. -/
  options : Option String
  /-- The listing is to be JSON. -/
  asJson : Bool
  /-- The log is to be shown. -/
  verbose : Bool
  deriving DecidableEq, Repr

/-- What the arguments ask for. -/
inductive Invocation where
  | usageError
  | help
  | listing (request : Request)
  deriving DecidableEq, Repr

/-- What the program leaves. -/
structure CommandOutcome where
  /-- The exit code. -/
  exitCode : Nat
  /-- What was printed. -/
  output : String
  /-- What was logged. -/
  log : List Text
  /-- What ended the program, if it did not end by itself. -/
  fault : Option CommandFault

namespace Command

/-! ## Arguments -/

/-- How an argument is taken. -/
inductive Argument where
  /-- The end of the options. -/
  | endOfOptions
  /-- An option by its long name, with the value after the equals sign. -/
  | long (name : List Char) (value : Option (List Char))
  /-- Options by single letters. -/
  | letters (letters : List Char)
  /-- Anything else. -/
  | plain

/-- How an argument is taken. -/
def Argument.of (arg : String) : Argument :=
  match arg.toList with
  | ['-', '-'] => .endOfOptions
  | '-' :: '-' :: rest =>
    .long (rest.takeWhile (· != '=')) <|
      match rest.dropWhile (· != '=') with
      | _ :: value => some value
      | [] => none
  | '-' :: c :: rest => .letters (c :: rest)
  | _ => .plain

/-- What the arguments before the command say. -/
structure Front where
  /-- The log is to be shown. -/
  verbose : Bool := false
  /-- Help is asked for. -/
  help : Bool := false
  /-- The command and its arguments. -/
  rest : List String := []

/-- Reads the arguments before the command; none on a usage error. -/
def readFront (front : Front) : List String → Option Front
  | [] => some front
  | arg :: args =>
    match Argument.of arg with
    | .endOfOptions => some { front with rest := args }
    | .plain => some { front with rest := arg :: args }
    | .letters letters =>
      if letters.all (· == 'v') then readFront { front with verbose := true } args else none
    | .long name value =>
      if value.isSome then none
      else if name = "verbose".toList then readFront { front with verbose := true } args
      else if name = "help".toList then readFront { front with help := true } args
      else none

/-- What the arguments of the command say; of an option that is repeated, the last counts. -/
structure Rest where
  /-- The schema file. -/
  input : Option String := none
  /-- The file with the names of the runtime library. -/
  options : Option String := none
  /-- The listing is to be JSON. -/
  asJson : Bool := false
  /-- Help is asked for. -/
  help : Bool := false
  /-- There are arguments that are no options. -/
  surplus : Bool := false

/-- Reads the arguments of the command; none on a usage error.  An option with a value takes the next
argument whatever that looks like. -/
def readRest (found : Rest) : List String → Option Rest
  | [] => some found
  | arg :: args =>
    match Argument.of arg with
    | .endOfOptions => some { found with surplus := found.surplus || !args.isEmpty }
    | .plain => readRest { found with surplus := true } args
    | .letters letters =>
      match letters with
      | ['i'] =>
        match args with
        | value :: args => readRest { found with input := some value } args
        | [] => none
      | 'i' :: value => readRest { found with input := some (String.ofList value) } args
      | _ => none
    | .long name value =>
      if name = "input".toList then
        match value, args with
        | some value, args => readRest { found with input := some (String.ofList value) } args
        | none, value :: args => readRest { found with input := some value } args
        | none, [] => none
      else if name = "options".toList then
        match value, args with
        | some value, args => readRest { found with options := some (String.ofList value) } args
        | none, value :: args => readRest { found with options := some value } args
        | none, [] => none
      else if value.isSome then none
      else if name = "json".toList then readRest { found with asJson := true } args
      else if name = "help".toList then readRest { found with help := true } args
      else none

/-- What the arguments of the command ask for.  Help goes before what is missing or too much. -/
def invocationOf (verbose : Bool) (args : List String) : Invocation :=
  match readRest {} args with
  | none => .usageError
  | some rest =>
    if rest.help then .help
    else
      match rest.input, rest.surplus with
      | some input, false => .listing ⟨input, rest.options, rest.asJson, verbose⟩
      | _, _ => .usageError

/-- What the arguments ask for.  Where the command should stand, behind the end of the options, an option
is an error, but help can still be asked for. -/
def invocation (args : List String) : Invocation :=
  match readFront {} args with
  | none => .usageError
  | some front =>
    if front.help then .help
    else
      match front.rest with
      | "fields" :: args => invocationOf front.verbose args
      | args =>
        match readFront {} args with
        | some front => if front.help then .help else .usageError
        | none => .usageError

/-! ## Answers -/

/-- Reads a file and decodes the record in it. -/
def load {α : Type} (read : String → Except FileFault String)
    (decode : Json → Except DecodeFault α) (path : String) : Except CommandFault α :=
  match read path with
  | .error e => .error (.file e)
  | .ok text =>
    match Json.read text with
    | .error e => .error (.json e)
    | .ok j =>
      match decode j with
      | .error e => .error (.decode e)
      | .ok a => .ok a

/-- The names of the runtime library that a request asks for. -/
def loadNames (read : String → Except FileFault String) (r : Request) :
    Except CommandFault RuntimeNames :=
  match r.options with
  | none => .ok {}
  | some path => (load read RuntimeNamesDoc.decode path).map RuntimeNamesDoc.names

/-- Texts to print, one after the other, up to a fault. -/
abbrev Printout :=
  List (Except CommandFault Text)

/-- What is printed of some texts, and what ends the printing, if something does. -/
def Printout.run : Printout → String × Option CommandFault
  | [] => ("", none)
  | .error e :: _ => ("", some e)
  | .ok t :: rest =>
    match Text.toString? t with
    | none => ("", some .unprintable)
    | some s =>
      let after := run rest
      (s ++ after.1, after.2)

/-- How many places a line of the output has. -/
def lineWidth : Nat :=
  4000

/-- The listing of a report as JSON. -/
def jsonListing (report : Report) : Printout :=
  match Listing.fragmentsAll report.settings report.allFields with
  | .error e => [.error (.fragment e)]
  | .ok fields => [.ok (Json.toText (Listing.object fields) ++ "\n")]

/-- The listing of a report as a table. -/
def tableListing (report : Report) : Printout :=
  [(Text.paragraph lineWidth (Listing.title report.package)).mapError .markup, .ok "\n",
    match Listing.rows report.settings report.allFields with
    | .error e => .error (.fragment e)
    | .ok rows => ((Listing.table rows).toText lineWidth).mapError .markup]

/-- What leaves a request without a listing: a refused schema, or a fault. -/
def refusal (e : ReportFault) : Printout :=
  match e.message? with
  | some text => [.ok ("Invalid schema: " ++ text ++ "\n")]
  | none => [.error (.report e)]

/-- Answers a request for a listing. -/
def answer (read : String → Except FileFault String) (r : Request) : CommandOutcome :=
  match loadNames read r with
  | .error e => ⟨1, "", [], some e⟩
  | .ok names =>
    match load read SchemaDoc.decode r.input with
    | .error e => ⟨1, "", [], some e⟩
    | .ok doc =>
      let outcome := doc.report { runtime := names }
      match outcome.result with
      | .error e =>
        let printed := (refusal e).run
        ⟨1, printed.1, outcome.log, printed.2⟩
      | .ok report =>
        let printed := (if r.asJson then jsonListing report else tableListing report).run
        ⟨if printed.2.isSome then 1 else 0, printed.1, outcome.log, printed.2⟩

end Command

end FieldCode
