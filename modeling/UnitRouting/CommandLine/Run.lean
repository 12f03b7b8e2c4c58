import UnitRouting.CommandLine.Invocation
import UnitRouting.Config.Load
import UnitRouting.Discovery
import UnitRouting.Json.Writer
import UnitRouting.Rule.Report
import UnitRouting.Text.File
import UnitRouting.Text.Quoted

/-! # Running an invocation

An invocation reads one file and says what it found; what it says depends on nothing else. -/

namespace UnitRouting.CommandLine

/-- Why a file cannot be read. -/
inductive FileFault where
  | missing
  | permissionDenied
  | notDirectory
  | isDirectory
  deriving DecidableEq

/-- The wording of a file fault, with its number. -/
def FileFault.message : FileFault → Text
  | .missing => "[Errno 2] No such file or directory"
  | .permissionDenied => "[Errno 13] Permission denied"
  | .notDirectory => "[Errno 20] Not a directory"
  | .isDirectory => "[Errno 21] Is a directory"

/-- What a run leaves behind. -/
structure Output where
  status : Nat
  stdout : Text
  stderr : Text
  deriving DecidableEq

namespace Output

/-- A line for whoever uses the result. -/
def say (line : Text) : Output := ⟨0, line ++ "\n", []⟩

/-- A line about what went wrong. -/
def complain (line : Text) : Output := ⟨1, [], line ++ "\n"⟩

end Output

/-- The slashes in front of a path that count: two are kept, and more are one. -/
def rootOf (path : Text) : Text :=
  match (path.takeWhile (· == CodePoint.ofChar '/')).length with
  | 0 => []
  | 2 => "//"
  | _ => "/"

/-- A path without empty segments and single dots; the empty path is a single dot. -/
def tidyPath (path : Text) : Text :=
  let segments := (path.splitOn '/').filter fun s => !s.isEmpty && s != Text.ofString "."
  match rootOf path ++ Text.join "/" segments with
  | [] => "."
  | tidy => tidy

/-- The text of a file, or what is said if there is none. -/
def fileText (path : Text) (content : Except FileFault Bytes) : Except Output Text :=
  let unreadable (reason : Text) : Output :=
    .complain ("could not read " ++ path ++ ": " ++ reason)
  match content with
  | .error fault => .error (unreadable (fault.message ++ ": " ++ (tidyPath path).quoted))
  | .ok bytes => (Text.ofFile bytes).mapError fun error => unreadable error.message

/-- The line that tells a warning. -/
def warningLine (warning : Warning) : Text :=
  "WARNING:unit_mapping.conditions:" ++ warning.message ++ "\n"

namespace Invocation

/-- Checks the syntax of a configuration. -/
def runValidate (t : Text) : Except Fault Output := do
  match ← configSyntaxError? t with
  | none => return .say "JSON is valid!"
  | some message => return .complain ("JSON validation error: " ++ message)

/-- Finds the unit of a context. -/
def runEvaluate (config context : Text) (trace : Bool) : Except Fault Output :=
  match RuleSet.parse config with
  | .error (.config defect) => .ok (.complain ("invalid config: " ++ defect.message))
  | .error fault => .error fault
  | .ok rs =>
    match Json.read context with
    | .error (.json _ _) => .ok (.complain "Invalid JSON in test metadata")
    | .error fault => .error fault
    | .ok (.object metadata) => do
      let engine := Engine.ofRuleSet rs
      let result ← engine.evaluate metadata
      let line ← if trace then result.report else .ok result.unitId
      return { Output.say line with stderr := (engine.warnings metadata).flatMap warningLine }
    | .ok _ => .ok (.complain "test metadata must be a JSON object")

/-- Describes the fields of a sample. -/
def runFields (t : Text) : Except Fault Output :=
  match Json.read t with
  | .ok sample =>
    .ok (.say (Json.Style.readableAscii.write
      (.list ((discoverFields sample).map FieldDescriptor.toValue))))
  | .error (.json error position) =>
    .ok (.complain ("could not parse sample metadata: "
      ++ error.messageAt position))
  | .error fault => .error fault

/-- Runs an invocation over the content of its file. Serving takes a listener, which is not a matter
    of files; a run only says so. -/
def run (invocation : Invocation) (content : Except FileFault Bytes) : Except Fault Output :=
  let withText (path : Text) (act : Text → Except Fault Output) : Except Fault Output :=
    match fileText path content with
    | .ok t => act t
    | .error output => .ok output
  match invocation with
  | .serve _ _ _ => .ok (.complain "no listener to serve with")
  | .validate config => withText config runValidate
  | .evaluate config context trace => withText config fun t => runEvaluate t context trace
  | .fields sample => withText sample runFields

end Invocation

end UnitRouting.CommandLine
