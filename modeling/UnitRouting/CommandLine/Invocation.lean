import UnitRouting.CommandLine.Arguments

/-! # Invocations

The commands of the program and the arguments that each of them takes. -/

namespace UnitRouting.CommandLine

/-- What the program is asked to do. -/
inductive Invocation where
  /-- Answer requests at an address, starting with a configuration if a file is named. -/
  | serve (host : Text) (port : Int) (config : Option Text)
  /-- Check the syntax of a configuration. -/
  | validate (config : Text)
  /-- Find the unit of a context, which is given as JSON. -/
  | evaluate (config context : Text) (trace : Bool)
  /-- Describe the fields of a sample. -/
  | fields (sample : Text)
  deriving DecidableEq

/-- The option that every command knows. -/
def helpOption : Text × Role := ("--help", .help)

/-- Collects the arguments of a command, which have to leave nothing over. -/
def argumentsOf (takesWord : Bool) (options : Options) (arguments : List Text) :
    Except Exit Collected :=
  match Token.ofAll? (helpOption :: options) arguments with
  | none => .error .misuse
  | some tokens => do
    let got ← Collected.empty.collect takesWord tokens
    if got.surplus then .error .misuse else return got

/-- What has to be given. -/
def required {α : Type} : Option α → Except Exit α
  | some given => .ok given
  | none => .error .misuse

namespace Invocation

def defaultHost : Text := "0.0.0.0"

def defaultPort : Int := 8000

/-- The invocation of a command with arguments. -/
def ofCommand (name : Text) (arguments : List Text) : Except Exit Invocation :=
  if name = Text.ofString "serve" then do
    let got ← argumentsOf false
      [("--host", .value .text), ("--port", .value .integer), ("--config", .value .text)] arguments
    return .serve ((got.value? "--host").getD defaultHost)
      (((got.value? "--port").bind Numeral.int?).getD defaultPort) (got.value? "--config")
  else if name = Text.ofString "validate" then do
    let got ← argumentsOf true [] arguments
    return .validate (← required got.word)
  else if name = Text.ofString "evaluate" then do
    let got ← argumentsOf true [("--context", .value .text), ("--trace", .flag)] arguments
    return .evaluate (← required got.word) (← required (got.value? "--context"))
      (got.flags.contains (Text.ofString "--trace"))
  else if name = Text.ofString "fields" then do
    let got ← argumentsOf true [] arguments
    return .fields (← required got.word)
  else .error .misuse

/-- The invocation that arguments spell. Options in front of the command are surplus, but the command
    is looked at first, since it may be asked for help. -/
def ofArguments : List Text → Except Exit Invocation
  | [] => .error .misuse
  | t :: rest =>
    if t = dividerText then .error .misuse
    else match Token.of? [helpOption] t with
      | some (.word name) => ofCommand name rest
      | some .help => .error .help
      | some .unknown => do
        let _ ← ofArguments rest
        .error .misuse
      | _ => .error .misuse

/-- The file that is read. -/
def file? : Invocation → Option Text
  | .serve _ _ config => config
  | .validate config => some config
  | .evaluate config _ _ => some config
  | .fields sample => some sample

end Invocation

end UnitRouting.CommandLine
