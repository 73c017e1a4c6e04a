set_option autoImplicit false

namespace TemplateManual

inductive OutputFormat where
  | markdown
  | json
deriving DecidableEq, Repr

inductive Flag where
  | config
  | output
  | format
  | title
deriving DecidableEq, Repr

namespace Flag

def ofArgument? (argument : String) : Option Flag :=
  if argument = "--config" || argument = "-c" then some .config
  else if argument = "--output" || argument = "-o" then some .output
  else if argument = "--format" || argument = "-f" then some .format
  else if argument = "--title" || argument = "-t" then some .title
  else none

end Flag

def OutputFormat.ofArgument? (argument : String) : Option OutputFormat :=
  if argument = "markdown" || argument = "md" then some .markdown
  else if argument = "json" then some .json
  else none

inductive ArgumentFault where
  | missingValue (flag : Flag)
  | unknownFormat (value : String)
  | secondModel
  | unknownFlag (argument : String)
  | noModel
deriving DecidableEq, Repr

def ArgumentFault.message : ArgumentFault → String
  | .missingValue .config => "--config requires a value"
  | .missingValue .output => "--output requires a value"
  | .missingValue .format => "--format requires a value (markdown or json)"
  | .missingValue .title => "--title requires a value"
  | .unknownFormat value => "Unknown format: " ++ value ++ " (expected markdown or json)"
  | .secondModel => "Only one model file can be documented at a time"
  | .unknownFlag argument => "Unknown flag: " ++ argument
  | .noModel =>
    "No model file given\n\nUsage:\n  etch docs <model.json> [--config <file>] " ++
      "[--output <file>] [--format <markdown|json>]"

-- Of an option that is given twice the last value counts.
structure Arguments where
  model : Option String
  config : Option String
  output : Option String
  format : OutputFormat
  title : Option String
deriving DecidableEq, Repr

structure DocsOptions where
  model : String
  config : Option String
  output : Option String
  format : OutputFormat
  title : Option String
deriving DecidableEq, Repr

namespace Arguments

def blank : Arguments := ⟨none, none, none, .markdown, none⟩

def set (arguments : Arguments) (flag : Flag) (value : String) : Except ArgumentFault Arguments :=
  match flag with
  | .config => .ok { arguments with config := some value }
  | .output => .ok { arguments with output := some value }
  | .title => .ok { arguments with title := some value }
  | .format =>
    match OutputFormat.ofArgument? value with
    | some format => .ok { arguments with format := format }
    | none => .error (.unknownFormat value)

def setModel (arguments : Arguments) (argument : String) : Except ArgumentFault Arguments :=
  if argument.toList.head? = some '-' then .error (.unknownFlag argument)
  else if arguments.model.isSome then .error .secondModel
  else .ok { arguments with model := some argument }

def read (arguments : Arguments) : List String → Except ArgumentFault Arguments
  | [] => .ok arguments
  | [argument] =>
    match Flag.ofArgument? argument with
    | some flag => .error (.missingValue flag)
    | none => arguments.setModel argument
  | argument :: next :: rest =>
    match Flag.ofArgument? argument with
    | some flag =>
      match arguments.set flag next with
      | .ok arguments => arguments.read rest
      | .error fault => .error fault
    | none =>
      match arguments.setModel argument with
      | .ok arguments => arguments.read (next :: rest)
      | .error fault => .error fault

end Arguments

def DocsOptions.ofArguments (given : List String) : Except ArgumentFault DocsOptions :=
  match Arguments.blank.read given with
  | .error fault => .error fault
  | .ok arguments =>
    match arguments.model with
    | some model =>
      .ok ⟨model, arguments.config, arguments.output, arguments.format, arguments.title⟩
    | none => .error .noModel

end TemplateManual
