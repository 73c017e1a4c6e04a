import TemplateManual.CommandLine.Arguments
import TemplateManual.Files
import TemplateManual.Json.Writer
import TemplateManual.Manual.Json
import TemplateManual.Settings.Toml
import TemplateManual.Snapshot.Template

set_option autoImplicit false

namespace TemplateManual

structure Outcome where
  success : Bool
  output : String
  errors : String
deriving DecidableEq, Repr

inductive CommandFault where
  | arguments (fault : ArgumentFault)
  | readModel (path : String)
  | parseModel (path : String)
  | loadConfig (path : String)
  | create (path : String)
  | write (path : String)
  | unknownCommand (name : String)
deriving DecidableEq, Repr

def CommandFault.message : CommandFault → String
  | .arguments fault => fault.message
  | .readModel path => "Failed to read model at " ++ path
  | .parseModel path => "Failed to parse model at " ++ path
  | .loadConfig path => "Failed to load config at " ++ path
  | .create path => "Failed to create " ++ path
  | .write path => "Failed to write " ++ path
  | .unknownCommand name => "Unknown command: " ++ name

def Outcome.failed (errors : String) (fault : CommandFault) : Outcome :=
  ⟨false, "", errors ++ "Error: " ++ fault.message ++ "\n"⟩

def usageText : String :=
  "etch <docs|version> [options]\n\n" ++
  "Commands:\n" ++
  "  docs <model.json>                    Generate documentation for a template\n" ++
  "  version                              Print the version\n\n" ++
  "Docs options:\n" ++
  "  --config, -c <file>                  TOML configuration\n" ++
  "  --output, -o <file>                  Write to a file instead of stdout\n" ++
  "  --format, -f <markdown|json>         Output format (default: markdown)\n" ++
  "  --title, -t <text>                   Document title, overrides the config\n\n" ++
  "Set ETCH_LOG (e.g. ETCH_LOG=debug) to control log output.\n"

def versionText : String := "etch 0.1.0 (template-etch 0.1.0)\n"

def noticeText (notices : List Notice) : String :=
  let warnings := Notice.warningCount notices
  String.join (notices.map fun notice => notice.coloured ++ "\n") ++
    (if warnings = 0 then "" else "\n" ++ toString warnings ++ " warning(s)\n")

-- A title among the arguments comes before that of the settings.
def DocsOptions.retitle (options : DocsOptions) (settings : Settings) : Settings :=
  match options.title with
  | some title => settings.titled title
  | none => settings

namespace Docs

def loadTemplate {m : Type → Type} [Monad m] (disk : Disk m) (path : String) :
    m (Except CommandFault Template) := do
  match ← disk.read path with
  | .error _ => return .error (.readModel path)
  | .ok text =>
    match Template.ofText text with
    | .error _ => return .error (.parseModel path)
    | .ok template => return .ok template

def loadSettings {m : Type → Type} [Monad m] (disk : Disk m) (options : DocsOptions) :
    m (Except CommandFault Settings) := do
  match options.config with
  | none => return .ok (options.retitle .initial)
  | some path =>
    match ← Settings.load disk path with
    | .error _ => return .error (.loadConfig path)
    | .ok settings => return .ok (options.retitle settings)

def rendered (format : OutputFormat) (document : Document) : String :=
  match format with
  | .markdown => document.markdown
  | .json => document.manual.toJson.indented 0 ++ "\n"

def writeOutput {m : Type → Type} [Monad m] (disk : Disk m) (path content : String) :
    m (Except CommandFault Unit) := do
  let parent := (Path.parent? path).getD ""
  let created ← if parent = "" then pure true else disk.createFolders parent
  if !created then return .error (.create parent)
  if ← disk.write path content then return .ok () else return .error (.write path)

def run {m : Type → Type} [Monad m] (disk : Disk m) (arguments : List String) : m Outcome := do
  match DocsOptions.ofArguments arguments with
  | .error fault => return .failed "" (.arguments fault)
  | .ok options =>
  match ← loadTemplate disk options.model with
  | .error fault => return .failed "" fault
  | .ok template =>
  match ← loadSettings disk options with
  | .error fault => return .failed "" fault
  | .ok settings =>
  let document := template.document settings
  let content := rendered options.format document
  let errors := noticeText document.notices
  match options.output with
  | none => return ⟨true, content, errors⟩
  | some path =>
    match ← writeOutput disk path content with
    | .error fault => return .failed errors fault
    | .ok () => return ⟨true, "", errors⟩

end Docs

def runCommand {m : Type → Type} [Monad m] (disk : Disk m) : List String → m Outcome
  | [] => return ⟨true, "", usageText⟩
  | name :: rest =>
    if name = "docs" then Docs.run disk rest
    else if name = "version" || name = "--version" || name = "-V" then
      return ⟨true, versionText, ""⟩
    else if name = "help" || name = "--help" || name = "-h" then return ⟨true, "", usageText⟩
    else return .failed usageText (.unknownCommand name)

end TemplateManual
