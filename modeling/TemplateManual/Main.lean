import TemplateManual.CommandLine.Run

set_option autoImplicit false

namespace TemplateManual.Machine

-- A file that cannot be opened counts as missing.
def read (path : String) : IO (Except ReadFault String) := do
  try
    let bytes ← IO.FS.readBinFile path
    match String.fromUTF8? bytes with
    | some text => return .ok text
    | none => return .error .notText
  catch
    | .inappropriateType .. => return .error .isFolder
    | _ => return .error .notFound

def succeeds (action : IO Unit) : IO Bool := do
  try
    action
    return true
  catch _ => return false

def disk : Disk IO where
  read := read
  createFolders path := succeeds (IO.FS.createDirAll path)
  write path content := succeeds (IO.FS.writeFile path content)

end TemplateManual.Machine

def main (arguments : List String) : IO UInt32 := do
  let outcome ← TemplateManual.runCommand TemplateManual.Machine.disk arguments
  IO.eprint outcome.errors
  IO.print outcome.output
  return if outcome.success then 0 else 1
