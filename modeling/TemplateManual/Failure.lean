import TemplateManual.Json.Fault

set_option autoImplicit false

namespace TemplateManual

inductive ReadFault where
  | notFound
  | isFolder
  | notText
deriving DecidableEq, Repr

def ReadFault.message : ReadFault → String
  | .notFound => "No such file or directory (os error 2)"
  | .isFolder => "Is a directory (os error 21)"
  | .notText => "stream did not contain valid UTF-8"

inductive Failure where
  | missingTemplate
  | snapshot (reason : Json.Fault)
  | settings
  | fileNotFound (path : String)
  | unreadable (reason : ReadFault)
deriving DecidableEq, Repr

-- Malformed snapshots and settings have no wording of their own.
def Failure.message? : Failure → Option String
  | .missingTemplate => some "No semantic model supplied"
  | .snapshot reason => reason.message?.map fun text => "Serialization error: " ++ text
  | .settings => none
  | .fileNotFound path => some ("File not found: " ++ path)
  | .unreadable reason => some ("IO error: " ++ reason.message)

end TemplateManual
