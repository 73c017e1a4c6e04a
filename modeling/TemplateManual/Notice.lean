set_option autoImplicit false

namespace TemplateManual

inductive Severity where
  | warning
  | info
deriving DecidableEq, Repr

namespace Severity

def text : Severity → String
  | .warning => "warning"
  | .info => "info"

def colour : Severity → String
  | .warning => "\x1b[33m"
  | .info => "\x1b[34m"

end Severity

structure Notice where
  severity : Severity
  message : String
  symbol : Option String
  code : Option String
deriving DecidableEq, Repr

namespace Notice

def unresolvedImport (name : String) : Notice :=
  ⟨.warning, "imported file not resolved, properties omitted", some name, some "E001"⟩

def unresolvedReference (symbol name : String) : Notice :=
  ⟨.warning, "type `" ++ name ++ "` could not be resolved", some symbol, some "E002"⟩

def repeatedName (scope name : String) : Notice :=
  ⟨.warning, "duplicate name, later declaration ignored", some (scope ++ "." ++ name), some "E003"⟩

def nameOnly (symbol name : String) : Notice :=
  ⟨.info, "type `" ++ name ++ "` documented by name only", some symbol, some "E004"⟩

def notAnObject (symbol typeText : String) : Notice :=
  ⟨.info, "`" ++ typeText ++ "` is not an object type, no properties documented", some symbol,
    some "E004"⟩

def importNotAnObject (symbol typeText : String) : Notice :=
  ⟨.info, "imported `" ++ typeText ++ "` is not an object type, no properties documented",
    some symbol, some "E004"⟩

def text (notice : Notice) : String :=
  (match notice.symbol with
    | some symbol => symbol ++ ": "
    | none => "") ++
  notice.severity.text ++
  (match notice.code with
    | some code => "[" ++ code ++ "]"
    | none => "") ++
  ": " ++ notice.message

def dim : String := "\x1b[2m"

def reset : String := "\x1b[0m"

def coloured (notice : Notice) : String :=
  (match notice.symbol with
    | some symbol => dim ++ symbol ++ reset ++ ": "
    | none => "") ++
  notice.severity.colour ++ notice.severity.text ++ reset ++
  (match notice.code with
    | some code => dim ++ "[" ++ code ++ "]" ++ reset
    | none => "") ++
  ": " ++ notice.message

def warningCount (notices : List Notice) : Nat :=
  notices.countP fun notice => notice.severity = .warning

def mentions (notices : List Notice) (code symbol : String) : Bool :=
  notices.any fun notice => notice.code = some code && notice.symbol = some symbol

end Notice

structure Noted (α : Type) where
  value : α
  notices : List Notice

namespace Noted

def pure {α : Type} (value : α) : Noted α := ⟨value, []⟩

def bind {α β : Type} (noted : Noted α) (f : α → Noted β) : Noted β :=
  let next := f noted.value
  ⟨next.value, noted.notices ++ next.notices⟩

instance : Monad Noted where
  pure := pure
  bind := bind

def each {α β : Type} (f : α → Noted β) : List α → Noted (List β)
  | [] => ⟨[], []⟩
  | item :: rest =>
    let first := f item
    let others := each f rest
    ⟨first.value :: others.value, first.notices ++ others.notices⟩

theorem each_value {α β : Type} (f : α → Noted β) (items : List α) :
    (each f items).value = items.map fun item => (f item).value := by
  induction items with
  | nil => rfl
  | cons item rest ih => simp [each, ih]

theorem each_notices {α β : Type} (f : α → Noted β) (items : List α) :
    (each f items).notices = items.flatMap fun item => (f item).notices := by
  induction items with
  | nil => rfl
  | cons item rest ih => simp [each, ih]

end Noted

end TemplateManual
