import TemplateManual.Json.Value
import TemplateManual.Text.Basic

set_option autoImplicit false

namespace TemplateManual.Markdown

inductive Block where
  | header (level : Nat) (text : String)
  | quote (text : String)
  | table (columns : List String) (rows : List (List String))
  | paragraph (text : String)
  | code (language : String) (content : String)
deriving DecidableEq, Repr

def heading (level : Nat) (text : String) : Block := .header (min (max level 1) 6) text

def cellText (cell : String) : String := Text.replace '\n' " " cell

def rowText (cells : List String) : String :=
  "|" ++ String.join (cells.map fun cell => " " ++ cellText cell ++ " |")

-- As many cells as there are columns: a short row is filled up and a long one is cut.
def fit : Nat → List String → List String
  | 0, _ => []
  | width + 1, [] => "" :: fit width []
  | width + 1, cell :: rest => cell :: fit width rest

def tableLines (columns : List String) (rows : List (List String)) : List String :=
  rowText columns :: rowText (columns.map fun _ => "---") ::
    rows.map fun row => rowText (fit columns.length row)

theorem length_table_lines (columns : List String) (rows : List (List String)) :
    (tableLines columns rows).length = rows.length + 2 := by
  simp [tableLines]

def quoteLine (line : String) : String := if line = "" then ">" else "> " ++ line

namespace Block

def text : Block → String
  | .header level text => Text.times "#" level ++ " " ++ text
  | .quote text => Text.join "\n" ((Text.lines text).map quoteLine)
  | .table columns rows => Text.join "\n" (tableLines columns rows)
  | .paragraph text => text
  | .code language content =>
    "```" ++ language ++ "\n" ++ Text.dropTrailing '\n' content ++ "\n```"

def toJson : Block → Json
  | .header level text =>
    .record [("kind", some (.string "header")), ("level", some (.int level)),
      ("text", some (.string text))]
  | .quote text => .record [("kind", some (.string "blockQuote")), ("text", some (.string text))]
  | .table columns rows =>
    .record [("kind", some (.string "table")), ("columns", some (.array (columns.map .string))),
      ("rows", some (.array (rows.map fun row => .array (row.map .string))))]
  | .paragraph text => .record [("kind", some (.string "paragraph")), ("text", some (.string text))]
  | .code language content =>
    .record [("kind", some (.string "codeBlock")), ("lang", some (.string language)),
      ("code", some (.string content))]

end Block

-- An empty line stands between blocks and a line feed after the last; no blocks make no text.
def document (blocks : List Block) : String :=
  if blocks.isEmpty then "" else Text.join "\n\n" (blocks.map Block.text) ++ "\n"

end TemplateManual.Markdown
