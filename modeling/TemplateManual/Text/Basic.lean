set_option autoImplicit false

namespace TemplateManual.Text

def join (separator : String) : List String → String
  | [] => ""
  | [part] => part
  | part :: next :: rest => part ++ separator ++ join separator (next :: rest)

@[simp] theorem join_nil (separator : String) : join separator [] = "" := rfl

@[simp] theorem join_singleton (separator part : String) : join separator [part] = part := rfl

theorem join_cons_cons (separator part next : String) (rest : List String) :
    join separator (part :: next :: rest) = part ++ separator ++ join separator (next :: rest) :=
  rfl

def replaceChars (old : Char) (new : List Char) (chars : List Char) : List Char :=
  chars.flatMap fun c => if c = old then new else [c]

def replace (old : Char) (new : String) (text : String) : String :=
  String.ofList (replaceChars old new.toList text.toList)

@[simp] theorem to_list_replace (old : Char) (new text : String) :
    (replace old new text).toList = replaceChars old new.toList text.toList := by
  simp [replace]

-- The lines of a text. A line ends before a line feed, or before a carriage return and a line
-- feed; what follows the last line feed is a line only if it is not empty.
def lineChars : List Char → List (List Char)
  | [] => []
  | '\n' :: rest => [] :: lineChars rest
  | '\r' :: '\n' :: rest => [] :: lineChars rest
  | c :: rest =>
    match lineChars rest with
    | [] => [[c]]
    | line :: more => (c :: line) :: more

def lines (text : String) : List String :=
  (lineChars text.toList).map String.ofList

def dropTrailing (c : Char) (text : String) : String :=
  String.ofList (text.toList.reverse.dropWhile (· == c)).reverse

def times (part : String) : Nat → String
  | 0 => ""
  | count + 1 => part ++ times part count

end TemplateManual.Text
