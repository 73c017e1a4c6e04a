import TemplateManual.Proofs.TableRows

set_option autoImplicit false

namespace TemplateManual.Markdown

def unescapeChars : List Char → List Char
  | [] => []
  | '\\' :: '|' :: rest => '|' :: unescapeChars rest
  | c :: rest => c :: unescapeChars rest

def unescape (text : String) : String := String.ofList (unescapeChars text.toList)

def readCell? : List Char → Option String
  | ' ' :: rest =>
    if rest.getLast? = some ' ' then some (unescape (String.ofList rest.dropLast)) else none
  | _ => none

def readRow? (line : String) : Option (List String) :=
  match line.toList with
  | '|' :: rest =>
    if (pieces false rest).getLast? = some [] then (pieces false rest).dropLast.mapM readCell? else none
  | _ => none

def readTable? (text : String) : Option (List (List String)) := (textLines text).mapM readRow?

def spaced (text : String) : String := text.map fun c => if c = '\n' then ' ' else c

def widened (width : Nat) (row : List String) : List String :=
  row.take width ++ List.replicate (width - row.length) ""

theorem unescape_plain (c : Char) (rest : List Char) (notBar : rest.head? ≠ some '|') :
    unescapeChars (c :: rest) = c :: unescapeChars rest := by
  rw [unescapeChars]
  intro more _ starts
  exact notBar (by rw [starts, List.head?_cons])

-- A bar of an escaped text always has a backslash before it, also at the front.
theorem escaped_head (chars : List Char) : (Text.replaceChars '|' ['\\', '|'] chars).head? ≠ some '|' := by
  cases chars with
  | nil => simp [Text.replaceChars]
  | cons c rest => by_cases bar : c = '|' <;> simp [Text.replaceChars, bar]

theorem unescape_chars_escaped (chars : List Char) :
    unescapeChars (Text.replaceChars '|' ['\\', '|'] chars) = chars := by
  induction chars with
  | nil => rfl
  | cons c rest ih =>
      have split : Text.replaceChars '|' ['\\', '|'] (c :: rest) =
          (if c = '|' then ['\\', '|'] else [c]) ++ Text.replaceChars '|' ['\\', '|'] rest := rfl
      by_cases bar : c = '|'
      · rw [split, if_pos bar, bar]
        exact congrArg ('|' :: ·) ih
      · rw [split, if_neg bar, List.singleton_append, unescape_plain c _ (escaped_head rest), ih]

theorem unescape_escape (text : String) : unescape (Cell.escape text) = text := by
  rw [unescape, Cell.escape, Text.to_list_replace]
  change String.ofList (unescapeChars (Text.replaceChars '|' ['\\', '|'] text.toList)) = text
  rw [unescape_chars_escaped, String.ofList_toList]

theorem cell_text_eq_spaced (text : String) : cellText text = spaced text := by
  rw [← String.toList_inj, cellText, Text.to_list_replace, spaced, String.toList_map]
  induction text.toList with
  | nil => rfl
  | cons c rest ih => by_cases feed : c = '\n' <;> simpa [Text.replaceChars, feed] using ih

theorem spaced_escape (text : String) : spaced (Cell.escape text) = Cell.escape (spaced text) := by
  rw [← String.toList_inj, spaced, String.toList_map, Cell.escape, Text.to_list_replace, Cell.escape,
    Text.to_list_replace, spaced, String.toList_map]
  induction text.toList with
  | nil => rfl
  | cons c rest ih =>
      by_cases bar : c = '|'
      · simpa [Text.replaceChars, bar] using ih
      · by_cases feed : c = '\n' <;> simpa [Text.replaceChars, bar, feed] using ih

theorem read_cell_written (text : String) :
    readCell? (' ' :: ((cellText (Cell.escape text)).toList ++ [' '])) = some (spaced text) := by
  rw [readCell?, List.getLast?_concat, if_pos rfl, List.dropLast_concat, String.ofList_toList,
    cell_text_eq_spaced, spaced_escape, unescape_escape]

theorem pieces_before_bar (chars rest : List Char) (escaped : Bool) (bare : bareBars escaped chars = 0)
    (ended : escapesNext escaped chars = false) :
    pieces escaped (chars ++ '|' :: rest) = chars :: pieces false rest := by
  induction chars generalizing escaped with
  | nil =>
      have plain : escaped = false := ended
      rw [List.nil_append, pieces, if_pos ⟨rfl, plain⟩]
  | cons c more ih =>
      rw [bareBars, Nat.add_eq_zero_iff] at bare
      have inside : ¬ (c = '|' ∧ escaped = false) := fun ends => by simp [ends] at bare
      rw [List.cons_append, pieces, if_neg inside, ih _ bare.2 ended, List.modifyHead_cons]

theorem escapes_next_space (escaped : Bool) (chars : List Char) :
    escapesNext escaped (chars ++ [' ']) = false := by
  induction chars generalizing escaped with
  | nil => rfl
  | cons c rest ih => exact ih (c == '\\')

-- The space after a cell keeps a backslash at its end away from the bar.
theorem pieces_of_cells (cells : List (List Char)) (bare : ∀ cell ∈ cells, bareBars false cell = 0) :
    pieces false (cells.flatMap fun cell => ' ' :: (cell ++ [' ', '|'])) =
      cells.map (fun cell => ' ' :: (cell ++ [' '])) ++ [[]] := by
  induction cells with
  | nil => rfl
  | cons cell rest ih =>
      have firstBare : bareBars false (' ' :: (cell ++ [' '])) = 0 := by
        rw [bare_bars_space, bare_bars_append, bare cell List.mem_cons_self, bare_bars_space]
        rfl
      have ended : escapesNext false (' ' :: (cell ++ [' '])) = false := escapes_next_space _ cell
      have step := pieces_before_bar (' ' :: (cell ++ [' ']))
        (rest.flatMap fun cell => ' ' :: (cell ++ [' ', '|'])) false firstBare ended
      rw [ih fun other member => bare other (List.mem_cons_of_mem cell member)] at step
      simpa using step

theorem escaped_cell_bare (text : String) : bareBars false (cellText (Cell.escape text)).toList = 0 := by
  rw [cellText, Text.to_list_replace]
  exact (bare_bars_line_feeds false _).trans (barless_escape text false)

theorem read_row_of_bar (line : String) (rest : List Char) (starts : line.toList = '|' :: rest) :
    readRow? line =
      if (pieces false rest).getLast? = some [] then (pieces false rest).dropLast.mapM readCell? else none := by
  unfold readRow?
  rw [starts]
  rfl

theorem read_row_written (cells : List String) :
    readRow? (rowText (cells.map Cell.escape)) = some (cells.map spaced) := by
  have bare : ∀ cell ∈ (cells.map Cell.escape).map fun cell => (cellText cell).toList,
      bareBars false cell = 0 := by
    simp only [List.forall_mem_map]
    exact fun text _ => escaped_cell_bare text
  have read : (fun text => readCell? (' ' :: ((cellText (Cell.escape text)).toList ++ [' ']))) =
      fun text => pure (spaced text) := funext read_cell_written
  rw [read_row_of_bar _ _ (row_text_chars (cells.map Cell.escape)), pieces_of_cells _ bare,
    List.getLast?_concat, if_pos rfl, List.dropLast_concat]
  simp only [List.mapM_map, Function.comp_def, read, List.mapM_pure]
  rfl

theorem fit_eq_widened (width : Nat) (row : List String) : fit width row = widened width row := by
  induction width generalizing row with
  | zero => simp [fit, widened]
  | succ width ih =>
      cases row with
      | nil => simp [fit, ih, widened, List.replicate_succ]
      | cons cell rest => simp [fit, ih, widened]

theorem widened_escape (width : Nat) (row : List String) :
    widened width (row.map Cell.escape) = (widened width row).map Cell.escape := by
  have blank : Cell.escape "" = "" := rfl
  simp [widened, blank]

theorem escaped_table_lines (columns : List String) (rows : List (List String)) :
    tableLines (columns.map Cell.escape) (rows.map fun row => row.map Cell.escape) =
      (columns :: columns.map (fun _ => "---") :: rows.map (widened columns.length)).map
        fun cells => rowText (cells.map Cell.escape) := by
  have dashes : Cell.escape "---" = "---" := by decide
  simp [tableLines, Function.comp_def, dashes, fit_eq_widened, widened_escape]

theorem table_read_back (columns : List String) (rows : List (List String)) :
    (textLines (Block.table (columns.map Cell.escape) (rows.map fun row => row.map Cell.escape)).text).length =
        rows.length + 2 ∧
      readTable? (Block.table (columns.map Cell.escape) (rows.map fun row => row.map Cell.escape)).text =
        some (columns.map spaced :: columns.map (fun _ => "---") ::
          rows.map fun row => (widened columns.length row).map spaced) := by
  have read : readRow? ∘ (fun cells => rowText (List.map Cell.escape cells)) =
      fun cells => pure (List.map spaced cells) := funext read_row_written
  have dashes : spaced "---" = "---" := by
    rw [← String.toList_inj, spaced, String.toList_map]
    decide
  constructor
  · rw [text_lines_table, length_table_lines, List.length_map]
  · rw [readTable?, text_lines_table, escaped_table_lines, List.mapM_map, read, List.mapM_pure]
    simp [dashes]

example :
    readTable? (Block.table ["a\\|b", ""] [["\\\\|", " x\n", "y"], []]).text =
      some [["a|b", ""], ["---", "---"], ["\\|", " x "], ["", ""]] := by
  decide +kernel

end TemplateManual.Markdown
