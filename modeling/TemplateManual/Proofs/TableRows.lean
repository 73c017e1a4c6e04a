import Mathlib.Algebra.GroupWithZero.Nat
import TemplateManual.Proofs.Layout
import TemplateManual.Proofs.Text

set_option autoImplicit false

namespace TemplateManual.Markdown

-- The number of bars that end a cell. `escaped` tells whether a backslash stands before the text.
def bareBars (escaped : Bool) : List Char → Nat
  | [] => 0
  | c :: rest => (if c = '|' ∧ escaped = false then 1 else 0) + bareBars (c == '\\') rest

def escapesNext (escaped : Bool) : List Char → Bool
  | [] => escaped
  | c :: rest => escapesNext (c == '\\') rest

def pieces (escaped : Bool) : List Char → List (List Char)
  | [] => [[]]
  | c :: rest =>
    if c = '|' ∧ escaped = false then [] :: pieces false rest
    else (pieces (c == '\\') rest).modifyHead (c :: ·)

def rowCells (line : String) : List String :=
  (pieces false line.toList).tail.dropLast.map String.ofList

def textLines (text : String) : List String := (text.toList.splitOn '\n').map String.ofList

def EvenRows (text : String) : Prop :=
  ∀ line ∈ textLines text, (rowCells line).length = (rowCells ((textLines text).headD "")).length

instance (text : String) : Decidable (EvenRows text) :=
  inferInstanceAs (Decidable (∀ line ∈ textLines text, _ = _))

def bareBarCount (text : String) : Nat := bareBars false text.toList

theorem bare_bars_append (escaped : Bool) (a b : List Char) :
    bareBars escaped (a ++ b) = bareBars escaped a + bareBars (escapesNext escaped a) b := by
  induction a generalizing escaped with
  | nil => simp [bareBars, escapesNext]
  | cons c rest ih => simp only [List.cons_append, bareBars, escapesNext, ih, Nat.add_assoc]

theorem length_pieces (escaped : Bool) (chars : List Char) :
    (pieces escaped chars).length = bareBars escaped chars + 1 := by
  induction chars generalizing escaped with
  | nil => rfl
  | cons c rest ih =>
      by_cases ends : c = '|' ∧ escaped = false
      · have plain : ('|' == '\\') = false := by decide
        obtain ⟨rfl, rfl⟩ := ends
        simp only [pieces, bareBars, and_self, if_true, List.length_cons, plain, ih]
        omega
      · simp only [pieces, bareBars, if_neg ends, List.length_modifyHead, ih, Nat.zero_add]

theorem length_row_cells (line : String) :
    (rowCells line).length = bareBars false line.toList - 1 := by
  simp only [rowCells, List.length_map, List.length_dropLast, List.length_tail, length_pieces,
    Nat.add_sub_cancel]

theorem bare_bars_space (escaped : Bool) (rest : List Char) :
    bareBars escaped (' ' :: rest) = bareBars false rest := by
  simp [bareBars]

theorem bare_bars_bar (rest : List Char) : bareBars false ('|' :: rest) = 1 + bareBars false rest := by
  simp [bareBars]

-- Each cell is followed by a bar of its own. The spaces around a cell keep a backslash at its end away
-- from that bar.
theorem bare_bars_cells (cells : List (List Char)) :
    bareBars false (cells.flatMap fun cell => ' ' :: (cell ++ [' ', '|'])) =
      cells.length + (cells.map (bareBars false)).sum := by
  induction cells with
  | nil => rfl
  | cons cell rest ih =>
      simp only [List.flatMap_cons, List.cons_append, bare_bars_space, List.append_assoc, bare_bars_append,
        List.nil_append, bare_bars_bar, ih, List.length_cons, List.map_cons, List.sum_cons]
      omega

theorem bare_bars_line_feeds (escaped : Bool) (chars : List Char) :
    bareBars escaped (Text.replaceChars '\n' [' '] chars) = bareBars escaped chars := by
  induction chars generalizing escaped with
  | nil => rfl
  | cons c rest ih =>
      by_cases feed : c = '\n'
      · subst feed
        simpa [Text.replaceChars, bareBars] using ih false
      · simpa [Text.replaceChars, bareBars, feed] using ih (c == '\\')

theorem row_text_chars (cells : List String) :
    (rowText cells).toList =
      '|' :: (cells.map fun cell => (cellText cell).toList).flatMap fun cell => ' ' :: (cell ++ [' ', '|']) := by
  simp [rowText, List.flatMap_map]

theorem length_cells_of_row (cells : List String) :
    (rowCells (rowText cells)).length = cells.length + (cells.map bareBarCount).sum := by
  have kept : ∀ cell, bareBars false (cellText cell).toList = bareBarCount cell := by
    intro cell
    rw [cellText, Text.to_list_replace]
    exact bare_bars_line_feeds false cell.toList
  rw [length_row_cells, row_text_chars, bare_bars_bar, bare_bars_cells, List.length_map, List.map_map,
    Nat.add_sub_cancel_left]
  simp only [Function.comp_def, kept]

theorem no_line_feed_in_cell (cell : String) : '\n' ∉ (cellText cell).toList := by
  rw [cellText, Text.to_list_replace, Text.replaceChars, List.mem_flatMap]
  rintro ⟨c, _, feed⟩
  by_cases same : c = '\n'
  · simp [same] at feed
  · simp [same, Ne.symm same] at feed

theorem row_text_one_line (cells : List String) : '\n' ∉ (rowText cells).toList := by
  rw [row_text_chars]
  simp only [List.mem_cons, List.mem_flatMap, List.mem_map, not_or, not_exists, not_and]
  refine ⟨by decide, ?_⟩
  rintro _ ⟨cell, _, rfl⟩
  simp [no_line_feed_in_cell cell]

theorem text_lines_table (columns : List String) (rows : List (List String)) :
    textLines (Block.table columns rows).text = tableLines columns rows := by
  have oneLine : ∀ line ∈ (tableLines columns rows).map String.toList, '\n' ∉ line := by
    simp only [tableLines, List.map_cons, List.mem_cons, List.map_map, List.mem_map, Function.comp_def]
    rintro _ (rfl | rfl | ⟨row, _, rfl⟩)
    · exact row_text_one_line columns
    · exact row_text_one_line _
    · exact row_text_one_line _
  unfold textLines Block.text
  rw [Text.to_list_join]
  change (List.splitOn '\n' (['\n'].intercalate _)).map _ = _
  rw [List.splitOn_intercalate '\n' oneLine (by simp [tableLines]), List.map_map]
  simp [Function.comp_def]

theorem bare_bar_sum_eq_zero (cells : List String) :
    (cells.map bareBarCount).sum = 0 ↔ ∀ cell ∈ cells, bareBarCount cell = 0 := by
  rw [List.sum_eq_zero_iff_forall_eq_nat, List.forall_mem_map]

theorem fit_length (row : List String) : fit row.length row = row := by
  induction row with
  | nil => rfl
  | cons cell rest ih => simp only [List.length_cons, fit, ih]

-- Under a header without bars of its own, rows of the width of the header are even exactly if their
-- cells have no bars.
theorem even_rows_iff (columns : List String) (rows : List (List String))
    (columnsBare : ∀ column ∈ columns, bareBarCount column = 0)
    (full : ∀ row ∈ rows, row.length = columns.length) :
    EvenRows (Block.table columns rows).text ↔ ∀ row ∈ rows, ∀ cell ∈ row, bareBarCount cell = 0 := by
  have header : (rowCells (rowText columns)).length = columns.length := by
    rw [length_cells_of_row, (bare_bar_sum_eq_zero columns).mpr columnsBare, Nat.add_zero]
  have separator : (rowCells (rowText (columns.map fun _ => "---"))).length = columns.length := by
    rw [length_cells_of_row, (bare_bar_sum_eq_zero _).mpr, List.length_map, Nat.add_zero]
    simp only [List.mem_map]
    rintro _ ⟨column, _, rfl⟩
    decide
  have line : ∀ row ∈ rows, (rowCells (rowText (fit columns.length row))).length = columns.length ↔
      ∀ cell ∈ row, bareBarCount cell = 0 := by
    intro row member
    rw [← full row member, fit_length, length_cells_of_row, ← bare_bar_sum_eq_zero]
    omega
  unfold EvenRows
  rw [text_lines_table]
  simp only [tableLines, List.headD_cons, header, List.mem_cons, List.mem_map, forall_eq_or_imp, separator,
    true_and, forall_exists_index, and_imp, forall_apply_eq_imp_iff₂]
  exact forall₂_congr line

def Barless (text : String) : Prop := ∀ escaped, bareBars escaped text.toList = 0

theorem bare_bars_of_no_bar (chars : List Char) (absent : '|' ∉ chars) (escaped : Bool) :
    bareBars escaped chars = 0 := by
  induction chars generalizing escaped with
  | nil => rfl
  | cons c rest ih =>
      obtain ⟨other, restAbsent⟩ := not_or.mp (mt List.mem_cons.mpr absent)
      simp [bareBars, Ne.symm other, ih restAbsent]

theorem barless_of_no_bar (text : String) (absent : '|' ∉ text.toList) : Barless text :=
  bare_bars_of_no_bar text.toList absent

theorem barless_append (a b : String) (left : Barless a) (right : Barless b) : Barless (a ++ b) := by
  intro escaped
  rw [String.toList_append, bare_bars_append, left, right]

theorem barless_concat (parts : List String) (barless : ∀ part ∈ parts, Barless part) :
    Barless (String.join parts) := by
  induction parts with
  | nil => exact barless_of_no_bar _ (by simp)
  | cons part rest ih =>
      rw [String.join_cons]
      exact barless_append _ _ (barless part List.mem_cons_self)
        (ih fun other member => barless other (List.mem_cons_of_mem part member))

theorem barless_join (separator : String) (parts : List String) (between : Barless separator)
    (barless : ∀ part ∈ parts, Barless part) : Barless (Text.join separator parts) := by
  induction parts with
  | nil => exact barless_of_no_bar _ (by simp)
  | cons part rest ih =>
      have first := barless part List.mem_cons_self
      cases rest with
      | nil => exact first
      | cons next more =>
          rw [Text.join_cons_cons]
          exact barless_append _ _ (barless_append _ _ first between)
            (ih fun other member => barless other (List.mem_cons_of_mem part member))

end TemplateManual.Markdown

namespace TemplateManual

open Markdown

theorem barless_escape (text : String) : Barless (Cell.escape text) := by
  intro escaped
  rw [Cell.escape, Text.to_list_replace]
  induction text.toList generalizing escaped with
  | nil => rfl
  | cons c rest ih =>
      by_cases bar : c = '|'
      · simpa [Text.replaceChars, bareBars, bar] using ih false
      · simpa [Text.replaceChars, bareBars, bar] using ih (c == '\\')

theorem barless_int (value : Int) : Barless (toString value) := by
  apply barless_of_no_bar
  intro member
  rcases Text.int_chars_plain value '|' member with sign | digit
  · exact absurd sign (by decide)
  · exact absurd digit (by decide)

theorem barless_bound (value : Option Int) : Barless (Cell.bound value) := by
  cases value with
  | none => exact barless_of_no_bar _ (by decide)
  | some value => exact barless_int value

theorem barless_secrecy (secure : Bool) : Barless (Cell.secrecy secure) := by
  cases secure <;> exact barless_of_no_bar _ (by decide)

theorem barless_length_clause (constraints : Constraints) (clause : String)
    (present : clause ∈ (Cell.lengthClause? constraints).toList) : Barless clause := by
  unfold Cell.lengthClause? at present
  split at present
  · have opening : Barless "Character limit: " := barless_of_no_bar _ (by decide)
    have dash : Barless "-" := barless_of_no_bar _ (by decide)
    obtain rfl : clause = _ := by simpa using present
    exact barless_append _ _ (barless_append _ _ (barless_append _ _ opening (barless_bound _)) dash)
      (barless_bound _)
  · simp at present

theorem barless_value_clause (constraints : Constraints) (clause : String)
    (present : clause ∈ (Cell.valueClause? constraints).toList) : Barless clause := by
  have opening : Barless "Accepted values: from " := barless_of_no_bar _ (by decide)
  have middle : Barless " to " := barless_of_no_bar _ (by decide)
  have upper : Barless "Accepted values: to " := barless_of_no_bar _ (by decide)
  have stop : Barless "." := barless_of_no_bar _ (by decide)
  unfold Cell.valueClause? at present
  split at present
  · obtain rfl : clause = _ := by simpa using present
    exact barless_append _ _ (barless_append _ _ (barless_append _ _ (barless_append _ _
      opening (barless_int _)) middle) (barless_int _)) stop
  · obtain rfl : clause = _ := by simpa using present
    exact barless_append _ _ (barless_append _ _ opening (barless_int _)) stop
  · obtain rfl : clause = _ := by simpa using present
    exact barless_append _ _ (barless_append _ _ upper (barless_int _)) stop
  · simp at present

theorem barless_type_cell (typeText : String) (constraints : Constraints) :
    Barless (Cell.type typeText constraints) := by
  apply barless_join _ _ (barless_of_no_bar _ (by decide))
  intro part member
  rcases List.mem_cons.mp member with rfl | clause
  · exact barless_append _ _ (barless_escape typeText) (barless_secrecy _)
  · rcases List.mem_append.mp clause with length | value
    · exact barless_length_clause constraints part length
    · exact barless_value_clause constraints part value

theorem barless_parameter_type_cell (entry : ParameterEntry) : Barless (Cell.parameterType entry) := by
  unfold Cell.parameterType
  split
  · refine barless_append _ _ (barless_append _ _ (barless_of_no_bar _ (by decide)) ?_)
      (barless_secrecy _)
    apply barless_concat
    intro part member
    obtain ⟨value, _, rfl⟩ := List.mem_map.mp member
    exact barless_append _ _ (barless_of_no_bar _ (by decide)) (barless_escape _)
  · exact barless_type_cell entry.typeText entry.constraints

theorem barless_default_cell (entry : ParameterEntry) : Barless (Cell.defaultValue entry) := by
  unfold Cell.defaultValue
  split
  · exact barless_of_no_bar _ (by decide)
  · split
    · exact barless_of_no_bar _ (by decide)
    · exact barless_escape _

theorem barless_truth (value : Bool) : Barless (Cell.truth value) := by
  cases value <;> exact barless_of_no_bar _ (by decide)

-- The ticks around a name neither add a bar nor hide one.
theorem bare_bar_count_code (text : String) : bareBarCount (Cell.code text) = bareBarCount text := by
  have tick : ∀ escaped, bareBars escaped ['`'] = 0 := by decide
  simp only [bareBarCount, Cell.code, String.toList_append]
  change bareBars false ('`' :: text.toList ++ ['`']) = _
  rw [bare_bars_append, tick, Nat.add_zero]
  simp [bareBars]

theorem parameter_row_bars (entry : ParameterEntry) :
    (∀ cell ∈ entry.row, bareBarCount cell = 0) ↔ bareBarCount entry.name = 0 := by
  have description := barless_escape (entry.description.getD "") false
  have type := barless_parameter_type_cell entry false
  have required := barless_truth entry.required false
  have default := barless_default_cell entry false
  simp only [ParameterEntry.row, List.forall_mem_cons, bare_bar_count_code]
  simp only [bareBarCount, description, type, required, default]
  simp

theorem property_row_bars (entry : PropertyEntry) :
    (∀ cell ∈ entry.row, bareBarCount cell = 0) ↔ bareBarCount entry.name = 0 := by
  have description := barless_escape (entry.description.getD "") false
  have type := barless_type_cell entry.typeText entry.constraints false
  have required := barless_truth entry.required false
  simp only [PropertyEntry.row, List.forall_mem_cons, bare_bar_count_code]
  simp only [bareBarCount, description, type, required]
  simp

theorem parameter_table_even (entries : List ParameterEntry) :
    EvenRows (Block.table parameterColumns (entries.map ParameterEntry.row)).text ↔
      ∀ entry ∈ entries, bareBarCount entry.name = 0 := by
  rw [even_rows_iff parameterColumns _ (by decide)]
  · simp only [List.forall_mem_map, parameter_row_bars]
  · simp [ParameterEntry.row, parameterColumns]

theorem property_table_even (entries : List PropertyEntry) :
    EvenRows (Block.table propertyColumns (entries.map PropertyEntry.row)).text ↔
      ∀ entry ∈ entries, bareBarCount entry.name = 0 := by
  rw [even_rows_iff propertyColumns _ (by decide)]
  · simp only [List.forall_mem_map, property_row_bars]
  · simp [PropertyEntry.row, propertyColumns]

theorem tables_even_iff_names_barless (manual : Manual) (withParameters withTypes : Bool) :
    (∀ columns rows, Block.table columns rows ∈ manual.blocks withParameters withTypes →
      EvenRows (Block.table columns rows).text) ↔
    (withParameters = true → ∀ entry ∈ manual.parameters, bareBarCount entry.name = 0) ∧
      (withTypes = true → ∀ entry ∈ manual.allTypes, ∀ property ∈ entry.properties,
        bareBarCount property.name = 0) := by
  constructor
  · intro even
    constructor
    · rintro rfl entry member
      have listed := parameter_table_listed manual withTypes entry member
      exact (parameter_table_even manual.parameters).mp (even _ _ listed) entry member
    · rintro rfl entry member property owned
      obtain ⟨properties, _, inBody, listed⟩ :=
        property_table_listed manual withParameters entry member property owned
      exact (property_table_even properties).mp (even _ _ listed) property inBody
  · rintro ⟨parameterNames, propertyNames⟩ columns rows listed
    rcases (table_mem_blocks _ _ _ _ _).mp listed with
      ⟨included, inParameters⟩ | ⟨included, entry, member, inType⟩
    · obtain ⟨_, rfl, rfl⟩ := (table_mem_parameter_blocks _ _ _).mp inParameters
      exact (parameter_table_even manual.parameters).mpr (parameterNames included)
    · obtain ⟨properties, body, rfl, rfl⟩ := (table_mem_type_entry_blocks _ _ _).mp inType
      have names := propertyNames included entry member
      rw [TypeEntry.properties, body] at names
      exact (property_table_even properties).mpr names

theorem bar_in_name_splits_cell :
    Block.table parameterColumns [["`a|b`", "", "string", "True", ""]] ∈
        Manual.blocks ⟨[⟨"a|b", "string", none, true, none, false, false, false, none, false, .blank⟩],
          [], []⟩ true true ∧
      ¬ EvenRows (Block.table parameterColumns [["`a|b`", "", "string", "True", ""]]).text := by
  refine ⟨by decide, ?_⟩
  rw [even_rows_iff _ _ (by decide) (by decide)]
  decide

end TemplateManual
