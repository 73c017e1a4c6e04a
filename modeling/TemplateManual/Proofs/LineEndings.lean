import Mathlib.Data.List.SplitBy
import TemplateManual.Proofs.TableReading

set_option autoImplicit false

namespace TemplateManual.Markdown

-- A line ends after a line feed, and after a carriage return that no line feed follows.
def sameLine (c next : Char) : Bool := !(c == '\n' || (c == '\r' && next != '\n'))

def sourceLines (chars : List Char) : List (List Char) := chars.splitBy sameLine

def returnCount (text : String) : Nat := text.toList.count '\r'

theorem length_split_by_related {α : Type} (related : α → α → Bool) (a b : α) (rest : List α)
    (joined : related a b = true) :
    ((a :: b :: rest).splitBy related).length = ((b :: rest).splitBy related).length := by
  cases groups : (b :: rest).splitBy related with
  | nil => simp at groups
  | cons group more =>
      obtain ⟨flat, full, chained, borders⟩ := List.splitBy_eq_iff.mp groups
      cases group with
      | nil => exact absurd List.mem_cons_self full
      | cons first inner =>
          obtain ⟨rfl, tails⟩ := List.cons.inj flat
          have grown : (a :: b :: rest).splitBy related = (a :: b :: inner) :: more := by
            refine List.splitBy_eq_iff.mpr ⟨?_, ?_, ?_, ?_⟩
            · rw [tails]
              rfl
            · simpa using full
            · intro other member
              rcases List.mem_cons.mp member with rfl | later
              · exact List.isChain_cons_cons.mpr ⟨joined, chained _ List.mem_cons_self⟩
              · exact chained other (List.mem_cons_of_mem _ later)
            · cases more with
              | nil => exact List.isChain_singleton _
              | cons next others =>
                  obtain ⟨⟨_, nextFull, apart⟩, later⟩ := List.isChain_cons_cons.mp borders
                  exact List.isChain_cons_cons.mpr ⟨⟨by simp, nextFull, by simpa using apart⟩, later⟩
          rw [grown, List.length_cons, List.length_cons]

theorem source_lines_after_feed (front rest : List Char) :
    sourceLines (front ++ '\n' :: rest) = sourceLines (front ++ ['\n']) ++ sourceLines rest := by
  have ended : ∀ c ∈ (front ++ ['\n']).getLast?, ∀ next ∈ rest.head?, sameLine c next = false := by
    rw [List.getLast?_concat]
    rintro _ ⟨⟩ next _
    rfl
  rw [List.append_cons]
  exact List.splitBy_append ended

example : sourceLines "a\r\nb\rc\n".toList = ["a\r\n".toList, "b\r".toList, "c\n".toList] := by decide

-- Up to a bar there are only carriage returns to end a line, and no line feed to join them with.
theorem length_lines_before_bar (chars after : List Char) (oneLine : '\n' ∉ chars) :
    (sourceLines (chars ++ '|' :: after)).length =
      chars.count '\r' + (sourceLines ('|' :: after)).length := by
  induction chars with
  | nil => simp
  | cons c rest ih =>
      obtain ⟨notFeed, restOneLine⟩ := not_or.mp (mt List.mem_cons.mpr oneLine)
      obtain ⟨next, more, starts, notNext⟩ :
          ∃ next more, rest ++ '|' :: after = next :: more ∧ next ≠ '\n' := by
        cases rest with
        | nil => exact ⟨'|', after, rfl, by decide⟩
        | cons d others => exact ⟨d, others ++ '|' :: after, rfl, fun same => restOneLine (by simp [same])⟩
      have later := ih restOneLine
      rw [List.cons_append, starts] at *
      by_cases isReturn : c = '\r'
      · have ended : ∀ d ∈ ['\r'].getLast?, ∀ following ∈ (next :: more).head?, sameLine d following = false := by
          rintro _ ⟨⟩ _ ⟨⟩
          simp [sameLine, notNext]
        have apart : sourceLines ('\r' :: next :: more) = ['\r'] :: sourceLines (next :: more) :=
          List.splitBy_append ended
        rw [isReturn, apart, List.length_cons, later, List.count_cons_self]
        omega
      · have joined : sameLine c next = true := by simp [sameLine, Ne.symm notFeed, isReturn]
        rw [sourceLines, length_split_by_related sameLine c next more joined, ← sourceLines, later,
          List.count_cons_of_ne isReturn]

theorem length_lines_of_cells (cells : List (List Char)) (after : List Char)
    (oneLine : ∀ cell ∈ cells, '\n' ∉ cell) :
    (sourceLines ('|' :: ((cells.flatMap fun cell => ' ' :: (cell ++ [' ', '|'])) ++ after))).length =
      (cells.map (List.count '\r')).sum + (sourceLines ('|' :: after)).length := by
  induction cells with
  | nil => simp
  | cons cell rest ih =>
      have cellOneLine : '\n' ∉ '|' :: ' ' :: (cell ++ [' ']) := by
        simp [oneLine cell List.mem_cons_self]
      have step := length_lines_before_bar ('|' :: ' ' :: (cell ++ [' ']))
        ((rest.flatMap fun cell => ' ' :: (cell ++ [' ', '|'])) ++ after) cellOneLine
      rw [ih fun other member => oneLine other (List.mem_cons_of_mem cell member)] at step
      simpa [Nat.add_assoc] using step

theorem return_count_cell_text (cell : String) : (cellText cell).toList.count '\r' = returnCount cell := by
  rw [cell_text_eq_spaced, spaced, String.toList_map, returnCount]
  induction cell.toList with
  | nil => rfl
  | cons c rest ih => by_cases feed : c = '\n' <;> simp [feed, List.count_cons, ih]

theorem length_lines_of_row (cells : List String) (after : List Char) :
    (sourceLines ((rowText cells).toList ++ after)).length =
      (cells.map returnCount).sum + (sourceLines ('|' :: after)).length := by
  have oneLine : ∀ cell ∈ cells.map fun cell => (cellText cell).toList, '\n' ∉ cell :=
    List.forall_mem_map.mpr fun cell _ => no_line_feed_in_cell cell
  rw [row_text_chars, List.cons_append, length_lines_of_cells _ after oneLine, List.map_map]
  simp only [Function.comp_def, return_count_cell_text]

theorem length_lines_of_rows (rows : List (List String)) :
    (sourceLines (['\n'].intercalate (rows.map fun cells => (rowText cells).toList))).length =
      rows.length + (rows.map fun cells => (cells.map returnCount).sum).sum := by
  induction rows with
  | nil => rfl
  | cons row rest ih =>
      cases rest with
      | nil =>
          have last := length_lines_of_row row []
          have single : (sourceLines ['|']).length = 1 := by decide
          rw [List.append_nil, single] at last
          simpa [Nat.add_comm] using last
      | cons next more =>
          have first := length_lines_of_row row
            ('\n' :: ['\n'].intercalate ((next :: more).map fun cells => (rowText cells).toList))
          have bar := source_lines_after_feed ['|']
            (['\n'].intercalate ((next :: more).map fun cells => (rowText cells).toList))
          have single : (sourceLines (['|'] ++ ['\n'])).length = 1 := by decide
          rw [List.singleton_append] at bar
          rw [bar, List.length_append, single, ih] at first
          simp only [List.map_cons, List.intercalate_cons_cons, List.append_assoc, List.singleton_append,
            List.sum_cons, List.length_cons] at first ⊢
          rw [first]
          omega

theorem table_lines_eq_rows (columns : List String) (rows : List (List String)) :
    tableLines columns rows =
      (columns :: columns.map (fun _ => "---") :: rows.map (widened columns.length)).map rowText := by
  simp [tableLines, fit_eq_widened]

theorem length_lines_of_table (columns : List String) (rows : List (List String)) :
    (sourceLines (Block.table columns rows).text.toList).length =
      rows.length + 2 + (columns.map returnCount).sum +
        (rows.map fun row => ((row.take columns.length).map returnCount).sum).sum := by
  have dashes : (columns.map fun _ => returnCount "---").sum = 0 := by
    have dash : returnCount "---" = 0 := by decide
    simp [dash]
  have filled : ∀ row, ((widened columns.length row).map returnCount).sum =
      ((row.take columns.length).map returnCount).sum := by
    have blank : returnCount "" = 0 := rfl
    simp [widened, blank]
  have lines := length_lines_of_rows
    (columns :: columns.map (fun _ => "---") :: rows.map (widened columns.length))
  rw [Block.text, Text.to_list_join, table_lines_eq_rows, List.map_map]
  change (sourceLines (['\n'].intercalate _)).length = _
  rw [Function.comp_def, lines]
  simp only [List.map_cons, List.map_map, List.sum_cons, List.length_cons, List.length_map,
    Function.comp_def, dashes, filled]
  omega

theorem no_returns_iff (cells : List String) :
    (cells.map returnCount).sum = 0 ↔ ∀ cell ∈ cells, '\r' ∉ cell.toList := by
  rw [List.sum_eq_zero_iff_forall_eq_nat, List.forall_mem_map]
  exact forall₂_congr fun _ _ => List.count_eq_zero

theorem table_lines_kept_iff (columns : List String) (rows : List (List String)) :
    (sourceLines (Block.table columns rows).text.toList).length = rows.length + 2 ↔
      (∀ column ∈ columns, '\r' ∉ column.toList) ∧
        ∀ row ∈ rows, ∀ cell ∈ row.take columns.length, '\r' ∉ cell.toList := by
  have inRows : (rows.map fun row => ((row.take columns.length).map returnCount).sum).sum = 0 ↔
      ∀ row ∈ rows, ∀ cell ∈ row.take columns.length, '\r' ∉ cell.toList := by
    rw [List.sum_eq_zero_iff_forall_eq_nat, List.forall_mem_map]
    exact forall₂_congr fun row _ => no_returns_iff _
  rw [length_lines_of_table, ← no_returns_iff, ← inRows]
  omega

-- The line feed of a pair becomes a space, and the carriage return before it is left to end the line.
theorem paired_ending_splits_row :
    (sourceLines (Block.table ["Description"] [["one\r\ntwo"]]).text.toList).length = 4 := by
  rw [length_lines_of_table]
  decide

end TemplateManual.Markdown
