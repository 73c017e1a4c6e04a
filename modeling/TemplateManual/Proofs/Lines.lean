import TemplateManual.Text.Basic

set_option autoImplicit false

namespace TemplateManual.Text

def dropReturn (line : List Char) : List Char := if line.getLast? = some '\r' then line.dropLast else line

-- What stands before each line feed, without a carriage return right before it, and what follows the last
-- line feed unless that is empty.
def endedLines (chars : List Char) : List (List Char) :=
  (chars.splitOn '\n').dropLast.map dropReturn ++ (chars.splitOn '\n').getLast?.toList.filter (· ≠ [])

theorem line_chars_of_one_line (chars : List Char) (oneLine : '\n' ∉ chars) :
    lineChars chars = if chars = [] then [] else [chars] := by
  induction chars with
  | nil => rfl
  | cons c rest ih =>
      have notBreak : c ≠ '\n' := fun equal => oneLine (equal ▸ List.mem_cons_self)
      have restOneLine : '\n' ∉ rest := fun member => oneLine (List.mem_cons_of_mem c member)
      have noReturn : ∀ more, c = '\r' → rest ≠ '\n' :: more := by
        rintro more _ rfl
        exact restOneLine List.mem_cons_self
      rw [lineChars, ih restOneLine]
      · by_cases last : rest = [] <;> simp [last]
      · exact notBreak
      · exact noReturn

theorem drop_return_cons (c : Char) (rest : List Char) (kept : c = '\r' → rest ≠ []) :
    dropReturn (c :: rest) = c :: dropReturn rest := by
  cases rest with
  | nil => simp [dropReturn, show c ≠ '\r' from fun same => kept same rfl]
  | cons next more =>
      rw [dropReturn, dropReturn, List.getLast?_cons_cons, List.dropLast_cons_cons]
      split <;> rfl

theorem line_chars_before_feed (front rest : List Char) (oneLine : '\n' ∉ front) :
    lineChars (front ++ '\n' :: rest) = dropReturn front :: lineChars rest := by
  induction front with
  | nil => rfl
  | cons c more ih =>
      obtain ⟨notFeed, moreOneLine⟩ := not_or.mp (mt List.mem_cons.mpr oneLine)
      by_cases paired : c = '\r' ∧ more = []
      · obtain ⟨rfl, rfl⟩ := paired
        rfl
      · have kept : c = '\r' → more ≠ [] := fun isReturn isLast => paired ⟨isReturn, isLast⟩
        have apart : ∀ after, c = '\r' → more ++ '\n' :: rest ≠ '\n' :: after := by
          intro after isReturn starts
          cases more with
          | nil => exact kept isReturn rfl
          | cons next others => exact moreOneLine (by simp [(List.cons.inj starts).1])
        rw [List.cons_append, lineChars, ih moreOneLine, drop_return_cons c more kept]
        · exact Ne.symm notFeed
        · exact apart

theorem ended_lines_of_one_line (chars : List Char) (oneLine : '\n' ∉ chars) :
    endedLines chars = if chars = [] then [] else [chars] := by
  rw [endedLines, List.splitOn_eq_singleton oneLine]
  by_cases blank : chars = [] <;> simp [blank]

theorem ended_lines_before_feed (front rest : List Char) (oneLine : '\n' ∉ front) :
    endedLines (front ++ '\n' :: rest) = dropReturn front :: endedLines rest := by
  have pieces := List.splitOn_ne_nil '\n' rest
  rw [endedLines, List.splitOn_append_cons_self_of_not_mem oneLine, List.dropLast_cons_of_ne_nil pieces,
    List.getLast?_cons_of_ne_nil pieces]
  rfl

theorem line_chars_eq_ended (chars : List Char) : lineChars chars = endedLines chars := by
  by_cases feed : '\n' ∈ chars
  · obtain ⟨front, rest, split, oneLine⟩ := List.eq_append_cons_of_mem feed
    have shorter : rest.length < chars.length := by
      rw [split, List.length_append, List.length_cons]
      omega
    rw [split, line_chars_before_feed front rest oneLine, ended_lines_before_feed front rest oneLine,
      line_chars_eq_ended rest]
  · rw [line_chars_of_one_line chars feed, ended_lines_of_one_line chars feed]
termination_by chars.length
decreasing_by
  exact shorter

theorem line_chars_ne_nil (chars : List Char) (filled : chars ≠ []) : lineChars chars ≠ [] := by
  fun_cases lineChars chars with
  | case1 => exact absurd rfl filled
  | case2 rest => simp
  | case3 rest => simp
  | case4 c rest => simp
  | case5 c rest => simp

theorem line_chars_feedless (chars : List Char) : ∀ line ∈ lineChars chars, '\n' ∉ line := by
  fun_induction lineChars chars with
  | case1 => simp
  | case2 rest ih => simpa using ih
  | case3 rest ih => simpa using ih
  | case4 c rest notFeed _ none ih => simpa using Ne.symm notFeed
  | case5 c rest notFeed _ line more found ih => simp_all [Ne.symm notFeed]

theorem filter_line_chars (wanted : Char → Bool) (noFeed : wanted '\n' = false) (noReturn : wanted '\r' = false)
    (chars : List Char) : (lineChars chars).flatten.filter wanted = chars.filter wanted := by
  fun_induction lineChars chars with
  | case1 => rfl
  | case2 rest ih => simpa [noFeed] using ih
  | case3 rest ih => simpa [noFeed, noReturn] using ih
  | case4 c rest _ _ none ih =>
      rw [List.filter_cons, ← ih, none]
      simp [List.filter_cons]
  | case5 c rest _ _ line more found ih =>
      rw [List.filter_cons, ← ih, found]
      simp [List.filter_cons]

end TemplateManual.Text
