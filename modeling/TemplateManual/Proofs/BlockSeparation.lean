import TemplateManual.Proofs.LineEndings
import TemplateManual.Proofs.Lines

set_option autoImplicit false

namespace TemplateManual.Markdown

-- A text is cut at every two line feeds, from the left.
def splitAtBlanks : List Char → List (List Char)
  | [] => [[]]
  | '\n' :: '\n' :: rest => [] :: splitAtBlanks rest
  | c :: rest => (splitAtBlanks rest).modifyHead (c :: ·)

def unquoted? : List Char → Option (List Char)
  | '>' :: ' ' :: line => some line
  | '>' :: line => some line
  | _ => none

def Block.Separable : Block → Prop
  | .header _ text => '\n' ∉ text.toList
  | .quote text => text ≠ ""
  | .table _ _ => True
  | .paragraph _ | .code _ _ => False

def Solid (chars : List Char) : Prop :=
  ∃ lines, lines ≠ [] ∧ (∀ line ∈ lines, line ≠ [] ∧ '\n' ∉ line) ∧ chars = ['\n'].intercalate lines

theorem split_cons (c : Char) (rest : List Char) (other : c = '\n' → rest.head? ≠ some '\n') :
    splitAtBlanks (c :: rest) = (splitAtBlanks rest).modifyHead (c :: ·) := by
  rw [splitAtBlanks]
  intro more feed starts
  exact other feed (by rw [starts, List.head?_cons])

theorem split_after_line (line rest : List Char) (oneLine : '\n' ∉ line) :
    splitAtBlanks (line ++ rest) = (splitAtBlanks rest).modifyHead (line ++ ·) := by
  induction line with
  | nil => exact (congrFun List.modifyHead_id (splitAtBlanks rest)).symm
  | cons c more ih =>
      obtain ⟨notFeed, moreOneLine⟩ := not_or.mp (mt List.mem_cons.mpr oneLine)
      rw [List.cons_append, split_cons c _ (fun feed => absurd feed.symm notFeed), ih moreOneLine]
      cases splitAtBlanks rest <;> rfl

theorem solid_starts (line : List Char) (more : List (List Char)) (rest : List Char) (filled : line ≠ [])
    (oneLine : '\n' ∉ line) : (['\n'].intercalate (line :: more) ++ rest).head? ≠ some '\n' := by
  obtain ⟨c, others, rfl⟩ := List.exists_cons_of_ne_nil filled
  have notFeed : c ≠ '\n' := fun feed => oneLine (by simp [feed])
  cases more <;> simpa using notFeed

-- The lines of a solid text belong together, and the text is cut next where the rest is.
theorem split_after_lines (lines : List (List Char)) (rest : List Char) (pieces : List (List Char))
    (filled : lines ≠ []) (solid : ∀ line ∈ lines, line ≠ [] ∧ '\n' ∉ line)
    (cut : splitAtBlanks rest = [] :: pieces) :
    splitAtBlanks (['\n'].intercalate lines ++ rest) = ['\n'].intercalate lines :: pieces := by
  induction lines with
  | nil => exact absurd rfl filled
  | cons line more ih =>
      obtain ⟨_, oneLine⟩ := solid line List.mem_cons_self
      cases more with
      | nil => simp [split_after_line line rest oneLine, cut]
      | cons next others =>
          have later := ih (by simp) fun other member => solid other (List.mem_cons_of_mem line member)
          obtain ⟨nextFilled, nextOneLine⟩ := solid next (by simp)
          have starts := solid_starts next others rest nextFilled nextOneLine
          rw [List.intercalate_cons_cons, List.append_assoc, List.append_assoc, split_after_line line _ oneLine,
            List.singleton_append, split_cons '\n' _ (fun _ => starts), later]
          simp

theorem split_joined (parts : List (List Char)) (filled : parts ≠ []) (solid : ∀ part ∈ parts, Solid part) :
    splitAtBlanks (['\n', '\n'].intercalate parts) = parts := by
  induction parts with
  | nil => exact absurd rfl filled
  | cons part more ih =>
      obtain ⟨lines, present, each, rfl⟩ := solid part List.mem_cons_self
      cases more with
      | nil => simpa using split_after_lines lines [] [] present each rfl
      | cons next others =>
          have later := ih (by simp) fun other member => solid other (List.mem_cons_of_mem _ member)
          rw [List.intercalate_cons_cons, List.append_assoc]
          refine split_after_lines lines _ _ present each ?_
          rw [List.cons_append, List.singleton_append, splitAtBlanks, later]

theorem joined_last (separator : List Char) (parts : List (List Char)) (filled : parts ≠ [])
    (each : ∀ part ∈ parts, ∃ c, part.getLast? = some c ∧ c ≠ '\n') :
    ∃ c, (separator.intercalate parts).getLast? = some c ∧ c ≠ '\n' := by
  induction parts with
  | nil => exact absurd rfl filled
  | cons part more ih =>
      cases more with
      | nil => simpa using each part List.mem_cons_self
      | cons next others =>
          obtain ⟨c, last, notFeed⟩ := ih (by simp)
            fun other member => each other (List.mem_cons_of_mem part member)
          refine ⟨c, ?_, notFeed⟩
          rw [List.intercalate_cons_cons, List.getLast?_append, last, Option.some_or]

theorem solid_last (chars : List Char) (solid : Solid chars) : ∃ c, chars.getLast? = some c ∧ c ≠ '\n' := by
  obtain ⟨lines, filled, each, rfl⟩ := solid
  refine joined_last ['\n'] lines filled fun line member => ?_
  obtain ⟨present, oneLine⟩ := each line member
  refine ⟨line.getLast present, List.getLast?_eq_getLast_of_ne_nil present, fun feed => oneLine ?_⟩
  rw [← feed]
  exact List.getLast_mem present

def quoteChars (line : List Char) : List Char := if line = [] then ['>'] else '>' :: ' ' :: line

theorem quote_chars (text : String) :
    (Block.quote text).text.toList = ['\n'].intercalate ((Text.lineChars text.toList).map quoteChars) := by
  have line : ∀ chars, (quoteLine (String.ofList chars)).toList = quoteChars chars := by
    intro chars
    unfold quoteLine quoteChars
    by_cases blank : chars = [] <;> simp [blank]
  have feed : "\n".toList = ['\n'] := rfl
  rw [Block.text, Text.to_list_join, feed, Text.lines, List.map_map, List.map_map]
  simp only [Function.comp_def, line]

theorem unquoted_quote (line : List Char) : unquoted? (quoteChars line) = some line := by
  unfold quoteChars
  by_cases blank : line = [] <;> simp [blank, unquoted?]

theorem quote_lines_solid (text : String) (filled : text ≠ "") :
    (Text.lineChars text.toList).map quoteChars ≠ [] ∧
      ∀ line ∈ (Text.lineChars text.toList).map quoteChars, line ≠ [] ∧ '\n' ∉ line := by
  constructor
  · simpa using Text.line_chars_ne_nil text.toList (mt String.toList_eq_nil_iff.mp filled)
  · rw [List.forall_mem_map]
    intro line member
    have oneLine := Text.line_chars_feedless text.toList line member
    by_cases blank : line = [] <;> simp [quoteChars, blank, oneLine]

theorem header_one_line (level : Nat) (text : String) (oneLine : '\n' ∉ text.toList) :
    '\n' ∉ (Block.header level text).text.toList := by
  have marks : '\n' ∉ (Text.times "#" level).toList := by
    induction level with
    | zero => simp [Text.times]
    | succ level ih => simpa [Text.times] using ih
  simp [Block.text, marks, oneLine]

theorem block_solid (block : Block) (separable : block.Separable) : Solid block.text.toList := by
  cases block with
  | header level text =>
      refine ⟨[(Block.header level text).text.toList], by simp, ?_, by simp⟩
      simpa [Block.text] using header_one_line level text separable
  | quote text =>
      obtain ⟨filled, solid⟩ := quote_lines_solid text separable
      exact ⟨_, filled, solid, quote_chars text⟩
  | table columns rows =>
      refine ⟨(tableLines columns rows).map String.toList, by simp [tableLines], ?_, ?_⟩
      · rw [table_lines_eq_rows, List.map_map, List.forall_mem_map]
        intro cells _
        exact ⟨by simp [row_text_chars], row_text_one_line cells⟩
      · rw [Block.text, Text.to_list_join]
        rfl
  | paragraph text => exact separable.elim
  | code language content => exact separable.elim

theorem quote_read_back (text : String) (filled : text ≠ "") :
    ((Block.quote text).text.toList.splitOn '\n').mapM unquoted? = some (Text.endedLines text.toList) := by
  obtain ⟨present, solid⟩ := quote_lines_solid text filled
  have read : unquoted? ∘ quoteChars = pure := funext unquoted_quote
  rw [quote_chars, List.splitOn_intercalate '\n' (fun line member => (solid line member).2) present, List.mapM_map,
    read, List.mapM_pure, Text.line_chars_eq_ended]
  simp

theorem blocks_stay_apart (blocks : List Block) (filled : blocks ≠ [])
    (separable : ∀ block ∈ blocks, block.Separable) :
    ∃ body : String, document blocks = body ++ "\n" ∧ body.toList.getLast? ≠ some '\n' ∧
      (splitAtBlanks body.toList).map String.ofList = blocks.map Block.text ∧
      ∀ text, Block.quote text ∈ blocks →
        ((Block.quote text).text.toList.splitOn '\n').mapM unquoted? = some (Text.endedLines text.toList) := by
  have texts : (blocks.map Block.text).map String.toList ≠ [] := by simpa using filled
  have solid : ∀ part ∈ (blocks.map Block.text).map String.toList, Solid part := by
    rw [List.map_map, List.forall_mem_map]
    exact fun block member => block_solid block (separable block member)
  have feeds : "\n\n".toList = ['\n', '\n'] := rfl
  refine ⟨Text.join "\n\n" (blocks.map Block.text), ?_, ?_, ?_, ?_⟩
  · rw [document, if_neg (by simpa using filled)]
  · obtain ⟨c, last, notFeed⟩ := joined_last ['\n', '\n'] _ texts
      fun part member => solid_last part (solid part member)
    rw [Text.to_list_join, feeds, last]
    simpa using notFeed
  · rw [Text.to_list_join, feeds, split_joined _ texts solid, List.map_map]
    simp [Function.comp_def]
  · exact fun text member => quote_read_back text (separable _ member)

def quotedSection : List Block :=
  [.header 3 "net", .quote "one\r\n\n two\n", .table ["Property"] [["a\n\nb"], []]]

theorem quoted_section_stays_apart :
    quotedSection ≠ [] ∧ (∀ block ∈ quotedSection, block.Separable) ∧
      ∃ body : String, document quotedSection = body ++ "\n" ∧ (splitAtBlanks body.toList).length = 3 ∧
        ((Block.quote "one\r\n\n two\n").text.toList.splitOn '\n').mapM unquoted? =
          some ["one".toList, [], " two".toList] := by
  have filled : quotedSection ≠ [] := by simp [quotedSection]
  have separable : ∀ block ∈ quotedSection, block.Separable := by simp [quotedSection, Block.Separable]
  obtain ⟨body, ends, _, pieces, quotes⟩ := blocks_stay_apart quotedSection filled separable
  refine ⟨filled, separable, body, ends, ?_, (quotes _ (by simp [quotedSection])).trans ?_⟩
  · simpa [quotedSection] using congrArg List.length pieces
  · decide

end TemplateManual.Markdown
