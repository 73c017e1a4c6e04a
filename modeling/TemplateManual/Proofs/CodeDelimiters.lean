import TemplateManual.Proofs.LineEndings

set_option autoImplicit false

namespace TemplateManual.Markdown

def enclosed? (closes : List Char → Bool) : List (List Char) → Option (List Char × List Char)
  | [] => none
  | part :: rest =>
    if closes part then some ([], rest.flatten)
    else (enclosed? closes rest).map (Prod.map (part ++ ·) id)

def tickCount (chars : List Char) : Nat := (chars.takeWhile (· == '`')).length

def opensFence (line : List Char) : Bool :=
  3 ≤ tickCount line && !(line.dropWhile (· == '`')).contains '`'

-- At most three spaces, no fewer backticks than the opening line has, and then blanks only.
def closesFence (width : Nat) (line : List Char) : Bool :=
  (line.takeWhile (· == ' ')).length ≤ 3 && width ≤ tickCount (line.dropWhile (· == ' ')) &&
    ((line.dropWhile (· == ' ')).dropWhile (· == '`')).all (" \t\n\r".toList.contains ·)

def readFenced? (text : String) : Option (String × String) :=
  match sourceLines text.toList with
  | [] => none
  | opening :: rest =>
    if opensFence opening then
      (enclosed? (closesFence (tickCount opening)) rest).map (Prod.map String.ofList String.ofList)
    else none

def sameKind (c next : Char) : Bool := (c == '`') == (next == '`')

def tickRuns (chars : List Char) : List (List Char) := chars.splitBy sameKind

-- The code span that a text starts with, and the text after it. The next run of as many backticks closes it.
def readSpan? (text : String) : Option (String × String) :=
  match tickRuns text.toList with
  | [] => none
  | opening :: rest =>
    if opening.head? = some '`' then
      (enclosed? (· == opening) rest).map (Prod.map String.ofList String.ofList)
    else none

theorem enclosed_of_closing (closes : List Char → Bool) (inner later : List (List Char)) (closing : List Char)
    (within : ∀ part ∈ inner, closes part = false) (closed : closes closing = true) :
    enclosed? closes (inner ++ closing :: later) = some (inner.flatten, later.flatten) := by
  induction inner with
  | nil => rw [List.nil_append, enclosed?, if_pos closed, List.flatten_nil]
  | cons part rest ih =>
      obtain ⟨first, others⟩ := List.forall_mem_cons.mp within
      rw [List.cons_append, enclosed?, if_neg (Bool.eq_false_iff.mp first), ih others]
      rfl

theorem closing_of_enclosed (closes : List Char → Bool) (parts : List (List Char)) (content after : List Char)
    (read : enclosed? closes parts = some (content, after)) :
    ∃ inner closing later, parts = inner ++ closing :: later ∧ closes closing = true ∧
      (∀ part ∈ inner, closes part = false) ∧ content = inner.flatten ∧ after = later.flatten := by
  induction parts generalizing content with
  | nil => cases read
  | cons part rest ih =>
      by_cases closed : closes part = true
      · rw [enclosed?, if_pos closed] at read
        obtain ⟨rfl, rfl⟩ := Prod.mk.inj (Option.some.inj read)
        exact ⟨[], part, rest, rfl, closed, by simp, rfl, rfl⟩
      · rw [enclosed?, if_neg closed] at read
        obtain ⟨⟨inside, _⟩, found, made⟩ := Option.map_eq_some_iff.mp read
        obtain ⟨rfl, rfl⟩ := Prod.mk.inj made
        obtain ⟨inner, closing, later, rfl, ends, within, rfl, rfl⟩ := ih inside found
        have all : ∀ other ∈ part :: inner, closes other = false :=
          List.forall_mem_cons.mpr ⟨Bool.eq_false_iff.mpr closed, within⟩
        exact ⟨part :: inner, closing, later, rfl, ends, all, rfl, rfl⟩

-- Nothing is left over exactly if the last part closes and no other one does.
theorem enclosed_whole_iff (closes : List Char → Bool) (parts : List (List Char)) (content : List Char)
    (full : [] ∉ parts) :
    enclosed? closes parts = some (content, []) ↔
      ∃ inner closing, parts = inner ++ [closing] ∧ closes closing = true ∧
        (∀ part ∈ inner, closes part = false) ∧ content = inner.flatten := by
  constructor
  · intro read
    obtain ⟨inner, closing, later, rfl, closed, within, same, nothing⟩ :=
      closing_of_enclosed closes parts content [] read
    cases later with
    | nil => exact ⟨inner, closing, rfl, closed, within, same⟩
    | cons next more =>
        obtain rfl : next = [] := (List.append_eq_nil_iff.mp nothing.symm).1
        simp at full
  · rintro ⟨inner, closing, rfl, closed, within, rfl⟩
    exact enclosed_of_closing closes inner [] closing within closed

theorem read_texts_iff (found : Option (List Char × List Char)) (content after : String) :
    found.map (Prod.map String.ofList String.ofList) = some (content, after) ↔
      found = some (content.toList, after.toList) := by
  constructor
  · intro read
    obtain ⟨⟨inside, later⟩, rfl, made⟩ := Option.map_eq_some_iff.mp read
    obtain ⟨rfl, rfl⟩ := Prod.mk.inj made
    rw [String.toList_ofList, String.toList_ofList]
  · rintro rfl
    simp

def Fenceable (text : String) : Prop :=
  ∀ line ∈ sourceLines (text ++ "\n").toList, closesFence 3 line = false

instance (text : String) : Decidable (Fenceable text) :=
  inferInstanceAs (Decidable (∀ line ∈ sourceLines (text ++ "\n").toList, closesFence 3 line = false))

theorem source_lines_code (content : String) :
    sourceLines (Block.code codeLanguage content).text.toList =
      "```bicep\n".toList ::
        (sourceLines (Text.dropTrailing '\n' content ++ "\n").toList ++ ["```".toList]) := by
  have chars : (Block.code codeLanguage content).text.toList =
      "```bicep".toList ++ '\n' :: ((Text.dropTrailing '\n' content).toList ++ '\n' :: "```".toList) := by
    simp [Block.text, codeLanguage]
  have opening : sourceLines ("```bicep".toList ++ ['\n']) = ["```bicep\n".toList] := by decide
  have closing : sourceLines "```".toList = ["```".toList] := by decide
  have feed : "\n".toList = ['\n'] := rfl
  rw [chars, source_lines_after_feed, opening, source_lines_after_feed _ "```".toList, closing,
    String.toList_append, feed, List.singleton_append]

theorem fence_read_iff (content : String) :
    readFenced? (Block.code codeLanguage content).text =
        some (Text.dropTrailing '\n' content ++ "\n", "") ↔
      Fenceable (Text.dropTrailing '\n' content) := by
  have opens : opensFence "```bicep\n".toList = true := by decide
  have width : tickCount "```bicep\n".toList = 3 := by decide
  have closes : closesFence 3 "```".toList = true := by decide
  have full : [] ∉ sourceLines (Text.dropTrailing '\n' content ++ "\n").toList ++ ["```".toList] := by
    simp [sourceLines]
  have whole : (sourceLines (Text.dropTrailing '\n' content ++ "\n").toList).flatten =
      (Text.dropTrailing '\n' content ++ "\n").toList := List.flatten_splitBy _ _
  rw [readFenced?, source_lines_code]
  simp only [opens, width, if_true]
  rw [read_texts_iff, String.toList_empty, enclosed_whole_iff _ _ _ full]
  constructor
  · rintro ⟨inner, closing, split, _, within, _⟩
    obtain ⟨rfl, _⟩ := List.append_inj' split rfl
    exact within
  · intro fenceable
    exact ⟨_, _, rfl, closes, fenceable, whole.symm⟩

-- Where a text was cut, both sides fall into the groups that they had, and the neighbours are unrelated.
theorem split_by_cut {α : Type} (related : α → α → Bool) (chars : List α) (front back : List (List α))
    (groups : chars.splitBy related = front ++ back) :
    front.flatten.splitBy related = front ∧ back.flatten.splitBy related = back ∧
      ∀ x ∈ front.flatten.getLast?, ∀ y ∈ back.flatten.head?, related x y = false := by
  obtain ⟨_, full, chained, borders⟩ := List.splitBy_eq_iff.mp groups
  obtain ⟨frontFull, backFull⟩ := not_or.mp (mt List.mem_append.mpr full)
  obtain ⟨frontChained, backChained⟩ := List.forall_mem_append.mp chained
  obtain ⟨frontBorders, backBorders, apart⟩ := List.isChain_append.mp borders
  refine ⟨List.splitBy_flatten frontFull frontChained frontBorders,
    List.splitBy_flatten backFull backChained backBorders, ?_⟩
  intro x last y first
  rcases List.eq_nil_or_concat front with rfl | ⟨before, group, rfl⟩
  · simp at last
  · cases back with
    | nil => simp at first
    | cons next after =>
        obtain ⟨groupFull, nextFull, unrelated⟩ := apart group (by simp) next (by simp)
        have atEnd : x = group.getLast groupFull := by
          simpa [List.getLast?_append, List.getLast?_eq_getLast_of_ne_nil groupFull, eq_comm] using last
        have atStart : y = next.head nextFull := by
          simpa [List.head?_append, List.head?_eq_some_head nextFull, eq_comm] using first
        rw [atEnd, atStart, unrelated]

-- No backtick stands at an end of the text or alone inside it.
def Spannable (text : String) : Prop :=
  text ≠ "" ∧ text.toList.head? ≠ some '`' ∧ text.toList.getLast? ≠ some '`' ∧ ['`'] ∉ tickRuns text.toList

instance (text : String) : Decidable (Spannable text) := inferInstanceAs (Decidable (_ ∧ _ ∧ _ ∧ _))

theorem tick_apart_before (chars : List Char) :
    (∀ x ∈ ['`'].getLast?, ∀ y ∈ (chars ++ ['`']).head?, sameKind x y = false) ↔
      chars ≠ [] ∧ chars.head? ≠ some '`' := by
  cases chars with
  | nil => simp [sameKind]
  | cons c rest => simp [sameKind]

theorem tick_apart_after (chars : List Char) :
    (∀ x ∈ ('`' :: chars).getLast?, ∀ y ∈ ['`'].head?, sameKind x y = false) ↔
      chars ≠ [] ∧ chars.getLast? ≠ some '`' := by
  rcases List.eq_nil_or_concat chars with rfl | ⟨front, c, rfl⟩
  · simp [sameKind]
  · rw [List.concat_eq_append, ← List.cons_append, List.getLast?_concat, List.getLast?_concat]
    simp [sameKind]

theorem code_chars (text : String) : (Cell.code text).toList = '`' :: (text.toList ++ ['`']) := by
  simp [Cell.code]

theorem tick_runs_code (text : String) (spannable : Spannable text) :
    tickRuns (Cell.code text).toList = ['`'] :: (tickRuns text.toList ++ [['`']]) := by
  obtain ⟨filled, start, stop, _⟩ := spannable
  have chars : text.toList ≠ [] := mt String.toList_eq_nil_iff.mp filled
  have opened := (tick_apart_before text.toList).mpr ⟨chars, start⟩
  have closed : ∀ x ∈ text.toList.getLast?, ∀ y ∈ ['`'].head?, sameKind x y = false := by
    have apart := (tick_apart_after text.toList).mpr ⟨chars, stop⟩
    rwa [List.getLast?_cons_of_ne_nil chars] at apart
  rw [code_chars, tickRuns]
  exact (List.splitBy_append opened).trans (congrArg (['`'] :: ·) (List.splitBy_append closed))

theorem spannable_of_runs (text : String) (inner : List (List Char)) (flat : text.toList = inner.flatten)
    (runs : tickRuns (Cell.code text).toList = ['`'] :: (inner ++ [['`']])) (within : ['`'] ∉ inner) :
    Spannable text := by
  obtain ⟨_, back, opened⟩ := split_by_cut sameKind _ [['`']] (inner ++ [['`']]) runs
  obtain ⟨_, _, closed⟩ := split_by_cut sameKind _ (['`'] :: inner) [['`']] runs
  have own := (split_by_cut sameKind _ inner [['`']] back).1
  rw [List.flatten_append, ← flat] at opened
  rw [List.flatten_cons, ← flat] at closed
  obtain ⟨filled, start⟩ := (tick_apart_before text.toList).mp opened
  obtain ⟨_, stop⟩ := (tick_apart_after text.toList).mp closed
  rw [← flat] at own
  exact ⟨mt String.toList_eq_nil_iff.mpr filled, start, stop, by rwa [tickRuns, own]⟩

theorem span_whole_iff (text content : String) :
    readSpan? text = some (content, "") ↔
      ∃ opening inner, tickRuns text.toList = opening :: (inner ++ [opening]) ∧
        opening.head? = some '`' ∧ opening ∉ inner ∧ content.toList = inner.flatten := by
  have full := List.nil_notMem_splitBy sameKind text.toList
  rw [← tickRuns] at full
  unfold readSpan?
  cases runs : tickRuns text.toList with
  | nil => simp
  | cons opening rest =>
      rw [runs] at full
      have restFull : [] ∉ rest := fun member => full (List.mem_cons_of_mem opening member)
      have apart : ∀ inner : List (List Char),
          (∀ part ∈ inner, (part == opening) = false) ↔ opening ∉ inner := by
        intro inner
        simp only [beq_eq_false_iff_ne]
        exact ⟨fun within member => within opening member rfl, fun absent part member same => absent (same ▸ member)⟩
      by_cases ticks : opening.head? = some '`'
      · simp only [if_pos ticks]
        rw [read_texts_iff, String.toList_empty, enclosed_whole_iff _ _ _ restFull]
        constructor
        · rintro ⟨inner, closing, rfl, closed, within, flat⟩
          obtain rfl : closing = opening := by simpa using closed
          exact ⟨closing, inner, rfl, ticks, (apart inner).mp within, flat⟩
        · rintro ⟨_, inner, split, _, absent, flat⟩
          obtain ⟨rfl, rfl⟩ := List.cons.inj split
          exact ⟨inner, opening, rfl, by simp, (apart inner).mpr absent, flat⟩
      · simp only [if_neg ticks]
        constructor
        · intro read
          cases read
        · rintro ⟨_, inner, split, starts, _⟩
          obtain ⟨rfl, _⟩ := List.cons.inj split
          exact absurd starts ticks

theorem span_read_iff (text : String) :
    readSpan? (Cell.code text) = some (text, "") ↔ Spannable text := by
  rw [span_whole_iff]
  constructor
  · rintro ⟨opening, inner, runs, ticks, within, flat⟩
    have whole : (opening :: (inner ++ [opening])).flatten = (Cell.code text).toList := by
      rw [← runs]
      exact List.flatten_splitBy _ _
    -- The text takes all but two characters of the cell, so that both runs are single backticks.
    have single : opening.length = 1 := by
      have size := congrArg List.length whole
      simp only [code_chars, List.flatten_cons, List.flatten_append, List.flatten_nil, ← flat,
        List.length_append, List.length_cons, List.length_nil] at size
      omega
    obtain ⟨c, rfl⟩ := List.length_eq_one_iff.mp single
    obtain rfl : c = '`' := by simpa using ticks
    exact spannable_of_runs text inner flat runs within
  · intro spannable
    refine ⟨['`'], tickRuns text.toList, tick_runs_code text spannable, rfl, spannable.2.2.2, ?_⟩
    exact (List.flatten_splitBy _ _).symm

end TemplateManual.Markdown

namespace TemplateManual

open Markdown

theorem default_read_back_iff (entry : ParameterEntry) (text : String) (given : entry.defaultText = some text) :
    (entry.complexDefault = true → ∃ block, entry.defaultBlocks = [heading 3 entry.name, block] ∧
      (readFenced? block.text = some (Text.dropTrailing '\n' text ++ "\n", "") ↔
        Fenceable (Text.dropTrailing '\n' text))) ∧
    (entry.complexDefault = false →
      (readSpan? (unescape (Cell.defaultValue entry)) = some (text, "") ↔ Spannable text)) := by
  constructor
  · intro complex
    refine ⟨.code codeLanguage text, ?_, fence_read_iff text⟩
    rw [ParameterEntry.defaultBlocks, complex, given]
  · intro simple
    have cell : Cell.defaultValue entry = Cell.escape (Cell.code text) := by
      simp [Cell.defaultValue, given, simple]
    rw [cell, unescape_escape]
    exact span_read_iff text

def entryWithDefault (text : String) (complex : Bool) : ParameterEntry :=
  ⟨"p", "string", none, false, some text, complex, false, false, none, false, .blank⟩

theorem inner_backticks_read_back :
    (∃ block, (entryWithDefault "\x7b\n``\n    ```\n\x7d\n" true).defaultBlocks = [heading 3 "p", block] ∧
      readFenced? block.text = some ("\x7b\n``\n    ```\n\x7d\n", "")) ∧
    readSpan? (unescape (Cell.defaultValue (entryWithDefault "a``|b" false))) = some ("a``|b", "") := by
  obtain ⟨long, _⟩ := default_read_back_iff (entryWithDefault "\x7b\n``\n    ```\n\x7d\n" true) _ rfl
  obtain ⟨_, short⟩ := default_read_back_iff (entryWithDefault "a``|b" false) _ rfl
  obtain ⟨block, blocks, read⟩ := long rfl
  exact ⟨⟨block, blocks, read.mpr (by decide +kernel)⟩, (short rfl).mpr (by decide +kernel)⟩

-- A line of three backticks ends the block, and a single backtick the span.
theorem backticks_break_out :
    (entryWithDefault "\x7b\n```\n\x7d" true).defaultBlocks =
        [heading 3 "p", .code codeLanguage "\x7b\n```\n\x7d"] ∧
      readFenced? (Block.code codeLanguage "\x7b\n```\n\x7d").text = some ("\x7b\n", "\x7d\n```") ∧
      readSpan? (unescape (Cell.defaultValue (entryWithDefault "a`b" false))) = some ("a", "b`") := by
  decide +kernel

end TemplateManual
