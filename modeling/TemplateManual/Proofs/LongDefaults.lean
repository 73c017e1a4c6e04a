import Mathlib.Data.List.Forall2
import TemplateManual.Manual.Layout

set_option autoImplicit false

namespace TemplateManual

namespace Markdown

def cellUnder? (title : String) (columns row : List String) : Option String := (columns.zip row).lookup title

def readListings? : List Block → Option (List (String × String))
  | [] => some []
  | .header 3 name :: .code "bicep" content :: rest => (readListings? rest).map ((name, content) :: ·)
  | _ => none

end Markdown

open Markdown

-- A cell with code starts with a backtick, so it can be neither empty nor a reference.
theorem escaped_code_ne (text other : String) (head : other.toList.head? ≠ some '`') :
    Cell.escape (Cell.code text) ≠ other := by
  rintro rfl
  simp [Cell.escape, Cell.code, Text.replaceChars] at head

theorem default_cell_eq_mark_iff (entry : ParameterEntry) :
    Cell.defaultValue entry = "See below" ↔ entry.complexDefault = true ∧ entry.defaultText.isSome = true := by
  unfold Cell.defaultValue
  cases entry.defaultText with
  | none => simp
  | some text => cases entry.complexDefault <;> simp [escaped_code_ne text "See below" (by decide)]

theorem default_cell_eq_empty_iff (entry : ParameterEntry) :
    Cell.defaultValue entry = "" ↔ entry.defaultText = none := by
  unfold Cell.defaultValue
  cases entry.defaultText with
  | none => simp
  | some text => cases entry.complexDefault <;> simp [escaped_code_ne text "" (by decide)]

theorem name_cell (entry : ParameterEntry) :
    cellUnder? "Parameter" parameterColumns entry.row = some (Cell.code entry.name) := rfl

theorem default_cell (entry : ParameterEntry) :
    cellUnder? "Default" parameterColumns entry.row = some (Cell.defaultValue entry) := rfl

def ParameterEntry.listing? (entry : ParameterEntry) : Option (String × String) :=
  if entry.complexDefault then entry.defaultText.map fun text => (entry.name, text) else none

theorem read_listings_of_defaults (entries : List ParameterEntry) :
    readListings? (entries.flatMap ParameterEntry.defaultBlocks) =
      some (entries.filterMap ParameterEntry.listing?) := by
  induction entries with
  | nil => rfl
  | cons entry rest ih =>
      rw [List.flatMap_cons, List.filterMap_cons, ParameterEntry.defaultBlocks, ParameterEntry.listing?]
      cases entry.complexDefault with
      | false => exact ih
      | true =>
          cases entry.defaultText with
          | none => exact ih
          | some text => exact congrArg (Option.map ((entry.name, text) :: ·)) ih

def PointsTo (line : List String × ParameterEntry) (listing : String × String) : Prop :=
  cellUnder? "Parameter" parameterColumns line.1 = some (Cell.code listing.1) ∧
    line.2.name = listing.1 ∧ line.2.defaultText = some listing.2

theorem marked_lines_point (entries : List ParameterEntry) :
    List.Forall₂ PointsTo
      ((entries.map fun entry => (entry.row, entry)).filter fun line =>
        cellUnder? "Default" parameterColumns line.1 = some "See below")
      (entries.filterMap ParameterEntry.listing?) := by
  induction entries with
  | nil => exact .nil
  | cons entry rest ih =>
      simp only [List.map_cons, List.filter_cons, default_cell, Option.some.injEq, default_cell_eq_mark_iff,
        List.filterMap_cons, ParameterEntry.listing?] at ih ⊢
      cases entry.complexDefault with
      | false => simpa using ih
      | true =>
          cases given : entry.defaultText with
          | none => simpa using ih
          | some text => simpa using List.Forall₂.cons ⟨name_cell entry, rfl, given⟩ ih

theorem marked_rows_listed_below (entries : List ParameterEntry) (filled : entries ≠ []) :
    ∃ rows below listings,
      parameterBlocks entries = .header 2 "Parameters" :: .table parameterColumns rows :: below ∧
      readListings? below = some listings ∧
      rows.length = entries.length ∧
      List.Forall₂ PointsTo
        ((rows.zip entries).filter fun line => cellUnder? "Default" parameterColumns line.1 = some "See below")
        listings ∧
      ∀ line ∈ rows.zip entries,
        cellUnder? "Default" parameterColumns line.1 = some "" ↔ line.2.defaultText = none := by
  have lines : (entries.map ParameterEntry.row).zip entries = entries.map fun entry => (entry.row, entry) := by
    simpa using List.zip_map' (f := ParameterEntry.row) (g := id) (l := entries)
  refine ⟨entries.map ParameterEntry.row, entries.flatMap ParameterEntry.defaultBlocks, _, ?_,
    read_listings_of_defaults entries, List.length_map _, ?_, ?_⟩
  · rw [parameterBlocks, if_neg (by simpa using filled)]
    rfl
  · rw [lines]
    exact marked_lines_point entries
  · rw [lines, List.forall_mem_map]
    intro entry _
    rw [default_cell, Option.some.injEq, default_cell_eq_empty_iff]

def listedParameters : List ParameterEntry :=
  [⟨"tags", "object", none, false, some "\x7b\n  a: 1\n\x7d", true, false, false, none, false, .blank⟩,
    ⟨"key", "string", none, true, none, true, false, false, none, false, .blank⟩,
    ⟨"note", "string", none, false, some "See below", false, false, false, none, false, .blank⟩]

theorem tags_listed_below :
    listedParameters ≠ [] ∧ ∃ rows below,
      parameterBlocks listedParameters = .header 2 "Parameters" :: .table parameterColumns rows :: below ∧
      readListings? below = some [("tags", "\x7b\n  a: 1\n\x7d")] ∧
      ((rows.zip listedParameters).filter fun line =>
        cellUnder? "Default" parameterColumns line.1 = some "See below").length = 1 := by
  have filled : listedParameters ≠ [] := by simp [listedParameters]
  obtain ⟨rows, below, listings, blocks, read, _, refer, _⟩ := marked_rows_listed_below listedParameters filled
  obtain rfl : below = listedParameters.flatMap ParameterEntry.defaultBlocks := by
    cases blocks
    rfl
  have listed : readListings? (listedParameters.flatMap ParameterEntry.defaultBlocks) =
      some [("tags", "\x7b\n  a: 1\n\x7d")] := by decide
  obtain rfl : listings = [("tags", "\x7b\n  a: 1\n\x7d")] := Option.some.inj (read.symm.trans listed)
  exact ⟨filled, rows, _, blocks, listed, refer.length_eq⟩

end TemplateManual
