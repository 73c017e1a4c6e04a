import TemplateManual.Manual.Layout

set_option autoImplicit false

namespace TemplateManual

open Markdown

theorem heading_ne_table (level : Nat) (text : String) (columns : List String)
    (rows : List (List String)) : Block.table columns rows ≠ heading level text := by
  intro equal
  cases equal

theorem no_table_in_default_blocks (entry : ParameterEntry) (columns : List String)
    (rows : List (List String)) : Block.table columns rows ∉ entry.defaultBlocks := by
  unfold ParameterEntry.defaultBlocks
  split
  · simp [heading_ne_table]
  · exact List.not_mem_nil

theorem table_mem_parameter_blocks (entries : List ParameterEntry) (columns : List String)
    (rows : List (List String)) :
    Block.table columns rows ∈ parameterBlocks entries ↔
      entries ≠ [] ∧ columns = parameterColumns ∧ rows = entries.map ParameterEntry.row := by
  unfold parameterBlocks
  cases entries with
  | nil => simp
  | cons first rest =>
      rw [if_neg (by simp)]
      simp [heading_ne_table, no_table_in_default_blocks]

theorem table_mem_type_entry_blocks (entry : TypeEntry) (columns : List String)
    (rows : List (List String)) :
    Block.table columns rows ∈ entry.blocks ↔
      ∃ properties, entry.body = .object properties ∧ columns = propertyColumns ∧
        rows = properties.map PropertyEntry.row := by
  unfold TypeEntry.blocks
  cases entry.body with
  | object properties => by_cases silent : entry.description = "" <;> simp [silent, heading_ne_table]
  | literalUnion rendered => simp [heading_ne_table]
  | scalarLiteral rendered => simp [heading_ne_table]

theorem table_mem_type_blocks (entries : List TypeEntry) (columns : List String)
    (rows : List (List String)) :
    Block.table columns rows ∈ typeBlocks entries ↔
      ∃ entry ∈ entries, Block.table columns rows ∈ entry.blocks := by
  unfold typeBlocks
  cases entries with
  | nil => simp
  | cons first rest =>
      rw [if_neg (by simp), List.mem_cons, List.mem_flatMap]
      simp only [heading_ne_table, false_or]

theorem table_mem_blocks (manual : Manual) (withParameters withTypes : Bool) (columns : List String)
    (rows : List (List String)) :
    Block.table columns rows ∈ manual.blocks withParameters withTypes ↔
      (withParameters = true ∧ Block.table columns rows ∈ parameterBlocks manual.parameters) ∨
      (withTypes = true ∧ ∃ entry ∈ manual.allTypes, Block.table columns rows ∈ entry.blocks) := by
  unfold Manual.blocks
  rw [List.mem_append, ← table_mem_type_blocks]
  cases withParameters <;> cases withTypes <;> simp

theorem parameter_table_listed (manual : Manual) (withTypes : Bool) (entry : ParameterEntry)
    (member : entry ∈ manual.parameters) :
    Block.table parameterColumns (manual.parameters.map ParameterEntry.row) ∈
      manual.blocks true withTypes := by
  refine (table_mem_blocks _ _ _ _ _).mpr (Or.inl ⟨rfl, ?_⟩)
  exact (table_mem_parameter_blocks _ _ _).mpr ⟨List.ne_nil_of_mem member, rfl, rfl⟩

theorem property_table_listed (manual : Manual) (withParameters : Bool) (entry : TypeEntry)
    (listed : entry ∈ manual.allTypes) (property : PropertyEntry) (owned : property ∈ entry.properties) :
    ∃ properties, entry.body = .object properties ∧ property ∈ properties ∧
      Block.table propertyColumns (properties.map PropertyEntry.row) ∈ manual.blocks withParameters true := by
  cases body : entry.body with
  | literalUnion rendered => simp [TypeEntry.properties, body] at owned
  | scalarLiteral rendered => simp [TypeEntry.properties, body] at owned
  | object properties =>
      have inBody : property ∈ properties := by simpa [TypeEntry.properties, body] using owned
      refine ⟨properties, rfl, inBody, ?_⟩
      refine (table_mem_blocks _ _ _ _ _).mpr (Or.inr ⟨rfl, entry, listed, ?_⟩)
      exact (table_mem_type_entry_blocks _ _ _).mpr ⟨properties, body, rfl, rfl⟩

end TemplateManual
