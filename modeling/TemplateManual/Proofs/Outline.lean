import TemplateManual.Proofs.Consistency
import TemplateManual.Proofs.Layout
import TemplateManual.Settings.Basic

set_option autoImplicit false

namespace TemplateManual

namespace Markdown

structure Heading where
  level : Nat
  text : String
  quoted : Option String
deriving DecidableEq, Repr

def quoteAt : List Block → Option String
  | .quote text :: _ => some text
  | _ => none

def outline : List Block → List Heading
  | [] => []
  | .header level text :: rest => ⟨level, text, quoteAt rest⟩ :: outline rest
  | _ :: rest => outline rest

def Block.header? : Block → Option (Nat × String)
  | .header level text => some (level, text)
  | _ => none

def Block.table? : Block → Option (List String × List (List String))
  | .table columns rows => some (columns, rows)
  | _ => none

theorem outline_headers (blocks : List Block) :
    (outline blocks).map (fun heading => (heading.level, heading.text)) = blocks.filterMap Block.header? := by
  induction blocks with
  | nil => rfl
  | cons block rest ih =>
      cases block with
      | header level text => exact congrArg ((level, text) :: ·) ih
      | _ => exact ih

theorem quote_at_append (front back : List Block) (unquoted : quoteAt back = none) :
    quoteAt (front ++ back) = quoteAt front := by
  cases front with
  | nil => exact unquoted
  | cons block rest => cases block <;> rfl

theorem outline_append (front back : List Block) (unquoted : quoteAt back = none) :
    outline (front ++ back) = outline front ++ outline back := by
  induction front with
  | nil => rfl
  | cons block rest ih =>
      cases block with
      | header level text => simp [outline, quote_at_append rest back unquoted, ih]
      | _ => exact ih

end Markdown

open Markdown

def TypeEntry.sectionHeading (entry : TypeEntry) : Heading :=
  ⟨3, entry.name,
    if entry.isLiteral = false ∧ entry.description ≠ "" then some entry.description else none⟩

def Settings.headings (settings : Settings) (manual : Manual) : List Heading :=
  (settings.title.map fun title => ⟨1, title, none⟩).toList ++
    (if settings.includeUsage ∧ settings.example?.isSome then [⟨2, "Usage", none⟩] else []) ++
    ((if settings.includeParameters ∧ manual.parameters ≠ [] then
        ⟨2, "Parameters", none⟩ ::
          (manual.parameters.filter ParameterEntry.complexDefault).map fun entry => ⟨3, entry.name, none⟩
      else []) ++
      if settings.includeTypes ∧ manual.allTypes ≠ [] then
        ⟨2, "User Defined Types", none⟩ :: manual.allTypes.map TypeEntry.sectionHeading
      else [])

def Settings.tables (settings : Settings) (manual : Manual) : List (List String × List (List String)) :=
  (if settings.includeParameters ∧ manual.parameters ≠ [] then
      [(parameterColumns, manual.parameters.map ParameterEntry.row)]
    else []) ++
    if settings.includeTypes then
      (manual.allTypes.filter fun entry => !entry.isLiteral).map fun entry =>
        (propertyColumns, entry.properties.map PropertyEntry.row)
    else []

theorem outline_default_blocks (entries : List ParameterEntry)
    (agrees : ∀ entry ∈ entries, DefaultAgrees entry) :
    outline (entries.flatMap ParameterEntry.defaultBlocks) =
      (entries.filter ParameterEntry.complexDefault).map fun entry => ⟨3, entry.name, none⟩ := by
  induction entries with
  | nil => rfl
  | cons entry rest ih =>
      have inRest := ih fun other member => agrees other (List.mem_cons_of_mem entry member)
      rw [List.flatMap_cons, List.filter_cons]
      cases complex : entry.complexDefault with
      | false => simpa [ParameterEntry.defaultBlocks, complex] using inRest
      | true =>
          obtain ⟨text, given⟩ :=
            Option.isSome_iff_exists.mp ((agrees entry List.mem_cons_self).complex complex).1
          simp [ParameterEntry.defaultBlocks, complex, given, heading, outline, quoteAt, inRest]

theorem quote_at_type_entries (entries : List TypeEntry) :
    quoteAt (entries.flatMap TypeEntry.blocks) = none := by
  cases entries with
  | nil => rfl
  | cons entry rest =>
      rw [List.flatMap_cons, TypeEntry.blocks]
      cases entry.body <;> rfl

theorem outline_type_entries (entries : List TypeEntry) :
    outline (entries.flatMap TypeEntry.blocks) = entries.map TypeEntry.sectionHeading := by
  induction entries with
  | nil => rfl
  | cons entry rest ih =>
      have next := quote_at_type_entries rest
      rw [List.flatMap_cons, List.map_cons, ← ih, TypeEntry.blocks, TypeEntry.sectionHeading, TypeEntry.isLiteral]
      cases entry.body with
      | object properties =>
          by_cases silent : entry.description = ""
          · simp [silent, heading, outline, quoteAt]
          · simp [silent, heading, outline, quoteAt]
      -- A literal type has nothing under its header, so the next block is the header of the next type.
      | literalUnion rendered => simp [heading, outline, next]
      | scalarLiteral rendered => simp [heading, outline, next]

theorem quote_at_type_section (entries : List TypeEntry) (included : Bool) :
    quoteAt (if included then typeBlocks entries else []) = none := by
  cases included with
  | false => rfl
  | true => cases entries <;> rfl

theorem quote_at_manual_blocks (manual : Manual) (withParameters withTypes : Bool) :
    quoteAt (manual.blocks withParameters withTypes) = none := by
  rw [Manual.blocks, quote_at_append _ _ (quote_at_type_section manual.allTypes withTypes)]
  cases withParameters with
  | false => rfl
  | true =>
      rw [if_pos rfl, parameterBlocks]
      cases manual.parameters <;> rfl

theorem outline_parameter_blocks (entries : List ParameterEntry)
    (agrees : ∀ entry ∈ entries, DefaultAgrees entry) :
    outline (parameterBlocks entries) =
      if entries = [] then []
      else ⟨2, "Parameters", none⟩ ::
        (entries.filter ParameterEntry.complexDefault).map fun entry => ⟨3, entry.name, none⟩ := by
  have below := outline_default_blocks entries agrees
  cases entries with
  | nil => rfl
  | cons first rest =>
      rw [parameterBlocks, if_neg (by simp), if_neg (by simp), ← below]
      simp [heading, outline, quoteAt]

theorem outline_type_blocks (entries : List TypeEntry) :
    outline (typeBlocks entries) =
      if entries = [] then [] else ⟨2, "User Defined Types", none⟩ :: entries.map TypeEntry.sectionHeading := by
  have below := outline_type_entries entries
  have unquoted := quote_at_type_entries entries
  cases entries with
  | nil => rfl
  | cons first rest =>
      rw [typeBlocks, if_neg (by simp), if_neg (by simp), ← below, heading, outline, unquoted]
      rfl

theorem outline_usage_blocks (settings : Settings) (manual : Manual) :
    outline (settings.usageBlocks manual) =
      if settings.includeUsage ∧ settings.example?.isSome then [⟨2, "Usage", none⟩] else [] := by
  unfold Settings.usageBlocks
  cases settings.includeUsage <;> cases settings.example? <;> rfl

theorem outline_blocks (settings : Settings) (manual : Manual)
    (agrees : ∀ entry ∈ manual.parameters, DefaultAgrees entry) :
    outline (settings.blocks manual) = settings.headings manual := by
  have title : outline settings.titleBlocks =
      (settings.title.map fun title => (⟨1, title, none⟩ : Heading)).toList := by
    unfold Settings.titleBlocks
    cases settings.title <;> rfl
  have description : outline settings.descriptionBlocks = [] ∧ quoteAt settings.descriptionBlocks = none := by
    unfold Settings.descriptionBlocks
    cases settings.description <;> exact ⟨rfl, rfl⟩
  have usage : quoteAt (settings.usageBlocks manual) = none := by
    unfold Settings.usageBlocks
    cases settings.includeUsage <;> cases settings.example? <;> rfl
  rw [Settings.blocks, outline_append _ _ (quote_at_manual_blocks manual _ _), outline_append _ _ usage,
    outline_append _ _ description.2, title, description.1, outline_usage_blocks, Manual.blocks,
    outline_append _ _ (quote_at_type_section manual.allTypes _), Settings.headings]
  cases settings.includeParameters <;> cases settings.includeTypes <;>
    simp [outline, outline_parameter_blocks manual.parameters agrees, outline_type_blocks]

theorem tables_of_defaults (entries : List ParameterEntry) :
    (entries.flatMap ParameterEntry.defaultBlocks).filterMap Block.table? = [] := by
  apply List.filterMap_eq_nil_iff.mpr
  intro block member
  obtain ⟨entry, _, inEntry⟩ := List.mem_flatMap.mp member
  cases block with
  | table columns rows => exact absurd inEntry (no_table_in_default_blocks entry columns rows)
  | _ => rfl

theorem tables_of_type (entry : TypeEntry) :
    entry.blocks.filterMap Block.table? =
      if entry.isLiteral then [] else [(propertyColumns, entry.properties.map PropertyEntry.row)] := by
  unfold TypeEntry.blocks TypeEntry.isLiteral TypeEntry.properties
  cases entry.body with
  | object properties =>
      by_cases silent : entry.description = ""
      · rw [if_pos silent]
        rfl
      · rw [if_neg silent]
        rfl
  | literalUnion rendered => rfl
  | scalarLiteral rendered => rfl

theorem tables_of_types (entries : List TypeEntry) :
    (entries.flatMap TypeEntry.blocks).filterMap Block.table? =
      (entries.filter fun entry => !entry.isLiteral).map fun entry =>
        (propertyColumns, entry.properties.map PropertyEntry.row) := by
  induction entries with
  | nil => rfl
  | cons entry rest ih =>
      rw [List.flatMap_cons, List.filterMap_append, ih, tables_of_type, List.filter_cons]
      cases entry.isLiteral <;> rfl

theorem tables_of_parameter_blocks (entries : List ParameterEntry) :
    (parameterBlocks entries).filterMap Block.table? =
      if entries = [] then [] else [(parameterColumns, entries.map ParameterEntry.row)] := by
  have below := tables_of_defaults entries
  cases entries with
  | nil => rfl
  | cons first rest =>
      rw [parameterBlocks, if_neg (by simp), if_neg (by simp)]
      exact congrArg ((parameterColumns, (first :: rest).map ParameterEntry.row) :: ·) below

theorem tables_of_type_blocks (entries : List TypeEntry) :
    (typeBlocks entries).filterMap Block.table? =
      (entries.flatMap TypeEntry.blocks).filterMap Block.table? := by
  cases entries <;> rfl

theorem tables_of_blocks (settings : Settings) (manual : Manual) :
    (settings.blocks manual).filterMap Block.table? = settings.tables manual := by
  have front : (settings.titleBlocks ++ settings.descriptionBlocks ++
      settings.usageBlocks manual).filterMap Block.table? = [] := by
    unfold Settings.titleBlocks Settings.descriptionBlocks Settings.usageBlocks
    cases settings.title <;> cases settings.description <;> cases settings.includeUsage <;>
      cases settings.example? <;> rfl
  rw [Settings.blocks, List.filterMap_append, front, List.nil_append, Manual.blocks, List.filterMap_append,
    Settings.tables]
  cases settings.includeParameters <;> cases settings.includeTypes <;>
    simp [tables_of_parameter_blocks, tables_of_type_blocks, tables_of_types]

theorem rows_fit_columns (settings : Settings) (manual : Manual) :
    ∀ table ∈ settings.tables manual, ∀ row ∈ table.2, row.length = table.1.length := by
  intro table listed row member
  rcases List.mem_append.mp listed with ofParameters | ofTypes
  · split at ofParameters
    · cases List.mem_singleton.mp ofParameters
      obtain ⟨entry, _, rfl⟩ := List.mem_map.mp member
      simp [ParameterEntry.row, parameterColumns]
    · cases ofParameters
  · split at ofTypes
    · obtain ⟨type, _, rfl⟩ := List.mem_map.mp ofTypes
      obtain ⟨property, _, rfl⟩ := List.mem_map.mp member
      simp [PropertyEntry.row, propertyColumns]
    · cases ofTypes

theorem outline_follows_entries (settings : Settings) (template : Template) :
    let manual := template.manual.value
    let blocks := (template.document settings).blocks
    outline blocks = settings.headings manual ∧
    blocks.filterMap Block.header? =
      (settings.headings manual).map (fun heading => (heading.level, heading.text)) ∧
    (manual.parameters.map ParameterEntry.name).Pairwise (· < ·) ∧
    blocks.filterMap Block.table? = settings.tables manual ∧
    ∀ columns rows, Block.table columns rows ∈ blocks → ∀ row ∈ rows, row.length = columns.length := by
  intro manual blocks
  have agrees : ∀ entry ∈ manual.parameters, DefaultAgrees entry := by
    intro entry member
    obtain ⟨parameter, _, rfl⟩ := (parameter_entries_documents template).source entry member
    exact of_parameter_default_agrees template parameter
  have headings : outline blocks = settings.headings manual := outline_blocks settings manual agrees
  have tables : blocks.filterMap Block.table? = settings.tables manual := tables_of_blocks settings manual
  refine ⟨headings, ?_, (parameter_entries_documents template).increasing, tables, ?_⟩
  · rw [← headings, outline_headers]
  · intro columns rows placed
    apply rows_fit_columns settings manual (columns, rows)
    rw [← tables]
    exact List.mem_filterMap.mpr ⟨_, placed, rfl⟩

def tagsTemplate : Template :=
  ⟨[⟨"tags", .object, .other "object", [], some (.ofEntries [("owner", .ofString "team")])⟩],
    [⟨"tier", .stringLiteral "low", .literal (.string "low"), []⟩],
    [⟨"shared", some "Shared tags", some (.objectOf [⟨"owner", .string, none, []⟩])⟩], []⟩

theorem tags_template_outline :
    let document := tagsTemplate.document (Settings.initial.titled "Tags")
    outline document.blocks =
      [⟨1, "Tags", none⟩, ⟨2, "Parameters", none⟩, ⟨3, "tags", none⟩, ⟨2, "User Defined Types", none⟩,
        ⟨3, "tier", none⟩, ⟨3, "shared", some "Shared tags"⟩] ∧
    ∃ rows, Block.table propertyColumns rows ∈ document.blocks ∧ rows.length = 1 ∧
      ∀ row ∈ rows, row.length = 4 := by
  obtain ⟨headings, _, _, _, fit⟩ :=
    outline_follows_entries (Settings.initial.titled "Tags") tagsTemplate
  have placed : Block.table propertyColumns
      [(PropertyEntry.ofType "owner" .string []).value.row] ∈
        (tagsTemplate.document (Settings.initial.titled "Tags")).blocks := by decide +kernel
  exact ⟨headings.trans (by decide +kernel), _, placed, rfl, fit _ _ placed⟩

end TemplateManual
