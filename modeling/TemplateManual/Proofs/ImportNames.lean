import TemplateManual.Proofs.Repeats

set_option autoImplicit false

namespace TemplateManual

namespace Template

def importNames (template : Template) : List String := template.imports.map Import.name

def namespaceNames (template : Template) : List String := template.wildcards.map WildcardImport.name

def ImportsApart (template : Template) : Prop :=
  ∀ name ∈ template.importNames, name ∉ template.namespaceNames

end Template

theorem imported_names_nodup_iff (template : Template) :
    (template.manual.value.importedTypes.map TypeEntry.name).Nodup ↔ template.ImportsApart := by
  have named := import_entries_documents template
  have namespaces := wildcard_entries_documents template
  change ((template.importEntries.value ++ template.wildcardEntries.value).map TypeEntry.name).Nodup ↔ _
  rw [List.map_append, List.nodup_append]
  constructor
  · rintro ⟨_, _, apart⟩ name imported shared
    exact apart name ((named.complete name).mpr imported) name ((namespaces.complete name).mpr shared) rfl
  · intro apart
    refine ⟨named.distinct, namespaces.distinct, ?_⟩
    rintro name imported _ shared rfl
    exact apart name ((named.complete name).mp imported) ((namespaces.complete name).mp shared)

theorem import_entry_origin (template : Template) (entry : TypeEntry)
    (listed : entry ∈ template.importEntries.value) : entry.origin = .imported := by
  obtain ⟨source, _, rfl⟩ := (import_entries_documents template).source entry listed
  exact of_import_origin source

theorem wildcard_entry_origin (template : Template) (entry : TypeEntry)
    (listed : entry ∈ template.wildcardEntries.value) : entry.origin = .wildcard := by
  obtain ⟨source, _, rfl⟩ := (wildcard_entries_documents template).source entry listed
  exact of_wildcard_origin source

theorem import_found_iff (template : Template) (entry : TypeEntry)
    (listed : entry ∈ template.manual.value.importedTypes) :
    template.manual.value.importedTypes.find? (fun other => other.name == entry.name) = some entry ↔
      (entry.origin = .wildcard → entry.name ∉ template.importNames) := by
  have named := import_entries_documents template
  change (template.importEntries.value ++ template.wildcardEntries.value).find? _ = _ ↔ _
  rw [List.find?_append]
  rcases List.mem_append.mp listed with imported | namespaced
  · rw [named.found entry imported, import_entry_origin template entry imported]
    simp
  · have origin := wildcard_entry_origin template entry namespaced
    have later := (wildcard_entries_documents template).found entry namespaced
    by_cases shared : entry.name ∈ template.importNames
    · have before := (find_named_is_some TypeEntry.name _ _).mpr ((named.complete entry.name).mpr shared)
      obtain ⟨other, first⟩ := Option.isSome_iff_exists.mp before
      have otherOrigin := import_entry_origin template other (List.mem_of_find?_eq_some first)
      rw [first, Option.some_or]
      constructor
      · intro same
        rw [Option.some.inj same, origin] at otherOrigin
        cases otherOrigin
      · exact fun free => absurd shared (free origin)
    · have absent : template.importEntries.value.find? (fun other => other.name == entry.name) = none := by
        rw [named.first]
        simpa [Template.importNames] using shared
      rw [absent, Option.none_or, later]
      simp [shared]

theorem repeated_import_reported (template : Template) (name : String)
    (repeated : 1 < template.importNames.count name ∨ 1 < template.namespaceNames.count name) :
    Notice.repeatedName "import" name ∈ template.manual.notices := by
  have imports := extract_all_notices "import" Import.name TypeEntry.name TypeEntry.ofImport
    template.imports of_import_name
  have namespaces := extract_all_notices "import" WildcardImport.name TypeEntry.name TypeEntry.ofWildcard
    template.wildcards of_wildcard_name
  rw [manual_notices]
  rcases repeated with imported | shared
  · apply List.mem_append_left
    apply List.mem_append_right
    rw [Template.importEntries, imports]
    exact List.mem_append_right _ (List.mem_map_of_mem ((mem_repeated_names _ name).mpr imported))
  · apply List.mem_append_right
    rw [Template.wildcardEntries, namespaces]
    exact List.mem_append_right _ (List.mem_map_of_mem ((mem_repeated_names _ name).mpr shared))

-- A name that comes up more than once among all imports is reported, unless it comes up once as a type
-- and once as a namespace.
theorem import_names_distinct_iff_apart (template : Template) :
    ((template.manual.value.importedTypes.map TypeEntry.name).Nodup ↔ template.ImportsApart) ∧
    (∀ entry ∈ template.manual.value.importedTypes,
      template.manual.value.importedTypes.find? (fun other => other.name == entry.name) = some entry ↔
        (entry.origin = .wildcard → entry.name ∉ template.importNames)) ∧
    ∀ name, 1 < (template.importNames ++ template.namespaceNames).count name →
      Notice.repeatedName "import" name ∈ template.manual.notices ∨
        template.importNames.count name = 1 ∧ template.namespaceNames.count name = 1 := by
  refine ⟨imported_names_nodup_iff template, import_found_iff template, ?_⟩
  intro name several
  rw [List.count_append] at several
  by_cases repeated : 1 < template.importNames.count name ∨ 1 < template.namespaceNames.count name
  · exact Or.inl (repeated_import_reported template name repeated)
  · exact Or.inr (by omega)

def repeatedImport : Template :=
  ⟨[], [], [⟨"a", none, some .object⟩, ⟨"a", none, none⟩], [⟨"b", [], some .empty⟩]⟩

theorem repeated_import_kept_apart :
    (repeatedImport.manual.value.importedTypes.map TypeEntry.name).Nodup ∧
      Notice.repeatedName "import" "a" ∈ repeatedImport.manual.notices ∧
      ∃ entry, entry.name = "b" ∧
        repeatedImport.manual.value.importedTypes.find? (fun other => other.name == "b") = some entry := by
  obtain ⟨distinct, found, reported⟩ := import_names_distinct_iff_apart repeatedImport
  have namespaced := List.mem_of_find?_eq_some ((wildcard_entries_documents repeatedImport).first "b")
  have listed := List.mem_append_right repeatedImport.importEntries.value namespaced
  have apart : repeatedImport.ImportsApart := by
    unfold Template.ImportsApart
    decide
  refine ⟨distinct.mpr apart, ?_, _, rfl, (found _ listed).mpr fun _ => by decide⟩
  exact (reported "a" (by decide)).resolve_right (by decide)

-- A type and a namespace of one name: both are listed, and no notice tells of it.
def sharedImportName : Template := ⟨[], [], [⟨"x", none, none⟩], [⟨"x", [], none⟩]⟩

theorem shared_import_name_unreported :
    ¬ (sharedImportName.manual.value.importedTypes.map TypeEntry.name).Nodup ∧
      1 < (sharedImportName.importNames ++ sharedImportName.namespaceNames).count "x" ∧
      ∀ notice ∈ sharedImportName.manual.notices, notice.code ≠ some "E003" := by
  decide +kernel

end TemplateManual
