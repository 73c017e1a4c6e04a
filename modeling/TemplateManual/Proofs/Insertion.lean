import Mathlib.Data.List.Forall2
import TemplateManual.Proofs.NamedTypes

set_option autoImplicit false

namespace TemplateManual

-- The entries with one more among them, between those of smaller and those of greater names.
def Inserts {β : Type} (name : β → String) (added : β) (entries enlarged : List β) : Prop :=
  ∃ before after, entries = before ++ after ∧ enlarged = before ++ added :: after ∧
    (∀ entry ∈ before, name entry < name added) ∧ ∀ entry ∈ after, name added < name entry

theorem increasing_split {β : Type} (name : β → String) (entries : List β) (pivot : String)
    (increasing : entries.Pairwise fun a b => name a < name b) (fresh : pivot ∉ entries.map name) :
    ∃ before after, entries = before ++ after ∧ (∀ entry ∈ before, name entry < pivot) ∧
      ∀ entry ∈ after, pivot < name entry := by
  induction entries with
  | nil => exact ⟨[], [], rfl, by simp, by simp⟩
  | cons entry rest ih =>
      obtain ⟨headBelow, restIncreasing⟩ := List.pairwise_cons.mp increasing
      rw [List.map_cons, List.mem_cons, not_or] at fresh
      by_cases less : name entry < pivot
      · obtain ⟨before, after, rfl, below, above⟩ := ih restIncreasing fresh.2
        exact ⟨entry :: before, after, rfl, List.forall_mem_cons.mpr ⟨less, below⟩, above⟩
      · have greater : pivot < name entry := lt_of_le_of_ne (not_lt.mp less) fresh.1
        refine ⟨[], entry :: rest, rfl, by simp, List.forall_mem_cons.mpr ⟨greater, ?_⟩⟩
        exact fun other member => greater.trans (headBelow other member)

theorem increasing_eq_of_find {β : Type} (name : β → String) (entries others : List β)
    (increasing : entries.Pairwise fun a b => name a < name b)
    (otherIncreasing : others.Pairwise fun a b => name a < name b)
    (same : ∀ wanted, entries.find? (fun item => name item == wanted) =
      others.find? fun item => name item == wanted) : entries = others := by
  have distinct : ∀ list : List β, (list.Pairwise fun a b => name a < name b) → list.Nodup :=
    fun list sorted => sorted.imp fun less equal => less.ne (congrArg name equal)
  have members : ∀ item, item ∈ entries ↔ item ∈ others := by
    intro item
    constructor
    · intro member
      exact List.mem_of_find?_eq_some ((same _).symm.trans (find_of_increasing name entries increasing item member))
    · intro member
      exact List.mem_of_find?_eq_some ((same _).trans (find_of_increasing name others otherIncreasing item member))
  have reordered := (List.perm_ext_iff_of_nodup (distinct _ increasing) (distinct _ otherIncreasing)).mpr members
  refine List.Perm.eq_of_pairwise ?_ increasing otherIncreasing reordered
  intro first second _ _ before after
  exact absurd after before.asymm

theorem find_inserted {α : Type} (name : α → String) (front back : List α) (added : α)
    (fresh : name added ∉ (front ++ back).map name) (wanted : String) :
    (front ++ added :: back).find? (fun item => name item == wanted) =
      if name added = wanted then some added else
        (front ++ back).find? fun item => name item == wanted := by
  rw [List.find?_append, List.find?_append, List.find?_cons]
  by_cases same : name added = wanted
  · have absent : front.find? (fun item => name item == wanted) = none := by
      rw [List.map_append, List.mem_append, not_or] at fresh
      simpa [← same] using fresh.1
    rw [if_pos same, absent, beq_iff_eq.mpr same]
    rfl
  · rw [if_neg same, beq_false_of_ne same]

theorem Documents.unique {α β : Type} {itemName : α → String} {entryName : β → String} {entry : α → β}
    {items : List α} {entries others : List β} (documents : Documents itemName entryName entry items entries)
    (again : Documents itemName entryName entry items others) : entries = others := by
  refine increasing_eq_of_find entryName entries others (List.pairwise_map.mp documents.increasing)
    (List.pairwise_map.mp again.increasing) ?_
  intro wanted
  rw [documents.first, again.first]

theorem Documents.inserts {α β : Type} {itemName : α → String} {entryName : β → String} {entry : α → β}
    {front back : List α} {added : α} {entries enlarged : List β}
    (documents : Documents itemName entryName entry (front ++ back) entries)
    (larger : Documents itemName entryName entry (front ++ added :: back) enlarged)
    (named : entryName (entry added) = itemName added)
    (fresh : itemName added ∉ (front ++ back).map itemName) :
    Inserts entryName (entry added) entries enlarged := by
  have increasing := List.pairwise_map.mp documents.increasing
  have freshEntry : entryName (entry added) ∉ entries.map entryName := by
    rw [named, documents.complete]
    exact fresh
  obtain ⟨before, after, rfl, below, above⟩ :=
    increasing_split entryName entries (entryName (entry added)) increasing freshEntry
  refine ⟨before, after, rfl, larger.unique ?_, below, above⟩
  apply documents_of_find
  · obtain ⟨left, right, across⟩ := List.pairwise_append.mp increasing
    refine List.pairwise_append.mpr ⟨left, List.pairwise_cons.mpr ⟨above, right⟩, ?_⟩
    intro first member second later
    rcases List.mem_cons.mp later with rfl | later
    · exact below first member
    · exact across first member second later
  · intro wanted
    rw [find_inserted entryName before after _ freshEntry, find_inserted itemName front back added fresh,
      documents.first, named]
    by_cases same : itemName added = wanted
    · rw [if_pos same, if_pos same, Option.map_some]
    · rw [if_neg same, if_neg same]

theorem extract_all_inserts {α β : Type} (scope : String) (itemName : α → String)
    (entryName : β → String) (entry : α → Noted β) (items front back : List α) (added : α)
    (named : ∀ item, entryName (entry item).value = itemName item) (split : items = front ++ back)
    (fresh : itemName added ∉ items.map itemName) :
    Inserts entryName (entry added).value (extractAll scope entryName entry items).value
      (extractAll scope entryName entry (front ++ added :: back)).value := by
  subst split
  exact (extract_all_documents scope itemName entryName entry (front ++ back) named).inserts
    (extract_all_documents scope itemName entryName entry (front ++ added :: back) named) (named added) fresh

def WrittenType.RefersTo (written : WrittenType) (name : String) : Prop :=
  written.form = .reference name ∨ ∃ text, written.form = .nullable ⟨text, .reference name⟩

theorem referenced_name_iff (written : WrittenType) (name : String) :
    written.referencedName? = some name ↔ written.RefersTo name := by
  unfold WrittenType.referencedName? WrittenType.RefersTo
  split <;> simp_all

-- The entry of a parameter before and after a type of that name came to be known.
def Template.Retyped (template : Template) (typeName : String) (old new : ParameterEntry) : Prop :=
  ∃ parameter, template.parameters.find? (fun parameter => parameter.name == old.name) = some parameter ∧
    ((¬ parameter.declared.RefersTo typeName ∧ new = old) ∨
      (parameter.declared.RefersTo typeName ∧ new = { old with
        typeText := typeName, userDefined := true, allowed := none, largeSet := false }))

namespace Template

def retype (template : Template) (typeName : String) (entry : ParameterEntry) : ParameterEntry :=
  if ((template.parameters.find? fun parameter => parameter.name == entry.name).bind
      fun parameter => parameter.declared.referencedName?) = some typeName then entry.nameType typeName
  else entry

structure LearnsType (template enlarged : Template) (typeName : String) : Prop where
  parameters : enlarged.parameters = template.parameters
  unknown : template.declaresType typeName = false
  known : ∀ name, enlarged.declaresType name = (name == typeName || template.declaresType name)

end Template

theorem retype_name (template : Template) (typeName : String) (entry : ParameterEntry) :
    (template.retype typeName entry).name = entry.name := by
  unfold Template.retype
  split <;> rfl

theorem of_parameter_retyped (template enlarged : Template) (typeName : String) (parameter : Parameter)
    (learns : template.LearnsType enlarged typeName) :
    (ParameterEntry.ofParameter enlarged parameter).value =
      if parameter.declared.referencedName? = some typeName then
        (ParameterEntry.ofParameter template parameter).value.nameType typeName
      else (ParameterEntry.ofParameter template parameter).value := by
  unfold ParameterEntry.ofParameter
  cases refers : parameter.declared.referencedName? with
  | none => rfl
  | some name =>
      simp only [Option.filter_some, learns.known, Option.some.injEq]
      by_cases same : name = typeName
      · simp [same, learns.unknown]
      · rw [if_neg same, beq_false_of_ne same, Bool.false_or]

theorem retype_of_parameter (template enlarged : Template) (typeName : String) (parameter : Parameter)
    (learns : template.LearnsType enlarged typeName)
    (first : template.parameters.find? (fun other => other.name == parameter.name) = some parameter) :
    template.retype typeName (ParameterEntry.ofParameter template parameter).value =
      (ParameterEntry.ofParameter enlarged parameter).value := by
  rw [of_parameter_retyped template enlarged typeName parameter learns, Template.retype, of_parameter_name,
    first, Option.bind_some]

theorem parameter_entries_retyped (template enlarged : Template) (typeName : String)
    (learns : template.LearnsType enlarged typeName) :
    enlarged.parameterEntries.value = template.parameterEntries.value.map (template.retype typeName) := by
  have documents := parameter_entries_documents template
  have larger := parameter_entries_documents enlarged
  rw [learns.parameters] at larger
  apply larger.unique
  apply documents_of_find
  · refine List.pairwise_map.mpr ((List.pairwise_map.mp documents.increasing).imp ?_)
    intro first second less
    rw [retype_name, retype_name]
    exact less
  · intro wanted
    rw [List.find?_map]
    simp only [Function.comp_def, retype_name]
    rw [documents.first, Option.map_map]
    cases found : template.parameters.find? (fun parameter => parameter.name == wanted) with
    | none => rfl
    | some parameter =>
        have name : parameter.name = wanted := by simpa using List.find?_some found
        rw [Option.map_some, Option.map_some, Function.comp_apply,
          retype_of_parameter template enlarged typeName parameter learns (name ▸ found)]

theorem parameters_retyped (template enlarged : Template) (typeName : String)
    (learns : template.LearnsType enlarged typeName) :
    List.Forall₂ (template.Retyped typeName) template.parameterEntries.value
      enlarged.parameterEntries.value := by
  rw [parameter_entries_retyped template enlarged typeName learns, List.forall₂_map_right_iff,
    List.forall₂_same]
  intro old listed
  obtain ⟨parameter, first, _⟩ := (parameter_entries_documents template).source old listed
  refine ⟨parameter, first, ?_⟩
  rw [Template.retype, first, Option.bind_some, ← referenced_name_iff]
  by_cases refers : parameter.declared.referencedName? = some typeName
  · exact Or.inr ⟨refers, if_pos refers⟩
  · exact Or.inl ⟨refers, if_neg refers⟩

theorem learns_of_perm (template enlarged : Template) (typeName : String)
    (parameters : enlarged.parameters = template.parameters) (fresh : template.declaresType typeName = false)
    (names : (enlarged.typeNames ++ enlarged.importNames).Perm
      (typeName :: (template.typeNames ++ template.importNames))) :
    template.LearnsType enlarged typeName where
  parameters := parameters
  unknown := fresh
  known := by
    intro name
    rw [Bool.eq_iff_iff, Bool.or_eq_true, beq_iff_eq, declares_type_iff, declares_type_iff, ← List.mem_append,
      ← List.mem_append, ← List.mem_cons]
    exact names.mem_iff

theorem learns_declared (template : Template) (front back : List TypeDecl) (decl : TypeDecl)
    (types : template.types = front ++ back) (fresh : template.declaresType decl.name = false) :
    template.LearnsType { template with types := front ++ decl :: back } decl.name := by
  refine learns_of_perm template _ decl.name rfl fresh ?_
  simp only [Template.typeNames, Template.importNames, types]
  exact (List.perm_middle.map TypeDecl.name).append_right _

theorem learns_imported (template : Template) (front back : List Import) (entry : Import)
    (imports : template.imports = front ++ back) (fresh : template.declaresType entry.name = false) :
    template.LearnsType { template with imports := front ++ entry :: back } entry.name := by
  refine learns_of_perm template _ entry.name rfl fresh ?_
  simp only [Template.typeNames, Template.importNames, imports]
  exact ((List.perm_middle.map Import.name).append_left _).trans List.perm_middle

theorem undeclared_of_fresh (template : Template) (name : String) (noType : name ∉ template.typeNames)
    (noImport : name ∉ template.importNames) : template.declaresType name = false := by
  rw [← Bool.not_eq_true, declares_type_iff, not_or]
  exact ⟨noType, noImport⟩

-- A new name is one that neither a declared nor an imported type has; for a namespace only the names of
-- namespaces count.
theorem insertion_stands_alone (template : Template) :
    (∀ front back parameter, template.parameters = front ++ back →
      parameter.name ∉ template.parameters.map Parameter.name →
      ∃ parameters, ({ template with parameters := front ++ parameter :: back }).manual.value =
          ⟨parameters, template.manual.value.declaredTypes, template.manual.value.importedTypes⟩ ∧
        Inserts ParameterEntry.name (ParameterEntry.ofParameter template parameter).value
          template.manual.value.parameters parameters) ∧
    (∀ front back decl, template.types = front ++ back →
      decl.name ∉ template.typeNames → decl.name ∉ template.importNames →
      ∃ parameters declared, ({ template with types := front ++ decl :: back }).manual.value =
          ⟨parameters, declared, template.manual.value.importedTypes⟩ ∧
        List.Forall₂ (template.Retyped decl.name) template.manual.value.parameters parameters ∧
        Inserts TypeEntry.name (TypeEntry.ofDecl decl).value template.manual.value.declaredTypes declared) ∧
    (∀ front back entry, template.imports = front ++ back →
      entry.name ∉ template.typeNames → entry.name ∉ template.importNames →
      ∃ parameters named, ({ template with imports := front ++ entry :: back }).manual.value =
          ⟨parameters, template.manual.value.declaredTypes, named ++ template.wildcardEntries.value⟩ ∧
        List.Forall₂ (template.Retyped entry.name) template.manual.value.parameters parameters ∧
        Inserts TypeEntry.name (TypeEntry.ofImport entry).value template.importEntries.value named) ∧
    ∀ front back entry, template.wildcards = front ++ back → entry.name ∉ template.namespaceNames →
      ∃ namespaces, ({ template with wildcards := front ++ entry :: back }).manual.value =
          ⟨template.manual.value.parameters, template.manual.value.declaredTypes,
            template.importEntries.value ++ namespaces⟩ ∧
        Inserts TypeEntry.name (TypeEntry.ofWildcard entry).value template.wildcardEntries.value
          namespaces := by
  refine ⟨?_, ?_, ?_, ?_⟩
  · intro front back parameter parameters fresh
    exact ⟨_, rfl, extract_all_inserts _ _ _ _ _ _ _ _ (of_parameter_name template) parameters fresh⟩
  · intro front back decl types noType noImport
    have fresh := undeclared_of_fresh template decl.name noType noImport
    exact ⟨_, _, rfl, parameters_retyped template _ _ (learns_declared template front back decl types fresh),
      extract_all_inserts _ _ _ _ _ _ _ _ of_decl_name types noType⟩
  · intro front back entry imports noType noImport
    have fresh := undeclared_of_fresh template entry.name noType noImport
    exact ⟨_, _, rfl, parameters_retyped template _ _ (learns_imported template front back entry imports fresh),
      extract_all_inserts _ _ _ _ _ _ _ _ of_import_name imports noImport⟩
  · intro front back entry wildcards fresh
    exact ⟨_, rfl, extract_all_inserts _ _ _ _ _ _ _ _ of_wildcard_name wildcards fresh⟩

def missingType : Template :=
  ⟨[⟨"p", .string, .reference "t", [], none⟩, ⟨"p", .int, .other "int", [], none⟩],
    [⟨"s", .int, .other "int", []⟩], [⟨"u", none, none⟩], [⟨"n", [], none⟩]⟩

theorem insertion_around_missing_type :
    Inserts ParameterEntry.name (ParameterEntry.ofParameter missingType (.ofType "q" .bool)).value
      missingType.manual.value.parameters
      { missingType with parameters := .ofType "q" .bool :: missingType.parameters }.manual.value.parameters ∧
    List.Forall₂ (missingType.Retyped "t") missingType.manual.value.parameters
      { missingType with types := ⟨"t", .int, .other "int", []⟩ :: missingType.types }.manual.value.parameters ∧
    List.Forall₂ (missingType.Retyped "t") missingType.manual.value.parameters
      { missingType with imports := ⟨"t", none, none⟩ :: missingType.imports }.manual.value.parameters ∧
    { missingType with wildcards := ⟨"s", [], none⟩ :: missingType.wildcards }.manual.value.declaredTypes =
      missingType.manual.value.declaredTypes := by
  obtain ⟨parameter, declared, imported, wildcard⟩ := insertion_stands_alone missingType
  obtain ⟨parameters, enlarged, added⟩ := parameter [] _ (.ofType "q" .bool) rfl (by decide)
  obtain ⟨retyped, _, typed, changed, _⟩ :=
    declared [] _ ⟨"t", .int, .other "int", []⟩ rfl (by decide) (by decide)
  obtain ⟨renamed, _, known, alsoChanged, _⟩ :=
    imported [] _ ⟨"t", none, none⟩ rfl (by decide) (by decide)
  obtain ⟨_, opened, _⟩ := wildcard [] _ ⟨"s", [], none⟩ rfl (by decide)
  obtain rfl : _ = parameters := congrArg Manual.parameters enlarged
  obtain rfl : _ = retyped := congrArg Manual.parameters typed
  obtain rfl : _ = renamed := congrArg Manual.parameters known
  have kept := congrArg Manual.declaredTypes opened
  exact ⟨added, changed, alsoChanged, kept⟩

end TemplateManual
