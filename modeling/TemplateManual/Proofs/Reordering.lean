import Mathlib.Data.List.Forall2
import Mathlib.Data.List.Perm.Basic
import TemplateManual.Proofs.Repeats
import TemplateManual.Settings.Basic

set_option autoImplicit false

namespace TemplateManual

structure Noted.Alike {α : Type} (first second : Noted α) : Prop where
  value : first.value = second.value
  notices : first.notices.Perm second.notices

namespace Noted

theorem alike_refl {α : Type} (noted : Noted α) : noted.Alike noted := ⟨rfl, List.Perm.refl _⟩

theorem alike_bind {α β : Type} {first second : Noted α} {f g : α → Noted β}
    (alike : first.Alike second) (next : ∀ value, (f value).Alike (g value)) :
    (first >>= f).Alike (second >>= g) := by
  have onward := next first.value
  constructor
  · change (f first.value).value = (g second.value).value
    rw [← alike.value]
    exact onward.value
  · change (first.notices ++ (f first.value).notices).Perm (second.notices ++ (g second.value).notices)
    rw [← alike.value]
    exact alike.notices.append onward.notices

end Noted

theorem sort_unique_reordered {α : Type} (scope : String) (name : α → String) (items others : List α)
    (distinct : (items.map name).Nodup) (reordered : items.Perm others) :
    (sortUnique scope name items).Alike (sortUnique scope name others) where
  value := by
    have otherDistinct := (reordered.map name).nodup_iff.mp distinct
    have kept := ((sort_unique_keeps_all scope name items distinct).trans reordered).trans
      (sort_unique_keeps_all scope name others otherDistinct).symm
    refine List.Perm.eq_of_pairwise ?_ (sort_unique_increasing scope name items)
      (sort_unique_increasing scope name others) kept
    intro first second _ _ before after
    exact absurd after before.asymm
  notices := by
    rw [sort_unique_notices, sort_unique_notices]
    exact (repeated_names_perm _ _ (reordered.map name)).map _

theorem extract_all_reordered {α β : Type} (scope : String) (itemName : α → String)
    (entryName : β → String) (entry : α → Noted β) (items others : List α)
    (named : ∀ item, entryName (entry item).value = itemName item)
    (distinct : (items.map itemName).Nodup)
    (values : (items.map fun item => (entry item).value).Perm (others.map fun item => (entry item).value))
    (notices : (items.flatMap fun item => (entry item).notices).Perm
      (others.flatMap fun item => (entry item).notices)) :
    (extractAll scope entryName entry items).Alike (extractAll scope entryName entry others) := by
  have names : ((items.map fun item => (entry item).value).map entryName).Nodup := by
    simpa only [List.map_map, Function.comp_def, named] using distinct
  have sorted := sort_unique_reordered scope entryName _ _ names values
  rw [← Noted.each_value, ← Noted.each_value] at sorted
  rw [← Noted.each_notices, ← Noted.each_notices] at notices
  exact ⟨sorted.value, notices.append sorted.notices⟩

theorem extract_all_perm {α β : Type} (scope : String) (itemName : α → String) (entryName : β → String)
    (entry : α → Noted β) (items others : List α)
    (named : ∀ item, entryName (entry item).value = itemName item)
    (distinct : (items.map itemName).Nodup) (reordered : items.Perm others) :
    (extractAll scope entryName entry items).Alike (extractAll scope entryName entry others) :=
  extract_all_reordered scope itemName entryName entry items others named distinct (reordered.map _)
    (reordered.flatMap fun _ _ => List.Perm.refl _)

structure WildcardImport.Reordered (first second : WildcardImport) : Prop where
  name : first.name = second.name
  decorators : first.decorators = second.decorators
  exports : Option.Rel (fun listed others => listed.entries.Perm others.entries) first.exports second.exports

namespace Template

structure Reordered (first second : Template) : Prop where
  parameters : first.parameters.Perm second.parameters
  types : first.types.Perm second.types
  imports : first.imports.Perm second.imports
  wildcards : ∃ order, first.wildcards.Perm order ∧
    List.Forall₂ WildcardImport.Reordered order second.wildcards

structure DistinctNames (template : Template) : Prop where
  parameters : (template.parameters.map Parameter.name).Nodup
  types : (template.types.map TypeDecl.name).Nodup
  imports : (template.imports.map Import.name).Nodup
  wildcards : (template.wildcards.map WildcardImport.name).Nodup

end Template

theorem of_wildcard_reordered (first second : WildcardImport) (reordered : first.Reordered second) :
    (TypeEntry.ofWildcard first).Alike (TypeEntry.ofWildcard second) := by
  obtain ⟨name, decorators, exports⟩ := first
  obtain ⟨otherName, otherDecorators, otherExports⟩ := second
  obtain ⟨sameName, sameDecorators, related⟩ := reordered
  cases sameName
  cases sameDecorators
  cases related with
  | none => exact Noted.alike_refl _
  | @some listed others permuted =>
      have names : ((Export.members listed).map Member.name).Nodup := by
        rw [Export.members, List.map_map]
        exact listed.distinct
      have members := extract_all_perm name Member.name PropertyEntry.name PropertyEntry.ofMember _ _
        of_member_name names (permuted.map _)
      exact Noted.alike_bind members fun _ => Noted.alike_refl _

theorem declares_type_reordered (first second : Template) (reordered : first.Reordered second) :
    first.declaresType = second.declaresType := by
  funext name
  unfold Template.declaresType
  rw [reordered.types.any_eq, reordered.imports.any_eq]

theorem of_parameter_reordered (first second : Template) (reordered : first.Reordered second) :
    ParameterEntry.ofParameter first = ParameterEntry.ofParameter second := by
  funext parameter
  unfold ParameterEntry.ofParameter
  rw [declares_type_reordered first second reordered]

theorem parameter_entries_reordered (first second : Template) (distinct : first.DistinctNames)
    (reordered : first.Reordered second) :
    first.parameterEntries.Alike second.parameterEntries := by
  unfold Template.parameterEntries
  rw [← of_parameter_reordered first second reordered]
  exact extract_all_perm _ _ _ _ _ _ (of_parameter_name first) distinct.parameters reordered.parameters

theorem forall_alike {α β : Type} (entry : α → Noted β) (items others : List α)
    (alike : List.Forall₂ (fun item other => (entry item).Alike (entry other)) items others) :
    (items.map fun item => (entry item).value) = (others.map fun item => (entry item).value) ∧
      (items.flatMap fun item => (entry item).notices).Perm
        (others.flatMap fun item => (entry item).notices) := by
  induction alike with
  | nil => exact ⟨rfl, List.Perm.refl _⟩
  | cons here _ ih =>
      rw [List.map_cons, List.map_cons, List.flatMap_cons, List.flatMap_cons, here.value, ih.1]
      exact ⟨rfl, here.notices.append ih.2⟩

theorem wildcard_entries_reordered (first second : Template) (distinct : first.DistinctNames)
    (reordered : first.Reordered second) :
    first.wildcardEntries.Alike second.wildcardEntries := by
  obtain ⟨order, permuted, related⟩ := reordered.wildcards
  obtain ⟨values, notices⟩ := forall_alike TypeEntry.ofWildcard order second.wildcards
    (related.imp of_wildcard_reordered)
  refine extract_all_reordered _ _ _ _ _ _ of_wildcard_name distinct.wildcards ?_ ?_
  · rw [← values]
    exact permuted.map _
  · exact (permuted.flatMap fun _ _ => List.Perm.refl _).trans notices

theorem manual_reordered (first second : Template) (distinct : first.DistinctNames)
    (reordered : first.Reordered second) : first.manual.Alike second.manual := by
  have types : first.typeEntries.Alike second.typeEntries :=
    extract_all_perm _ _ _ _ _ _ of_decl_name distinct.types reordered.types
  have imports : first.importEntries.Alike second.importEntries :=
    extract_all_perm _ _ _ _ _ _ of_import_name distinct.imports reordered.imports
  unfold Template.manual
  refine Noted.alike_bind (parameter_entries_reordered first second distinct reordered) fun _ => ?_
  refine Noted.alike_bind types fun _ => Noted.alike_bind imports fun _ => ?_
  exact Noted.alike_bind (wildcard_entries_reordered first second distinct reordered) fun _ =>
    Noted.alike_refl _

theorem order_of_declarations_irrelevant (first second : Template) (distinct : first.DistinctNames)
    (reordered : first.Reordered second) :
    first.manual.value = second.manual.value ∧ first.manual.notices.Perm second.manual.notices ∧
      ∀ settings, (first.document settings).manual = (second.document settings).manual ∧
        (first.document settings).blocks = (second.document settings).blocks ∧
        (first.document settings).markdown = (second.document settings).markdown ∧
        (first.document settings).notices.Perm (second.document settings).notices := by
  obtain ⟨value, notices⟩ := manual_reordered first second distinct reordered
  refine ⟨value, notices, fun settings => ⟨value, ?_, ?_, notices⟩⟩
  · exact congrArg settings.blocks value
  · exact congrArg (fun manual => Markdown.document (settings.blocks manual)) value

def ordered : Template :=
  ⟨[.ofType "a" .string, ⟨"b", .unresolved "t", .reference "t", [], none⟩],
    [⟨"s", .int, .other "int", []⟩, ⟨"t", .objectOf [⟨"m", .bool, none, []⟩], .other "object", []⟩],
    [⟨"h", none, some .object⟩, ⟨"i", none, none⟩],
    [⟨"v", [], some { entries := [("x", ⟨.unresolved "z", none⟩), ("y", ⟨.int, none⟩)] }⟩, ⟨"w", [], none⟩]⟩

def rearranged : Template :=
  ⟨[⟨"b", .unresolved "t", .reference "t", [], none⟩, .ofType "a" .string],
    [⟨"t", .objectOf [⟨"m", .bool, none, []⟩], .other "object", []⟩, ⟨"s", .int, .other "int", []⟩],
    [⟨"i", none, none⟩, ⟨"h", none, some .object⟩],
    [⟨"w", [], none⟩, ⟨"v", [], some { entries := [("y", ⟨.int, none⟩), ("x", ⟨.unresolved "z", none⟩)] }⟩]⟩

theorem rearranged_alike :
    ordered.DistinctNames ∧ ordered.Reordered rearranged ∧
      ordered.manual.value = rearranged.manual.value ∧
      ordered.manual.notices.Perm rearranged.manual.notices ∧
      (ordered.document .initial).markdown = (rearranged.document .initial).markdown := by
  have distinct : ordered.DistinctNames := ⟨by decide, by decide, by decide, by decide⟩
  have reordered : ordered.Reordered rearranged := by
    refine ⟨.swap _ _ _, .swap _ _ _, .swap _ _ _, _, .swap _ _ _, .cons ?_ (.cons ?_ .nil)⟩
    · exact ⟨rfl, rfl, .none⟩
    · exact ⟨rfl, rfl, .some (.swap _ _ _)⟩
  obtain ⟨value, notices, documents⟩ :=
    order_of_declarations_irrelevant ordered rearranged distinct reordered
  exact ⟨distinct, reordered, value, notices, (documents .initial).2.2.1⟩

end TemplateManual
