import Mathlib.Algebra.BigOperators.Group.List.Basic
import Mathlib.Algebra.GroupWithZero.Nat
import TemplateManual.Proofs.Repeats
import TemplateManual.Proofs.Survey

set_option autoImplicit false

namespace TemplateManual

namespace DataType

def isUnresolved (type : DataType) : Bool :=
  match type.shape with
  | .reference _ none => true
  | _ => false

def isNameOnly (type : DataType) : Bool :=
  match type.shape with
  | .other _ => true
  | _ => false

def isReported (severity : Severity) (type : DataType) : Bool :=
  match severity with
  | .warning => type.core.isUnresolved
  | .info => type.core.isNameOnly

end DataType

def TypeDecl.isLiteral (decl : TypeDecl) : Bool :=
  match decl.value.form with
  | .union _ | .literal _ => true
  | _ => false

def TypeDecl.documented? (decl : TypeDecl) : Option (List Member) :=
  if decl.isLiteral then none else decl.type.objectMembers?

def Import.documented? (entry : Import) : Option (List Member) :=
  entry.exported.bind DataType.objectMembers?

def WildcardImport.documented? (entry : WildcardImport) : Option (List Member) :=
  entry.exports.map Export.members

namespace Template

def memberLists (template : Template) : List (List Member) :=
  template.types.filterMap TypeDecl.documented? ++ template.imports.filterMap Import.documented? ++
    template.wildcards.filterMap WildcardImport.documented?

-- The types of all parameters and documented members, repeated names included.
def entryTypes (template : Template) : List DataType :=
  template.parameters.map Parameter.type ++ template.memberLists.flatten.map Member.type

end Template

namespace Notice

def tally (severity : Severity) (notices : List Notice) : Nat :=
  notices.countP fun notice => notice.severity = severity

theorem tally_append (severity : Severity) (first second : List Notice) :
    tally severity (first ++ second) = tally severity first + tally severity second :=
  List.countP_append

theorem tally_each {α : Type} (severity : Severity) (notices : α → List Notice) (items : List α) :
    tally severity (items.flatMap notices) = (items.map fun item => tally severity (notices item)).sum :=
  List.countP_flatMap

theorem tally_repeated (severity : Severity) (scope : String) (names : List String) :
    tally severity (names.map (repeatedName scope)) = if severity = .warning then names.length else 0 := by
  unfold tally
  rw [List.countP_map]
  cases severity with
  | warning => exact List.countP_eq_length.mpr fun _ _ => rfl
  | info => exact List.countP_eq_zero.mpr fun _ _ => by simp [repeatedName]

end Notice

theorem sum_to_nat {α : Type} (holds : α → Bool) (items : List α) :
    (items.map fun item => (holds item).toNat).sum = items.countP holds := by
  induction items with
  | nil => rfl
  | cons item rest ih =>
      rw [List.map_cons, List.sum_cons, ih]
      cases held : holds item <;> simp [held, Nat.add_comm]

theorem sum_present {α β : Type} (part? : α → Option β) (weight : β → Nat) (items : List α) :
    (items.map fun item => ((part? item).map weight).getD 0).sum =
      ((items.filterMap part?).map weight).sum := by
  induction items with
  | nil => rfl
  | cons item rest ih =>
      rw [List.map_cons, List.sum_cons, ih]
      cases found : part? item <;> simp [found]

theorem extract_all_tally {α β : Type} (severity : Severity) (scope : String) (itemName : α → String)
    (entryName : β → String) (entry : α → Noted β) (items : List α)
    (named : ∀ item, entryName (entry item).value = itemName item) :
    Notice.tally severity (extractAll scope entryName entry items).notices =
      (items.map fun item => Notice.tally severity (entry item).notices).sum +
        if severity = .warning then surplus (items.map itemName) else 0 := by
  rw [extract_all_notices scope itemName entryName entry items named, Notice.tally_append,
    Notice.tally_each, Notice.tally_repeated, length_repeated_names]

theorem finding_tally (severity : Severity) (symbol : String) (type : DataType) :
    Notice.tally severity ((type.finding?.map (Finding.notice symbol)).toList) =
      match severity with
      | .warning => type.isUnresolved.toNat
      | .info => type.isNameOnly.toNat := by
  obtain ⟨shape, secure⟩ := type
  cases shape with
  | reference name target => cases target <;> cases severity <;> rfl
  | _ => cases severity <;> rfl

theorem of_type_tally (severity : Severity) (name : String) (type : DataType)
    (decorators : List Decorator) :
    Notice.tally severity (PropertyEntry.ofType name type decorators).notices =
      (type.isReported severity).toNat := by
  change Notice.tally severity ((type.survey.finding.map (Finding.notice name)).toList) = _
  rw [DataType.survey_finding, finding_tally]
  cases severity <;> rfl

def memberTally (severity : Severity) (members : List Member) : Nat :=
  members.countP (fun member => member.type.isReported severity) +
    if severity = .warning then surplus (members.map Member.name) else 0

theorem of_members_tally (severity : Severity) (owner : String) (members : List Member) :
    Notice.tally severity (PropertyEntry.ofMembers owner members).notices =
      memberTally severity members := by
  have each : ∀ member, Notice.tally severity (PropertyEntry.ofMember member).notices =
      (member.type.isReported severity).toNat :=
    fun member => of_type_tally severity member.name member.type member.decorators
  unfold PropertyEntry.ofMembers memberTally
  rw [extract_all_tally severity owner Member.name PropertyEntry.name _ members of_member_name]
  simp only [each]
  rw [sum_to_nat fun member : Member => member.type.isReported severity]

-- A list of declarations: what their documented members add, and those declarations that are reported
-- themselves.
theorem declarations_tally {α β : Type} (severity : Severity) (scope : String) (itemName : α → String)
    (entryName : β → String) (entry : α → Noted β) (documented? : α → Option (List Member))
    (reported : α → Bool) (named : ∀ item, entryName (entry item).value = itemName item)
    (each : ∀ item, Notice.tally severity (entry item).notices =
      ((documented? item).map (memberTally severity)).getD 0 + (reported item).toNat) (items : List α) :
    Notice.tally severity (extractAll scope entryName entry items).notices =
      ((items.filterMap documented?).map (memberTally severity)).sum + items.countP reported +
        if severity = .warning then surplus (items.map itemName) else 0 := by
  rw [extract_all_tally severity scope itemName entryName entry items named]
  simp only [each]
  rw [List.sum_map_add, sum_present, sum_to_nat]

theorem of_parameter_tally (severity : Severity) (template : Template) (parameter : Parameter) :
    Notice.tally severity (ParameterEntry.ofParameter template parameter).notices =
      (parameter.type.isReported severity).toNat := by
  rw [of_parameter_notices, of_type_tally severity parameter.name parameter.type parameter.decorators]

theorem documented_tally (severity : Severity) (owner : String) (type : DataType) (notice : Notice)
    (informs : notice.severity = .info) :
    Notice.tally severity (TypeEntry.documented owner type notice).notices =
      (type.objectMembers?.map (memberTally severity)).getD 0 +
        (match severity with
          | .warning => false
          | .info => type.objectMembers?.isNone).toNat := by
  unfold TypeEntry.documented
  cases type.objectMembers? with
  | some members => cases severity <;> exact of_members_tally _ owner members
  | none => cases severity <;> simp [Notice.tally, informs]

def TypeDecl.isReported (severity : Severity) (decl : TypeDecl) : Bool :=
  match severity with
  | .warning => false
  | .info => !decl.isLiteral && decl.type.objectMembers?.isNone

def Import.isReported (severity : Severity) (entry : Import) : Bool :=
  match severity with
  | .warning => entry.exported.isNone
  | .info => entry.exported.any fun type => type.objectMembers?.isNone

def WildcardImport.isReported (severity : Severity) (entry : WildcardImport) : Bool :=
  match severity with
  | .warning => entry.exports.isNone
  | .info => false

theorem of_decl_notices (decl : TypeDecl) :
    (TypeEntry.ofDecl decl).notices =
      if decl.isLiteral then []
      else (TypeEntry.documented decl.name decl.type (.notAnObject decl.name decl.type.text)).notices := by
  unfold TypeEntry.ofDecl TypeDecl.isLiteral
  cases decl.value.form with
  | union alternatives => rfl
  | literal value => rfl
  | _ => exact List.append_nil _

theorem of_decl_tally (severity : Severity) (decl : TypeDecl) :
    Notice.tally severity (TypeEntry.ofDecl decl).notices =
      (decl.documented?.map (memberTally severity)).getD 0 + (decl.isReported severity).toNat := by
  rw [of_decl_notices]
  unfold TypeDecl.documented? TypeDecl.isReported
  cases decl.isLiteral with
  | true => cases severity <;> rfl
  | false =>
      have shown := documented_tally severity decl.name decl.type
        (.notAnObject decl.name decl.type.text) rfl
      cases severity <;> exact shown

theorem of_import_tally (severity : Severity) (entry : Import) :
    Notice.tally severity (TypeEntry.ofImport entry).notices =
      (entry.documented?.map (memberTally severity)).getD 0 + (entry.isReported severity).toNat := by
  unfold TypeEntry.ofImport Import.documented? Import.isReported
  cases entry.exported with
  | none => cases severity <;> rfl
  | some type =>
      have shown := documented_tally severity entry.name type
        (.importNotAnObject entry.name type.text) rfl
      change Notice.tally severity ((TypeEntry.documented entry.name type _).notices ++ []) = _
      rw [List.append_nil, shown]
      cases severity <;> rfl

theorem of_wildcard_tally (severity : Severity) (entry : WildcardImport) :
    Notice.tally severity (TypeEntry.ofWildcard entry).notices =
      (entry.documented?.map (memberTally severity)).getD 0 + (entry.isReported severity).toNat := by
  unfold TypeEntry.ofWildcard WildcardImport.documented? WildcardImport.isReported
  cases entry.exports with
  | none => cases severity <;> rfl
  | some exports =>
      have shown := of_members_tally severity entry.name (Export.members exports)
      change Notice.tally severity ((PropertyEntry.ofMembers entry.name _).notices ++ []) = _
      rw [List.append_nil, shown]
      cases severity <;> rfl

theorem member_lists_tally (severity : Severity) (lists : List (List Member)) :
    (lists.map (memberTally severity)).sum =
      (lists.flatten.map Member.type).countP (DataType.isReported severity) +
        if severity = .warning then (lists.map fun members => surplus (members.map Member.name)).sum
        else 0 := by
  have split : lists.map (memberTally severity) = lists.map fun members =>
      members.countP (fun member => member.type.isReported severity) +
        if severity = .warning then surplus (members.map Member.name) else 0 := rfl
  have counted : (lists.flatten.map Member.type).countP (DataType.isReported severity) =
      (lists.map fun members => members.countP fun member => member.type.isReported severity).sum := by
    rw [List.countP_map, List.countP_flatten]
    rfl
  rw [split, List.sum_map_add, counted]
  cases severity with
  | warning => rfl
  | info => simp

theorem parameter_entries_tally (severity : Severity) (template : Template) :
    Notice.tally severity template.parameterEntries.notices =
      (template.parameters.map Parameter.type).countP (DataType.isReported severity) +
        if severity = .warning then surplus (template.parameters.map Parameter.name) else 0 := by
  unfold Template.parameterEntries
  rw [extract_all_tally severity _ Parameter.name _ _ _ (of_parameter_name template), List.countP_map]
  simp only [of_parameter_tally]
  rw [sum_to_nat fun parameter : Parameter => parameter.type.isReported severity]
  rfl

theorem member_lists_sum (template : Template) (weight : List Member → Nat) :
    (template.memberLists.map weight).sum =
      ((template.types.filterMap TypeDecl.documented?).map weight).sum +
        ((template.imports.filterMap Import.documented?).map weight).sum +
        ((template.wildcards.filterMap WildcardImport.documented?).map weight).sum := by
  unfold Template.memberLists
  simp only [List.map_append, List.sum_append]

theorem manual_tally (severity : Severity) (template : Template) :
    Notice.tally severity template.manual.notices =
      template.entryTypes.countP (DataType.isReported severity) +
      (template.types.countP (TypeDecl.isReported severity) +
        template.imports.countP (Import.isReported severity) +
        template.wildcards.countP (WildcardImport.isReported severity)) +
      if severity = .warning then
        surplus (template.parameters.map Parameter.name) + surplus (template.types.map TypeDecl.name) +
          surplus (template.imports.map Import.name) +
          surplus (template.wildcards.map WildcardImport.name) +
          (template.memberLists.map fun members => surplus (members.map Member.name)).sum
      else 0 := by
  have types : Notice.tally severity template.typeEntries.notices = _ :=
    declarations_tally severity "type" TypeDecl.name TypeEntry.name TypeEntry.ofDecl TypeDecl.documented?
      (TypeDecl.isReported severity) of_decl_name (of_decl_tally severity) template.types
  have imports : Notice.tally severity template.importEntries.notices = _ :=
    declarations_tally severity "import" Import.name TypeEntry.name TypeEntry.ofImport Import.documented?
      (Import.isReported severity) of_import_name (of_import_tally severity) template.imports
  have wildcards : Notice.tally severity template.wildcardEntries.notices = _ :=
    declarations_tally severity "import" WildcardImport.name TypeEntry.name TypeEntry.ofWildcard
      WildcardImport.documented? (WildcardImport.isReported severity) of_wildcard_name
      (of_wildcard_tally severity) template.wildcards
  have lists := member_lists_tally severity template.memberLists
  rw [member_lists_sum template (memberTally severity)] at lists
  rw [manual_notices, Template.entryTypes, List.countP_append]
  simp only [Notice.tally_append]
  rw [parameter_entries_tally, types, imports, wildcards]
  cases severity with
  | warning =>
      simp only [if_true] at lists ⊢
      omega
  | info =>
      simp only [reduceCtorEq, if_false] at lists ⊢
      omega

theorem notices_accounted_for (template : Template) :
    Notice.warningCount template.manual.notices =
      (template.imports.countP (fun entry => entry.exported.isNone) +
        template.wildcards.countP (fun entry => entry.exports.isNone)) +
      template.entryTypes.countP (fun type => type.core.isUnresolved) +
      (surplus (template.parameters.map Parameter.name) + surplus (template.types.map TypeDecl.name) +
        surplus (template.imports.map Import.name) +
        surplus (template.wildcards.map WildcardImport.name) +
        (template.memberLists.map fun members => surplus (members.map Member.name)).sum) ∧
    Notice.tally .info template.manual.notices =
      template.entryTypes.countP (fun type => type.core.isNameOnly) +
      template.types.countP (fun decl => !decl.isLiteral && decl.type.objectMembers?.isNone) +
      template.imports.countP (fun entry => entry.exported.any fun type => type.objectMembers?.isNone) := by
  have noDecl : template.types.countP (TypeDecl.isReported .warning) = 0 :=
    List.countP_eq_zero.mpr fun _ _ => Bool.false_ne_true
  have noWildcard : template.wildcards.countP (WildcardImport.isReported .info) = 0 :=
    List.countP_eq_zero.mpr fun _ _ => Bool.false_ne_true
  have warnings := manual_tally .warning template
  have infos := manual_tally .info template
  rw [noDecl, if_pos rfl] at warnings
  rw [noWildcard, if_neg (by decide)] at infos
  constructor
  · change Notice.tally .warning template.manual.notices = _
    rw [warnings]
    change _ = (template.imports.countP (Import.isReported .warning) +
      template.wildcards.countP (WildcardImport.isReported .warning)) +
      template.entryTypes.countP (DataType.isReported .warning) + _
    omega
  · rw [infos]
    change _ = template.entryTypes.countP (DataType.isReported .info) +
      template.types.countP (TypeDecl.isReported .info) + template.imports.countP (Import.isReported .info)
    omega

end TemplateManual
