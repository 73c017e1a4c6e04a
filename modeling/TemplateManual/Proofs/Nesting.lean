import TemplateManual.Proofs.UsageValues

set_option autoImplicit false

namespace TemplateManual

namespace Text

def isBrace (c : Char) : Bool := c == '\x7b' || c == '\x7d'

def nextDepth (depth : Nat) (c : Char) : Option Nat :=
  if c = '\x7b' then some (depth + 1)
  else if c = '\x7d' then (if depth = 0 then none else some (depth - 1))
  else some depth

def depthAfter (depth : Nat) (chars : List Char) : Option Nat := chars.foldlM nextDepth depth

def Nests (text : String) (before after : Nat) : Prop := depthAfter before text.toList = some after

def Balanced (text : String) : Prop := Nests text 0 0

instance (text : String) (before after : Nat) : Decidable (Nests text before after) :=
  inferInstanceAs (Decidable (_ = _))

instance (text : String) : Decidable (Balanced text) := inferInstanceAs (Decidable (Nests text 0 0))

theorem depth_after_cons (depth : Nat) (c : Char) (rest : List Char) :
    depthAfter depth (c :: rest) = (nextDepth depth c).bind fun next => depthAfter next rest :=
  List.foldlM_cons

theorem next_depth_plain (depth : Nat) (c : Char) (plain : isBrace c = false) :
    nextDepth depth c = some depth := by
  obtain ⟨notOpening, notClosing⟩ : c ≠ '\x7b' ∧ c ≠ '\x7d' := by simpa [isBrace] using plain
  rw [nextDepth, if_neg notOpening, if_neg notClosing]

theorem next_depth_raised (depth next lower : Nat) (c : Char) (step : nextDepth depth c = some next) :
    nextDepth (depth + lower) c = some (next + lower) := by
  unfold nextDepth at step ⊢
  by_cases opening : c = '\x7b'
  · rw [if_pos opening, Option.some.injEq] at step ⊢
    omega
  · rw [if_neg opening] at step ⊢
    by_cases closing : c = '\x7d'
    · rw [if_pos closing] at step ⊢
      by_cases outermost : depth = 0
      · rw [if_pos outermost] at step
        cases step
      · rw [if_neg outermost, Option.some.injEq] at step
        rw [if_neg (by omega), Option.some.injEq]
        omega
    · rw [if_neg closing, Option.some.injEq] at step ⊢
      omega

-- A text that is read inside further braces finds as many of them open as before.
theorem depth_after_raised (chars : List Char) (depth after lower : Nat)
    (run : depthAfter depth chars = some after) : depthAfter (depth + lower) chars = some (after + lower) := by
  induction chars generalizing depth with
  | nil =>
      cases run
      rfl
  | cons c rest ih =>
      rw [depth_after_cons] at run ⊢
      obtain ⟨next, step, more⟩ := Option.bind_eq_some_iff.mp run
      rw [next_depth_raised depth next lower c step]
      exact ih next more

theorem depth_after_braces (chars : List Char) (depth : Nat) :
    depthAfter depth (chars.filter isBrace) = depthAfter depth chars := by
  induction chars generalizing depth with
  | nil => rfl
  | cons c rest ih =>
      cases brace : isBrace c with
      | false => rw [List.filter_cons_of_neg (by simp [brace]), ih, depth_after_cons, next_depth_plain depth c brace,
          Option.bind_some]
      | true => simp only [List.filter_cons_of_pos brace, depth_after_cons, ih]

theorem nests_of_braces {text other : String} {before after : Nat}
    (same : other.toList.filter isBrace = text.toList.filter isBrace) (nests : Nests text before after) :
    Nests other before after := by
  rwa [Nests, ← depth_after_braces, same, depth_after_braces]

theorem Nests.append {front back : String} {before middle after : Nat} (first : Nests front before middle)
    (second : Nests back middle after) : Nests (front ++ back) before after := by
  unfold Nests depthAfter at *
  rw [String.toList_append, List.foldlM_append, first]
  exact second

theorem Balanced.level {text : String} (balanced : Balanced text) (depth : Nat) : Nests text depth depth := by
  have raised := depth_after_raised text.toList 0 0 depth balanced
  rwa [Nat.zero_add] at raised

theorem balanced_join {α : Type} (write : α → String) (items : List α)
    (each : ∀ item ∈ items, Balanced (write item)) : Balanced (String.join (items.map write)) := by
  induction items with
  | nil => rfl
  | cons item rest ih =>
      obtain ⟨first, others⟩ := List.forall_mem_cons.mp each
      rw [List.map_cons, String.join_cons]
      exact first.append (ih others)

theorem balanced_quote (text : String) (balanced : Balanced text) : Balanced (quote text) := by
  have quoteMark : Balanced "'" := by decide
  exact (quoteMark.append balanced).append quoteMark

end Text

open Text

def Publication.fields (publication : Publication) : List String :=
  [publication.moduleName, publication.registry, publication.scheme, publication.path, publication.version]

def ParameterEntry.texts (entry : ParameterEntry) : List String :=
  entry.name :: entry.typeText :: entry.defaultText.toList

namespace Usage

theorem balanced_indent_value (text : String) (balanced : Balanced text) : Balanced (indentValue text) :=
  nests_of_braces (filter_indent_value isBrace (by decide) (by decide) (by decide) text) balanced

theorem balanced_value (entry : ParameterEntry) (balanced : ∀ text ∈ entry.texts, Balanced text) :
    Balanced (value entry) := by
  have name : Balanced entry.name := balanced _ (by simp [ParameterEntry.texts])
  have type : Balanced entry.typeText := balanced _ (by simp [ParameterEntry.texts])
  unfold value
  cases given : entry.defaultText with
  | none =>
      by_cases string : entry.typeText = "string"
      · simpa only [if_pos string] using balanced_quote entry.name name
      · simpa only [if_neg string] using name
  | some text =>
      have default : Balanced text := balanced _ (by simp [ParameterEntry.texts, given])
      by_cases named : entry.userDefined = true
      · simpa only [if_pos named] using type
      · simp only [if_neg named]
        split
        · exact default
        · exact balanced_quote text default

theorem balanced_line (indent name text : String) (indentBalanced : Balanced indent) (nameBalanced : Balanced name)
    (textBalanced : Balanced text) : Balanced (indent ++ name ++ ": " ++ text ++ "\n") := by
  have colon : Balanced ": " := by decide
  have feed : Balanced "\n" := by decide
  exact (((indentBalanced.append nameBalanced).append colon).append textBalanced).append feed

theorem balanced_assigned (name text : String) (nameBalanced : Balanced name) (textBalanced : Balanced text) :
    Balanced (assigned name text) :=
  balanced_line "    " name text (by decide) nameBalanced textBalanced

theorem balanced_nested (name : String) (properties : List PropertyEntry) (nameBalanced : Balanced name)
    (balanced : ∀ property ∈ properties, Balanced property.name) : Balanced (nested name properties) := by
  have indent : Balanced "    " := by decide
  have opens : Nests ": \x7b\n" 0 1 := by decide
  have closes : Nests "    \x7d\n" 1 0 := by decide
  have lines := balanced_join _ properties fun property listed =>
    balanced_line "      " _ _ (by decide) (balanced property listed) (balanced property listed)
  exact (((indent.append nameBalanced).append opens).append (lines.level 1)).append closes

theorem object_type_listed (manual : Manual) (entry : ParameterEntry) (type : TypeEntry)
    (object : objectType? manual entry = some type) : type ∈ manual.allTypes :=
  List.mem_of_find?_eq_some (Option.filter_eq_some_iff.mp object).1

theorem balanced_argument (manual : Manual) (entry : ParameterEntry)
    (balanced : ∀ text ∈ entry.texts, Balanced text)
    (typesBalanced : ∀ type ∈ manual.allTypes, ∀ property ∈ type.properties, Balanced property.name) :
    Balanced (argument manual entry) := by
  have name : Balanced entry.name := balanced _ (by simp [ParameterEntry.texts])
  cases object : objectType? manual entry with
  | some type =>
      rw [argument_of_object manual entry type object]
      exact balanced_nested entry.name _ name (typesBalanced type (object_type_listed manual entry type object))
  | none =>
      rw [argument_of_unlisted manual entry object]
      exact balanced_assigned entry.name _ name (balanced_indent_value _ (balanced_value entry balanced))

theorem balanced_arguments (manual : Manual)
    (each : ∀ entry ∈ manual.parameters, Balanced (argument manual entry)) : Balanced (arguments manual) := by
  unfold arguments
  by_cases none : manual.parameters.isEmpty = true
  · rw [if_pos none]
    decide
  · rw [if_neg none]
    have opens : Nests "\x7b\n" 0 1 := by decide
    have closes : Nests "  \x7d" 1 0 := by decide
    exact (opens.append ((balanced_join (argument manual) _ each).level 1)).append closes

theorem balanced_reference (publication : Publication)
    (balanced : ∀ field ∈ publication.fields, Balanced field) : Balanced publication.reference := by
  simp only [Publication.fields, List.forall_mem_cons] at balanced
  obtain ⟨_, registry, scheme, path, version, _⟩ := balanced
  have slash : Balanced "/" := by decide
  have colon : Balanced ":" := by decide
  exact (((((scheme.append slash).append registry).append colon).append path).append colon).append version

def preamble (publication : Publication) : String :=
  "module " ++ publication.moduleName ++ " '" ++ publication.reference ++ "' = \x7b\n" ++
    "  name: '" ++ publication.moduleName ++ "'\n" ++ "  params: "

theorem text_eq_preamble (publication : Publication) (manual : Manual) :
    text publication manual = preamble publication ++ arguments manual ++ "\n\x7d" := rfl

theorem opening_eq_preamble (publication : Publication) :
    opening publication = preamble publication ++ "\x7b\n" := rfl

theorem nests_preamble (publication : Publication) (balanced : ∀ field ∈ publication.fields, Balanced field) :
    Nests (preamble publication) 0 1 := by
  have name : Balanced publication.moduleName := balanced _ (by simp [Publication.fields])
  have keyword : Balanced "module " := by decide
  have quoteMark : Balanced " '" := by decide
  have opens : Nests "' = \x7b\n" 0 1 := by decide
  have nameField : Nests "  name: '" 1 1 := by decide
  have nameEnd : Nests "'\n" 1 1 := by decide
  have paramsField : Nests "  params: " 1 1 := by decide
  have module : Nests ("module " ++ publication.moduleName ++ " '" ++ publication.reference ++ "' = \x7b\n") 0 1 :=
    (((keyword.append name).append quoteMark).append (balanced_reference publication balanced)).append opens
  exact (((module.append nameField).append (name.level 1)).append nameEnd).append paramsField

end Usage

-- An argument is balanced by itself, and what precedes it leaves the two braces around the arguments open.
theorem usage_well_nested (publication : Publication) (manual : Manual)
    (published : ∀ field ∈ publication.fields, Balanced field)
    (entered : ∀ entry ∈ manual.parameters, ∀ text ∈ entry.texts, Balanced text)
    (typed : ∀ type ∈ manual.allTypes, ∀ property ∈ type.properties, Balanced property.name) :
    Balanced (Usage.text publication manual) ∧
      ∀ front entry back, manual.parameters = front ++ entry :: back → ∃ before after,
        Usage.text publication manual = before ++ Usage.argument manual entry ++ after ∧
          Nests before 0 2 ∧ Balanced (Usage.argument manual entry) := by
  have preamble := Usage.nests_preamble publication published
  have each : ∀ entry ∈ manual.parameters, Balanced (Usage.argument manual entry) :=
    fun entry member => Usage.balanced_argument manual entry (entered entry member) typed
  constructor
  · have closes : Nests "\n\x7d" 1 0 := by decide
    rw [Usage.text_eq_preamble]
    exact (preamble.append ((Usage.balanced_arguments manual each).level 1)).append closes
  · intro front entry back split
    have frontEach : ∀ other ∈ front, Balanced (Usage.argument manual other) :=
      fun other member => each other (by simp [split, member])
    have opens : Nests "\x7b\n" 1 2 := by decide
    refine ⟨Usage.opening publication ++ String.join (front.map (Usage.argument manual)),
      String.join (back.map (Usage.argument manual)) ++ Usage.closing, ?_, ?_, each entry (by simp [split])⟩
    · rw [Usage.text_split publication manual front back entry split]
      simp only [String.append_assoc]
    · rw [Usage.opening_eq_preamble]
      exact (preamble.append opens).append ((balanced_join _ front frontEach).level 2)

def labelsArgument : ParameterEntry :=
  ⟨"labels", "object", none, false, some "\x7b\r\n  zone: \x7b\n\n  \x7d\n\x7d\n", true, false, false, none, false, .blank⟩

def endpointProperty : PropertyEntry := ⟨"\x7bport\x7d", "int", none, true, none, false, false, .blank⟩

def mixedArguments : Manual where
  parameters := [
    ⟨"endpoint", "endpointType", none, true, none, false, false, true, none, false, .blank⟩,
    ⟨"host", "string", none, true, none, false, false, false, none, false, .blank⟩,
    labelsArgument,
    ⟨"stage", "stageType", none, false, some "'dev'", false, false, true, none, false, .blank⟩,
    ⟨"url", "string", none, false, some "'$\x7bhost\x7d/'", false, true, false, none, false, .blank⟩]
  declaredTypes := [
    ⟨"endpointType", "", .object [endpointProperty], .declared⟩,
    ⟨"stageType", "", .literalUnion "'dev' | 'prd'", .declared⟩]
  importedTypes := []

theorem mixed_arguments_nested :
    Balanced (Usage.text networkModule mixedArguments) ∧ ∃ before after,
      Usage.text networkModule mixedArguments = before ++ Usage.argument mixedArguments labelsArgument ++ after ∧
        Nests before 0 2 ∧ Balanced (Usage.argument mixedArguments labelsArgument) := by
  obtain ⟨balanced, inside⟩ :=
    usage_well_nested networkModule mixedArguments (by decide) (by decide) (by decide)
  exact ⟨balanced, inside [_, _] labelsArgument [_, _] rfl⟩

end TemplateManual
