import TemplateManual.DataType
import TemplateManual.Decorator
import TemplateManual.Manual.Entry
import TemplateManual.Notice

set_option autoImplicit false

namespace TemplateManual

inductive Limits where
  | none
  | length (bounds : Bounds)
  | value (bounds : Bounds)
deriving DecidableEq, Repr

inductive Finding where
  | unresolvedReference (name : String)
  | nameOnly (name : String)
deriving DecidableEq, Repr

def Finding.notice (symbol : String) : Finding → Notice
  | .unresolvedReference name => .unresolvedReference symbol name
  | .nameOnly name => .nameOnly symbol name

structure Survey where
  text : String
  required : Bool
  allowed : Option (List String)
  userDefined : Bool
  limits : Limits
  secure : Bool
  finding : Option Finding
deriving DecidableEq, Repr

namespace Survey

def plain (text : String) (limits : Limits) (secure : Bool) : Survey :=
  ⟨text, true, none, false, limits, secure, none⟩

def mark (secure : Bool) (survey : Survey) : Survey :=
  { survey with secure := secure || survey.secure }

def allowNull (nullable : Bool) (survey : Survey) : Survey :=
  { survey with required := survey.required && !nullable }

end Survey

namespace DataType

def nonNull (alternatives : List DataType) : List DataType :=
  alternatives.filter fun type => !type.isNull

def literalText? (type : DataType) : Option String :=
  match type.shape with
  | .literal value => some value.valueText
  | _ => none

def surveyChoice (secure : Bool) (choices : List DataType) : Survey :=
  if choices.isEmpty then Survey.plain "null" .none secure
  else
    let text := Text.join " | " (choices.map DataType.text)
    if choices.all isLiteral then
      { Survey.plain text .none (secure || choices.any DataType.secure) with
        allowed := some (choices.filterMap literalText?) }
    else Survey.plain text .none secure

mutual

-- A union of one alternative and null stands for that alternative; a reference shows its own name and takes the
-- bounds and the secrecy of its target.
def survey : DataType → Survey
  | ⟨.union alternatives, secure⟩ =>
    let inner :=
      match soleSurvey? alternatives with
      | some found => found.mark secure
      | none => surveyChoice secure (nonNull alternatives)
    inner.allowNull (alternatives.any isNull)
  | ⟨.reference name (some target), secure⟩ =>
    let found := target.survey
    { Survey.plain name found.limits (secure || found.secure) with userDefined := true }
  | ⟨.reference name none, secure⟩ =>
    { Survey.plain name .none secure with
      userDefined := true, finding := some (.unresolvedReference name) }
  | ⟨.other name, secure⟩ =>
    { Survey.plain name .none secure with finding := some (.nameOnly name) }
  | ⟨.string length, secure⟩ => Survey.plain (Shape.string length).text (.length length) secure
  | ⟨.array item length, secure⟩ =>
    Survey.plain (Shape.array item length).text (.length length) secure
  | ⟨.int range, secure⟩ => Survey.plain (Shape.int range).text (.value range) secure
  | ⟨shape, secure⟩ => Survey.plain shape.text .none secure

def soleSurvey? : List DataType → Option Survey
  | [] => none
  | type :: rest =>
    if type.isNull then soleSurvey? rest
    else if rest.all isNull then some type.survey
    else none

end

end DataType

-- An integer argument of a decorator takes the place of the bound of the type.
def Limits.decorate (decorators : List Decorator) : Limits → Limits
  | .none => .none
  | .length bounds =>
    .length ⟨Decorator.int? decorators "minLength" <|> bounds.low,
      Decorator.int? decorators "maxLength" <|> bounds.high⟩
  | .value bounds =>
    .value ⟨Decorator.int? decorators "minValue" <|> bounds.low,
      Decorator.int? decorators "maxValue" <|> bounds.high⟩

def Constraints.ofLimits (secure : Bool) : Limits → Constraints
  | .none => ⟨none, none, none, none, secure⟩
  | .length bounds => ⟨bounds.low, bounds.high, none, none, secure⟩
  | .value bounds => ⟨none, none, bounds.low, bounds.high, secure⟩

namespace PropertyEntry

def ofSurvey (name : String) (survey : Survey) (decorators : List Decorator) : PropertyEntry where
  name := name
  typeText := survey.text
  description := Decorator.description? decorators
  required := survey.required
  allowed := survey.allowed
  largeSet := match survey.allowed with
    | some values => isLargeSet values.length
    | none => false
  userDefined := survey.userDefined
  constraints :=
    .ofLimits (survey.secure || Decorator.isSecure decorators) (survey.limits.decorate decorators)

def ofType (name : String) (type : DataType) (decorators : List Decorator) : Noted PropertyEntry :=
  let survey := type.survey
  ⟨ofSurvey name survey decorators, (survey.finding.map (Finding.notice name)).toList⟩

def ofMember (member : Member) : Noted PropertyEntry :=
  let entry := ofType member.name member.type member.decorators
  { entry with
    value := { entry.value with
      description := entry.value.description <|> member.description } }

end PropertyEntry

end TemplateManual
