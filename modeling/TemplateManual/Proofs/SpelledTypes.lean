import TemplateManual.DataType
import TemplateManual.Proofs.Text

set_option autoImplicit false

namespace TemplateManual

mutual

-- What the text of a type shows of it; the rest is left blank.
def DataType.outline : DataType → DataType
  | ⟨shape, _⟩ => ⟨shape.outline, false⟩

def Shape.outline : Shape → Shape
  | .string _ => .string .unbounded
  | .int _ => .int .unbounded
  | .bool => .bool
  | .any => .any
  | .object none => .object none
  | .object (some members) => .object (some (memberOutlines members))
  | .array none _ => .array none .unbounded
  | .array (some item) _ => .array (some item.outline) .unbounded
  | .literal value => .literal value
  | .union alternatives => .union (typeOutlines alternatives)
  | .null => .null
  | .reference name _ => .reference name none
  | .other name => .other name

def memberOutlines : List Member → List Member
  | [] => []
  | ⟨name, type, _, _⟩ :: rest => ⟨name, type.outline, none, []⟩ :: memberOutlines rest

def typeOutlines : List DataType → List DataType
  | [] => []
  | type :: rest => type.outline :: typeOutlines rest

end

theorem type_outlines_map (types : List DataType) : typeOutlines types = types.map DataType.outline := by
  induction types with
  | nil => rfl
  | cons type rest ih => rw [typeOutlines, ih, List.map_cons]

def Member.outline (member : Member) : Member := ⟨member.name, member.type.outline, none, []⟩

theorem member_outlines_map (members : List Member) : memberOutlines members = members.map Member.outline := by
  induction members with
  | nil => rfl
  | cons member rest ih =>
      obtain ⟨name, type, description, decorators⟩ := member
      rw [memberOutlines, ih]
      rfl

def typeWords : List (String × Shape) :=
  [("string", .string .unbounded), ("int", .int .unbounded), ("bool", .bool), ("any", .any),
    ("object", .object none), ("array", .array none .unbounded), ("null", .null),
    ("true", .literal (.bool true)), ("false", .literal (.bool false))]

def isLetter (c : Char) : Bool := c.isAlpha || c == '_'

def isNameChar (c : Char) : Bool := c.isAlphanum || c == '_'

inductive Spelled : DataType → Prop where
  | string (length : Bounds) (secure : Bool) : Spelled ⟨.string length, secure⟩
  | int (range : Bounds) (secure : Bool) : Spelled ⟨.int range, secure⟩
  | bool (secure : Bool) : Spelled ⟨.bool, secure⟩
  | any (secure : Bool) : Spelled ⟨.any, secure⟩
  | null (secure : Bool) : Spelled ⟨.null, secure⟩
  | object (secure : Bool) : Spelled ⟨.object none, secure⟩
  | objectOf (members : List Member) (secure : Bool)
      (named : ∀ member ∈ members, member.name ≠ "" ∧ ∀ c ∈ member.name.toList, isNameChar c = true)
      (each : ∀ member ∈ members, Spelled member.type) : Spelled ⟨.object (some members), secure⟩
  | array (length : Bounds) (secure : Bool) : Spelled ⟨.array none length, secure⟩
  | arrayOf (item : DataType) (length : Bounds) (secure : Bool) (spelled : Spelled item) :
      Spelled ⟨.array (some item) length, secure⟩
  | number (value : Int) (secure : Bool) : Spelled ⟨.literal (.int value), secure⟩
  | truth (value : Bool) (secure : Bool) : Spelled ⟨.literal (.bool value), secure⟩
  | quoted (value : String) (secure : Bool) (plain : '\'' ∉ value.toList) :
      Spelled ⟨.literal (.string value), secure⟩
  | union (alternatives : List DataType) (secure : Bool) (several : 2 ≤ alternatives.length)
      (flat : ∀ type ∈ alternatives, type.isUnion = false) (each : ∀ type ∈ alternatives, Spelled type) :
      Spelled ⟨.union alternatives, secure⟩
  | reference (name : String) (target : Option DataType) (secure : Bool) (filled : name ≠ "")
      (letters : ∀ c ∈ name.toList, isLetter c = true) (free : name ∉ typeWords.map Prod.fst) :
      Spelled ⟨.reference name target, secure⟩

def DataType.chars (type : DataType) : List Char := type.text.toList

def Member.chars (member : Member) : List Char := member.name.toList ++ ':' :: ' ' :: member.type.chars

theorem chars_union (alternatives : List DataType) (secure : Bool) :
    DataType.chars ⟨.union alternatives, secure⟩ =
      [' ', '|', ' '].intercalate (alternatives.map DataType.chars) := by
  rw [DataType.chars, DataType.text, Shape.text, Text.to_list_join, type_texts_eq_map, List.map_map]
  rfl

theorem chars_object_nil (secure : Bool) : DataType.chars ⟨.object (some []), secure⟩ = ['\x7b', '\x7d'] := by
  rw [DataType.chars, DataType.text, Shape.text]
  rfl

theorem chars_object (member : Member) (rest : List Member) (secure : Bool) :
    DataType.chars ⟨.object (some (member :: rest)), secure⟩ =
      '\x7b' :: ' ' :: ([',', ' '].intercalate ((member :: rest).map Member.chars) ++ [' ', '\x7d']) := by
  have parts : (memberTexts (member :: rest)).map String.toList = (member :: rest).map Member.chars := by
    rw [member_texts_eq_map, List.map_map]
    refine List.map_congr_left fun member _ => ?_
    simp [Member.chars, DataType.chars]
  rw [DataType.chars, DataType.text, Shape.text, String.toList_append, String.toList_append, Text.to_list_join, parts]
  rfl

theorem chars_array_of_union (item : DataType) (length : Bounds) (secure : Bool) (union : item.isUnion = true) :
    DataType.chars ⟨.array (some item) length, secure⟩ = '(' :: (item.chars ++ [')', '[', ']']) := by
  rw [DataType.chars, DataType.text, Shape.text, if_pos union, String.toList_append, String.toList_append]
  rfl

theorem chars_array_of_item (item : DataType) (length : Bounds) (secure : Bool) (single : item.isUnion = false) :
    DataType.chars ⟨.array (some item) length, secure⟩ = item.chars ++ ['[', ']'] := by
  rw [DataType.chars, DataType.text, Shape.text, if_neg (by simp [single]), String.toList_append]
  rfl

theorem chars_quoted (value : String) (secure : Bool) :
    DataType.chars ⟨.literal (.string value), secure⟩ = '\'' :: (value.toList ++ ['\'']) := by
  rw [DataType.chars, DataType.text, Shape.text, Literal.text, quote, String.toList_append, String.toList_append]
  rfl

-- An item, which is no union, is followed by brackets or by what ends it.
def EndsItem (rest : List Char) : Prop := ∀ c ∈ rest.head?, c = ' ' ∨ c = ',' ∨ c = ')'

def EndsStem (rest : List Char) : Prop := ∀ c ∈ rest.head?, c = '[' ∨ c = ' ' ∨ c = ',' ∨ c = ')'

def EndsType (rest : List Char) : Prop :=
  rest = [] ∨ (∃ more, rest = ',' :: more) ∨ (∃ more, rest = ')' :: more) ∨ ∃ more, rest = ' ' :: '\x7d' :: more

theorem ends_item_of_type (rest : List Char) (ended : EndsType rest) : EndsItem rest := by
  rcases ended with rfl | ⟨more, rfl⟩ | ⟨more, rfl⟩ | ⟨more, rfl⟩ <;> simp [EndsItem]

theorem ends_stem_of_item (rest : List Char) (ended : EndsItem rest) : EndsStem rest :=
  fun c first => Or.inr (ended c first)

def brackets : Nat → List Char
  | 0 => []
  | count + 1 => '[' :: ']' :: brackets count

def DataType.arrays : Nat → DataType → DataType
  | 0, type => type
  | count + 1, type => DataType.arrays count (.arrayOf type)

theorem brackets_succ (count : Nat) (rest : List Char) :
    brackets (count + 1) ++ rest = brackets count ++ '[' :: ']' :: rest := by
  induction count with
  | zero => rfl
  | succ count ih =>
      rw [brackets, List.cons_append, List.cons_append, ih]
      rfl

theorem arrays_succ (count : Nat) (type : DataType) :
    DataType.arrays (count + 1) type = .arrayOf (DataType.arrays count type) := by
  induction count generalizing type with
  | zero => rfl
  | succ count ih =>
      rw [DataType.arrays, ih]
      rfl

-- One of two items goes on for some brackets where the other ends.
def Overlaps (first second : DataType) (rest after : List Char) : Prop :=
  ∃ count, (second.outline = DataType.arrays count first.outline ∧ rest = brackets count ++ after) ∨
    (first.outline = DataType.arrays count second.outline ∧ after = brackets count ++ rest)

theorem overlaps_symm (first second : DataType) (rest after : List Char)
    (overlaps : Overlaps first second rest after) : Overlaps second first after rest := by
  obtain ⟨count, found⟩ := overlaps
  exact ⟨count, found.symm⟩

theorem overlaps_array (item second : DataType) (length : Bounds) (secure : Bool) (rest after : List Char)
    (overlaps : Overlaps item second ('[' :: ']' :: rest) after) :
    Overlaps ⟨.array (some item) length, secure⟩ second rest after := by
  have outline : DataType.outline ⟨.array (some item) length, secure⟩ = .arrayOf item.outline := rfl
  obtain ⟨count, ⟨shows, tails⟩ | ⟨shows, tails⟩⟩ := overlaps
  · cases count with
    | zero => exact ⟨1, Or.inr ⟨by rw [outline, shows]; rfl, tails.symm⟩⟩
    | succ count =>
        obtain ⟨_, inner⟩ := List.cons.inj tails
        exact ⟨count, Or.inl ⟨shows, (List.cons.inj inner).2⟩⟩
  · exact ⟨count + 1, Or.inr ⟨by rw [outline, shows, arrays_succ], by rw [tails, brackets_succ]⟩⟩

theorem overlaps_ended (first second : DataType) (rest after : List Char) (ended : EndsItem rest)
    (afterEnded : EndsItem after) (overlaps : Overlaps first second rest after) :
    first.outline = second.outline ∧ rest = after := by
  have apart : ∀ count rest after, EndsItem rest → rest = brackets (count + 1) ++ after → False := by
    intro count rest after ended tails
    subst tails
    have mark := ended '[' rfl
    simp at mark
  obtain ⟨count, ⟨shows, tails⟩ | ⟨shows, tails⟩⟩ := overlaps
  · cases count with
    | zero => exact ⟨shows.symm, tails⟩
    | succ count => exact (apart count rest after ended tails).elim
  · cases count with
    | zero => exact ⟨shows, tails.symm⟩
    | succ count => exact (apart count after rest afterEnded tails).elim

end TemplateManual
