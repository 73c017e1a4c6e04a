import TemplateManual.Json.Record

set_option autoImplicit false

namespace TemplateManual.Json

namespace Fields

def valuesOf (name : String) (members : List (Option String × Json)) : List Json :=
  members.filterMap fun member => if member.1 = some name then some member.2 else none

def without (name : String) (members : List (Option String × Json)) : List (Option String × Json) :=
  members.filter fun member => member.1 ≠ some name

end Fields

-- A field takes the only value under its name, or what it has when there is none.
def Field.Takes {α : Type} (room : Nat) (field : Field α) (values : List Json) (result : α) : Prop :=
  (values = [] ∧ field.absent = some result) ∨ ∃ value, values = [value] ∧ field.decoder room value = .ok result

theorem takes_single {α : Type} (room : Nat) (field : Field α) (value : Json) (result : α) :
    field.Takes room [value] result ↔ field.decoder room value = .ok result := by
  simp [Field.Takes]

namespace Fields

def Filled (room : Nat) : {types : List Type} → Fields types → List (Option String × Json) → Row types → Prop
  | _, .nil, members, _ => ∀ member ∈ members, member.1.isSome = true ∧ member.2.wellFormed = true
  | _, .cons field fields, members, (result, row) =>
    field.Takes room (valuesOf field.name members) result ∧ fields.Filled room (without field.name members) row

def Placed (room : Nat) : {types : List Type} → Fields types → List Json → Row types → Prop
  | _, .nil, items, _ => items = []
  | _, .cons field fields, [], (result, row) => field.absent = some result ∧ fields.Placed room [] row
  | _, .cons field fields, item :: rest, (result, row) =>
    field.decoder room item = .ok result ∧ fields.Placed room rest row

theorem values_of_cons (name : String) (key : Option String) (value : Json) (members : List (Option String × Json)) :
    valuesOf name ((key, value) :: members) =
      if key = some name then value :: valuesOf name members else valuesOf name members := by
  by_cases same : key = some name <;> simp [valuesOf, same]

theorem mem_values_of (name : String) (value : Json) (members : List (Option String × Json)) :
    value ∈ valuesOf name members ↔ (some name, value) ∈ members := by
  simp [valuesOf]

theorem without_cons (name : String) (key : Option String) (value : Json) (members : List (Option String × Json)) :
    without name ((key, value) :: members) =
      if key = some name then without name members else (key, value) :: without name members := by
  by_cases same : key = some name <;> simp [without, same]

theorem values_of_none (name : String) (members : List (Option String × Json))
    (others : ∀ member ∈ members, member.1 ≠ some name) : valuesOf name members = [] := by
  rw [valuesOf, List.filterMap_eq_nil_iff]
  exact fun member listed => if_neg (others member listed)

theorem without_none (name : String) (members : List (Option String × Json))
    (others : ∀ member ∈ members, member.1 ≠ some name) : without name members = members := by
  rw [without, List.filter_eq_self]
  exact fun member listed => decide_eq_true (others member listed)

-- Walking over the members, the first field sees those of its name, and the others see the rest.
theorem fill_all_cons {α : Type} {rest : List Type} (room : Nat) (field : Field α) (fields : Fields rest)
    (held final : Option α) (draft filled : Draft rest) (members : List (Option String × Json)) :
    (Fields.cons field fields).fillAll room (held, draft) members = .ok (final, filled) ↔
      ((valuesOf field.name members = [] ∧ final = held) ∨
        ∃ value result, valuesOf field.name members = [value] ∧ held = none ∧
          field.decoder room value = .ok result ∧ final = some result) ∧
      fields.fillAll room draft (without field.name members) = .ok filled := by
  induction members generalizing held draft with
  | nil => simp [fillAll, valuesOf, without, eq_comm]
  | cons member members ih =>
      obtain ⟨key, value⟩ := member
      cases key with
      | none => simp [fillAll, without_cons]
      | some key =>
          by_cases named : key = field.name
          · subst named
            cases held with
            | some found => simp [fillAll, fill, values_of_cons]
            | none =>
                cases read : field.decoder room value with
                | error reason => simp [fillAll, fill, read, values_of_cons, Except.map]
                | ok found =>
                    simp only [fillAll, fill, if_true, read, Except.map, values_of_cons, without_cons, ih]
                    constructor
                    · rintro ⟨⟨alone, rfl⟩ | ⟨_, _, _, held, _⟩, filled⟩
                      · exact ⟨Or.inr ⟨value, found, by rw [alone], trivial, read, rfl⟩, filled⟩
                      · cases held
                    · rintro ⟨⟨missing, _⟩ | ⟨other, result, alone, _, again, rfl⟩, filled⟩
                      · cases missing
                      · obtain ⟨rfl, noOthers⟩ := List.cons.inj alone
                        rw [read] at again
                        cases again
                        exact ⟨Or.inl ⟨noOthers, rfl⟩, filled⟩
          · have different : some key ≠ some field.name := fun same => named (Option.some.inj same)
            simp only [fillAll, fill, if_neg named, values_of_cons, without_cons, if_neg different]
            cases fields.fill room key value draft with
            | error reason => simp [Except.map]
            | ok next =>
                cases next with
                | some next => exact ih held next
                | none =>
                    by_cases formed : value.wellFormed = true
                    · simpa [Except.map, formed] using ih held draft
                    · simp [Except.map, formed]

theorem finish_cons_iff {α : Type} {rest : List Type} (field : Field α) (fields : Fields rest)
    (held : Option α) (draft : Draft rest) (result : α) (row : Row rest) :
    (Fields.cons field fields).finish (held, draft) = .ok (result, row) ↔
      (held <|> field.absent) = some result ∧ fields.finish draft = .ok row := by
  rw [finish]
  cases held <|> field.absent with
  | none => simp
  | some value => cases fields.finish draft <;> simp [Except.map]

theorem fill_all_nil_iff (room : Nat) (members : List (Option String × Json)) :
    Fields.nil.fillAll room () members = .ok () ↔
      ∀ member ∈ members, member.1.isSome = true ∧ member.2.wellFormed = true := by
  induction members with
  | nil => simp [fillAll]
  | cons member members ih =>
      obtain ⟨key, value⟩ := member
      cases key with
      | none => simp [fillAll]
      | some key => by_cases formed : value.wellFormed = true <;> simp [fillAll, fill, formed, ih]

theorem of_members_iff (room : Nat) {types : List Type} (fields : Fields types)
    (members : List (Option String × Json)) (row : Row types) :
    fields.ofMembers room members = .ok row ↔ fields.Filled room members row := by
  have finished : fields.ofMembers room members = .ok row ↔
      ∃ draft, fields.fillAll room fields.blank members = .ok draft ∧ fields.finish draft = .ok row := by
    unfold ofMembers
    cases fields.fillAll room fields.blank members <;> simp
  rw [finished]
  clear finished
  induction fields generalizing members with
  | nil => exact ⟨fun ⟨_, filled, _⟩ => (fill_all_nil_iff room members).mp filled,
      fun formed => ⟨(), (fill_all_nil_iff room members).mpr formed, rfl⟩⟩
  | cons field fields ih =>
      obtain ⟨result, row⟩ := row
      simp only [Filled, ← ih]
      constructor
      · rintro ⟨⟨held, draft⟩, filled, finished⟩
        obtain ⟨settled, finished⟩ := (finish_cons_iff field fields held draft result row).mp finished
        obtain ⟨taken, filled⟩ := (fill_all_cons room field fields none held _ draft members).mp filled
        refine ⟨?_, draft, filled, finished⟩
        rcases taken with ⟨missing, rfl⟩ | ⟨value, found, alone, -, read, rfl⟩
        · exact Or.inl ⟨missing, settled⟩
        · cases settled
          exact Or.inr ⟨value, alone, read⟩
      · rintro ⟨taken, draft, filled, finished⟩
        have make := fun held => fill_all_cons room field fields none held fields.blank draft members
        have close := fun held => finish_cons_iff field fields held draft result row
        rcases taken with ⟨missing, settled⟩ | ⟨value, alone, read⟩
        · exact ⟨(none, draft), (make none).mpr ⟨Or.inl ⟨missing, rfl⟩, filled⟩,
            (close none).mpr ⟨settled, finished⟩⟩
        · exact ⟨(some result, draft), (make _).mpr ⟨Or.inr ⟨value, result, alone, rfl, read, rfl⟩, filled⟩,
            (close _).mpr ⟨rfl, finished⟩⟩

theorem of_items_iff (room : Nat) (title : String) (count index : Nat) {types : List Type}
    (fields : Fields types) (items : List Json) (row : Row types) :
    fields.ofItems room title count index items = .ok row ↔ fields.Placed room items row := by
  induction fields generalizing index items with
  | nil => cases items <;> simp [ofItems, Placed]
  | cons field fields ih =>
      obtain ⟨result, row⟩ := row
      cases items with
      | nil =>
          simp only [Placed, ofItems, ← ih (index + 1)]
          cases field.absent with
          | none => simp
          | some value => cases fields.ofItems room title count (index + 1) [] <;> simp [Except.map]
      | cons item rest =>
          simp only [Placed, ofItems, ← ih (index + 1)]
          cases field.decoder room item with
          | error reason => simp
          | ok value => cases fields.ofItems room title count (index + 1) rest <;> simp [Except.map]

end Fields

theorem record_iff (title : String) {types : List Type} (fields : Fields types) (room : Nat) (value : Json)
    (row : Row types) :
    Decoder.record title fields room value = .ok row ↔ ∃ inner, room = inner + 1 ∧
      ((∃ members, value = .object members ∧ fields.Filled inner members row) ∨
        ∃ items, value = .array items ∧ fields.Placed inner items row) := by
  cases room with
  | zero => cases value <;> simp [Decoder.record, Decoder.reject]
  | succ inner =>
      cases value with
      | object members => simp [Decoder.record, Fields.of_members_iff]
      | array items => simp [Decoder.record, Fields.of_items_iff]
      | _ => simp [Decoder.record, Decoder.reject]

end TemplateManual.Json
