import TemplateManual.Proofs.Json.Faithful
import TemplateManual.Proofs.Json.Filling

set_option autoImplicit false

namespace TemplateManual.Json

def Field.Gives {α : Type} (room : Nat) (field : Field α) (result : α) : Prop :=
  (∃ value, field.decoder room value = .ok result) ∨ field.absent = some result

-- What a field came to hold, it holds again if it is written, or left out, as `write` says.
def Field.Kept {α : Type} (room : Nat) (field : Field α) (write : α → Option Json) : Prop :=
  ∀ result, field.Gives room result →
    match write result with
    | none => field.absent = some result
    | some value => field.decoder room value = .ok result ∧ Writable value

theorem required_kept {α : Type} (room : Nat) (name : String) (decoder : Decoder α) (write : α → Json)
    (faithful : FaithfulAt room decoder write) :
    (required name decoder).Kept room fun result => some (write result) := by
  intro result given
  rcases given with ⟨value, found⟩ | missing
  · exact faithful value result found
  · cases missing

theorem defaulted_kept {α : Type} (room : Nat) (name : String) (decoder : Decoder α) (absent : α)
    (write : α → Json) (faithful : FaithfulAt room decoder write) (source : Json)
    (readable : decoder room source = .ok absent) :
    (defaulted name decoder absent).Kept room fun result => some (write result) := by
  intro result given
  rcases given with ⟨value, found⟩ | missing
  · exact faithful value result found
  · cases missing
    exact faithful source absent readable

theorem optional_present {α : Type} (room : Nat) (decoder : Decoder α) (value : Json)
    (present : value ≠ .null) : decoder.optional room value = (decoder room value).map some := by
  unfold Decoder.optional
  split
  · exact absurd rfl present
  · rfl

theorem optional_kept {α : Type} (room : Nat) (name : String) (decoder : Decoder α) (write : α → Json)
    (faithful : FaithfulAt room decoder write) (present : ∀ result, write result ≠ .null) :
    (optionalField name decoder).Kept room fun result => result.map write := by
  intro result given
  cases result with
  | none => rfl
  | some content =>
      rcases given with ⟨value, found⟩ | missing
      · have some : value ≠ .null := by
          rintro rfl
          cases found
        obtain ⟨part, read, same⟩ := map_ok _ _ _ ((optional_present room decoder value some).symm.trans found)
        obtain rfl := Option.some.inj same
        obtain ⟨again, writable⟩ := faithful value part read
        refine ⟨?_, writable⟩
        change decoder.optional room (write part) = _
        rw [optional_present room decoder _ (present part), again]
        rfl
      · cases missing

theorem items_kept {α : Type} (room : Nat) (name : String) (decoder : Decoder α) (write : α → Json)
    (faithful : Faithful decoder write) :
    (defaulted name decoder.list []).Kept room fun results =>
      if results.isEmpty then none else some (.array (results.map write)) := by
  intro results given
  cases results with
  | nil => rfl
  | cons first rest =>
      rcases given with ⟨value, found⟩ | missing
      · exact faithful_list decoder write faithful room value _ found
      · cases missing

inductive Writers : List Type → Type 1 where
  | nil : Writers []
  | cons {α : Type} {rest : List Type} (write : α → Option Json) (writers : Writers rest) :
      Writers (α :: rest)

namespace Fields

def Gives (room : Nat) : {types : List Type} → Fields types → Row types → Prop
  | _, .nil, _ => True
  | _, .cons field fields, (result, row) => field.Gives room result ∧ fields.Gives room row

def Kept (room : Nat) : {types : List Type} → Fields types → Writers types → Prop
  | _, .nil, .nil => True
  | _, .cons field fields, .cons write writers => field.Kept room write ∧ fields.Kept room writers

def write : {types : List Type} → Fields types → Writers types → Row types → List (String × Option Json)
  | _, .nil, .nil, _ => []
  | _, .cons field fields, .cons write writers, (result, row) =>
    (field.name, write result) :: fields.write writers row

theorem filled_gives (room : Nat) {types : List Type} (fields : Fields types)
    (members : List (Option String × Json)) (row : Row types) (filled : fields.Filled room members row) :
    fields.Gives room row := by
  induction fields generalizing members with
  | nil => trivial
  | cons field fields ih =>
      refine ⟨?_, ih _ row.2 filled.2⟩
      rcases filled.1 with ⟨_, absent⟩ | ⟨value, _, read⟩
      · exact Or.inr absent
      · exact Or.inl ⟨value, read⟩

theorem placed_gives (room : Nat) {types : List Type} (fields : Fields types) (items : List Json)
    (row : Row types) (placed : fields.Placed room items row) : fields.Gives room row := by
  induction fields generalizing items with
  | nil => trivial
  | cons field fields ih =>
      cases items with
      | nil => exact ⟨Or.inr placed.1, ih [] row.2 placed.2⟩
      | cons item rest => exact ⟨Or.inl ⟨item, placed.1⟩, ih rest row.2 placed.2⟩

def members {types : List Type} (fields : Fields types) (writers : Writers types) (row : Row types) :
    List (Option String × Json) :=
  (fields.write writers row).filterMap fun (name, value) => value.map fun value => (some name, value)

theorem members_left_out {α : Type} {rest : List Type} (field : Field α) (fields : Fields rest)
    (write : α → Option Json) (writers : Writers rest) (result : α) (row : Row rest)
    (leftOut : write result = none) :
    (Fields.cons field fields).members (.cons write writers) (result, row) = fields.members writers row := by
  simp [members, Fields.write, leftOut]

theorem members_written {α : Type} {rest : List Type} (field : Field α) (fields : Fields rest)
    (write : α → Option Json) (writers : Writers rest) (result : α) (row : Row rest) (value : Json)
    (written : write result = some value) :
    (Fields.cons field fields).members (.cons write writers) (result, row) =
      (some field.name, value) :: fields.members writers row := by
  simp [members, Fields.write, written]

theorem members_sound (room : Nat) {types : List Type} (fields : Fields types) (writers : Writers types)
    (row : Row types) (kept : fields.Kept room writers) (given : fields.Gives room row) :
    ∀ member ∈ fields.members writers row,
      (∃ name ∈ fields.names, member.1 = some name) ∧ Writable member.2 := by
  induction fields with
  | nil =>
      cases writers
      intro member listed
      cases listed
  | cons field fields ih =>
      obtain ⟨result, row⟩ := row
      cases writers with
      | cons write writers =>
          have later : ∀ member ∈ fields.members writers row,
              (∃ name ∈ field.name :: fields.names, member.1 = some name) ∧ Writable member.2 := by
            intro member listed
            obtain ⟨⟨name, named, same⟩, writable⟩ := ih writers row kept.2 given.2 member listed
            exact ⟨⟨name, List.mem_cons_of_mem _ named, same⟩, writable⟩
          have settled := kept.1 result given.1
          cases written : write result with
          | none =>
              rw [members_left_out field fields write writers result row written]
              exact later
          | some value =>
              rw [written] at settled
              rw [members_written field fields write writers result row value written]
              intro member listed
              rcases List.mem_cons.mp listed with rfl | listed
              · exact ⟨⟨field.name, List.mem_cons_self, rfl⟩, settled.2⟩
              · exact later member listed

-- A field that is written finds its own member, one that is left out finds none, and the later fields
-- see what they wrote.
theorem filled_written (room : Nat) {types : List Type} (fields : Fields types)
    (writers : Writers types) (row : Row types) (distinct : fields.names.Nodup)
    (kept : fields.Kept room writers) (given : fields.Gives room row) :
    fields.Filled room (fields.members writers row) row := by
  induction fields with
  | nil =>
      cases writers
      intro member listed
      cases listed
  | cons field fields ih =>
      obtain ⟨result, row⟩ := row
      cases writers with
      | cons write writers =>
          obtain ⟨unnamed, distinct⟩ := List.nodup_cons.mp distinct
          have later := ih writers row distinct kept.2 given.2
          have others : ∀ member ∈ fields.members writers row, member.1 ≠ some field.name := by
            intro member listed same
            obtain ⟨⟨name, named, other⟩, _⟩ :=
              members_sound room fields writers row kept.2 given.2 member listed
            exact unnamed (Option.some.inj (other.symm.trans same) ▸ named)
          have settled := kept.1 result given.1
          have missing := values_of_none field.name _ others
          have apart := without_none field.name _ others
          cases written : write result with
          | none =>
              rw [written] at settled
              rw [members_left_out field fields write writers result row written]
              exact ⟨Or.inl ⟨missing, settled⟩, by rwa [apart]⟩
          | some value =>
              rw [written] at settled
              rw [members_written field fields write writers result row value written]
              simp only [Filled, values_of_cons, without_cons, if_true, missing, apart, takes_single]
              exact ⟨settled.1, later⟩

end Fields

theorem record_gives (room : Nat) (title : String) {types : List Type} (fields : Fields types)
    (value : Json) (row : Row types) (accepted : Decoder.record title fields (room + 1) value = .ok row) :
    fields.Gives room row := by
  obtain ⟨inner, same, found⟩ := (record_iff title fields _ value row).mp accepted
  obtain rfl := Nat.succ.inj same
  rcases found with ⟨members, _, filled⟩ | ⟨items, _, placed⟩
  · exact fields.filled_gives room members row filled
  · exact fields.placed_gives room items row placed

theorem faithful_record_at (room : Nat) (title : String) {types : List Type} (fields : Fields types)
    (writers : Writers types) (distinct : fields.names.Nodup) (kept : fields.Kept room writers) :
    FaithfulAt (room + 1) (Decoder.record title fields) fun row => .record (fields.write writers row) := by
  intro value row accepted
  have given := record_gives room title fields value row accepted
  have filled := fields.filled_written room writers row distinct kept given
  have sound := fields.members_sound room writers row kept given
  refine ⟨?_, .object _ ?_ fun member listed => (sound member listed).2⟩
  · exact (fields.of_members_iff room (fields.members writers row) row).mpr filled
  · intro member listed
    obtain ⟨⟨name, _, named⟩, _⟩ := sound member listed
    rw [named]
    rfl

theorem faithful_record (title : String) {types : List Type} (fields : Fields types)
    (writers : Writers types) (distinct : fields.names.Nodup)
    (kept : ∀ room, fields.Kept room writers) :
    Faithful (Decoder.record title fields) fun row => .record (fields.write writers row) := by
  intro room
  cases room with
  | zero =>
      intro value row accepted
      cases value <;> cases accepted
  | succ room => exact faithful_record_at room title fields writers distinct (kept room)

end TemplateManual.Json
