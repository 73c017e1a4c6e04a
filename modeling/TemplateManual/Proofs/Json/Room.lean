import TemplateManual.Proofs.Json.Acceptance

set_option autoImplicit false

namespace TemplateManual.Json

mutual

def nesting : Json → Nat
  | .array items => deepest items + 1
  | .object members => deepestMember members + 1
  | _ => 0

def deepest : List Json → Nat
  | [] => 0
  | item :: rest => max item.nesting (deepest rest)

def deepestMember : List (Option String × Json) → Nat
  | [] => 0
  | (_, value) :: rest => max value.nesting (deepestMember rest)

end

theorem item_nesting (items : List Json) (item : Json) (listed : item ∈ items) :
    item.nesting < (Json.array items).nesting := by
  have below : item.nesting ≤ deepest items := by
    induction items with
    | nil => cases listed
    | cons head rest ih =>
        rw [deepest]
        rcases List.mem_cons.mp listed with rfl | later
        · exact Nat.le_max_left _ _
        · exact Nat.le_trans (ih later) (Nat.le_max_right _ _)
  rw [nesting]
  omega

theorem member_nesting (members : List (Option String × Json)) (member : Option String × Json)
    (listed : member ∈ members) : member.2.nesting < (Json.object members).nesting := by
  have below : member.2.nesting ≤ deepestMember members := by
    induction members with
    | nil => cases listed
    | cons head rest ih =>
        obtain ⟨key, value⟩ := head
        rw [deepestMember]
        rcases List.mem_cons.mp listed with rfl | later
        · exact Nat.le_max_left _ _
        · exact Nat.le_trans (ih later) (Nat.le_max_right _ _)
  rw [nesting]
  omega

-- There is as much room as before, or enough for the whole value.
def Suffices (room space : Nat) (value : Json) : Prop := room ≤ space ∨ value.nesting ≤ space

theorem array_opens (room space : Nat) (items : List Json) (enough : Suffices (room + 1) space (.array items)) :
    ∃ inner, space = inner + 1 ∧ ∀ item ∈ items, Suffices room inner item := by
  have opened : 0 < space := by
    rw [Suffices, nesting] at enough
    omega
  refine ⟨space - 1, by omega, fun item listed => ?_⟩
  have inside := item_nesting items item listed
  unfold Suffices at enough ⊢
  omega

theorem object_opens (room space : Nat) (members : List (Option String × Json))
    (enough : Suffices (room + 1) space (.object members)) :
    ∃ inner, space = inner + 1 ∧ ∀ member ∈ members, Suffices room inner member.2 := by
  have opened : 0 < space := by
    rw [Suffices, nesting] at enough
    omega
  refine ⟨space - 1, by omega, fun member listed => ?_⟩
  have inside := member_nesting members member listed
  unfold Suffices at enough ⊢
  omega

def Carries {α : Type} (count reach : Nat) (decoder reader : Decoder α) : Prop :=
  ∀ room space value, room < count → space < reach → Suffices room space value →
    Leads (decoder room value) (reader space value)

def Steady {α : Type} (decoder : Decoder α) : Prop := ∀ count reach, Carries count reach decoder decoder

-- Each layer opens a container before it looks at what lies inside.
def Guarded {α : Type} (layer : Decoder α → Decoder α) : Prop :=
  ∀ count reach decoder reader, Carries count reach decoder reader →
    Carries (count + 1) (reach + 1) (layer decoder) (layer reader)

theorem carries_weaken {α : Type} {count reach : Nat} {decoder reader : Decoder α}
    (carries : Carries (count + 1) (reach + 1) decoder reader) : Carries count reach decoder reader := by
  intro room space value below within enough
  exact carries room space value (by omega) (by omega) enough

theorem steady_leads {α : Type} (decoder : Decoder α) (steady : Steady decoder) (room space : Nat) (value : Json)
    (enough : Suffices room space value) : Leads (decoder room value) (decoder space value) :=
  steady (room + 1) (space + 1) room space value (Nat.lt_succ_self room) (Nat.lt_succ_self space) enough

theorem steady_string : Steady Decoder.string := by
  intro count reach room space value _ _ _ result accepted
  cases value <;> exact accepted

theorem steady_bool : Steady Decoder.bool := by
  intro count reach room space value _ _ _ result accepted
  cases value <;> exact accepted

theorem steady_int64 : Steady Decoder.int64 := by
  intro count reach room space value _ _ _ result accepted
  cases value with
  | number value => cases value <;> exact accepted
  | _ => exact accepted

theorem carries_map {α β : Type} {count reach : Nat} (f : α → β) {decoder reader : Decoder α}
    (carries : Carries count reach decoder reader) : Carries count reach (decoder.map f) (reader.map f) := by
  intro room space value below within enough
  exact leads_map f _ _ (carries room space value below within enough)

theorem carries_optional {α : Type} {count reach : Nat} {decoder reader : Decoder α}
    (carries : Carries count reach decoder reader) : Carries count reach decoder.optional reader.optional := by
  intro room space value below within enough
  exact leads_optional decoder reader room space value value Iff.rfl
    (carries room space value below within enough)

theorem carries_list {α : Type} {count reach : Nat} {decoder reader : Decoder α}
    (carries : Carries count reach decoder reader) :
    Carries (count + 1) (reach + 1) decoder.list reader.list := by
  intro room space value below within enough results accepted
  obtain ⟨room, items, rfl, rfl, read⟩ := (list_iff decoder room value results).mp accepted
  obtain ⟨space, rfl, each⟩ := array_opens room space items enough
  refine (list_iff reader _ _ results).mpr ⟨space, items, rfl, rfl, ?_⟩
  refine leads_all decoder reader room space items items (List.forall₂_same.mpr ?_) results read
  intro item listed
  exact carries room space item (by omega) (by omega) (each item listed)

theorem carries_table {α : Type} {count reach : Nat} {decoder reader : Decoder α}
    (carries : Carries count reach decoder reader) :
    Carries (count + 1) (reach + 1) decoder.table reader.table := by
  intro room space value below within enough results accepted
  obtain ⟨room, members, rfl, rfl, read⟩ := (table_iff decoder room value results).mp accepted
  obtain ⟨space, rfl, each⟩ := object_opens room space members enough
  refine (table_iff reader _ _ results).mpr ⟨space, members, rfl, rfl, ?_⟩
  refine leads_entries decoder reader room space members members .empty (List.forall₂_same.mpr ?_) results read
  intro member listed
  exact ⟨rfl, carries room space member.2 (by omega) (by omega) (each member listed)⟩

theorem carries_tagged {α : Type} {count reach : Nat} {cases others : List (Case α)}
    (each : List.Forall₂ (CaseLeads (Carries count reach)) cases others) :
    Carries (count + 1) (reach + 1) (Decoder.tagged cases) (Decoder.tagged others) := by
  intro room space value below within enough result accepted
  refine (tagged_iff others space value result).mpr ?_
  rcases (tagged_iff cases room value result).mp accepted with
    ⟨tag, rfl, found⟩ | ⟨room, tag, inside, content, rfl, rfl, found, read⟩
  · obtain ⟨other, matched, alike⟩ := find_case_leads _ cases others each tag _ found
    cases alike
    exact Or.inl ⟨tag, rfl, matched⟩
  · obtain ⟨other, matched, alike⟩ := find_case_leads _ cases others each tag content found
    obtain ⟨space, rfl, fits⟩ := object_opens room space _ enough
    refine Or.inr ⟨space, tag, inside, other, rfl, rfl, matched, ?_⟩
    refine leads_with_content _ room space inside content other alike ?_ result read
    intro decoder reader carries
    exact carries room space inside (by omega) (by omega) (fits (some tag, inside) List.mem_cons_self)

theorem bare_carries {α : Type} {count reach : Nat} (tag : String) (result : α) :
    CaseLeads (Carries count reach) ⟨tag, .bare result⟩ ⟨tag, .bare result⟩ :=
  ⟨rfl, .bare result⟩

theorem value_carries {α β : Type} {count reach : Nat} (tag : String) (f : α → β) {decoder reader : Decoder α}
    (carries : Carries count reach decoder reader) :
    CaseLeads (Carries count reach) ⟨tag, .value (decoder.map f)⟩ ⟨tag, .value (reader.map f)⟩ :=
  ⟨rfl, .value _ _ (carries_map f carries)⟩

theorem record_carries {α : Type} {count reach : Nat} (tag : String) {decoder reader : Decoder α}
    (carries : Carries count reach decoder reader) :
    CaseLeads (Carries count reach) ⟨tag, .record decoder⟩ ⟨tag, .record reader⟩ :=
  ⟨rfl, .record _ _ carries⟩

inductive FieldsCarry (count reach : Nat) : {types : List Type} → Fields types → Fields types → Prop where
  | nil : FieldsCarry count reach .nil .nil
  | cons {α : Type} {rest : List Type} {name : String} {absent : Option α} {decoder reader : Decoder α}
      {fields others : Fields rest} (first : Carries count reach decoder reader)
      (later : FieldsCarry count reach fields others) :
      FieldsCarry count reach (.cons ⟨name, decoder, absent⟩ fields) (.cons ⟨name, reader, absent⟩ others)

theorem filled_carries {count reach room space : Nat} (below : room < count) (within : space < reach)
    {types : List Type} {fields others : Fields types} (carries : FieldsCarry count reach fields others)
    (members : List (Option String × Json)) (each : ∀ member ∈ members, Suffices room space member.2)
    (row : Row types) (filled : fields.Filled room members row) : others.Filled space members row := by
  induction carries generalizing members with
  | nil => exact filled
  | @cons _ _ name _ _ _ _ _ first _ ih =>
      obtain ⟨result, row⟩ := row
      obtain ⟨taken, filled⟩ := filled
      refine ⟨?_, ih _ (fun member listed => each member (List.mem_of_mem_filter listed)) row filled⟩
      rcases taken with missing | ⟨value, alone, read⟩
      · exact Or.inl missing
      · have listed : (some name, value) ∈ members := (Fields.mem_values_of _ _ _).mp (by simp [alone])
        exact Or.inr ⟨value, alone, first room space value below within (each _ listed) result read⟩

theorem placed_carries {count reach room space : Nat} (below : room < count) (within : space < reach)
    {types : List Type} {fields others : Fields types} (carries : FieldsCarry count reach fields others)
    (items : List Json) (each : ∀ item ∈ items, Suffices room space item)
    (row : Row types) (placed : fields.Placed room items row) : others.Placed space items row := by
  induction carries generalizing items with
  | nil => exact placed
  | cons first _ ih =>
      obtain ⟨result, row⟩ := row
      cases items with
      | nil => exact ⟨placed.1, ih [] (by simp) row placed.2⟩
      | cons item rest =>
          obtain ⟨fits, later⟩ := List.forall_mem_cons.mp each
          exact ⟨first room space item below within fits result placed.1, ih rest later row placed.2⟩

theorem carries_record {count reach : Nat} {title : String} {types : List Type} {fields others : Fields types}
    (carries : FieldsCarry count reach fields others) :
    Carries (count + 1) (reach + 1) (Decoder.record title fields) (Decoder.record title others) := by
  intro room space value below within enough row accepted
  obtain ⟨room, rfl, found⟩ := (record_iff title fields room value row).mp accepted
  rw [record_iff]
  rcases found with ⟨members, rfl, filled⟩ | ⟨items, rfl, placed⟩
  · obtain ⟨space, rfl, each⟩ := object_opens room space members enough
    exact ⟨space, rfl, Or.inl ⟨members, rfl,
      filled_carries (by omega) (by omega) carries members each row filled⟩⟩
  · obtain ⟨space, rfl, each⟩ := array_opens room space items enough
    exact ⟨space, rfl, Or.inr ⟨items, rfl,
      placed_carries (by omega) (by omega) carries items each row placed⟩⟩

theorem up_to_carries {α : Type} {layer : Decoder α → Decoder α} (guarded : Guarded layer) (count reach : Nat) :
    Carries count reach (Decoder.upTo layer count) (Decoder.upTo layer reach) := by
  induction count generalizing reach with
  | zero => exact fun _ _ _ below => absurd below (Nat.not_lt_zero _)
  | succ count ih =>
      cases reach with
      | zero => exact fun _ _ _ _ within => absurd within (Nat.not_lt_zero _)
      | succ reach => exact guarded count reach _ _ (ih reach)

theorem steady_nested {α : Type} {layer : Decoder α → Decoder α} (guarded : Guarded layer) :
    Steady (Decoder.nested layer) := by
  intro count reach room space value _ _ enough
  exact up_to_carries guarded (room + 1) (space + 1) room space value (by omega) (by omega) enough

theorem nested_iff {α : Type} {layer : Decoder α → Decoder α} (guarded : Guarded layer) (room : Nat)
    (value : Json) (result : α) :
    Decoder.nested layer room value = .ok result ↔ layer (Decoder.nested layer) room value = .ok result := by
  have deeper : Carries room room (Decoder.upTo layer room) (Decoder.nested layer) := by
    intro inner space value below _ enough
    exact up_to_carries guarded room (space + 1) inner space value below (by omega) enough
  have shallower : Carries room room (Decoder.nested layer) (Decoder.upTo layer room) := by
    intro inner space value _ within enough
    exact up_to_carries guarded (inner + 1) room inner space value (by omega) within enough
  have enough : Suffices room room value := Or.inl (Nat.le_refl room)
  exact ⟨guarded room room _ _ deeper room room value (by omega) (by omega) enough result,
    guarded room room _ _ shallower room room value (by omega) (by omega) enough result⟩

end TemplateManual.Json
