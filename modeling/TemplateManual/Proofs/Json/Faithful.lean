import TemplateManual.Json.Decoder
import TemplateManual.Proofs.Json.Reading

set_option autoImplicit false

namespace TemplateManual.Json

-- The same number of containers may be open around the value as it was found and as it is written.
def FaithfulAt {α : Type} (room : Nat) (decoder : Decoder α) (write : α → Json) : Prop :=
  ∀ value result, decoder room value = .ok result →
    decoder room (write result) = .ok result ∧ Writable (write result)

def Faithful {α : Type} (decoder : Decoder α) (write : α → Json) : Prop :=
  ∀ room, FaithfulAt room decoder write

theorem map_ok {α β : Type} (f : α → β) (found : Except Fault α) (result : β)
    (accepted : found.map f = .ok result) : ∃ part, found = .ok part ∧ f part = result := by
  cases found with
  | error reason => cases accepted
  | ok part => exact ⟨part, rfl, Except.ok.inj accepted⟩

theorem reject_ne_ok {α : Type} (wanted : Wanted) (value : Json) (result : α) :
    Decoder.reject wanted value ≠ .ok result := by
  cases value <;> simp [Decoder.reject]

theorem faithful_string : Faithful Decoder.string .string := by
  intro room value result accepted
  cases value with
  | string text =>
      cases accepted
      exact ⟨rfl, .string _⟩
  | _ => cases accepted

theorem faithful_bool : Faithful Decoder.bool .bool := by
  intro room value result accepted
  cases value with
  | bool truth =>
      cases accepted
      exact ⟨rfl, .bool _⟩
  | _ => cases accepted

theorem faithful_whole (low high : Int) (wanted : Wanted) (above : -9223372036854775808 ≤ low)
    (below : high ≤ 18446744073709551615) : Faithful (Decoder.whole low high wanted) Json.int := by
  intro room value result accepted
  unfold Decoder.whole at accepted
  split at accepted
  · split at accepted
    · rename_i inside
      cases accepted
      refine ⟨if_pos inside, .whole _ ?_ ?_⟩
      · exact Int.le_trans above inside.1
      · exact Int.le_trans inside.2 below
    · cases accepted
  · exact absurd accepted (reject_ne_ok _ _ _)

theorem faithful_int64 : Faithful Decoder.int64 Json.int :=
  faithful_whole _ _ _ (by decide) (by decide)

theorem faithful_map_at {α β : Type} (room : Nat) (f : α → β) (decoder : Decoder α) (write : α → Json)
    (written : β → Json) (faithful : FaithfulAt room decoder write)
    (same : ∀ part, written (f part) = write part) :
    FaithfulAt room (decoder.map f) written := by
  intro value result accepted
  obtain ⟨part, found, rfl⟩ := map_ok f _ result accepted
  obtain ⟨again, writable⟩ := faithful value part found
  rw [same]
  refine ⟨?_, writable⟩
  rw [Decoder.map, again]
  rfl

theorem faithful_map {α β : Type} (f : α → β) (decoder : Decoder α) (write : α → Json)
    (written : β → Json) (faithful : Faithful decoder write)
    (same : ∀ part, written (f part) = write part) : Faithful (decoder.map f) written :=
  fun room => faithful_map_at room f decoder write written (faithful room) same

theorem all_found {α : Type} (decoder : Decoder α) (room : Nat) (items : List Json) (results : List α)
    (accepted : Decoder.all decoder room items = .ok results) :
    ∀ result ∈ results, ∃ item, decoder room item = .ok result := by
  induction items generalizing results with
  | nil =>
      cases accepted
      simp
  | cons item rest ih =>
      simp only [Decoder.all] at accepted
      split at accepted
      · cases accepted
      · rename_i first found
        obtain ⟨others, othersFound, rfl⟩ := map_ok _ _ results accepted
        intro result member
        rcases List.mem_cons.mp member with rfl | later
        · exact ⟨item, found⟩
        · exact ih others othersFound result later

theorem list_iff {α : Type} (decoder : Decoder α) (room : Nat) (value : Json) (results : List α) :
    decoder.list room value = .ok results ↔ ∃ inner items, room = inner + 1 ∧ value = .array items ∧
      Decoder.all decoder inner items = .ok results := by
  cases room <;> cases value <;> simp [Decoder.list, Decoder.reject]

theorem all_written {α : Type} (decoder : Decoder α) (write : α → Json) (room : Nat) (results : List α)
    (again : ∀ result ∈ results, decoder room (write result) = .ok result) :
    Decoder.all decoder room (results.map write) = .ok results := by
  induction results with
  | nil => rfl
  | cons first rest ih =>
      have restAgain := ih fun result member => again result (List.mem_cons_of_mem first member)
      simp only [List.map_cons, Decoder.all, again first List.mem_cons_self, restAgain]
      rfl

theorem faithful_list {α : Type} (decoder : Decoder α) (write : α → Json)
    (faithful : Faithful decoder write) :
    Faithful decoder.list fun items => .array (items.map write) := by
  intro room value results accepted
  obtain ⟨inner, items, rfl, rfl, read⟩ := (list_iff decoder room value results).mp accepted
  have each : ∀ result ∈ results, decoder inner (write result) = .ok result ∧ Writable (write result) := by
    intro result member
    obtain ⟨item, found⟩ := all_found decoder inner items results read result member
    exact faithful inner item result found
  refine ⟨all_written decoder write inner results fun result member => (each result member).1,
    .array _ ?_⟩
  intro item member
  obtain ⟨result, listed, rfl⟩ := List.mem_map.mp member
  exact (each result listed).2

theorem entries_found {α : Type} (decoder : Decoder α) (room : Nat) (done : KeyedList α)
    (members : List (Option String × Json)) (results : KeyedList α)
    (accepted : Decoder.entries decoder room done members = .ok results)
    (found : ∀ entry ∈ done.entries, ∃ value, decoder room value = .ok entry.2) :
    ∀ entry ∈ results.entries, ∃ value, decoder room value = .ok entry.2 := by
  induction members generalizing done with
  | nil =>
      cases accepted
      exact found
  | cons member rest ih =>
      obtain ⟨name, value⟩ := member
      cases name with
      | none => cases accepted
      | some key =>
          simp only [Decoder.entries] at accepted
          split at accepted
          · cases accepted
          · rename_i first read
            refine ih _ accepted fun entry member => ?_
            rcases KeyedList.put_entry_member key first done.entries entry member with rfl | older
            · exact ⟨value, read⟩
            · exact found entry older

theorem table_iff {α : Type} (decoder : Decoder α) (room : Nat) (value : Json) (results : KeyedList α) :
    decoder.table room value = .ok results ↔ ∃ inner members, room = inner + 1 ∧ value = .object members ∧
      Decoder.entries decoder inner .empty members = .ok results := by
  cases room <;> cases value <;> simp [Decoder.table, Decoder.reject]

theorem entries_written {α : Type} (decoder : Decoder α) (write : α → Json) (room : Nat)
    (rest : List (String × α)) (done results : KeyedList α) (split : results.entries = done.entries ++ rest)
    (again : ∀ entry ∈ rest, decoder room (write entry.2) = .ok entry.2) :
    Decoder.entries decoder room done (rest.map fun entry => (some entry.1, write entry.2)) = .ok results := by
  induction rest generalizing done with
  | nil =>
      rw [List.append_nil] at split
      rw [KeyedList.ext split]
      rfl
  | cons entry rest ih =>
      have new : entry.1 ∉ done.keys := by
        have distinct := results.distinct
        rw [split, List.map_append, List.nodup_append] at distinct
        intro held
        exact distinct.2.2 entry.1 held entry.1 (by simp) rfl
      simp only [List.map_cons, Decoder.entries, again entry List.mem_cons_self]
      apply ih
      · rw [done.entries_put_new entry.1 entry.2 new, split]
        simp
      · exact fun other member => again other (List.mem_cons_of_mem entry member)

theorem faithful_table {α : Type} (decoder : Decoder α) (write : α → Json)
    (faithful : Faithful decoder write) :
    Faithful decoder.table fun list =>
      .object (list.entries.map fun entry => (some entry.1, write entry.2)) := by
  intro room value results accepted
  obtain ⟨inner, members, rfl, rfl, read⟩ := (table_iff decoder room value results).mp accepted
  have found := entries_found decoder inner .empty members results read (by simp [KeyedList.empty])
  have each : ∀ entry ∈ results.entries,
      decoder inner (write entry.2) = .ok entry.2 ∧ Writable (write entry.2) := by
    intro entry member
    obtain ⟨value, read⟩ := found entry member
    exact faithful inner value entry.2 read
  refine ⟨entries_written decoder write inner results.entries .empty results rfl
    fun entry member => (each entry member).1, .object _ ?_ ?_⟩
  · intro member listed
    obtain ⟨entry, _, rfl⟩ := List.mem_map.mp listed
    rfl
  · intro member listed
    obtain ⟨entry, kept, rfl⟩ := List.mem_map.mp listed
    exact (each entry kept).2

-- Each layer is faithful if what it refers to is, so layers stacked to any height are.
theorem faithful_nested {α : Type} (layer : Decoder α → Decoder α) (write : α → Json)
    (step : ∀ inner, Faithful inner write → Faithful (layer inner) write) :
    Faithful (Decoder.nested layer) write := by
  have stacked : ∀ count, Faithful (Decoder.upTo layer count) write := by
    intro count
    induction count with
    | zero =>
        intro room value result accepted
        cases accepted
    | succ count ih => exact step _ ih
  exact fun room => stacked (room + 1) room

theorem decode_spelled {α : Type} (decoder : Decoder α) (text : String) (value : Json)
    (reading : read text = ⟨value, true⟩) : decoder.decodeText text = decoder.decode value := by
  unfold Decoder.decodeText
  rw [reading]
  dsimp only
  cases decoder.decode value <;> rfl

theorem decode_text_found {α : Type} (decoder : Decoder α) (text : String) (result : α)
    (accepted : decoder.decodeText text = .ok result) :
    decoder.decode (read text).value = .ok result := by
  unfold Decoder.decodeText at accepted
  dsimp only at accepted
  cases decoded : decoder.decode (read text).value with
  | error reason => simp [decoded] at accepted
  | ok found =>
      rw [decoded] at accepted
      dsimp only at accepted
      split at accepted
      · exact accepted
      · cases accepted

theorem faithful_text {α : Type} (decoder : Decoder α) (write : α → Json)
    (faithful : FaithfulAt Decoder.depthLimit decoder write) (text : String) (result : α)
    (accepted : decoder.decodeText text = .ok result) :
    decoder.decodeText (write result).compact = .ok result ∧
      ∀ depth, decoder.decodeText ((write result).indented depth) = .ok result := by
  have found := decode_text_found decoder text result accepted
  obtain ⟨again, writable⟩ := faithful (read text).value result found
  constructor
  · rw [decode_spelled decoder _ _ (read_compact _ writable)]
    exact again
  · intro depth
    rw [decode_spelled decoder _ _ (read_indented _ writable depth)]
    exact again

end TemplateManual.Json
