set_option autoImplicit false

namespace TemplateManual

-- Values under names. The names stand in the order in which they first came, so two lists with the same entries
-- in another order differ.
@[ext] structure KeyedList (α : Type) where
  entries : List (String × α)
  distinct : (entries.map Prod.fst).Nodup := by decide

namespace KeyedList

def keys {α : Type} (list : KeyedList α) : List String := list.entries.map Prod.fst

def empty {α : Type} : KeyedList α := ⟨[], .nil⟩

def putEntry {α : Type} (key : String) (value : α) : List (String × α) → List (String × α)
  | [] => [(key, value)]
  | (other, held) :: rest =>
    if other = key then (key, value) :: rest else (other, held) :: putEntry key value rest

theorem put_entry_new {α : Type} (key : String) (value : α) (entries : List (String × α))
    (new : key ∉ entries.map Prod.fst) : putEntry key value entries = entries ++ [(key, value)] := by
  induction entries with
  | nil => rfl
  | cons entry rest ih =>
      simp only [List.map_cons, List.mem_cons, not_or] at new
      simp only [putEntry, if_neg (Ne.symm new.1), ih new.2, List.cons_append]

theorem put_entry_held {α : Type} (key : String) (value : α) (entries : List (String × α))
    (held : key ∈ entries.map Prod.fst) : (putEntry key value entries).map Prod.fst = entries.map Prod.fst := by
  induction entries with
  | nil => simp at held
  | cons entry rest ih =>
      by_cases same : entry.1 = key
      · simp [putEntry, same]
      · have later : key ∈ rest.map Prod.fst := by
          rcases List.mem_cons.mp held with here | later
          · exact absurd here.symm same
          · exact later
        simp only [putEntry, if_neg same, List.map_cons, ih later]

theorem put_entry_distinct {α : Type} (key : String) (value : α) (entries : List (String × α))
    (distinct : (entries.map Prod.fst).Nodup) : ((putEntry key value entries).map Prod.fst).Nodup := by
  by_cases held : key ∈ entries.map Prod.fst
  · rw [put_entry_held key value entries held]
    exact distinct
  · rw [put_entry_new key value entries held, List.map_append, List.nodup_append]
    refine ⟨distinct, by simp, ?_⟩
    intro other member added single
    obtain rfl : added = key := by simpa using single
    exact fun equal => held (equal ▸ member)

theorem put_entry_member {α : Type} (key : String) (value : α) (entries : List (String × α))
    (entry : String × α) (member : entry ∈ putEntry key value entries) :
    entry = (key, value) ∨ entry ∈ entries := by
  induction entries with
  | nil => exact Or.inl (List.mem_singleton.mp member)
  | cons first rest ih =>
      by_cases same : first.1 = key
      · simp only [putEntry, if_pos same, List.mem_cons] at member
        exact member.imp id (List.mem_cons_of_mem first)
      · simp only [putEntry, if_neg same, List.mem_cons] at member
        rcases member with here | later
        · exact Or.inr (List.mem_cons.mpr (Or.inl here))
        · exact (ih later).imp id (List.mem_cons_of_mem first)

def put {α : Type} (list : KeyedList α) (key : String) (value : α) : KeyedList α :=
  ⟨putEntry key value list.entries, put_entry_distinct key value list.entries list.distinct⟩

theorem entries_put_new {α : Type} (list : KeyedList α) (key : String) (value : α) (new : key ∉ list.keys) :
    (list.put key value).entries = list.entries ++ [(key, value)] :=
  put_entry_new key value list.entries new

theorem keys_put_new {α : Type} (list : KeyedList α) (key : String) (value : α) (new : key ∉ list.keys) :
    (list.put key value).keys = list.keys ++ [key] := by
  rw [keys, entries_put_new list key value new, List.map_append]
  rfl

theorem keys_put_held {α : Type} (list : KeyedList α) (key : String) (value : α) (held : key ∈ list.keys) :
    (list.put key value).keys = list.keys :=
  put_entry_held key value list.entries held

end KeyedList

end TemplateManual
