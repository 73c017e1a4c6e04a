import Mathlib.Data.Finset.Dedup
import Mathlib.Data.Finset.Card
import TemplateManual.Proofs.Extraction

set_option autoImplicit false

namespace TemplateManual

def repeatedNames (names : List String) : List String :=
  (keepFirsts id none (sortByName id names)).2

theorem keep_firsts_map {α : Type} (name : α → String) (items : List α) (last : Option String) :
    keepFirsts id last (items.map name) =
      ((keepFirsts name last items).1.map name, (keepFirsts name last items).2.map name) := by
  induction items generalizing last with
  | nil => rfl
  | cons item rest ih =>
      by_cases same : last = some (name item)
      · rw [List.map_cons, keep_firsts_same id last _ _ same, keep_firsts_same name last item rest same, ih]
        rfl
      · rw [List.map_cons, keep_firsts_fresh id last _ _ same, keep_firsts_fresh name last item rest same,
          id_eq, ih]
        rfl

theorem sort_by_name_map {α : Type} (name : α → String) (items : List α) :
    (sortByName name items).map name = sortByName id (items.map name) :=
  List.map_mergeSort fun _ _ _ _ => rfl

theorem sort_unique_notices {α : Type} (scope : String) (name : α → String) (items : List α) :
    (sortUnique scope name items).notices =
      (repeatedNames (items.map name)).map (Notice.repeatedName scope) := by
  rw [repeatedNames, ← sort_by_name_map, keep_firsts_map, List.map_map]
  rfl

theorem keep_firsts_conserves {α : Type} (name : α → String) (items : List α) (last : Option String) :
    ((keepFirsts name last items).1 ++ (keepFirsts name last items).2).Perm items := by
  induction items generalizing last with
  | nil => exact List.Perm.refl _
  | cons item rest ih =>
      by_cases same : last = some (name item)
      · rw [keep_firsts_same name last item rest same]
        exact List.perm_middle.trans ((ih last).cons item)
      · rw [keep_firsts_fresh name last item rest same]
        exact (ih (some (name item))).cons item

theorem sort_unique_conserves (scope : String) (names : List String) :
    ((sortUnique scope id names).value ++ repeatedNames names).Perm names :=
  (keep_firsts_conserves id _ none).trans (sort_by_name_perm id names)

theorem sort_unique_nodup (scope : String) (names : List String) :
    (sortUnique scope id names).value.Nodup :=
  (sort_unique_increasing scope id names).imp fun less => less.ne

theorem mem_sort_unique (scope : String) (names : List String) (wanted : String) :
    wanted ∈ (sortUnique scope id names).value ↔ wanted ∈ names := by
  have kept := find_named_is_some id (sortUnique scope id names).value wanted
  rw [sort_unique_find, find_named_is_some, List.map_id, List.map_id] at kept
  exact kept.symm

theorem count_repeated_names (names : List String) (wanted : String) :
    (repeatedNames names).count wanted = names.count wanted - 1 := by
  have total := (sort_unique_conserves "" names).count_eq wanted
  rw [List.count_append] at total
  by_cases present : wanted ∈ names
  · have kept := List.count_eq_one_of_mem (sort_unique_nodup "" names)
      ((mem_sort_unique "" names wanted).mpr present)
    omega
  · have absent := List.count_eq_zero_of_not_mem present
    omega

theorem mem_repeated_names (names : List String) (wanted : String) :
    wanted ∈ repeatedNames names ↔ 1 < names.count wanted := by
  rw [← List.count_pos_iff, count_repeated_names]
  omega

theorem repeated_names_perm (names others : List String) (reordered : names.Perm others) :
    (repeatedNames names).Perm (repeatedNames others) := by
  apply List.perm_iff_count.mpr
  intro wanted
  rw [count_repeated_names, count_repeated_names, reordered.count_eq]

def surplus (names : List String) : Nat := names.length - names.toFinset.card

theorem length_repeated_names (names : List String) : (repeatedNames names).length = surplus names := by
  have total := (sort_unique_conserves "" names).length_eq
  rw [List.length_append] at total
  have sameNames : (sortUnique "" id names).value.toFinset = names.toFinset := by
    ext wanted
    rw [List.mem_toFinset, List.mem_toFinset, mem_sort_unique]
  have kept := List.toFinset_card_of_nodup (sort_unique_nodup "" names)
  rw [sameNames] at kept
  unfold surplus
  omega

theorem repeated_names_distinct (names : List String) (distinct : names.Nodup) :
    repeatedNames names = [] := by
  apply List.eq_nil_of_length_eq_zero
  rw [length_repeated_names, surplus, List.toFinset_card_of_nodup distinct, Nat.sub_self]

theorem sort_unique_distinct {α : Type} (scope : String) (name : α → String) (items : List α)
    (distinct : (items.map name).Nodup) : sortUnique scope name items = ⟨sortByName name items, []⟩ := by
  have dropped : (keepFirsts name none (sortByName name items)).2 = [] := by
    have names := congrArg Prod.snd (keep_firsts_map name (sortByName name items) none)
    rw [sort_by_name_map] at names
    exact List.map_eq_nil_iff.mp (names.symm.trans (repeated_names_distinct _ distinct))
  have whole := (keep_firsts_conserves name (sortByName name items) none).length_eq
  rw [dropped, List.append_nil] at whole
  have kept := (keep_firsts_sublist name (sortByName name items) none).eq_of_length whole
  simp only [sortUnique, dropped, kept, List.map_nil]

theorem sort_unique_keeps_all {α : Type} (scope : String) (name : α → String) (items : List α)
    (distinct : (items.map name).Nodup) : (sortUnique scope name items).value.Perm items := by
  rw [sort_unique_distinct scope name items distinct]
  exact sort_by_name_perm name items

theorem sort_unique_of_increasing {α : Type} (scope : String) (name : α → String) (items : List α)
    (increasing : items.Pairwise fun a b => name a < name b) : sortUnique scope name items = ⟨items, []⟩ := by
  have distinct : (items.map name).Nodup := List.pairwise_map.mpr (increasing.imp fun less => less.ne)
  have sorted : sortByName name items = items :=
    List.mergeSort_of_pairwise (increasing.imp fun less => decide_eq_true less.le)
  rw [sort_unique_distinct scope name items distinct, sorted]

theorem keep_firsts_dropped_sublist {α : Type} (name : α → String) (items : List α) (last : Option String) :
    (keepFirsts name last items).2.Sublist items := by
  induction items generalizing last with
  | nil => exact List.Sublist.refl _
  | cons item rest ih =>
      by_cases same : last = some (name item)
      · rw [keep_firsts_same name last item rest same]
        exact (ih last).cons_cons item
      · rw [keep_firsts_fresh name last item rest same]
        exact (ih (some (name item))).cons item

theorem count_reported_symbol (scope : String) (names : List String) (wanted : String) :
    ((names.map (Notice.repeatedName scope)).map Notice.symbol).count (some (scope ++ "." ++ wanted)) =
      names.count wanted := by
  have injective : Function.Injective fun name => some (scope ++ "." ++ name) := by
    intro name other same
    exact (String.append_right_inj _).mp (Option.some.inj same)
  rw [List.map_map]
  exact List.count_map_of_injective names _ injective wanted

-- A list with the notices told so far, before and after it was sorted and cleared of repeated names: what was
-- dropped from it, and the reports on that.
structure Cleared {α : Type} (scope : String) (name : α → String) (before after : Noted (List α))
    (dropped : List α) (reports : List Notice) : Prop where
  appended : after.notices = before.notices ++ reports
  complete : reports.length + after.value.length = before.value.length
  warned : ∀ report ∈ reports, report.severity = .warning ∧ report.code = some "E003"
  named : reports.map Notice.symbol = dropped.map fun item => some (scope ++ "." ++ name item)
  ordered : (dropped.map name).Pairwise (· ≤ ·)
  repeats : ∀ wanted, (reports.map Notice.symbol).count (some (scope ++ "." ++ wanted)) =
    (before.value.map name).count wanted - 1
  conserved : (after.value ++ dropped).Perm before.value
  settled : ∀ again, after.bind (sortUnique again name) = after

theorem dropped_items_reported {α : Type} (scope : String) (name : α → String) (before : Noted (List α)) :
    ∃ dropped reports, Cleared scope name before (before.bind (sortUnique scope name)) dropped reports := by
  have conserved := (keep_firsts_conserves name _ none).trans (sort_by_name_perm name before.value)
  refine ⟨(keepFirsts name none (sortByName name before.value)).2,
    (keepFirsts name none (sortByName name before.value)).2.map fun item => .repeatedName scope (name item),
    rfl, ?complete, ?warned, ?named, ?ordered, ?repeats, conserved, ?settled⟩
  case complete =>
    rw [List.length_map, Nat.add_comm, ← conserved.length_eq, List.length_append]
    rfl
  case warned =>
    intro report member
    obtain ⟨item, _, rfl⟩ := List.mem_map.mp member
    exact ⟨rfl, rfl⟩
  case named =>
    rw [List.map_map]
    rfl
  case ordered =>
    have dropped := keep_firsts_dropped_sublist name (sortByName name before.value) none
    exact List.pairwise_map.mpr ((sort_by_name_sorted name before.value).sublist dropped)
  case repeats =>
    intro wanted
    rw [← count_repeated_names, ← count_reported_symbol scope, ← sort_unique_notices]
    rfl
  case settled =>
    intro again
    have increasing := sort_unique_increasing scope name before.value
    have steady := sort_unique_of_increasing again name _ increasing
    simp only [Noted.bind, steady, List.append_nil]

theorem extract_all_notices {α β : Type} (scope : String) (itemName : α → String)
    (entryName : β → String) (entry : α → Noted β) (items : List α)
    (named : ∀ item, entryName (entry item).value = itemName item) :
    (extractAll scope entryName entry items).notices =
      items.flatMap (fun item => (entry item).notices) ++
        (repeatedNames (items.map itemName)).map (Notice.repeatedName scope) := by
  have names : (Noted.each entry items).value.map entryName = items.map itemName := by
    rw [Noted.each_value, List.map_map]
    exact List.map_congr_left fun item _ => named item
  change (Noted.each entry items).notices ++ (sortUnique scope entryName _).notices = _
  rw [sort_unique_notices, names, Noted.each_notices]

theorem manual_notices (template : Template) :
    template.manual.notices = template.parameterEntries.notices ++ template.typeEntries.notices ++
      template.importEntries.notices ++ template.wildcardEntries.notices := by
  have nested : template.manual.notices = template.parameterEntries.notices ++
      (template.typeEntries.notices ++ (template.importEntries.notices ++
        (template.wildcardEntries.notices ++ []))) := rfl
  rw [nested, List.append_nil, List.append_assoc, List.append_assoc]

end TemplateManual
