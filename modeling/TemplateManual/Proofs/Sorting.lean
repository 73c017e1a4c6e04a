import Mathlib.Data.String.Basic
import TemplateManual.Manual.Extract

set_option autoImplicit false

namespace TemplateManual

theorem name_order_trans {α : Type} (name : α → String) (a b c : α)
    (first : decide (name a ≤ name b) = true) (second : decide (name b ≤ name c) = true) :
    decide (name a ≤ name c) = true :=
  decide_eq_true ((of_decide_eq_true first).trans (of_decide_eq_true second))

theorem name_order_total {α : Type} (name : α → String) (a b : α) :
    (decide (name a ≤ name b) || decide (name b ≤ name a)) = true := by
  rcases le_total (name a) (name b) with before | after
  · simp [before]
  · simp [after]

theorem sort_by_name_perm {α : Type} (name : α → String) (items : List α) :
    (sortByName name items).Perm items :=
  List.mergeSort_perm items _

theorem sort_by_name_sorted {α : Type} (name : α → String) (items : List α) :
    (sortByName name items).Pairwise fun a b => name a ≤ name b := by
  have sorted := List.pairwise_mergeSort (name_order_trans name) (name_order_total name) items
  exact sorted.imp of_decide_eq_true

theorem sort_by_name_filter {α : Type} (name : α → String) (items : List α) (wanted : String) :
    (sortByName name items).filter (fun item => name item == wanted) =
      items.filter fun item => name item == wanted := by
  have alike : (items.filter fun item => name item == wanted).Pairwise fun a b =>
      decide (name a ≤ name b) = true := by
    apply List.pairwise_of_forall_mem_list
    intro a aMember b bMember
    simp only [List.mem_filter, beq_iff_eq] at aMember bMember
    simp [aMember.2, bMember.2]
  -- The sort is stable, so a sorted part of the list stays a sublist; being as many as before, its items are all
  -- that have the name.
  have kept := List.sublist_mergeSort (name_order_trans name) (name_order_total name) alike
    List.filter_sublist
  have keptFiltered := kept.filter fun item => name item == wanted
  rw [List.filter_filter] at keptFiltered
  simp only [Bool.and_self] at keptFiltered
  refine (keptFiltered.eq_of_length ?_).symm
  exact ((sort_by_name_perm name items).filter _).length_eq.symm

theorem sort_by_name_find {α : Type} (name : α → String) (items : List α) (wanted : String) :
    (sortByName name items).find? (fun item => name item == wanted) =
      items.find? fun item => name item == wanted := by
  rw [← List.head?_filter, ← List.head?_filter, sort_by_name_filter]

theorem keep_firsts_same {α : Type} (name : α → String) (last : Option String) (item : α)
    (rest : List α) (same : last = some (name item)) :
    keepFirsts name last (item :: rest) =
      ((keepFirsts name last rest).1, item :: (keepFirsts name last rest).2) := by
  simp only [keepFirsts, if_pos same]

theorem keep_firsts_fresh {α : Type} (name : α → String) (last : Option String) (item : α)
    (rest : List α) (fresh : last ≠ some (name item)) :
    keepFirsts name last (item :: rest) =
      (item :: (keepFirsts name (some (name item)) rest).1,
        (keepFirsts name (some (name item)) rest).2) := by
  simp only [keepFirsts, if_neg fresh]

theorem keep_firsts_sublist {α : Type} (name : α → String) (items : List α) (last : Option String) :
    (keepFirsts name last items).1.Sublist items := by
  induction items generalizing last with
  | nil => exact List.Sublist.refl _
  | cons item rest ih =>
      by_cases same : last = some (name item)
      · rw [keep_firsts_same name last item rest same]
        exact (ih last).cons item
      · rw [keep_firsts_fresh name last item rest same]
        exact (ih (some (name item))).cons_cons item

theorem keep_firsts_above {α : Type} (name : α → String) (items : List α) (lower : String)
    (sorted : items.Pairwise fun a b => name a ≤ name b) (bounded : ∀ item ∈ items, lower ≤ name item) :
    ∀ item ∈ (keepFirsts name (some lower) items).1, lower < name item := by
  induction items with
  | nil => simp [keepFirsts]
  | cons item rest ih =>
      obtain ⟨headBelow, restSorted⟩ := List.pairwise_cons.mp sorted
      by_cases same : some lower = some (name item)
      · rw [keep_firsts_same name _ item rest same]
        exact ih restSorted fun other member => bounded other (List.mem_cons_of_mem item member)
      · rw [keep_firsts_fresh name _ item rest same]
        have less : lower < name item := by
          apply lt_of_le_of_ne (bounded item List.mem_cons_self)
          exact fun equal => same (congrArg some equal)
        intro other member
        rcases List.mem_cons.mp member with rfl | member
        · exact less
        · have inRest := (keep_firsts_sublist name rest (some (name item))).subset member
          exact less.trans_le (headBelow other inRest)

theorem keep_firsts_increasing {α : Type} (name : α → String) (items : List α) (last : Option String)
    (sorted : items.Pairwise fun a b => name a ≤ name b) :
    (keepFirsts name last items).1.Pairwise fun a b => name a < name b := by
  induction items generalizing last with
  | nil => exact List.Pairwise.nil
  | cons item rest ih =>
      obtain ⟨headBelow, restSorted⟩ := List.pairwise_cons.mp sorted
      by_cases same : last = some (name item)
      · rw [keep_firsts_same name last item rest same]
        exact ih last restSorted
      · rw [keep_firsts_fresh name last item rest same]
        exact List.pairwise_cons.mpr
          ⟨keep_firsts_above name rest (name item) restSorted headBelow, ih _ restSorted⟩

-- Only items with the name of a kept one are dropped, so the first item of any other name stays.
theorem keep_firsts_find {α : Type} (name : α → String) (items : List α) (last : Option String)
    (wanted : String) (fresh : last ≠ some wanted) :
    (keepFirsts name last items).1.find? (fun item => name item == wanted) =
      items.find? fun item => name item == wanted := by
  induction items generalizing last with
  | nil => rfl
  | cons item rest ih =>
      by_cases same : last = some (name item)
      · have other : name item ≠ wanted := fun equal => fresh (equal ▸ same)
        rw [keep_firsts_same name last item rest same, ih last fresh, List.find?_cons_of_neg]
        simpa using other
      · rw [keep_firsts_fresh name last item rest same]
        by_cases found : name item = wanted
        · simp [found]
        · have next : some (name item) ≠ some wanted := fun equal => found (Option.some.inj equal)
          simp only [List.find?_cons, beq_false_of_ne found]
          exact ih (some (name item)) next

theorem find_of_distinct {α : Type} (name : α → String) (items : List α)
    (distinct : (items.map name).Nodup) (found : α) (member : found ∈ items) :
    items.find? (fun item => name item == name found) = some found := by
  induction items with
  | nil => simp at member
  | cons item rest ih =>
      obtain ⟨headApart, restDistinct⟩ := List.nodup_cons.mp distinct
      rcases List.mem_cons.mp member with rfl | inRest
      · simp
      · have different : name item ≠ name found := by
          intro same
          exact headApart (same ▸ List.mem_map_of_mem inRest)
        rw [List.find?_cons, beq_false_of_ne different]
        exact ih restDistinct inRest

theorem find_of_increasing {α : Type} (name : α → String) (items : List α)
    (increasing : items.Pairwise fun a b => name a < name b) (found : α) (member : found ∈ items) :
    items.find? (fun item => name item == name found) = some found :=
  find_of_distinct name items (List.pairwise_map.mpr (increasing.imp fun less => less.ne)) found member

theorem find_reordered {α : Type} (name : α → String) (items others : List α)
    (distinct : (items.map name).Nodup) (reordered : items.Perm others) (wanted : String) :
    items.find? (fun item => name item == wanted) = others.find? fun item => name item == wanted := by
  have otherDistinct := (reordered.map name).nodup_iff.mp distinct
  cases found : items.find? fun item => name item == wanted with
  | none =>
      symm
      apply List.find?_eq_none.mpr
      intro item member
      exact List.find?_eq_none.mp found item (reordered.mem_iff.mpr member)
  | some item =>
      have named : name item = wanted := by simpa using List.find?_some found
      have member := reordered.mem_iff.mp (List.mem_of_find?_eq_some found)
      rw [← named]
      exact (find_of_distinct name others otherDistinct item member).symm

theorem sort_unique_increasing {α : Type} (scope : String) (name : α → String) (items : List α) :
    (sortUnique scope name items).value.Pairwise fun a b => name a < name b :=
  keep_firsts_increasing name _ none (sort_by_name_sorted name items)

theorem sort_unique_find {α : Type} (scope : String) (name : α → String) (items : List α)
    (wanted : String) :
    (sortUnique scope name items).value.find? (fun item => name item == wanted) =
      items.find? fun item => name item == wanted := by
  have kept := keep_firsts_find name (sortByName name items) none wanted (by simp)
  exact kept.trans (sort_by_name_find name items wanted)

end TemplateManual
