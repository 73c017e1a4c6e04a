import TemplateManual.Text.Basic

set_option autoImplicit false

namespace TemplateManual.Text

theorem to_list_join (separator : String) (parts : List String) :
    (join separator parts).toList = separator.toList.intercalate (parts.map String.toList) := by
  induction parts with
  | nil => rfl
  | cons part rest ih =>
      cases rest with
      | nil => simp
      | cons next more =>
          rw [join_cons_cons, String.toList_append, String.toList_append, ih]
          simp [List.intercalate]

theorem int_chars (value : Int) :
    (toString value).toList = (if value < 0 then ['-'] else []) ++ Nat.toDigits 10 value.natAbs := by
  rw [Int.toString_eq_repr, Int.repr_eq_if]
  by_cases negative : value < 0
  · have size : (-value).toNat = value.natAbs := by omega
    rw [if_pos negative, if_neg (by omega), String.toList_append, Nat.toList_repr, size]
    rfl
  · have size : value.toNat = value.natAbs := by omega
    rw [if_neg negative, if_pos (by omega), Nat.toList_repr, size]
    rfl

theorem digit_of_digits (size : Nat) (c : Char) (member : c ∈ Nat.toDigits 10 size) : c.isDigit = true :=
  Nat.isDigit_of_mem_toDigits (by decide) (by decide) member

theorem int_chars_plain (value : Int) (c : Char) (member : c ∈ (toString value).toList) :
    c = '-' ∨ c.isDigit = true := by
  rw [int_chars] at member
  rcases List.mem_append.mp member with sign | digit
  · left
    by_cases negative : value < 0 <;> simp_all
  · right
    exact digit_of_digits _ c digit

theorem int_starts (value : Int) :
    ∃ c more, (toString value).toList = c :: more ∧ (c = '-' ∨ c.isDigit = true) := by
  have filled : (toString value).toList ≠ [] := by
    rw [int_chars]
    exact List.append_ne_nil_of_right_ne_nil _ Nat.toDigits_ne_nil
  obtain ⟨c, more, chars⟩ := List.exists_cons_of_ne_nil filled
  have member : c ∈ (toString value).toList := by
    rw [chars]
    exact List.mem_cons_self
  exact ⟨c, more, chars, int_chars_plain value c member⟩

theorem run_delimited (kind : Char → Bool) (run other rest after : List Char)
    (inRun : ∀ c ∈ run, kind c = true) (inOther : ∀ c ∈ other, kind c = true)
    (ended : ∀ c ∈ rest.head?, kind c = false) (afterEnded : ∀ c ∈ after.head?, kind c = false)
    (same : run ++ rest = other ++ after) : run = other ∧ rest = after := by
  induction run generalizing other with
  | nil =>
      cases other with
      | nil => exact ⟨rfl, same⟩
      | cons c more =>
          have known := inOther c List.mem_cons_self
          rw [ended c (by rw [List.nil_append] at same; simp [same])] at known
          cases known
  | cons c more ih =>
      cases other with
      | nil =>
          have known := inRun c List.mem_cons_self
          rw [afterEnded c (by rw [List.nil_append] at same; simp [← same])] at known
          cases known
      | cons d others =>
          obtain ⟨rfl, tails⟩ := List.cons.inj same
          obtain ⟨rfl, ends⟩ := ih others (fun d member => inRun d (List.mem_cons_of_mem _ member))
            (fun d member => inOther d (List.mem_cons_of_mem _ member)) tails
          exact ⟨rfl, ends⟩

theorem digits_delimited (size other : Nat) (rest after : List Char)
    (ended : ∀ c ∈ rest.head?, c.isDigit = false) (afterEnded : ∀ c ∈ after.head?, c.isDigit = false)
    (same : Nat.toDigits 10 size ++ rest = Nat.toDigits 10 other ++ after) : size = other ∧ rest = after := by
  obtain ⟨runs, tails⟩ := run_delimited Char.isDigit _ _ rest after (digit_of_digits size) (digit_of_digits other)
    ended afterEnded same
  have sizes := congrArg (Nat.ofDigitChars 10 · 0) runs
  rw [Nat.ofDigitChars_ten_toDigits, Nat.ofDigitChars_ten_toDigits] at sizes
  exact ⟨sizes, tails⟩

theorem digits_no_sign (size : Nat) (rest after : List Char) : Nat.toDigits 10 size ++ rest ≠ '-' :: after := by
  obtain ⟨c, more, chars⟩ := List.exists_cons_of_ne_nil (Nat.toDigits_ne_nil (n := size) (b := 10))
  have digit := digit_of_digits size c (by simp [chars])
  rw [chars]
  intro same
  cases (List.cons.inj same).1
  cases digit

theorem int_delimited (first second : Int) (rest after : List Char)
    (ended : ∀ c ∈ rest.head?, c.isDigit = false) (afterEnded : ∀ c ∈ after.head?, c.isDigit = false)
    (same : (toString first).toList ++ rest = (toString second).toList ++ after) :
    first = second ∧ rest = after := by
  rw [int_chars, int_chars, List.append_assoc, List.append_assoc] at same
  by_cases negative : first < 0
  · by_cases otherNegative : second < 0
    · rw [if_pos negative, if_pos otherNegative] at same
      obtain ⟨sizes, tails⟩ := digits_delimited _ _ rest after ended afterEnded (List.cons.inj same).2
      exact ⟨by omega, tails⟩
    · rw [if_pos negative, if_neg otherNegative] at same
      exact absurd same.symm (digits_no_sign _ after _)
  · by_cases otherNegative : second < 0
    · rw [if_neg negative, if_pos otherNegative] at same
      exact absurd same (digits_no_sign _ rest _)
    · rw [if_neg negative, if_neg otherNegative] at same
      obtain ⟨sizes, tails⟩ := digits_delimited _ _ rest after ended afterEnded same
      exact ⟨by omega, tails⟩

-- Parts with a separator between them: after each part, the separator tells whether there is one more.
-- `stops` says before what a part can be told, and `ends` what may stand after the last one.
theorem separated_delimited {α β : Type} (write : α → List Char) (shown : α → β) (separator : List Char)
    (stops ends : List Char → Prop) (part other : α) (more others : List α) (rest after : List Char)
    (delimited : ∀ first ∈ part :: more, ∀ second ∈ other :: others, ∀ rest after, stops rest → stops after →
      write first ++ rest = write second ++ after → shown first = shown second ∧ rest = after)
    (between : ∀ chars, stops (separator ++ chars)) (last : ∀ chars, ends chars → stops chars)
    (apart : ∀ chars, ¬ ends (separator ++ chars)) (ended : ends rest) (afterEnded : ends after)
    (same : separator.intercalate ((part :: more).map write) ++ rest =
      separator.intercalate ((other :: others).map write) ++ after) :
    (part :: more).map shown = (other :: others).map shown ∧ rest = after := by
  have here := delimited part List.mem_cons_self other List.mem_cons_self
  induction more generalizing part other others with
  | nil =>
      cases others with
      | nil =>
          obtain ⟨shows, ends⟩ := here rest after (last _ ended) (last _ afterEnded) (by simpa using same)
          exact ⟨by simp [shows], ends⟩
      | cons next others =>
          simp only [List.map_cons, List.map_nil, List.intercalate_singleton, List.intercalate_cons_cons,
            List.append_assoc] at same
          obtain ⟨_, tails⟩ := here _ _ (last _ ended) (between _) same
          exact absurd (tails ▸ ended) (apart _)
  | cons next more ih =>
      cases others with
      | nil =>
          simp only [List.map_cons, List.map_nil, List.intercalate_singleton, List.intercalate_cons_cons,
            List.append_assoc] at same
          obtain ⟨_, tails⟩ := here _ _ (between _) (last _ afterEnded) same
          exact absurd (tails ▸ afterEnded) (apart _)
      | cons following others =>
          simp only [List.map_cons, List.intercalate_cons_cons, List.append_assoc] at same
          obtain ⟨shows, tails⟩ := here _ _ (between _) (between _) same
          have later : ∀ first ∈ next :: more, ∀ second ∈ following :: others, ∀ rest after, stops rest →
              stops after → write first ++ rest = write second ++ after → shown first = shown second ∧ rest = after :=
            fun first member second found =>
              delimited first (List.mem_cons_of_mem _ member) second (List.mem_cons_of_mem _ found)
          obtain ⟨shown, ends⟩ := ih next following others later
            (by simpa using List.append_cancel_left tails)
            (later next List.mem_cons_self following List.mem_cons_self)
          exact ⟨by rw [List.map_cons, shown, shows]; rfl, ends⟩

end TemplateManual.Text
