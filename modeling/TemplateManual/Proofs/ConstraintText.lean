import TemplateManual.Manual.Cell
import TemplateManual.Proofs.Text

set_option autoImplicit false

namespace TemplateManual.Cell

def clauseChars (clause : Option String) : List Char :=
  clause.elim [] fun text => "<br><br>".toList ++ text.toList

theorem type_chars (typeText : String) (constraints : Constraints) :
    (type typeText constraints).toList =
      (escape typeText).toList ++ ((secrecy constraints.secure).toList ++
        (clauseChars (lengthClause? constraints) ++ clauseChars (valueClause? constraints))) := by
  rw [type]
  cases lengthClause? constraints <;> cases valueClause? constraints <;>
    simp [clauseChars, Text.join_cons_cons]

theorem missing_ne_number (value : Int) (rest after : List Char) :
    'X' :: rest ≠ (toString value).toList ++ after := by
  obtain ⟨c, more, chars, starts⟩ := Text.int_starts value
  rw [chars]
  intro same
  cases (List.cons.inj same).1
  exact absurd starts (by decide)

theorem bound_delimited (first second : Option Int) (rest after : List Char)
    (ended : ∀ c ∈ rest.head?, c.isDigit = false) (afterEnded : ∀ c ∈ after.head?, c.isDigit = false)
    (same : (bound first).toList ++ rest = (bound second).toList ++ after) : first = second ∧ rest = after := by
  cases first with
  | none =>
      cases second with
      | none => exact ⟨rfl, List.append_cancel_left same⟩
      | some value => exact absurd same (missing_ne_number value rest after)
  | some value =>
      cases second with
      | none => exact absurd same.symm (missing_ne_number value after rest)
      | some other =>
          obtain ⟨rfl, tails⟩ := Text.int_delimited value other rest after ended afterEnded same
          exact ⟨rfl, tails⟩

def EndsLimit (rest : List Char) : Prop :=
  rest = [] ∨ ∃ more, rest = "<br><br>".toList ++ ("Accepted values: ".toList ++ more)

theorem limit_ended (rest : List Char) (ended : EndsLimit rest) : ∀ c ∈ rest.head?, c.isDigit = false := by
  rcases ended with rfl | ⟨more, rfl⟩ <;> simp

theorem length_chars (constraints : Constraints) (limited : constraints.hasLength = true) :
    clauseChars (lengthClause? constraints) = "<br><br>".toList ++ ("Character limit: ".toList ++
      ((bound constraints.minLength).toList ++ '-' :: (bound constraints.maxLength).toList)) := by
  simp [lengthClause?, limited, clauseChars]

theorem no_limit_before (rest after : List Char) (ended : EndsLimit after) :
    "<br><br>".toList ++ ("Character limit: ".toList ++ rest) ≠ after := by
  rcases ended with rfl | ⟨more, rfl⟩ <;> simp

theorem length_delimited (first second : Constraints) (rest after : List Char) (ended : EndsLimit rest)
    (afterEnded : EndsLimit after)
    (same : clauseChars (lengthClause? first) ++ rest = clauseChars (lengthClause? second) ++ after) :
    first.minLength = second.minLength ∧ first.maxLength = second.maxLength ∧ rest = after := by
  by_cases limited : first.hasLength = true
  · by_cases otherLimited : second.hasLength = true
    · rw [length_chars first limited, length_chars second otherLimited] at same
      simp only [List.append_assoc, List.append_cancel_left_eq] at same
      obtain ⟨lows, tails⟩ := bound_delimited _ _ _ _ (by simp) (by simp) same
      obtain ⟨highs, ends⟩ := bound_delimited _ _ rest after (limit_ended rest ended) (limit_ended after afterEnded)
        (List.cons.inj tails).2
      exact ⟨lows, highs, ends⟩
    · rw [length_chars first limited, lengthClause?, if_neg otherLimited, List.append_assoc, List.append_assoc] at same
      exact absurd same (no_limit_before _ after afterEnded)
  · by_cases otherLimited : second.hasLength = true
    · rw [length_chars second otherLimited, lengthClause?, if_neg limited, List.append_assoc, List.append_assoc] at same
      exact absurd same.symm (no_limit_before _ rest ended)
    · rw [lengthClause?, if_neg limited, lengthClause?, if_neg otherLimited] at same
      simp only [Constraints.hasLength, Bool.or_eq_true, not_or, Option.not_isSome_iff_eq_none] at limited otherLimited
      exact ⟨limited.1.trans otherLimited.1.symm, limited.2.trans otherLimited.2.symm, same⟩

def rangeEnd (high : Option Int) : List Char :=
  high.elim ['.'] fun value => " to ".toList ++ ((toString value).toList ++ ['.'])

def rangeText (low high : Option Int) : Option (List Char) :=
  low.elim (high.map fun value => "to ".toList ++ ((toString value).toList ++ ['.']))
    fun value => some ("from ".toList ++ ((toString value).toList ++ rangeEnd high))

def rangeChars (low high : Option Int) : List Char :=
  (rangeText low high).elim [] fun range => "<br><br>".toList ++ ("Accepted values: ".toList ++ range)

theorem range_chars (constraints : Constraints) :
    clauseChars (valueClause? constraints) = rangeChars constraints.minValue constraints.maxValue := by
  rw [valueClause?]
  cases constraints.minValue <;> cases constraints.maxValue <;>
    simp [clauseChars, rangeChars, rangeText, rangeEnd]

theorem range_ends_limit (low high : Option Int) : EndsLimit (rangeChars low high) := by
  rw [rangeChars]
  cases rangeText low high with
  | none => exact Or.inl rfl
  | some range => exact Or.inr ⟨range, rfl⟩

theorem range_chars_injective (low high otherLow otherHigh : Option Int)
    (same : rangeChars low high = rangeChars otherLow otherHigh) :
    rangeText low high = rangeText otherLow otherHigh := by
  rw [rangeChars, rangeChars] at same
  cases first : rangeText low high <;> cases second : rangeText otherLow otherHigh <;> simp_all

theorem last_number_injective (first second : Int)
    (same : (toString first).toList ++ ['.'] = (toString second).toList ++ ['.']) : first = second :=
  (Text.int_delimited first second ['.'] ['.'] (by simp) (by simp) same).1

theorem range_end_injective (first second : Option Int) (same : rangeEnd first = rangeEnd second) :
    first = second := by
  cases first with
  | none =>
      cases second with
      | none => rfl
      | some high => simp [rangeEnd] at same
  | some high =>
      cases second with
      | none => simp [rangeEnd] at same
      | some other => rw [last_number_injective high other (List.append_cancel_left same)]

theorem range_text_injective (low high otherLow otherHigh : Option Int)
    (same : rangeText low high = rangeText otherLow otherHigh) : low = otherLow ∧ high = otherHigh := by
  have ended : ∀ high, ∀ c ∈ (rangeEnd high).head?, c.isDigit = false := by
    intro high
    cases high <;> simp [rangeEnd]
  cases low with
  | some low =>
      cases otherLow with
      | some other =>
          obtain ⟨rfl, ends⟩ := Text.int_delimited low other _ _ (ended high) (ended otherHigh)
            (List.append_cancel_left (Option.some.inj same))
          exact ⟨rfl, range_end_injective high otherHigh ends⟩
      | none => cases otherHigh <;> simp [rangeText] at same
  | none =>
      cases otherLow with
      | some other => cases high <;> simp [rangeText] at same
      | none =>
          refine ⟨rfl, Option.map_injective ?_ same⟩
          intro first second texts
          exact last_number_injective first second (List.append_cancel_left texts)

-- No clause starts with the space that the mark of secrecy starts with.
theorem clauses_start (constraints : Constraints) :
    (clauseChars (lengthClause? constraints) ++ clauseChars (valueClause? constraints)).head? ≠ some ' ' := by
  cases lengthClause? constraints <;> cases valueClause? constraints <;> simp [clauseChars]

theorem secrecy_delimited (first second : Bool) (rest after : List Char) (ended : rest.head? ≠ some ' ')
    (afterEnded : after.head? ≠ some ' ') (same : (secrecy first).toList ++ rest = (secrecy second).toList ++ after) :
    first = second ∧ rest = after := by
  have mark : ∀ chars, ((secrecy true).toList ++ chars).head? = some ' ' := fun _ => rfl
  cases first with
  | true =>
      cases second with
      | true => exact ⟨rfl, List.append_cancel_left same⟩
      | false => exact absurd ((congrArg List.head? same).symm.trans (mark rest)) afterEnded
  | false =>
      cases second with
      | true => exact absurd ((congrArg List.head? same).trans (mark after)) ended
      | false => exact ⟨rfl, same⟩

theorem type_cell_eq_iff (typeText : String) (first second : Constraints) :
    type typeText first = type typeText second ↔ first = second := by
  constructor
  · intro same
    have chars := congrArg String.toList same
    rw [type_chars, type_chars] at chars
    obtain ⟨secure, clauses⟩ := secrecy_delimited _ _ _ _ (clauses_start first) (clauses_start second)
      (List.append_cancel_left chars)
    rw [range_chars, range_chars] at clauses
    obtain ⟨minLength, maxLength, ranges⟩ := length_delimited first second _ _ (range_ends_limit _ _)
      (range_ends_limit _ _) clauses
    obtain ⟨minValue, maxValue⟩ := range_text_injective _ _ _ _ (range_chars_injective _ _ _ _ ranges)
    cases first
    cases second
    rw [Constraints.mk.injEq]
    exact ⟨minLength, maxLength, minValue, maxValue, secure⟩
  · intro same
    rw [same]

end TemplateManual.Cell
