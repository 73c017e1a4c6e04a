import TemplateManual.Proofs.Json.Reading

set_option autoImplicit false

namespace TemplateManual.Json

open Numeral (Ended)

-- A value whose text shows all of it: every key is there, and numbers are whole ones.
inductive Legible : Json → Prop where
  | null : Legible .null
  | bool (value : Bool) : Legible (.bool value)
  | whole (value : Int) : Legible (.number (.whole value))
  | string (value : String) : Legible (.string value)
  | array (items : List Json) (each : ∀ item ∈ items, Legible item) : Legible (.array items)
  | object (members : List (Option String × Json)) (keyed : ∀ member ∈ members, member.1.isSome = true)
      (each : ∀ member ∈ members, Legible member.2) : Legible (.object members)

-- Texts that start alike were written from the same and go on alike.
def Delimited {α : Type} (write : α → List Char) (first second : α) : Prop :=
  ∀ rest after, Ended rest → Ended after → write first ++ rest = write second ++ after →
    first = second ∧ rest = after

theorem string_delimited (first second : String) (rest after : List Char)
    (same : (writeString first).toList ++ rest = (writeString second).toList ++ after) :
    first = second ∧ rest = after := by
  have chars : ∀ (text : String) (rest : List Char), (writeString text).toList ++ rest =
      '"' :: (text.toList.flatMap escapeChar ++ '"' :: rest) := by
    intro text rest
    simp [writeString]
  rw [chars, chars] at same
  have read := congrArg (Token.readText (some []) none) (List.cons.inj same).2
  rw [Token.read_text_written, Token.read_text_written] at read
  simpa using read

theorem number_delimited (first second : Int) :
    Delimited (fun value : Int => (toString value).toList) first second := by
  intro rest after ended afterEnded same
  exact Text.int_delimited first second rest after (fun c head => (ended c head).1)
    (fun c head => (afterEnded c head).1) same

theorem joined_cons {α : Type} (write : α → List Char) (item : α) (more : List α) :
    [','].intercalate ((item :: more).map write) = write item ++ more.flatMap fun next => ',' :: write next := by
  induction more generalizing item with
  | nil => simp
  | cons next more ih =>
      rw [List.map_cons, List.map_cons, List.intercalate_cons_cons, ← List.map_cons, ih]
      simp

theorem joined_delimited {α : Type} (write : α → List Char) (closing rest after : List Char) (item other : α)
    (more others : List α)
    (delimited : ∀ first ∈ item :: more, ∀ second ∈ other :: others, Delimited write first second)
    (same : [','].intercalate ((item :: more).map write) ++ '\n' :: (closing ++ rest) =
      [','].intercalate ((other :: others).map write) ++ '\n' :: (closing ++ after)) :
    item :: more = other :: others ∧ rest = after := by
  have between : ∀ chars, Ended ([','] ++ chars) := fun chars => ended_of_head ',' chars (by decide) (by decide)
  have last : ∀ chars, (∃ more, chars = '\n' :: more) → Ended chars := by
    rintro chars ⟨more, rfl⟩
    exact ended_of_head '\n' more (by decide) (by decide)
  obtain ⟨items, ends⟩ := Text.separated_delimited write id [','] Ended (fun chars => ∃ more, chars = '\n' :: more)
    item other more others _ _ delimited between last (by simp) ⟨_, rfl⟩ ⟨_, rfl⟩ same
  exact ⟨by simpa using items, List.append_cancel_left (List.cons.inj ends).2⟩

theorem container_delimited {α : Type} (write : α → List Char) (text : List α → List Char)
    (opening close : Char) (closing : List Char) (closes : close ≠ '\n')
    (blank : text [] = [opening, close])
    (filled : ∀ item more rest, text (item :: more) ++ rest =
      opening :: ([','].intercalate ((item :: more).map write) ++ '\n' :: (closing ++ rest)))
    (lines : ∀ item, ∃ chars, write item = '\n' :: chars) (items others : List α) (rest after : List Char)
    (delimited : ∀ first ∈ items, ∀ second ∈ others, Delimited write first second)
    (same : text items ++ rest = text others ++ after) : items = others ∧ rest = after := by
  have apart : ∀ item more chars tail, [opening, close] ++ chars ≠
      opening :: ([','].intercalate ((item :: more).map write) ++ tail) := by
    intro item more chars tail equal
    obtain ⟨start, line⟩ := lines item
    rw [joined_cons, line] at equal
    exact closes (List.cons.inj (List.cons.inj equal).2).1
  cases items with
  | nil =>
      cases others with
      | nil => exact ⟨rfl, List.append_cancel_left same⟩
      | cons other others =>
          rw [blank, filled] at same
          exact absurd same (apart other others rest _)
  | cons item more =>
      cases others with
      | nil =>
          rw [blank, filled] at same
          exact absurd same.symm (apart item more after _)
      | cons other others =>
          rw [filled, filled] at same
          exact joined_delimited write closing rest after item other more others delimited
            (List.cons.inj same).2

def kindOf (c : Char) : Nat :=
  if c = '[' then 1 else if c = '\x7b' then 2 else if c = '"' then 3
  else if c = 't' || c = 'f' then 4 else if c = 'n' then 5 else 0

def kind : Json → Nat
  | .array _ => 1
  | .object _ => 2
  | .string _ => 3
  | .bool _ => 4
  | .null => 5
  | _ => 0

theorem kind_of_numeral (c : Char) (starts : Numeral.isDigit c = true ∨ c = '-') : kindOf c = 0 := by
  have other : ∀ letter, ¬ (Numeral.isDigit letter = true ∨ letter = '-') → c ≠ letter := by
    rintro letter plain rfl
    exact plain starts
  simp [kindOf, other '[' (by decide), other '\x7b' (by decide), other '"' (by decide),
    other 't' (by decide), other 'f' (by decide), other 'n' (by decide)]

theorem indented_starts (value : Json) (legible : Legible value) (depth : Nat) :
    ∃ c more, (value.indented depth).toList = c :: more ∧ kindOf c = kind value := by
  cases legible with
  | null => simp [indented, writeScalar, kindOf, kind]
  | bool value => cases value <;> simp [indented, writeScalar, kindOf, kind]
  | whole value =>
      obtain ⟨c, more, chars, starts⟩ := Text.int_starts value
      exact ⟨c, more, chars, kind_of_numeral c starts.symm⟩
  | string value =>
      refine ⟨'"', (value.toList.flatMap escapeChar) ++ ['"'], ?_, rfl⟩
      simp [indented, writeScalar, writeString]
  | array items each =>
      cases items <;> simp [indented, kindOf, kind]
  | object members keyed each =>
      cases members <;> simp [indented, kindOf, kind]

theorem kind_eq_of_texts (first second : Json) (firstLegible : Legible first) (secondLegible : Legible second)
    (depth : Nat) (rest after : List Char)
    (same : (first.indented depth).toList ++ rest = (second.indented depth).toList ++ after) :
    kind first = kind second := by
  obtain ⟨c, more, chars, found⟩ := indented_starts first firstLegible depth
  obtain ⟨d, others, otherChars, otherFound⟩ := indented_starts second secondLegible depth
  rw [chars, otherChars, List.cons_append, List.cons_append] at same
  rw [← found, ← otherFound, (List.cons.inj same).1]

theorem new_line_chars (depth : Nat) :
    (newLine depth).toList = '\n' :: (Text.times "  " depth).toList := by
  simp [newLine]

theorem array_delimited (depth : Nat) (items others : List Json) (rest after : List Char)
    (delimited : ∀ first ∈ items, ∀ second ∈ others,
      Delimited (fun value : Json => (value.indented (depth + 1)).toList) first second)
    (same : ((Json.array items).indented depth).toList ++ rest =
      ((Json.array others).indented depth).toList ++ after) : items = others ∧ rest = after := by
  refine container_delimited
    (fun item => (newLine (depth + 1)).toList ++ (item.indented (depth + 1)).toList)
    (fun items => ((Json.array items).indented depth).toList) '[' ']'
    ((Text.times "  " depth).toList ++ [']']) (by decide) ?_ ?_ ?_ items others rest after ?_ same
  · simp [indented]
  · intro item more rest
    rw [indented, String.toList_append, String.toList_append, String.toList_append, indented_items_chars,
      new_line_chars depth]
    simp
  · exact fun item => ⟨_, by rw [new_line_chars, List.cons_append]⟩
  · intro first member second found rest after ended afterEnded texts
    rw [List.append_assoc, List.append_assoc] at texts
    exact delimited first member second found rest after ended afterEnded (List.append_cancel_left texts)

theorem member_delimited (lead : List Char) (depth : Nat) (first second : Option String × Json)
    (firstKeyed : first.1.isSome = true) (secondKeyed : second.1.isSome = true)
    (values : Delimited (fun value : Json => (value.indented depth).toList) first.2 second.2) :
    Delimited (fun member : Option String × Json => lead ++ (writeKey member.1).toList ++
      ':' :: ([' '] ++ (member.2.indented depth).toList)) first second := by
  intro rest after ended afterEnded same
  obtain ⟨key, value⟩ := first
  obtain ⟨otherKey, other⟩ := second
  obtain ⟨name, rfl⟩ := Option.isSome_iff_exists.mp firstKeyed
  obtain ⟨otherName, rfl⟩ := Option.isSome_iff_exists.mp secondKeyed
  simp only [List.append_assoc, List.cons_append, List.nil_append, List.append_cancel_left_eq] at same
  obtain ⟨rfl, texts⟩ := string_delimited _ _ _ _ same
  obtain ⟨rfl, ends⟩ := values rest after ended afterEnded (List.cons.inj (List.cons.inj texts).2).2
  exact ⟨rfl, ends⟩

theorem object_delimited (depth : Nat) (members others : List (Option String × Json))
    (rest after : List Char) (keyed : ∀ member ∈ members, member.1.isSome = true)
    (othersKeyed : ∀ member ∈ others, member.1.isSome = true)
    (delimited : ∀ first ∈ members, ∀ second ∈ others,
      Delimited (fun value : Json => (value.indented (depth + 1)).toList) first.2 second.2)
    (same : ((Json.object members).indented depth).toList ++ rest =
      ((Json.object others).indented depth).toList ++ after) : members = others ∧ rest = after := by
  refine container_delimited
    (fun member => (newLine (depth + 1)).toList ++ (writeKey member.1).toList ++
      ':' :: ([' '] ++ (member.2.indented (depth + 1)).toList))
    (fun members => ((Json.object members).indented depth).toList) '\x7b' '\x7d'
    ((Text.times "  " depth).toList ++ ['\x7d']) (by decide) ?_ ?_ ?_ members others rest after ?_ same
  · simp [indented]
  · intro member more rest
    rw [indented, String.toList_append, String.toList_append, String.toList_append, indented_members_chars,
      new_line_chars depth]
    simp
  · exact fun member => ⟨_, by rw [new_line_chars, List.cons_append, List.cons_append]⟩
  · intro first member second found
    exact member_delimited _ (depth + 1) first second (keyed first member) (othersKeyed second found)
      (delimited first member second found)

theorem indented_delimited (first : Json) (firstLegible : Legible first) (depth : Nat) (second : Json)
    (secondLegible : Legible second) :
    Delimited (fun value : Json => (value.indented depth).toList) first second := by
  induction firstLegible generalizing depth second with
  | null =>
      intro rest after _ _ same
      have kinds := kind_eq_of_texts _ _ .null secondLegible depth rest after same
      cases secondLegible with
      | null => exact ⟨rfl, List.append_cancel_left same⟩
      | _ => exact absurd kinds (by simp [kind])
  | bool value =>
      intro rest after _ _ same
      have kinds := kind_eq_of_texts _ _ (.bool value) secondLegible depth rest after same
      cases secondLegible with
      | bool other =>
          cases value <;> cases other
          · exact ⟨rfl, List.append_cancel_left same⟩
          · simp [indented, writeScalar] at same
          · simp [indented, writeScalar] at same
          · exact ⟨rfl, List.append_cancel_left same⟩
      | _ => exact absurd kinds (by simp [kind])
  | whole value =>
      intro rest after ended afterEnded same
      have kinds := kind_eq_of_texts _ _ (.whole value) secondLegible depth rest after same
      cases secondLegible with
      | whole other =>
          obtain ⟨rfl, ends⟩ := number_delimited value other rest after ended afterEnded same
          exact ⟨rfl, ends⟩
      | _ => exact absurd kinds (by simp [kind])
  | string value =>
      intro rest after _ _ same
      have kinds := kind_eq_of_texts _ _ (.string value) secondLegible depth rest after same
      cases secondLegible with
      | string other =>
          obtain ⟨rfl, ends⟩ := string_delimited value other rest after same
          exact ⟨rfl, ends⟩
      | _ => exact absurd kinds (by simp [kind])
  | array items each ih =>
      intro rest after _ _ same
      have kinds := kind_eq_of_texts _ _ (.array items each) secondLegible depth rest after same
      cases secondLegible with
      | array others othersEach =>
          obtain ⟨rfl, ends⟩ := array_delimited depth items others rest after
            (fun first member second found => ih first member (depth + 1) second (othersEach second found)) same
          exact ⟨rfl, ends⟩
      | _ => exact absurd kinds (by simp [kind])
  | object members keyed each ih =>
      intro rest after _ _ same
      have kinds := kind_eq_of_texts _ _ (.object members keyed each) secondLegible depth rest after same
      cases secondLegible with
      | object others othersKeyed othersEach =>
          obtain ⟨rfl, ends⟩ := object_delimited depth members others rest after keyed othersKeyed
            (fun first member second found => ih first member (depth + 1) second.2 (othersEach second found)) same
          exact ⟨rfl, ends⟩
      | _ => exact absurd kinds (by simp [kind])

theorem indented_injective (first second : Json) (firstLegible : Legible first)
    (secondLegible : Legible second) (depth : Nat)
    (same : first.indented depth = second.indented depth) : first = second := by
  have ended : Ended [] := by
    intro c head
    cases head
  exact (indented_delimited first firstLegible depth second secondLegible [] [] ended ended
    (congrArg (fun text : String => text.toList ++ []) same)).1

end TemplateManual.Json
