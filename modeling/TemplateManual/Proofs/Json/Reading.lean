import TemplateManual.Json.Reader
import TemplateManual.Proofs.Json.Tokens

set_option autoImplicit false

namespace TemplateManual.Json

open Numeral (Ended)

inductive Writable : Json → Prop where
  | null : Writable .null
  | bool (value : Bool) : Writable (.bool value)
  | whole (value : Int) (low : -9223372036854775808 ≤ value) (high : value ≤ 18446744073709551615) :
      Writable (.number (.whole value))
  | string (value : String) : Writable (.string value)
  | array (items : List Json) (each : ∀ item ∈ items, Writable item) : Writable (.array items)
  | object (members : List (Option String × Json)) (keyed : ∀ member ∈ members, member.1.isSome = true)
      (each : ∀ member ∈ members, Writable member.2) : Writable (.object members)

-- The text is read as the value, whatever is open around it and whatever ends it.
structure Spells (text : List Char) (value : Json) : Prop where
  read : ∀ frames rest, Ended rest →
    readValue frames (Token.ofChars (text ++ rest)) = readAfter frames value (Token.ofChars rest)
  opens : ∀ rest, Ended rest → (Token.ofChars (text ++ rest)).head? ≠ some .closeArray

structure SpellsMember (text : List Char) (member : Option String × Json) : Prop where
  read : ∀ members outer rest, Ended rest →
    readKey members outer (Token.ofChars (text ++ rest)) =
      readAfter (.object members member.1 :: outer) member.2 (Token.ofChars rest)
  opens : ∀ rest, Ended rest → (Token.ofChars (text ++ rest)).head? ≠ some .closeObject

theorem spells_token (text : List Char) (token : Token) (value : Json)
    (spelled : ∀ rest, Ended rest → Token.ofChars (text ++ rest) = token :: Token.ofChars rest)
    (begins : ∀ frames rest, readValue frames (token :: rest) = readAfter frames value rest)
    (opens : token ≠ .closeArray) : Spells text value where
  read := by
    intro frames rest ended
    rw [spelled rest ended, begins]
  opens := by
    intro rest ended
    rw [spelled rest ended]
    simpa using opens

theorem spells_after_blanks (blanks text : List Char) (value : Json)
    (blank : ∀ c ∈ blanks, Token.isBlank c = true) (spelled : Spells text value) :
    Spells (blanks ++ text) value where
  read := by
    intro frames rest ended
    rw [List.append_assoc, Token.of_chars_blanks blanks _ blank]
    exact spelled.read frames rest ended
  opens := by
    intro rest ended
    rw [List.append_assoc, Token.of_chars_blanks blanks _ blank]
    exact spelled.opens rest ended

theorem spells_member (lead gap text : List Char) (key : String) (value : Json)
    (leadBlank : ∀ c ∈ lead, Token.isBlank c = true) (gapBlank : ∀ c ∈ gap, Token.isBlank c = true)
    (spelled : Spells text value) :
    SpellsMember (lead ++ (writeString key).toList ++ ':' :: (gap ++ text)) (some key, value) := by
  have tokens : ∀ rest, Token.ofChars
      (lead ++ (writeString key).toList ++ ':' :: (gap ++ text) ++ rest) =
        .text (some key) :: .colon :: Token.ofChars (text ++ rest) := by
    intro rest
    simp only [List.append_assoc, List.cons_append]
    rw [Token.of_chars_blanks lead _ leadBlank, Token.of_chars_string, Token.of_chars_colon,
      Token.of_chars_blanks gap _ gapBlank]
  constructor
  · intro members outer rest ended
    rw [tokens rest, readKey]
    exact spelled.read _ rest ended
  · intro rest ended
    rw [tokens rest]
    simp

theorem ended_of_head (c : Char) (rest : List Char) (plain : Numeral.isDigit c = false)
    (other : c ≠ '.' ∧ c ≠ 'e' ∧ c ≠ 'E') : Ended (c :: rest) := by
  intro first head
  obtain rfl := Option.some.inj head
  exact ⟨plain, other⟩

theorem ended_of_blanks (blanks rest : List Char) (blank : ∀ c ∈ blanks, Token.isBlank c = true)
    (ended : Ended rest) : Ended (blanks ++ rest) := by
  cases blanks with
  | nil => exact ended
  | cons c more =>
      have space := blank c List.mem_cons_self
      simp only [Token.isBlank, Bool.or_eq_true, decide_eq_true_eq, or_assoc] at space
      rcases space with rfl | rfl | rfl | rfl <;> exact ended_of_head _ _ (by decide) (by decide)

theorem read_open_array (frames : List Frame) (tokens : List Token)
    (opens : tokens.head? ≠ some .closeArray) :
    readValue frames (.openArray :: tokens) = readValue (.array [] :: frames) tokens := by
  rw [readValue]
  intro rest closed
  exact opens (by rw [closed]; rfl)

theorem read_open_object (frames : List Frame) (tokens : List Token)
    (opens : tokens.head? ≠ some .closeObject) :
    readValue frames (.openObject :: tokens) = readKey [] frames tokens := by
  rw [readValue]
  intro rest closed
  exact opens (by rw [closed]; rfl)

theorem joined_starts {α : Type} (write : α → List Char) (item : α) (more : List α)
    (closing : List Char) (ended : Ended closing) :
    ∃ after, Ended after ∧
      [','].intercalate ((item :: more).map write) ++ closing = write item ++ after := by
  cases more with
  | nil => exact ⟨closing, ended, by rw [List.map_singleton, List.intercalate_singleton]⟩
  | cons next more =>
      refine ⟨',' :: ([','].intercalate ((next :: more).map write) ++ closing),
        ended_of_head _ _ (by decide) (by decide), ?_⟩
      simp only [List.map_cons, List.intercalate_cons_cons, List.append_assoc, List.cons_append,
        List.nil_append]

theorem ended_closing (blanks rest : List Char) (close : Char)
    (blank : ∀ c ∈ blanks, Token.isBlank c = true) (closes : close = ']' ∨ close = '\x7d') :
    Ended (blanks ++ close :: rest) := by
  apply ended_of_blanks blanks _ blank
  rcases closes with rfl | rfl <;> exact ended_of_head _ _ (by decide) (by decide)

-- The items after those in `done`, up to the bracket.
theorem read_items (write : Json → List Char) (item : Json) (more : List Json) (done : List Json)
    (outer : List Frame) (blanks rest : List Char) (blank : ∀ c ∈ blanks, Token.isBlank c = true)
    (spelled : ∀ value ∈ item :: more, Spells (write value) value) :
    readValue (.array done :: outer)
        (Token.ofChars ([','].intercalate ((item :: more).map write) ++ (blanks ++ ']' :: rest))) =
      readAfter outer (.array (done.reverse ++ item :: more)) (Token.ofChars rest) := by
  -- Each item is read in the frame that holds all before it, so `done` grows along the induction.
  induction more generalizing item done with
  | nil =>
      have ended := ended_closing blanks rest ']' blank (Or.inl rfl)
      rw [List.map_singleton, List.intercalate_singleton,
        (spelled item List.mem_cons_self).read _ _ ended, Token.of_chars_blanks blanks _ blank,
        Token.of_chars_close_array, readAfter, List.reverse_cons]
  | cons next more ih =>
      have ended : Ended (',' :: ([','].intercalate ((next :: more).map write) ++
          (blanks ++ ']' :: rest))) := ended_of_head _ _ (by decide) (by decide)
      have later := ih next (item :: done) fun value member => spelled value (List.mem_cons_of_mem item member)
      rw [List.map_cons, List.map_cons, List.intercalate_cons_cons, ← List.map_cons, List.append_assoc,
        List.append_assoc, List.singleton_append, (spelled item List.mem_cons_self).read _ _ ended,
        Token.of_chars_comma, readAfter, later, List.reverse_cons, List.append_assoc,
        List.singleton_append]

theorem spells_array (write : Json → List Char) (items : List Json) (blanks : List Char)
    (blank : ∀ c ∈ blanks, Token.isBlank c = true)
    (spelled : ∀ value ∈ items, Spells (write value) value) :
    Spells ('[' :: ([','].intercalate (items.map write) ++ (blanks ++ [']']))) (.array items) where
  read := by
    intro frames rest ended
    rw [List.cons_append, List.append_assoc, List.append_assoc, List.singleton_append,
      Token.of_chars_open_array]
    cases items with
    | nil =>
        rw [List.map_nil, List.intercalate_nil, List.nil_append, Token.of_chars_blanks blanks _ blank,
          Token.of_chars_close_array, readValue]
    | cons item more =>
        obtain ⟨after, afterEnded, joined⟩ := joined_starts write item more (blanks ++ ']' :: rest)
          (ended_closing blanks rest ']' blank (Or.inl rfl))
        have opens := (spelled item List.mem_cons_self).opens after afterEnded
        rw [← joined] at opens
        rw [read_open_array frames _ opens]
        exact read_items write item more [] frames blanks rest blank spelled
  opens := by
    intro rest _
    simp

theorem read_members (write : Option String × Json → List Char) (member : Option String × Json)
    (more done : List (Option String × Json)) (outer : List Frame) (blanks rest : List Char)
    (blank : ∀ c ∈ blanks, Token.isBlank c = true)
    (spelled : ∀ entry ∈ member :: more, SpellsMember (write entry) entry) :
    readKey done outer
        (Token.ofChars ([','].intercalate ((member :: more).map write) ++ (blanks ++ '\x7d' :: rest))) =
      readAfter outer (.object (done.reverse ++ member :: more)) (Token.ofChars rest) := by
  induction more generalizing member done with
  | nil =>
      have ended := ended_closing blanks rest '\x7d' blank (Or.inr rfl)
      rw [List.map_singleton, List.intercalate_singleton,
        (spelled member List.mem_cons_self).read _ _ _ ended, Token.of_chars_blanks blanks _ blank,
        Token.of_chars_close_object, readAfter, List.reverse_cons]
  | cons next more ih =>
      have ended : Ended (',' :: ([','].intercalate ((next :: more).map write) ++
          (blanks ++ '\x7d' :: rest))) := ended_of_head _ _ (by decide) (by decide)
      have later := ih next (member :: done) fun entry found => spelled entry (List.mem_cons_of_mem member found)
      rw [List.map_cons, List.map_cons, List.intercalate_cons_cons, ← List.map_cons, List.append_assoc,
        List.append_assoc, List.singleton_append, (spelled member List.mem_cons_self).read _ _ _ ended,
        Token.of_chars_comma, readAfter, later, List.reverse_cons, List.append_assoc,
        List.singleton_append]

theorem spells_object (write : Option String × Json → List Char)
    (members : List (Option String × Json)) (blanks : List Char)
    (blank : ∀ c ∈ blanks, Token.isBlank c = true)
    (spelled : ∀ entry ∈ members, SpellsMember (write entry) entry) :
    Spells ('\x7b' :: ([','].intercalate (members.map write) ++ (blanks ++ ['\x7d']))) (.object members) where
  read := by
    intro frames rest ended
    rw [List.cons_append, List.append_assoc, List.append_assoc, List.singleton_append,
      Token.of_chars_open_object]
    cases members with
    | nil =>
        rw [List.map_nil, List.intercalate_nil, List.nil_append, Token.of_chars_blanks blanks _ blank,
          Token.of_chars_close_object, readValue]
    | cons member more =>
        obtain ⟨after, afterEnded, joined⟩ := joined_starts write member more (blanks ++ '\x7d' :: rest)
          (ended_closing blanks rest '\x7d' blank (Or.inr rfl))
        have opens := (spelled member List.mem_cons_self).opens after afterEnded
        rw [← joined] at opens
        rw [read_open_object frames _ opens]
        exact read_members write member more [] frames blanks rest blank spelled
  opens := by
    intro rest _
    simp

theorem spells_word (word : String) (token : Token) (value : Json) (c : Char) (letters : List Char)
    (chars : word.toList = c :: letters) (solid : Token.isBlank c = false)
    (next : ∀ rest, Token.readNext c (letters ++ rest) = some (token, rest))
    (begins : ∀ frames rest, readValue frames (token :: rest) = readAfter frames value rest)
    (opens : token ≠ .closeArray) : Spells word.toList value := by
  refine spells_token word.toList token value ?_ begins opens
  intro rest _
  rw [chars, List.cons_append]
  exact Token.of_chars_token c (letters ++ rest) rest token solid (next rest)

theorem spells_scalar (value : Json) (writable : Writable value) (noArray : ∀ items, value ≠ .array items)
    (noObject : ∀ members, value ≠ .object members) : Spells (writeScalar value).toList value := by
  cases writable with
  | null =>
      exact spells_word "null" .null _ 'n' ['u', 'l', 'l'] rfl rfl (fun _ => rfl) (fun _ _ => rfl)
        (by decide)
  | bool value =>
      cases value with
      | true =>
          exact spells_word "true" (.bool true) _ 't' ['r', 'u', 'e'] rfl rfl (fun _ => rfl)
            (fun _ _ => rfl) (by decide)
      | false =>
          exact spells_word "false" (.bool false) _ 'f' ['a', 'l', 's', 'e'] rfl rfl (fun _ => rfl)
            (fun _ _ => rfl) (by decide)
  | whole value low high =>
      refine spells_token _ (.number (some (.whole value))) _ ?_ (fun _ _ => rfl) (by simp)
      intro rest ended
      exact Token.of_chars_int value rest low high ended
  | string value =>
      refine spells_token _ (.text (some value)) _ ?_ (fun _ _ => rfl) (by simp)
      intro rest _
      exact Token.of_chars_string value rest
  | array items each => exact absurd rfl (noArray items)
  | object members keyed each => exact absurd rfl (noObject members)

theorem compact_items_chars (items : List Json) :
    (compactItems items).toList = [','].intercalate (items.map fun item => item.compact.toList) := by
  induction items with
  | nil => rfl
  | cons item more ih =>
      cases more with
      | nil => rw [compactItems, List.map_singleton, List.intercalate_singleton]
      | cons next more =>
          rw [compactItems, String.toList_append, String.toList_append, ih]
          simp

theorem compact_members_chars (members : List (Option String × Json)) :
    (compactMembers members).toList = [','].intercalate (members.map fun (key, value) =>
      [] ++ (writeKey key).toList ++ ':' :: ([] ++ value.compact.toList)) := by
  induction members with
  | nil => rfl
  | cons member more ih =>
      obtain ⟨key, value⟩ := member
      cases more with
      | nil => simp [compactMembers]
      | cons next more =>
          rw [compactMembers, String.toList_append, ih]
          simp

theorem indented_items_chars (depth : Nat) (items : List Json) :
    (indentedItems depth items).toList = [','].intercalate (items.map fun item =>
      (newLine depth).toList ++ (item.indented depth).toList) := by
  induction items with
  | nil => rfl
  | cons item more ih =>
      cases more with
      | nil => rw [indentedItems, String.toList_append, List.map_singleton, List.intercalate_singleton]
      | cons next more =>
          rw [indentedItems, String.toList_append, ih]
          simp

theorem indented_members_chars (depth : Nat) (members : List (Option String × Json)) :
    (indentedMembers depth members).toList = [','].intercalate (members.map fun (key, value) =>
      (newLine depth).toList ++ (writeKey key).toList ++ ':' :: ([' '] ++ (value.indented depth).toList)) := by
  induction members with
  | nil => rfl
  | cons member more ih =>
      obtain ⟨key, value⟩ := member
      cases more with
      | nil => simp [indentedMembers]
      | cons next more =>
          rw [indentedMembers, String.toList_append, ih]
          simp

theorem new_line_blank (depth : Nat) : ∀ c ∈ (newLine depth).toList, Token.isBlank c = true := by
  have steps : ∀ c ∈ (Text.times "  " depth).toList, c = ' ' := by
    induction depth with
    | zero => simp [Text.times]
    | succ depth ih =>
        simp only [Text.times, String.toList_append, List.mem_append]
        rintro c (here | further)
        · simpa using here
        · exact ih c further
  intro c member
  simp only [newLine, String.toList_append, List.mem_append] at member
  rcases member with here | further
  · obtain rfl : c = '\n' := by simpa using here
    rfl
  · rw [steps c further]
    rfl

theorem spells_keyed (lead gap : List Char) (write : Json → List Char) (member : Option String × Json)
    (leadBlank : ∀ c ∈ lead, Token.isBlank c = true) (gapBlank : ∀ c ∈ gap, Token.isBlank c = true)
    (keyed : member.1.isSome = true) (spelled : Spells (write member.2) member.2) :
    SpellsMember (lead ++ (writeKey member.1).toList ++ ':' :: (gap ++ write member.2)) member := by
  obtain ⟨key, value⟩ := member
  obtain ⟨name, rfl⟩ := Option.isSome_iff_exists.mp keyed
  exact spells_member lead gap (write value) name value leadBlank gapBlank spelled

theorem spells_compact (value : Json) (writable : Writable value) :
    Spells value.compact.toList value := by
  induction writable with
  | null => exact spells_scalar _ .null (by simp) (by simp)
  | bool value => exact spells_scalar _ (.bool value) (by simp) (by simp)
  | whole value low high => exact spells_scalar _ (.whole value low high) (by simp) (by simp)
  | string value => exact spells_scalar _ (.string value) (by simp) (by simp)
  | array items _ ih =>
      have chars : (Json.array items).compact.toList =
          '[' :: ([','].intercalate (items.map fun item => item.compact.toList) ++ ([] ++ [']'])) := by
        rw [compact, String.toList_append, String.toList_append, compact_items_chars]
        rfl
      rw [chars]
      exact spells_array (fun item => item.compact.toList) items [] (by simp) ih
  | object members keyed _ ih =>
      have chars : (Json.object members).compact.toList =
          '\x7b' :: ([','].intercalate (members.map fun (key, value) =>
            [] ++ (writeKey key).toList ++ ':' :: ([] ++ value.compact.toList)) ++ ([] ++ ['\x7d'])) := by
        rw [compact, String.toList_append, String.toList_append, compact_members_chars]
        rfl
      rw [chars]
      apply spells_object _ members [] (by simp)
      intro member found
      exact spells_keyed [] [] (fun value => value.compact.toList) member (by simp) (by simp)
        (keyed member found) (ih member found)

theorem spells_indented (value : Json) (writable : Writable value) (depth : Nat) :
    Spells (value.indented depth).toList value := by
  induction writable generalizing depth with
  | null => exact spells_scalar _ .null (by simp) (by simp)
  | bool value => exact spells_scalar _ (.bool value) (by simp) (by simp)
  | whole value low high => exact spells_scalar _ (.whole value low high) (by simp) (by simp)
  | string value => exact spells_scalar _ (.string value) (by simp) (by simp)
  | array items _ ih =>
      cases items with
      | nil =>
          rw [indented]
          exact spells_array (fun _ => []) [] [] (by simp) (by simp)
      | cons item more =>
          have chars : ((Json.array (item :: more)).indented depth).toList =
              '[' :: ([','].intercalate ((item :: more).map fun item =>
                (newLine (depth + 1)).toList ++ (item.indented (depth + 1)).toList) ++
                  ((newLine depth).toList ++ [']'])) := by
            rw [indented, String.toList_append, String.toList_append, String.toList_append,
              indented_items_chars]
            simp
          rw [chars]
          apply spells_array _ (item :: more) _ (new_line_blank depth)
          intro value found
          exact spells_after_blanks _ _ value (new_line_blank (depth + 1)) (ih value found (depth + 1))
  | object members keyed _ ih =>
      cases members with
      | nil =>
          rw [indented]
          exact spells_object (fun _ => []) [] [] (by simp) (by simp)
      | cons member more =>
          have chars : ((Json.object (member :: more)).indented depth).toList =
              '\x7b' :: ([','].intercalate ((member :: more).map fun (key, value) =>
                (newLine (depth + 1)).toList ++ (writeKey key).toList ++
                  ':' :: ([' '] ++ (value.indented (depth + 1)).toList)) ++
                  ((newLine depth).toList ++ ['\x7d'])) := by
            rw [indented, String.toList_append, String.toList_append, String.toList_append,
              indented_members_chars]
            simp
          rw [chars]
          apply spells_object _ (member :: more) _ (new_line_blank depth)
          intro entry found
          exact spells_keyed _ [' '] (fun value => (value.indented (depth + 1)).toList) entry
            (new_line_blank (depth + 1)) (by simp [Token.isBlank]) (keyed entry found)
            (ih entry found (depth + 1))

theorem read_spelled (text : String) (value : Json) (spelled : Spells text.toList value) :
    read text = ⟨value, true⟩ := by
  have ended : Ended [] := by
    intro c head
    cases head
  have whole := spelled.read [] [] ended
  rw [List.append_nil] at whole
  exact whole

theorem read_compact (value : Json) (writable : Writable value) : read value.compact = ⟨value, true⟩ :=
  read_spelled _ value (spells_compact value writable)

theorem read_indented (value : Json) (writable : Writable value) (depth : Nat) :
    read (value.indented depth) = ⟨value, true⟩ :=
  read_spelled _ value (spells_indented value writable depth)

end TemplateManual.Json
