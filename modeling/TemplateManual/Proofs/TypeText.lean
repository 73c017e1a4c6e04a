import TemplateManual.Proofs.Json.Delimited
import TemplateManual.Proofs.SpelledTypes

set_option autoImplicit false

namespace TemplateManual

def DataType.isStem (type : DataType) : Bool :=
  match type.shape with
  | .union _ => false
  | .array (some item) _ => item.isUnion
  | _ => true

theorem array_of_not_stem (type : DataType) (single : type.isUnion = false) (longer : ¬ type.isStem = true) :
    ∃ item length secure, type = ⟨.array (some item) length, secure⟩ ∧ item.isUnion = false := by
  obtain ⟨shape, secure⟩ := type
  cases shape with
  | union alternatives => cases single
  | array item length =>
      cases item with
      | none => exact absurd rfl longer
      | some item => exact ⟨item, length, secure, rfl, Bool.eq_false_iff.mpr longer⟩
  | _ => exact absurd rfl longer

-- Read before any other stem, item or type that may stand in its place.
def StemRead (first : DataType) : Prop :=
  ∀ second, Spelled second → second.isStem = true → ∀ rest after, EndsStem rest → EndsStem after →
    first.chars ++ rest = second.chars ++ after → first.outline = second.outline ∧ rest = after

def ItemRead (first : DataType) : Prop :=
  ∀ second, Spelled second → second.isUnion = false → ∀ rest after, EndsStem rest → EndsStem after →
    first.chars ++ rest = second.chars ++ after → Overlaps first second rest after

def TypeRead (first : DataType) : Prop :=
  ∀ second, Spelled second → ∀ rest after, EndsType rest → EndsType after →
    first.chars ++ rest = second.chars ++ after → first.outline = second.outline ∧ rest = after

theorem ends_stem_brackets (rest : List Char) : EndsStem ('[' :: ']' :: rest) := by simp [EndsStem]

theorem item_read_of_stem (first : DataType) (read : StemRead first) : ItemRead first := by
  intro second spelled single rest after ended afterEnded same
  by_cases stem : second.isStem = true
  · obtain ⟨shows, tails⟩ := read second spelled stem rest after ended afterEnded same
    exact ⟨0, Or.inl ⟨shows.symm, tails⟩⟩
  -- An item is longer than its stem by brackets, which are taken off one by one.
  · obtain ⟨item, length, secure, rfl, flat⟩ := array_of_not_stem second single stem
    cases spelled with
    | arrayOf _ _ _ inner =>
        rw [chars_array_of_item item length secure flat, List.append_assoc] at same
        have overlaps := item_read_of_stem first read item inner flat rest _ ended (ends_stem_brackets after) same
        exact overlaps_symm _ _ _ _ (overlaps_array item first length secure after rest (overlaps_symm _ _ _ _ overlaps))
termination_by second => sizeOf second

theorem item_read_array (item : DataType) (length : Bounds) (secure : Bool) (flat : item.isUnion = false)
    (read : ItemRead item) : ItemRead ⟨.array (some item) length, secure⟩ := by
  intro second spelled single rest after ended afterEnded same
  rw [chars_array_of_item item length secure flat, List.append_assoc] at same
  exact overlaps_array item second length secure rest after
    (read second spelled single _ after (ends_stem_brackets rest) afterEnded same)

inductive Lead where
  | word
  | number
  | quote
  | brace
  | parenthesis
deriving DecidableEq

def Lead.ofChar (c : Char) : Lead :=
  if isLetter c then .word
  else if c = '\'' then .quote
  else if c = '\x7b' then .brace
  else if c = '(' then .parenthesis
  else .number

def DataType.lead (type : DataType) : Lead :=
  match type.shape with
  | .literal (.int _) => .number
  | .literal (.string _) => .quote
  | .object (some _) => .brace
  | .array (some _) _ => .parenthesis
  | _ => .word

theorem digit_no_letter (c : Char) (digit : c.isDigit = true) : isLetter c = false := by
  have below : c.toNat ≤ 57 := by
    simp only [Char.isDigit, Bool.and_eq_true, decide_eq_true_eq] at digit
    exact digit.2
  rw [← Bool.not_eq_true]
  intro letter
  simp only [isLetter, Bool.or_eq_true, beq_iff_eq] at letter
  rcases letter with alpha | rfl
  · rcases Bool.or_eq_true_iff.mp alpha with upper | lower
    · have above : 65 ≤ c.toNat := UInt32.le_iff_toNat_le.mp (of_decide_eq_true upper).1
      omega
    · have above : 97 ≤ c.toNat := of_decide_eq_true (Bool.and_eq_true_iff.mp lower).1
      omega
  · cases digit

theorem lead_of_number (c : Char) (starts : c = '-' ∨ c.isDigit = true) : Lead.ofChar c = .number := by
  rcases starts with rfl | digit
  · decide
  · have others : ∀ d : Char, d.isDigit = false → c ≠ d := by
      rintro d none rfl
      rw [none] at digit
      cases digit
    simp [Lead.ofChar, digit_no_letter c digit, others '\'' (by decide), others '\x7b' (by decide),
      others '(' (by decide)]

theorem word_cases (type : DataType) (spelled : Spelled type) (stem : type.isStem = true)
    (word : type.lead = .word) :
    (type.text, type.shape.outline) ∈ typeWords ∨
      (type.text ≠ "" ∧ (∀ c ∈ type.chars, isLetter c = true) ∧ type.text ∉ typeWords.map Prod.fst ∧
        type.shape.outline = .reference type.text none) := by
  cases spelled with
  | union => cases stem
  | objectOf | arrayOf | number | quoted => cases word
  | reference name target secure filled letters free => exact Or.inr ⟨filled, letters, free, rfl⟩
  | truth value => cases value <;> exact Or.inl (by simp [typeWords, DataType.text, Shape.text, Shape.outline, Literal.text, boolText])
  | _ => exact Or.inl (by simp [typeWords, DataType.text, Shape.text, Shape.outline])

theorem type_words_spelled : ∀ entry ∈ typeWords, entry.1 ≠ "" ∧ ∀ c ∈ entry.1.toList, isLetter c = true := by
  have checked : typeWords.all (fun entry => entry.1 != "" && entry.1.toList.all isLetter) = true := by decide
  intro entry listed
  have spelled := List.all_eq_true.mp checked entry listed
  rw [Bool.and_eq_true, bne_iff_ne, List.all_eq_true] at spelled
  exact spelled

theorem word_chars (type : DataType) (spelled : Spelled type) (stem : type.isStem = true)
    (word : type.lead = .word) : type.chars ≠ [] ∧ ∀ c ∈ type.chars, isLetter c = true := by
  have filled : type.text ≠ "" ∧ ∀ c ∈ type.chars, isLetter c = true := by
    rcases word_cases type spelled stem word with known | ⟨filled, letters, _⟩
    · exact type_words_spelled _ known
    · exact ⟨filled, letters⟩
  exact ⟨fun empty => filled.1 (String.toList_eq_nil_iff.mp empty), filled.2⟩

def shapeOfWord (word : String) : Shape := (typeWords.lookup word).getD (.reference word none)

theorem word_outline (type : DataType) (spelled : Spelled type) (stem : type.isStem = true)
    (word : type.lead = .word) : type.outline = ⟨shapeOfWord type.text, false⟩ := by
  have known : ∀ entry ∈ typeWords, shapeOfWord entry.1 = entry.2 := by
    simp only [typeWords, List.forall_mem_cons]
    exact ⟨rfl, rfl, rfl, rfl, rfl, rfl, rfl, rfl, rfl, by simp⟩
  have same : shapeOfWord type.text = type.shape.outline := by
    rcases word_cases type spelled stem word with listed | ⟨_, _, free, outline⟩
    · exact known _ listed
    · have unknown : typeWords.lookup type.text = none := by
        rw [List.lookup_eq_none_iff]
        intro entry listed
        exact bne_iff_ne.mpr fun same => free (List.mem_map.mpr ⟨entry, listed, same.symm⟩)
      rw [shapeOfWord, unknown, outline]
      rfl
  obtain ⟨shape, secure⟩ := type
  rw [same, DataType.outline]

theorem stem_starts (type : DataType) (spelled : Spelled type) (stem : type.isStem = true) :
    ∃ c more, type.chars = c :: more ∧ Lead.ofChar c = type.lead := by
  by_cases word : type.lead = .word
  · obtain ⟨filled, letters⟩ := word_chars type spelled stem word
    obtain ⟨c, more, chars⟩ := List.exists_cons_of_ne_nil filled
    exact ⟨c, more, chars, by rw [word, Lead.ofChar, if_pos (letters c (by simp [chars]))]⟩
  · cases spelled with
    | union => cases stem
    | objectOf members secure =>
        cases members with
        | nil => exact ⟨_, _, chars_object_nil secure, rfl⟩
        | cons member rest => exact ⟨_, _, chars_object member rest secure, rfl⟩
    | arrayOf item length secure => exact ⟨_, _, chars_array_of_union item length secure stem, rfl⟩
    | number value secure =>
        obtain ⟨c, more, chars, starts⟩ := Text.int_starts value
        exact ⟨c, more, chars, lead_of_number c starts⟩
    | quoted value secure => exact ⟨_, _, chars_quoted value secure, rfl⟩
    | _ => exact absurd rfl word

theorem lead_eq (first second : DataType) (spelled : Spelled first) (stem : first.isStem = true)
    (otherSpelled : Spelled second) (otherStem : second.isStem = true) (rest after : List Char)
    (same : first.chars ++ rest = second.chars ++ after) : first.lead = second.lead := by
  obtain ⟨c, more, chars, lead⟩ := stem_starts first spelled stem
  obtain ⟨d, others, otherChars, otherLead⟩ := stem_starts second otherSpelled otherStem
  rw [chars, otherChars] at same
  rw [← lead, ← otherLead, (List.cons.inj same).1]

theorem ended_stem (kind : Char → Bool) (rest : List Char) (ended : EndsStem rest)
    (others : kind '[' = false ∧ kind ' ' = false ∧ kind ',' = false ∧ kind ')' = false) :
    ∀ c ∈ rest.head?, kind c = false := by
  intro c first
  rcases ended c first with rfl | rfl | rfl | rfl
  · exact others.1
  · exact others.2.1
  · exact others.2.2.1
  · exact others.2.2.2

theorem word_read (first : DataType) (spelled : Spelled first) (stem : first.isStem = true)
    (word : first.lead = .word) : StemRead first := by
  intro second otherSpelled otherStem rest after ended afterEnded same
  have otherWord := (lead_eq first second spelled stem otherSpelled otherStem rest after same).symm.trans word
  obtain ⟨chars, tails⟩ := Text.run_delimited isLetter _ _ rest after (word_chars first spelled stem word).2
    (word_chars second otherSpelled otherStem otherWord).2 (ended_stem _ rest ended (by decide))
    (ended_stem _ after afterEnded (by decide)) same
  have text : first.text = second.text := String.toList_inj.mp chars
  exact ⟨by rw [word_outline first spelled stem word, word_outline second otherSpelled otherStem otherWord, text], tails⟩

theorem numeral_ended (rest : List Char) (ended : EndsStem rest) : Numeral.Ended rest := by
  intro c first
  rcases ended c first with rfl | rfl | rfl | rfl <;> decide

theorem number_read (value : Int) (secure : Bool) : StemRead ⟨.literal (.int value), secure⟩ := by
  intro second otherSpelled otherStem rest after ended afterEnded same
  have leads := lead_eq _ second (.number value secure) rfl otherSpelled otherStem rest after same
  cases otherSpelled with
  | number other mark =>
      obtain ⟨rfl, tails⟩ := Json.number_delimited value other rest after (numeral_ended rest ended)
        (numeral_ended after afterEnded) same
      exact ⟨rfl, tails⟩
  | union => cases otherStem
  | _ => cases leads

theorem quoted_read (value : String) (secure : Bool) (plain : '\'' ∉ value.toList) :
    StemRead ⟨.literal (.string value), secure⟩ := by
  intro second otherSpelled otherStem rest after ended afterEnded same
  have leads := lead_eq _ second (.quoted value secure plain) rfl otherSpelled otherStem rest after same
  cases otherSpelled with
  | quoted other mark otherPlain =>
      have inside : ∀ text : String, '\'' ∉ text.toList → ∀ c ∈ text.toList, (c != '\'') = true := by
        intro text plain c member
        exact bne_iff_ne.mpr fun quote => plain (quote ▸ member)
      rw [chars_quoted, chars_quoted, List.cons_append, List.cons_append, List.append_assoc, List.append_assoc] at same
      obtain ⟨chars, tails⟩ := Text.run_delimited (· != '\'') _ _ _ _ (inside value plain) (inside other otherPlain)
        (by simp) (by simp) (List.cons.inj same).2
      obtain rfl := String.toList_inj.mp chars
      exact ⟨rfl, (List.cons.inj tails).2⟩
  | union => cases otherStem
  | _ => cases leads

theorem array_of_union_read (item : DataType) (length : Bounds) (secure : Bool) (spelled : Spelled item)
    (union : item.isUnion = true) (read : TypeRead item) : StemRead ⟨.array (some item) length, secure⟩ := by
  intro second otherSpelled otherStem rest after ended afterEnded same
  have leads := lead_eq _ second (.arrayOf item length secure spelled) union otherSpelled otherStem rest after same
  cases otherSpelled with
  | arrayOf other otherLength mark inner =>
      rw [chars_array_of_union item length secure union, chars_array_of_union other otherLength mark otherStem,
        List.cons_append, List.cons_append, List.append_assoc, List.append_assoc] at same
      obtain ⟨shows, tails⟩ := read other inner _ _ (Or.inr (Or.inr (Or.inl ⟨_, rfl⟩)))
        (Or.inr (Or.inr (Or.inl ⟨_, rfl⟩))) (List.cons.inj same).2
      refine ⟨?_, by simpa using tails⟩
      rw [DataType.outline, DataType.outline, Shape.outline, Shape.outline, shows]
  | union => cases otherStem
  | _ => cases leads

-- The name of a member ends at the colon, and its type before a comma or the end of the object.
theorem member_read (member other : Member) (rest after : List Char)
    (named : ∀ c ∈ member.name.toList, isNameChar c = true) (otherNamed : ∀ c ∈ other.name.toList, isNameChar c = true)
    (read : TypeRead member.type) (spelled : Spelled other.type) (ended : EndsType rest) (afterEnded : EndsType after)
    (same : member.chars ++ rest = other.chars ++ after) : member.outline = other.outline ∧ rest = after := by
  simp only [Member.chars, List.append_assoc, List.cons_append] at same
  obtain ⟨names, tails⟩ := Text.run_delimited isNameChar _ _ _ _ named otherNamed (by simp [isNameChar])
    (by simp [isNameChar]) same
  obtain ⟨shows, ends⟩ := read other.type spelled rest after ended afterEnded (List.cons.inj (List.cons.inj tails).2).2
  exact ⟨by rw [Member.outline, Member.outline, shows, String.toList_inj.mp names], ends⟩

theorem object_outline (members : List Member) (secure : Bool) :
    DataType.outline ⟨.object (some members), secure⟩ = ⟨.object (some (members.map Member.outline)), false⟩ := by
  rw [DataType.outline, Shape.outline, member_outlines_map]

theorem object_read (members : List Member) (secure : Bool)
    (named : ∀ member ∈ members, member.name ≠ "" ∧ ∀ c ∈ member.name.toList, isNameChar c = true)
    (each : ∀ member ∈ members, Spelled member.type) (read : ∀ member ∈ members, TypeRead member.type) :
    StemRead ⟨.object (some members), secure⟩ := by
  intro second otherSpelled otherStem rest after ended afterEnded same
  have leads := lead_eq _ second (.objectOf members secure named each) rfl otherSpelled otherStem rest after same
  cases otherSpelled with
  | objectOf others mark otherNamed otherEach =>
      rw [object_outline, object_outline]
      cases members with
      | nil =>
          cases others with
          | nil => exact ⟨rfl, List.append_cancel_left same⟩
          | cons other others =>
              rw [chars_object_nil, chars_object] at same
              simp at same
      | cons member members =>
          cases others with
          | nil =>
              rw [chars_object_nil, chars_object] at same
              simp at same
          | cons other others =>
              rw [chars_object, chars_object] at same
              simp only [List.cons_append, List.append_assoc, List.cons.injEq, true_and] at same
              have delimited : ∀ first ∈ member :: members, ∀ next ∈ other :: others, ∀ rest after, EndsType rest →
                  EndsType after → first.chars ++ rest = next.chars ++ after →
                  first.outline = next.outline ∧ rest = after := fun first found next listed rest after =>
                member_read first next rest after (named first found).2 (otherNamed next listed).2
                  (read first found) (otherEach next listed)
              obtain ⟨shows, tails⟩ := Text.separated_delimited Member.chars Member.outline [',', ' '] EndsType
                (fun rest => ∃ more, rest = ' ' :: '\x7d' :: more) member other members others _ _ delimited
                (fun _ => Or.inr (Or.inl ⟨_, rfl⟩)) (fun _ closed => Or.inr (Or.inr (Or.inr closed)))
                (by simp) ⟨_, rfl⟩ ⟨_, rfl⟩ same
              exact ⟨by rw [shows], by simpa using tails⟩
  | union => cases otherStem
  | _ => cases leads

def DataType.parts (type : DataType) : List DataType :=
  match type.shape with
  | .union alternatives => alternatives
  | _ => [type]

theorem parts_single (type : DataType) (single : type.isUnion = false) : type.parts = [type] := by
  obtain ⟨shape, secure⟩ := type
  cases shape with
  | union alternatives => cases single
  | _ => rfl

theorem chars_parts (type : DataType) : type.chars = [' ', '|', ' '].intercalate (type.parts.map DataType.chars) := by
  obtain ⟨shape, secure⟩ := type
  cases shape with
  | union alternatives => exact chars_union alternatives secure
  | _ => simp [DataType.parts]

theorem parts_spelled (type : DataType) (spelled : Spelled type) :
    type.parts ≠ [] ∧ ∀ part ∈ type.parts, Spelled part ∧ part.isUnion = false := by
  by_cases union : type.isUnion = true
  · cases spelled with
    | union alternatives secure several flat each =>
        refine ⟨fun empty => ?_, fun part member => ⟨each part member, flat part member⟩⟩
        rw [show alternatives = [] from empty] at several
        cases several
    | _ => cases union
  · rw [Bool.not_eq_true] at union
    rw [parts_single type union]
    simp [spelled, union]

def DataType.ofParts : List DataType → DataType
  | [part] => part
  | parts => .union parts

theorem outline_parts (type : DataType) (spelled : Spelled type) :
    type.outline = .ofParts (type.parts.map DataType.outline) := by
  by_cases union : type.isUnion = true
  · cases spelled with
    | union alternatives secure several flat each =>
        rw [DataType.outline, Shape.outline, type_outlines_map]
        cases alternatives with
        | nil => cases several
        | cons first rest =>
            cases rest with
            | nil => simp at several
            | cons second rest => rfl
    | _ => cases union
  · rw [parts_single type (Bool.eq_false_iff.mpr union)]
    rfl

theorem type_read (first : DataType) (spelled : Spelled first) (read : ∀ part ∈ first.parts, ItemRead part) :
    TypeRead first := by
  intro second otherSpelled rest after ended afterEnded same
  obtain ⟨filled, _⟩ := parts_spelled first spelled
  obtain ⟨otherFilled, others⟩ := parts_spelled second otherSpelled
  have delimited : ∀ part ∈ first.parts, ∀ other ∈ second.parts, ∀ rest after, EndsItem rest → EndsItem after →
      part.chars ++ rest = other.chars ++ after → part.outline = other.outline ∧ rest = after := by
    intro part member other found rest after ended afterEnded same
    have overlaps := read part member other (others other found).1 (others other found).2 rest after
      (ends_stem_of_item rest ended) (ends_stem_of_item after afterEnded) same
    exact overlaps_ended part other rest after ended afterEnded overlaps
  rw [chars_parts first, chars_parts second] at same
  obtain ⟨shows, tails⟩ : first.parts.map DataType.outline = second.parts.map DataType.outline ∧ rest = after := by
    obtain ⟨part, more, parts⟩ := List.exists_cons_of_ne_nil filled
    obtain ⟨other, following, otherParts⟩ := List.exists_cons_of_ne_nil otherFilled
    rw [parts, otherParts] at same delimited ⊢
    exact Text.separated_delimited DataType.chars DataType.outline [' ', '|', ' '] EndsItem EndsType part other more
      following rest after delimited (by simp [EndsItem]) ends_item_of_type (by simp [EndsType]) ended afterEnded same
  exact ⟨by rw [outline_parts first spelled, outline_parts second otherSpelled, shows], tails⟩

theorem parts_of_stem (type : DataType) (single : type.isUnion = false) (read : StemRead type) :
    ∀ part ∈ type.parts, ItemRead part := by
  intro part member
  rw [parts_single type single, List.mem_singleton] at member
  exact member ▸ item_read_of_stem type read

theorem parts_read (type : DataType) (spelled : Spelled type) : ∀ part ∈ type.parts, ItemRead part := by
  induction spelled with
  | objectOf members secure named each ih =>
      exact parts_of_stem _ rfl (object_read members secure named each fun member found =>
        type_read member.type (each member found) (ih member found))
  | arrayOf item length secure spelled ih =>
      cases union : item.isUnion with
      | true => exact parts_of_stem _ rfl (array_of_union_read item length secure spelled union (type_read item spelled ih))
      | false =>
          intro part member
          rw [parts_single _ rfl, List.mem_singleton] at member
          exact member ▸ item_read_array item length secure union (ih item (by simp [parts_single item union]))
  | union alternatives secure several flat each ih =>
      intro part member
      exact ih part member part (by simp [parts_single part (flat part member)])
  | number value secure => exact parts_of_stem _ rfl (number_read value secure)
  | quoted value secure plain => exact parts_of_stem _ rfl (quoted_read value secure plain)
  | string length secure => exact parts_of_stem _ rfl (word_read _ (.string length secure) rfl rfl)
  | int range secure => exact parts_of_stem _ rfl (word_read _ (.int range secure) rfl rfl)
  | bool secure => exact parts_of_stem _ rfl (word_read _ (.bool secure) rfl rfl)
  | any secure => exact parts_of_stem _ rfl (word_read _ (.any secure) rfl rfl)
  | null secure => exact parts_of_stem _ rfl (word_read _ (.null secure) rfl rfl)
  | object secure => exact parts_of_stem _ rfl (word_read _ (.object secure) rfl rfl)
  | array length secure => exact parts_of_stem _ rfl (word_read _ (.array length secure) rfl rfl)
  | truth value secure => exact parts_of_stem _ rfl (word_read _ (.truth value secure) rfl rfl)
  | reference name target secure filled letters free =>
      exact parts_of_stem _ rfl (word_read _ (.reference name target secure filled letters free) rfl rfl)

theorem is_union_outline (type : DataType) : type.outline.isUnion = type.isUnion := by
  obtain ⟨shape, secure⟩ := type
  cases shape with
  | object members => cases members <;> rfl
  | array item length => cases item <;> rfl
  | _ => rfl

theorem text_outline (type : DataType) (spelled : Spelled type) : type.outline.text = type.text := by
  induction spelled with
  | objectOf members secure named each ih =>
      rw [object_outline]
      cases members with
      | nil => rfl
      | cons member rest =>
          have texts : memberTexts ((member :: rest).map Member.outline) = memberTexts (member :: rest) := by
            rw [member_texts_eq_map, member_texts_eq_map, List.map_map]
            refine List.map_congr_left fun member found => ?_
            simp [Member.outline, ih member found]
          rw [DataType.text, DataType.text, List.map_cons, Shape.text, Shape.text, ← List.map_cons, texts]
  | arrayOf item length secure spelled ih =>
      rw [DataType.outline, DataType.text, DataType.text, Shape.outline, Shape.text, Shape.text, is_union_outline, ih]
  | union alternatives secure several flat each ih =>
      have texts : typeTexts (alternatives.map DataType.outline) = typeTexts alternatives := by
        rw [type_texts_eq_map, type_texts_eq_map, List.map_map]
        exact List.map_congr_left ih
      rw [DataType.outline, DataType.text, DataType.text, Shape.outline, Shape.text, Shape.text, type_outlines_map, texts]
  | _ => rfl

theorem text_eq_iff_outline_eq (first second : DataType) (spelled : Spelled first) (otherSpelled : Spelled second) :
    first.text = second.text ↔ first.outline = second.outline := by
  constructor
  · intro same
    have chars : first.chars ++ [] = second.chars ++ [] := by rw [DataType.chars, same, DataType.chars]
    have read := type_read first spelled (parts_read first spelled)
    exact (read second otherSpelled [] [] (Or.inl rfl) (Or.inl rfl) chars).1
  · intro same
    rw [← text_outline first spelled, ← text_outline second otherSpelled, same]

def labelLists (length : Bounds) (secure : Bool) (target : Option DataType) : DataType :=
  ⟨.array (some (.union [.stringLiteral "a | b[]", .arrayOf ⟨.reference "Label" target, secure⟩, .null])) length, secure⟩

theorem label_lists_spelled (length : Bounds) (secure : Bool) (target : Option DataType) :
    Spelled (labelLists length secure target) := by
  refine .arrayOf _ _ _ (.union _ _ (by simp) ?_ ?_)
  · simp [DataType.isUnion, DataType.stringLiteral, DataType.literal, DataType.arrayOf, DataType.null, DataType.ofShape]
  · simp only [List.forall_mem_cons]
    refine ⟨.quoted _ _ (by decide), .arrayOf _ _ _ (.reference _ _ _ (by decide) (List.all_eq_true.mp (by decide)) (by decide)), .null _, ?_⟩
    simp

theorem label_lists_alike :
    (labelLists .unbounded false none).text = "('a | b[]' | Label[] | null)[]" ∧
      (labelLists .unbounded false none).outline =
        (labelLists ⟨some 1, some 9⟩ true (some .string)).outline := by
  refine ⟨by decide, (text_eq_iff_outline_eq _ _ (label_lists_spelled _ _ _) (label_lists_spelled _ _ _)).mp ?_⟩
  decide

end TemplateManual
