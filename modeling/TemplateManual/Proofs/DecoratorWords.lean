import Mathlib.Data.List.Forall2
import TemplateManual.Manual.Survey
import TemplateManual.Proofs.Sorting

set_option autoImplicit false

namespace TemplateManual

namespace Decorator

def word (decorator : Decorator) : String :=
  String.ofList ((decorator.name.toList.splitOn '.').getLast (List.splitOn_ne_nil '.' _))

def knownWords : List String :=
  ["description", "metadata", "secure", "minLength", "maxLength", "minValue", "maxValue"]

def argsOf? (decorators : List Decorator) (wanted : String) : Option (List Expr) :=
  (decorators.find? fun decorator => decorator.word == wanted).map Decorator.args

def Agree (first second : List Decorator) : Prop :=
  ∀ wanted ∈ knownWords, argsOf? first wanted = argsOf? second wanted

def qualified (namespaces : String) (decorator : Decorator) : Decorator :=
  ⟨namespaces ++ "." ++ decorator.name, decorator.args⟩

theorem last_part_after_dot (front back : List Char) :
    ((front ++ '.' :: back).splitOn '.').getLast (List.splitOn_ne_nil '.' _) =
      (back.splitOn '.').getLast (List.splitOn_ne_nil '.' _) := by
  simp only [List.splitOn_append_cons_self]
  exact List.getLast_append_right (List.splitOn_ne_nil '.' back)

theorem last_part_dotless (chars : List Char) (dotless : '.' ∉ chars) :
    (chars.splitOn '.').getLast (List.splitOn_ne_nil '.' _) = chars := by
  simp only [List.splitOn_eq_singleton dotless, List.getLast_singleton]

theorem word_qualified (namespaces : String) (decorator : Decorator) :
    (decorator.qualified namespaces).word = decorator.word := by
  have chars : (decorator.qualified namespaces).name.toList =
      namespaces.toList ++ '.' :: decorator.name.toList := by
    simp [qualified]
  unfold word
  simp only [chars, last_part_after_dot]

theorem last_segment_after_dot (front back : List Char) (dotless : '.' ∉ back) :
    lastSegment? (front ++ '.' :: back) = some back := by
  have kept : ∀ c ∈ back.reverse, (c != '.') = true := by
    intro c member
    rw [List.mem_reverse] at member
    have other : c ≠ '.' := fun same => dotless (same ▸ member)
    simpa using other
  rw [lastSegment?, if_pos (by simp), List.reverse_append, List.reverse_cons, List.append_assoc,
    List.takeWhile_append_of_pos kept]
  simp

theorem dotless_or_split (chars : List Char) :
    '.' ∉ chars ∨ ∃ front back, chars = front ++ '.' :: back ∧ '.' ∉ back := by
  by_cases dotted : '.' ∈ chars
  · obtain ⟨back, front, split, dotless⟩ := List.eq_append_cons_of_mem (List.mem_reverse.mpr dotted)
    refine Or.inr ⟨front.reverse, back.reverse, ?_, by simpa using dotless⟩
    simpa using congrArg List.reverse split
  · exact Or.inl dotted

theorem word_of_dotless (decorator : Decorator) (dotless : '.' ∉ decorator.name.toList) :
    decorator.word = decorator.name := by
  rw [word, last_part_dotless _ dotless, String.ofList_toList]

theorem word_after_dot (decorator : Decorator) (front back : List Char)
    (split : decorator.name.toList = front ++ '.' :: back) (dotless : '.' ∉ back) :
    decorator.word = String.ofList back := by
  unfold word
  simp only [split, last_part_after_dot, last_part_dotless back dotless]

-- A name without dots is a word of its own; any other name has a last dot, and is no word itself.
theorem is_named_eq_word (decorator : Decorator) (wanted : String) (dotless : '.' ∉ wanted.toList) :
    decorator.isNamed wanted = (decorator.word == wanted) := by
  rcases dotless_or_split decorator.name.toList with plain | ⟨front, back, split, backDotless⟩
  · rw [isNamed, lastSegment?, if_neg plain, word_of_dotless decorator plain]
    simp
  · have other : decorator.name ≠ wanted := by
      intro same
      rw [← same, split] at dotless
      simp at dotless
    have last : back = wanted.toList ↔ String.ofList back = wanted := by
      rw [← String.toList_inj, String.toList_ofList]
    rw [isNamed, split, last_segment_after_dot front back backDotless,
      word_after_dot decorator front back split backDotless, beq_false_of_ne other, Bool.false_or,
      Bool.eq_iff_iff, beq_iff_eq, beq_iff_eq, Option.some.injEq, last]

theorem known_words_dotless (wanted : String) (known : wanted ∈ knownWords) : '.' ∉ wanted.toList := by
  revert wanted
  decide

theorem find_eq_by_word (decorators : List Decorator) (wanted : String) (known : wanted ∈ knownWords) :
    find? decorators wanted = decorators.find? fun decorator => decorator.word == wanted := by
  have named := fun decorator => is_named_eq_word decorator wanted (known_words_dotless wanted known)
  simp only [find?, named]

theorem first_arg_agree (first second : List Decorator) (agree : Agree first second) (wanted : String)
    (known : wanted ∈ knownWords) : firstArg? first wanted = firstArg? second wanted := by
  have args : ∀ decorators, firstArg? decorators wanted = (argsOf? decorators wanted).bind List.head? := by
    intro decorators
    rw [firstArg?, find_eq_by_word decorators wanted known, argsOf?, Option.bind_map]
    rfl
  rw [args, args, agree wanted known]

theorem has_agree (first second : List Decorator) (agree : Agree first second) (wanted : String)
    (known : wanted ∈ knownWords) : has first wanted = has second wanted := by
  have present : ∀ decorators, has decorators wanted = (argsOf? decorators wanted).isSome := by
    intro decorators
    rw [has, ← List.isSome_find?, argsOf?, Option.isSome_map, ← find_eq_by_word decorators wanted known]
    rfl
  rw [present, present, agree wanted known]

theorem agree_of_alike (first second : List Decorator)
    (alike : List.Forall₂ (fun a b => a.word = b.word ∧ a.args = b.args) first second) :
    Agree first second := by
  intro wanted _
  induction alike with
  | nil => rfl
  | @cons a b _ _ same _ ih =>
      unfold argsOf? at ih ⊢
      rw [List.find?_cons, List.find?_cons, same.1]
      cases b.word == wanted with
      | true => exact congrArg some same.2
      | false => exact ih

theorem agree_of_known (first second : List Decorator)
    (same : first.filter (fun decorator => decorator.word ∈ knownWords) =
      second.filter fun decorator => decorator.word ∈ knownWords) : Agree first second := by
  intro wanted known
  have among : ∀ decorators : List Decorator, argsOf? decorators wanted =
      argsOf? (decorators.filter fun decorator => decorator.word ∈ knownWords) wanted := by
    intro decorators
    unfold argsOf?
    rw [List.find?_filter]
    congr 2
    funext decorator
    by_cases named : decorator.word = wanted
    · simp [named, known]
    · simp [named]
  rw [among first, among second, same]

theorem agree_of_reordered (first second : List Decorator) (reordered : first.Perm second)
    (distinct : (first.map word).Nodup) : Agree first second := by
  intro wanted _
  unfold argsOf?
  rw [find_reordered word first second distinct reordered]

end Decorator

theorem of_type_agree (name : String) (type : DataType) (first second : List Decorator)
    (agree : Decorator.Agree first second) :
    PropertyEntry.ofType name type first = PropertyEntry.ofType name type second := by
  have arg := Decorator.first_arg_agree first second agree
  have described : Decorator.description? first = Decorator.description? second := by
    rw [Decorator.description?, arg "description" (by decide), arg "metadata" (by decide)]
    rfl
  have secured : Decorator.isSecure first = Decorator.isSecure second :=
    Decorator.has_agree first second agree "secure" (by decide)
  have limited : ∀ limits : Limits, limits.decorate first = limits.decorate second := by
    intro limits
    cases limits with
    | none => rfl
    | length bounds =>
        simp only [Limits.decorate, Decorator.int?, arg "minLength" (by decide), arg "maxLength" (by decide)]
    | value bounds =>
        simp only [Limits.decorate, Decorator.int?, arg "minValue" (by decide), arg "maxValue" (by decide)]
  simp only [PropertyEntry.ofType, PropertyEntry.ofSurvey, described, secured, limited]

theorem first_of_each_word_counts (name : String) (type : DataType) (first second : List Decorator) :
    let alike := PropertyEntry.ofType name type first = PropertyEntry.ofType name type second
    (Decorator.Agree first second → alike) ∧
    (List.Forall₂ (fun plain other => ∃ namespaces, other = plain.qualified namespaces) first second →
      alike) ∧
    -- Decorators with other words are put in or taken out anywhere.
    (first.filter (fun decorator => decorator.word ∈ Decorator.knownWords) =
      second.filter (fun decorator => decorator.word ∈ Decorator.knownWords) → alike) ∧
    (first.Perm second → (first.map Decorator.word).Nodup → alike) := by
  have agreed := of_type_agree name type first second
  refine ⟨agreed, ?_, ?_, ?_⟩
  · intro qualified
    refine agreed (Decorator.agree_of_alike first second (qualified.imp ?_))
    intro plain other related
    obtain ⟨namespaces, rfl⟩ := related
    exact ⟨(Decorator.word_qualified namespaces plain).symm, rfl⟩
  · intro same
    exact agreed (Decorator.agree_of_known first second same)
  · intro reordered distinct
    exact agreed (Decorator.agree_of_reordered first second reordered distinct)

theorem bound_read_under_namespaces :
    let bound := Decorator.ofInt "minLength" 5
    let text := Decorator.describe "Name"
    let read := fun decorators => PropertyEntry.ofType "id" .string decorators
    read [bound, .ofInt "minLength" 7] = read [bound, .ofInt "sys.minLength" 9] ∧
      read [bound, text] = read [bound.qualified "sys.core", text.qualified "sys"] ∧
      read [bound, text] = read [⟨"sys.export", []⟩, bound, ⟨"description.note", []⟩, text] ∧
      read [bound, text] = read [text, bound] := by
  have words : (Decorator.ofInt "minLength" 5).word = "minLength" ∧
      (Decorator.describe "Name").word = "description" ∧
      (⟨"sys.export", []⟩ : Decorator).word = "export" ∧
      (⟨"description.note", []⟩ : Decorator).word = "note" := by decide
  obtain ⟨bound, text, exported, note⟩ := words
  have counts := first_of_each_word_counts "id" .string
  refine ⟨(counts _ _).1 ?_, (counts _ _).2.1 ?_, (counts _ _).2.2.1 ?_, (counts _ _).2.2.2 ?_ ?_⟩
  · intro wanted _
    have later : (Decorator.ofInt "minLength" 7).word = "minLength" ∧
      (Decorator.ofInt "sys.minLength" 9).word = "minLength" := by decide
    simp only [Decorator.argsOf?, List.find?_cons, bound, later]
    cases "minLength" == wanted <;> rfl
  · exact .cons ⟨"sys.core", rfl⟩ (.cons ⟨"sys", rfl⟩ .nil)
  · simp [bound, text, exported, note, Decorator.knownWords]
  · exact List.Perm.swap _ _ _
  · decide

end TemplateManual
