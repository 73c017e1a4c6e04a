import TemplateManual.Json.Tagged
import TemplateManual.Proofs.Json.Faithful

set_option autoImplicit false

namespace TemplateManual.Json

-- A case without content is written as its bare name, any other as an object with its name over
-- something that the case reads again.
def Case.Kept {α : Type} (room : Nat) (write : α → Json) (candidate : Case α) : Prop :=
  match candidate.content with
  | .bare result => write result = .string candidate.tag
  | content => ∀ value result, Decoder.withContent room value content = .ok result →
    ∃ inner, write result = .object [(some candidate.tag, inner)] ∧
      Decoder.withContent room inner content = .ok result ∧ Writable inner

theorem value_kept {α β : Type} (room : Nat) (write : β → Json) (tag : String) (f : α → β)
    (decoder : Decoder α) (inner : α → Json) (faithful : Faithful decoder inner)
    (written : ∀ part, write (f part) = .object [(some tag, inner part)]) :
    (Case.mk tag (.value (decoder.map f))).Kept room write := by
  intro value result accepted
  obtain ⟨part, found, rfl⟩ := map_ok f _ result accepted
  obtain ⟨again, writable⟩ := faithful room value part found
  refine ⟨inner part, written part, ?_, writable⟩
  rw [Decoder.withContent, Decoder.map, again]
  rfl

theorem record_kept {α : Type} (room : Nat) (write : α → Json) (tag : String) (decoder : Decoder α)
    (kept : (Case.mk tag (.value decoder)).Kept room write) :
    (Case.mk tag (.record decoder)).Kept room write := kept

theorem find_case_member {α : Type} (cases : List (Case α)) (tag : String) (content : Content α)
    (found : Decoder.findCase cases tag = .ok content) :
    ∃ candidate ∈ cases, candidate.tag = tag ∧ candidate.content = content := by
  unfold Decoder.findCase at found
  split at found
  · rename_i candidate first
    cases found
    have tagged := List.find?_some first
    exact ⟨candidate, List.mem_of_find?_eq_some first, of_decide_eq_true tagged, rfl⟩
  · cases found

theorem without_content_bare {α : Type} (content : Content α) (result : α)
    (accepted : Decoder.withoutContent content = .ok result) : content = .bare result := by
  cases content with
  | bare value =>
      cases accepted
      rfl
  | value decoder => cases accepted
  | record decoder => cases accepted

theorem tagged_bare {α : Type} (cases : List (Case α)) (room : Nat) (tag : String) (result : α)
    (found : Decoder.findCase cases tag = .ok (.bare result)) :
    Decoder.tagged cases room (.string tag) = .ok result := by
  simp only [Decoder.tagged, found, Decoder.withoutContent]

theorem tagged_content {α : Type} (cases : List (Case α)) (room : Nat) (tag : String) (value : Json)
    (content : Content α) (result : α) (found : Decoder.findCase cases tag = .ok content)
    (read : Decoder.withContent room value content = .ok result) :
    Decoder.tagged cases (room + 1) (.object [(some tag, value)]) = .ok result := by
  simp only [Decoder.tagged, found, read, List.isEmpty_nil, if_true]

theorem tagged_iff {α : Type} (cases : List (Case α)) (room : Nat) (value : Json) (result : α) :
    Decoder.tagged cases room value = .ok result ↔
      (∃ tag, value = .string tag ∧ Decoder.findCase cases tag = .ok (.bare result)) ∨
      ∃ inner tag inside content, room = inner + 1 ∧ value = .object [(some tag, inside)] ∧
        Decoder.findCase cases tag = .ok content ∧ Decoder.withContent inner inside content = .ok result := by
  constructor
  · intro accepted
    unfold Decoder.tagged at accepted
    split at accepted
    · rename_i tag
      split at accepted
      · cases accepted
      · rename_i content found
        exact Or.inl ⟨tag, rfl, without_content_bare content result accepted ▸ found⟩
    · rename_i inner tag inside rest
      split at accepted
      · cases accepted
      · rename_i content found
        split at accepted
        · cases accepted
        · rename_i made read
          split at accepted
          · rename_i alone
            cases accepted
            exact Or.inr ⟨inner, tag, inside, content, rfl, by rw [List.isEmpty_iff.mp alone], found, read⟩
          · cases accepted
    · exact absurd accepted (reject_ne_ok _ _ _)
    · cases accepted
  · rintro (⟨tag, rfl, found⟩ | ⟨inner, tag, inside, content, rfl, rfl, found, read⟩)
    · exact tagged_bare cases room tag result found
    · exact tagged_content cases inner tag inside content result found read

theorem tagged_found {α : Type} (cases : List (Case α)) (room : Nat) (value : Json) (result : α)
    (accepted : Decoder.tagged cases room value = .ok result) :
    ∃ candidate ∈ cases, Decoder.findCase cases candidate.tag = .ok candidate.content ∧
      (candidate.content = .bare result ∨ ∃ inner content, room = inner + 1 ∧
        Decoder.withContent inner content candidate.content = .ok result) := by
  rcases (tagged_iff cases room value result).mp accepted with
    ⟨tag, rfl, found⟩ | ⟨inner, tag, inside, content, rfl, rfl, found, read⟩
  · obtain ⟨candidate, member, rfl, bare⟩ := find_case_member cases tag _ found
    exact ⟨candidate, member, bare ▸ found, Or.inl bare⟩
  · obtain ⟨candidate, member, rfl, rfl⟩ := find_case_member cases tag content found
    exact ⟨candidate, member, found, Or.inr ⟨inner, inside, rfl, read⟩⟩

theorem content_read_again {α : Type} (cases : List (Case α)) (room : Nat) (tag : String)
    (content : Content α) (write : α → Json) (result : α)
    (found : Decoder.findCase cases tag = .ok content)
    (kept : ∃ inner, write result = .object [(some tag, inner)] ∧
      Decoder.withContent room inner content = .ok result ∧ Writable inner) :
    Decoder.tagged cases (room + 1) (write result) = .ok result ∧ Writable (write result) := by
  obtain ⟨inner, written, again, writable⟩ := kept
  rw [written]
  refine ⟨tagged_content cases room tag inner content result found again, .object _ ?_ ?_⟩
  · simp
  · simpa using writable

theorem faithful_tagged {α : Type} (cases : List (Case α)) (write : α → Json)
    (kept : ∀ room, ∀ candidate ∈ cases, candidate.Kept room write) :
    Faithful (Decoder.tagged cases) write := by
  intro room value result accepted
  obtain ⟨⟨tag, content⟩, member, found, origin⟩ := tagged_found cases room value result accepted
  cases content with
  | bare stored =>
      have same : stored = result := by
        rcases origin with bare | ⟨inner, content, _, read⟩
        · exact Content.bare.inj bare
        · exact (map_ok _ _ _ read).choose_spec.2
      subst same
      have written : write stored = .string tag := kept room _ member
      rw [written]
      exact ⟨tagged_bare cases room tag stored found, .string tag⟩
  | value decoder =>
      rcases origin with bare | ⟨inner, content, rfl, read⟩
      · cases bare
      · exact content_read_again cases inner tag _ write result found (kept inner _ member content result read)
  | record decoder =>
      rcases origin with bare | ⟨inner, content, rfl, read⟩
      · cases bare
      · exact content_read_again cases inner tag _ write result found (kept inner _ member content result read)

end TemplateManual.Json
