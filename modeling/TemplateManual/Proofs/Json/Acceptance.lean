import Mathlib.Data.List.Forall2
import TemplateManual.Proofs.Json.Record
import TemplateManual.Proofs.Json.Tagged

set_option autoImplicit false

namespace TemplateManual.Json

-- What is found on one side is found on the other; of faults nothing is said.
def Leads {α : Type} (found other : Except Fault α) : Prop := ∀ result, found = .ok result → other = .ok result

theorem leads_map {α β : Type} (f : α → β) (found other : Except Fault α) (leads : Leads found other) :
    Leads (found.map f) (other.map f) := by
  intro result accepted
  obtain ⟨part, read, rfl⟩ := map_ok f found result accepted
  rw [leads part read]
  rfl

theorem leads_optional {α : Type} (decoder reader : Decoder α) (room space : Nat) (value other : Json)
    (absent : value = .null ↔ other = .null) (leads : Leads (decoder room value) (reader space other)) :
    Leads (decoder.optional room value) (reader.optional space other) := by
  by_cases null : value = .null
  · rw [null, absent.mp null]
    exact fun _ accepted => accepted
  · rw [optional_present room decoder value null, optional_present space reader other (null ∘ absent.mpr)]
    exact leads_map some _ _ leads

theorem leads_all {α : Type} (decoder reader : Decoder α) (room space : Nat) (items others : List Json)
    (each : List.Forall₂ (fun item other => Leads (decoder room item) (reader space other)) items others) :
    Leads (Decoder.all decoder room items) (Decoder.all reader space others) := by
  induction each with
  | nil => exact fun _ accepted => accepted
  | cons leads _ ih =>
      intro results accepted
      simp only [Decoder.all] at accepted ⊢
      split at accepted
      · cases accepted
      · rename_i first found
        rw [leads first found]
        exact leads_map _ _ _ ih results accepted

theorem leads_entries {α : Type} (decoder reader : Decoder α) (room space : Nat)
    (members others : List (Option String × Json)) (done : KeyedList α)
    (each : List.Forall₂ (fun member other => member.1 = other.1 ∧
      Leads (decoder room member.2) (reader space other.2)) members others) :
    Leads (Decoder.entries decoder room done members) (Decoder.entries reader space done others) := by
  induction each generalizing done with
  | nil => exact fun _ accepted => accepted
  | @cons member other _ _ leads _ ih =>
      obtain ⟨key, value⟩ := member
      obtain ⟨name, changed⟩ := other
      obtain ⟨rfl, leads⟩ := leads
      intro results accepted
      cases key with
      | none => cases accepted
      | some key =>
          simp only [Decoder.entries] at accepted ⊢
          split at accepted
          · cases accepted
          · rename_i first found
            rw [leads first found]
            exact ih _ results accepted

inductive ContentLeads {α : Type} (leads : Decoder α → Decoder α → Prop) : Content α → Content α → Prop where
  | bare (result : α) : ContentLeads leads (.bare result) (.bare result)
  | value (decoder reader : Decoder α) (inside : leads decoder reader) :
      ContentLeads leads (.value decoder) (.value reader)
  | record (decoder reader : Decoder α) (inside : leads decoder reader) :
      ContentLeads leads (.record decoder) (.record reader)

def CaseLeads {α : Type} (leads : Decoder α → Decoder α → Prop) (candidate other : Case α) : Prop :=
  candidate.tag = other.tag ∧ ContentLeads leads candidate.content other.content

theorem find_case_iff {α : Type} (cases : List (Case α)) (tag : String) (content : Content α) :
    Decoder.findCase cases tag = .ok content ↔
      (cases.find? fun candidate => candidate.tag = tag).map Case.content = some content := by
  unfold Decoder.findCase
  cases cases.find? (fun candidate => candidate.tag = tag) <;> simp

theorem find_case_leads {α : Type} (leads : Decoder α → Decoder α → Prop) (cases others : List (Case α))
    (each : List.Forall₂ (CaseLeads leads) cases others) (tag : String) (content : Content α)
    (found : Decoder.findCase cases tag = .ok content) :
    ∃ other, Decoder.findCase others tag = .ok other ∧ ContentLeads leads content other := by
  simp only [find_case_iff] at found ⊢
  induction each with
  | nil => cases found
  | @cons candidate other _ _ alike _ ih =>
      by_cases same : candidate.tag = tag
      · simp only [List.find?_cons, same, decide_true, Option.map_some, Option.some.injEq] at found
        refine ⟨other.content, ?_, found ▸ alike.2⟩
        simp [← alike.1, same]
      · simp only [List.find?_cons, same, decide_false] at found
        simpa only [List.find?_cons, ← alike.1, same, decide_false] using ih found

theorem leads_with_content {α : Type} (leads : Decoder α → Decoder α → Prop) (room space : Nat) (value : Json)
    (content other : Content α) (alike : ContentLeads leads content other)
    (inside : ∀ decoder reader, leads decoder reader → Leads (decoder room value) (reader space value)) :
    Leads (Decoder.withContent room value content) (Decoder.withContent space value other) := by
  cases alike with
  | bare result =>
      intro found accepted
      cases value <;> exact accepted
  | value decoder reader carried => exact inside decoder reader carried
  | record decoder reader carried => exact inside decoder reader carried

end TemplateManual.Json
