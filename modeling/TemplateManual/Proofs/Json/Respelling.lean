import Mathlib.Logic.Relation
import TemplateManual.Proofs.Json.Room

set_option autoImplicit false

namespace TemplateManual.Json

def Reads {α : Type} (decoder : Decoder α) (value : Json) (result : α) : Prop :=
  ∃ least, ∀ room, least ≤ room → decoder room value = .ok result

inductive Declares : {types : List Type} → Fields types → Nat → {α : Type} → Field α → Prop where
  | first {α : Type} {rest : List Type} (field : Field α) (fields : Fields rest) :
      Declares (.cons field fields) 0 field
  | later {α β : Type} {rest : List Type} {other : Field β} {fields : Fields rest} {index : Nat}
      {field : Field α} (different : field.name ≠ other.name) (declared : Declares fields index field) :
      Declares (.cons other fields) (index + 1) field

inductive Adds : {α : Type} → Decoder α → Json → Json → Prop where
  | member (title : String) {types : List Type} (fields : Fields types)
      (before after : List (Option String × Json)) (key : String) (value : Json)
      (undeclared : key ∉ fields.names) (formed : value.wellFormed = true) :
      Adds (Decoder.record title fields) (.object (before ++ after))
        (.object (before ++ (some key, value) :: after))

inductive Respells : {α : Type} → Decoder α → Json → Json → Prop where
  | added {α : Type} {decoder : Decoder α} {value other : Json} (adds : Adds decoder value other) :
      Respells decoder value other
  | reordered (title : String) {types : List Type} (fields : Fields types)
      {members others : List (Option String × Json)} (perm : members.Perm others) :
      Respells (Decoder.record title fields) (.object members) (.object others)
  | byPlace (title : String) {types : List Type} (fields : Fields types) (distinct : fields.names.Nodup)
      (items : List Json) (all : items.length = fields.names.length) :
      Respells (Decoder.record title fields) (.object ((fields.names.map some).zip items)) (.array items)
  | omitted (title : String) {types : List Type} {fields : Fields types} {index : Nat} {α : Type}
      {field : Field α} (declared : Declares fields index field)
      (before after : List (Option String × Json)) (value : Json) (result : α)
      (once : ∀ member ∈ before ++ after, member.1 ≠ some field.name)
      (unsaid : field.absent = some result) (read : Reads field.decoder value result) :
      Respells (Decoder.record title fields) (.object (before ++ (some field.name, value) :: after))
        (.object (before ++ after))
  | bare {α : Type} (cases : List (Case α)) (tag : String) (result : α)
      (found : Decoder.findCase cases tag = .ok (.bare result)) :
      Respells (Decoder.tagged cases) (.string tag) (.object [(some tag, .null)])

inductive Encloses : {α β : Type} → Decoder β → Decoder α → (Json → Json) → Prop where
  | item {α : Type} (decoder : Decoder α) (before after : List Json) :
      Encloses decoder.list decoder fun value => .array (before ++ value :: after)
  | entry {α : Type} (decoder : Decoder α) (key : String) (before after : List (Option String × Json)) :
      Encloses decoder.table decoder fun value => .object (before ++ (some key, value) :: after)
  | named (title : String) {types : List Type} {fields : Fields types} {index : Nat} {α : Type}
      {field : Field α} (declared : Declares fields index field)
      (before after : List (Option String × Json)) :
      Encloses (Decoder.record title fields) field.decoder
        fun value => .object (before ++ (some field.name, value) :: after)
  | placed (title : String) {types : List Type} {fields : Fields types} {index : Nat} {α : Type}
      {field : Field α} (declared : Declares fields index field) (before after : List Json)
      (place : before.length = index) :
      Encloses (Decoder.record title fields) field.decoder fun value => .array (before ++ value :: after)
  | content {α : Type} (cases : List (Case α)) (tag : String) (decoder : Decoder α)
      (found : Decoder.findCase cases tag = .ok (.value decoder) ∨
        Decoder.findCase cases tag = .ok (.record decoder)) :
      Encloses (Decoder.tagged cases) decoder fun value => .object [(some tag, value)]

inductive Somewhere (change : (α : Type) → Decoder α → Json → Json → Prop) :
    {α : Type} → Decoder α → Json → Json → Prop where
  | here {α : Type} {decoder : Decoder α} {value other : Json} (changed : change α decoder value other) :
      Somewhere change decoder value other
  | mapped {α β : Type} (f : α → β) {decoder : Decoder α} {value other : Json}
      (changed : Somewhere change decoder value other) : Somewhere change (decoder.map f) value other
  | present {α : Type} {decoder : Decoder α} {value other : Json}
      (changed : Somewhere change decoder value other) : Somewhere change decoder.optional value other
  | inside {α β : Type} {outer : Decoder β} {inner : Decoder α} {around : Json → Json} {value other : Json}
      (encloses : Encloses outer inner around) (changed : Somewhere change inner value other) :
      Somewhere change outer (around value) (around other)
  | layered {α : Type} {layer : Decoder α → Decoder α} {value other : Json} (guarded : Guarded layer)
      (changed : Somewhere change (layer (.nested layer)) value other) :
      Somewhere change (.nested layer) value other

namespace Fields

theorem filled_perm (room : Nat) {types : List Type} (fields : Fields types)
    (members others : List (Option String × Json)) (perm : members.Perm others) (row : Row types)
    (filled : fields.Filled room members row) : fields.Filled room others row := by
  induction fields generalizing members others with
  | nil => exact fun member listed => filled member (perm.mem_iff.mpr listed)
  | cons field fields ih =>
      obtain ⟨result, row⟩ := row
      have values : (valuesOf field.name members).Perm (valuesOf field.name others) := perm.filterMap _
      refine ⟨?_, ih _ _ (perm.filter _) row filled.2⟩
      rcases filled.1 with ⟨missing, unsaid⟩ | ⟨value, alone, read⟩
      · rw [missing] at values
        exact Or.inl ⟨List.nil_perm.mp values, unsaid⟩
      · rw [alone] at values
        exact Or.inr ⟨value, (List.singleton_perm.mp values).symm, read⟩

-- Since the order does not matter, a member may be taken to stand first.
theorem filled_middle (room : Nat) {types : List Type} (fields : Fields types)
    (before after : List (Option String × Json)) (member : Option String × Json) (row : Row types) :
    fields.Filled room (before ++ member :: after) row ↔ fields.Filled room (member :: (before ++ after)) row :=
  ⟨fields.filled_perm room _ _ List.perm_middle row, fields.filled_perm room _ _ List.perm_middle.symm row⟩

theorem filled_added (room : Nat) {types : List Type} (fields : Fields types) (key : String) (value : Json)
    (undeclared : key ∉ fields.names) (formed : value.wellFormed = true)
    (members : List (Option String × Json)) (row : Row types) :
    fields.Filled room ((some key, value) :: members) row ↔ fields.Filled room members row := by
  induction fields generalizing members with
  | nil => simp [Filled, formed]
  | cons field fields ih =>
      obtain ⟨result, row⟩ := row
      have other : some key ≠ some field.name := fun same =>
        undeclared (List.mem_cons.mpr (Or.inl (Option.some.inj same)))
      have later : key ∉ fields.names := fun listed => undeclared (List.mem_cons_of_mem _ listed)
      simp only [Filled, values_of_cons, without_cons, if_neg other, ih later]

theorem filled_omitted (room : Nat) {types : List Type} {fields : Fields types} {index : Nat} {α : Type}
    {field : Field α} (declared : Declares fields index field) (value : Json) (result : α)
    (unsaid : field.absent = some result) (read : field.decoder room value = .ok result)
    (members : List (Option String × Json)) (once : ∀ member ∈ members, member.1 ≠ some field.name)
    (row : Row types) :
    fields.Filled room ((some field.name, value) :: members) row ↔ fields.Filled room members row := by
  induction declared generalizing members with
  | first field fields =>
      obtain ⟨held, row⟩ := row
      simp [Filled, Field.Takes, values_of_cons, without_cons, values_of_none _ _ once, unsaid, read]
  | @later _ _ _ other _ _ field different _ ih =>
      obtain ⟨held, row⟩ := row
      have apart : some field.name ≠ some other.name := fun same => different (Option.some.inj same)
      have rest := ih result unsaid read (without other.name members)
        (fun member listed => once member (List.mem_of_mem_filter listed)) row
      simp only [Filled, values_of_cons, without_cons, if_neg apart, rest]

theorem filled_changed (room : Nat) {types : List Type} {fields : Fields types} {index : Nat} {α : Type}
    {field : Field α} (declared : Declares fields index field) (value other : Json)
    (leads : Leads (field.decoder room value) (field.decoder room other))
    (members : List (Option String × Json)) (row : Row types)
    (filled : fields.Filled room ((some field.name, value) :: members) row) :
    fields.Filled room ((some field.name, other) :: members) row := by
  induction declared generalizing members with
  | first field fields =>
      obtain ⟨held, row⟩ := row
      simp only [Filled, values_of_cons, without_cons, if_true] at filled ⊢
      refine ⟨?_, filled.2⟩
      rcases filled.1 with ⟨missing, _⟩ | ⟨found, alone, read⟩
      · cases missing
      · obtain ⟨rfl, rest⟩ := List.cons.inj alone
        exact Or.inr ⟨other, by rw [rest], leads held read⟩
  | @later _ _ _ earlier _ _ field different _ ih =>
      obtain ⟨held, row⟩ := row
      have apart : some field.name ≠ some earlier.name := fun same => different (Option.some.inj same)
      simp only [Filled, values_of_cons, without_cons, if_neg apart] at filled ⊢
      exact ⟨filled.1, ih leads _ row filled.2⟩

theorem placed_changed (room : Nat) {types : List Type} {fields : Fields types} {index : Nat} {α : Type}
    {field : Field α} (declared : Declares fields index field) (value other : Json)
    (leads : Leads (field.decoder room value) (field.decoder room other)) (before after : List Json)
    (place : before.length = index) (row : Row types)
    (placed : fields.Placed room (before ++ value :: after) row) :
    fields.Placed room (before ++ other :: after) row := by
  induction declared generalizing before with
  | first field fields =>
      obtain ⟨held, row⟩ := row
      obtain rfl := List.length_eq_zero_iff.mp place
      exact ⟨leads held placed.1, placed.2⟩
  | later _ _ ih =>
      obtain ⟨held, row⟩ := row
      cases before with
      | nil => cases place
      | cons item before => exact ⟨placed.1, ih leads before (Nat.succ.inj place) row placed.2⟩

theorem filled_by_place (room : Nat) {types : List Type} (fields : Fields types) (distinct : fields.names.Nodup)
    (items : List Json) (all : items.length = fields.names.length) (row : Row types) :
    fields.Filled room ((fields.names.map some).zip items) row ↔ fields.Placed room items row := by
  induction fields generalizing items with
  | nil =>
      obtain rfl := List.length_eq_zero_iff.mp all
      simp [Filled, Placed, names]
  | cons field fields ih =>
      obtain ⟨held, row⟩ := row
      cases items with
      | nil => cases all
      | cons item rest =>
          obtain ⟨fresh, distinct⟩ := List.nodup_cons.mp distinct
          have others : ∀ member ∈ (fields.names.map some).zip rest, member.1 ≠ some field.name := by
            intro member listed same
            have named := (List.of_mem_zip listed).1
            rw [same] at named
            exact fresh (by simpa using named)
          simp only [names, List.map_cons, List.zip_cons_cons, Filled, Placed, values_of_cons, without_cons, if_true,
            values_of_none _ _ others, without_none _ _ others, takes_single,
            ih distinct rest (Nat.succ.inj all)]

end Fields

structure AlikeFrom {α : Type} (least : Nat) (decoder : Decoder α) (value other : Json) : Prop where
  present : value ≠ .null
  alsoPresent : other ≠ .null
  same : ∀ room, least ≤ room → ∀ result, decoder room value = .ok result ↔ decoder room other = .ok result

theorem adds_alike {α : Type} {decoder : Decoder α} {value other : Json} (adds : Adds decoder value other) :
    AlikeFrom 0 decoder value other := by
  cases adds with
  | member title fields before after key value undeclared formed =>
      refine ⟨Json.noConfusion, Json.noConfusion, fun room _ row => ?_⟩
      simp [record_iff, fields.filled_middle, fields.filled_added _ key value undeclared formed]

theorem respells_alike {α : Type} {decoder : Decoder α} {value other : Json} (respells : Respells decoder value other) :
    ∃ least, AlikeFrom least decoder value other := by
  cases respells with
  | added adds => exact ⟨0, adds_alike adds⟩
  | reordered title fields perm =>
      refine ⟨0, Json.noConfusion, Json.noConfusion, fun room _ row => ?_⟩
      have same := fun inner => Iff.intro (fields.filled_perm inner _ _ perm row)
        (fields.filled_perm inner _ _ perm.symm row)
      simp [record_iff, same]
  | byPlace title fields distinct items all =>
      refine ⟨0, Json.noConfusion, Json.noConfusion, fun room _ row => ?_⟩
      simp [record_iff, fields.filled_by_place _ distinct items all]
  | omitted title declared before after value result once unsaid read =>
      obtain ⟨least, read⟩ := read
      refine ⟨least + 1, Json.noConfusion, Json.noConfusion, fun room enough row => ?_⟩
      cases room with
      | zero => omega
      | succ inner =>
          have same := Fields.filled_omitted inner declared value result unsaid (read inner (by omega)) _ once row
          simp [record_iff, Fields.filled_middle, same]
  | bare cases tag result found =>
      refine ⟨1, Json.noConfusion, Json.noConfusion, fun room enough row => ?_⟩
      cases room with
      | zero => omega
      | succ inner => simp [tagged_iff, found, Decoder.withContent, Decoder.unit, Except.map]

-- A container takes room of its own, and without room neither value is found in it.
def outward : Nat → Nat
  | 0 => 0
  | least + 1 => least + 2

structure Opens {α β : Type} (outer : Decoder β) (inner : Decoder α) (around : Json → Json) : Prop where
  present : ∀ value, around value ≠ .null
  closed : ∀ value result, outer 0 (around value) ≠ .ok result
  leads : ∀ room value other, Leads (inner room value) (inner room other) →
    Leads (outer (room + 1) (around value)) (outer (room + 1) (around other))

theorem opens_alike {α β : Type} {outer : Decoder β} {inner : Decoder α} {around : Json → Json}
    (opens : Opens outer inner around) {least : Nat} {value other : Json}
    (alike : AlikeFrom least inner value other) :
    AlikeFrom (outward least) outer (around value) (around other) := by
  refine ⟨opens.present value, opens.present other, fun room enough result => ?_⟩
  cases room with
  | zero => exact ⟨fun found => absurd found (opens.closed _ _), fun found => absurd found (opens.closed _ _)⟩
  | succ room =>
      have within : least ≤ room := by
        cases least with
        | zero => omega
        | succ least => exact Nat.le_of_succ_le_succ enough
      exact ⟨opens.leads room value other (fun part => (alike.same room within part).mp) result,
        opens.leads room other value (fun part => (alike.same room within part).mpr) result⟩

theorem forall_around {α : Type} {relation : α → α → Prop} (refl : ∀ item, relation item item)
    (before after : List α) (item other : α) (changed : relation item other) :
    List.Forall₂ relation (before ++ item :: after) (before ++ other :: after) :=
  List.rel_append (List.forall₂_same.mpr fun item _ => refl item)
    (.cons changed (List.forall₂_same.mpr fun item _ => refl item))

theorem record_named_opens (title : String) {types : List Type} {fields : Fields types} {index : Nat} {α : Type}
    {field : Field α} (declared : Declares fields index field) (before after : List (Option String × Json)) :
    Opens (Decoder.record title fields) field.decoder
      fun value => .object (before ++ (some field.name, value) :: after) := by
  refine ⟨fun _ => Json.noConfusion, fun _ _ found => (by cases found), fun room value other leads row found => ?_⟩
  refine (fields.of_members_iff room _ row).mpr ?_
  rw [Fields.filled_middle]
  refine Fields.filled_changed room declared value other leads (before ++ after) row ?_
  exact (fields.filled_middle room before after _ row).mp ((fields.of_members_iff room _ row).mp found)

theorem record_placed_opens (title : String) {types : List Type} {fields : Fields types} {index : Nat} {α : Type}
    {field : Field α} (declared : Declares fields index field) (before after : List Json)
    (place : before.length = index) :
    Opens (Decoder.record title fields) field.decoder fun value => .array (before ++ value :: after) := by
  refine ⟨fun _ => Json.noConfusion, fun _ _ found => (by cases found), fun room value other leads row found => ?_⟩
  refine (Fields.of_items_iff room title fields.count 0 fields _ row).mpr ?_
  refine Fields.placed_changed room declared value other leads before after place row ?_
  exact (Fields.of_items_iff room title fields.count 0 fields _ row).mp found

theorem tagged_opens {α : Type} (cases : List (Case α)) (tag : String) (decoder : Decoder α)
    (found : Decoder.findCase cases tag = .ok (.value decoder) ∨
      Decoder.findCase cases tag = .ok (.record decoder)) :
    Opens (Decoder.tagged cases) decoder fun value => .object [(some tag, value)] := by
  have content : ∀ room value result,
      Decoder.tagged cases (room + 1) (.object [(some tag, value)]) = .ok result ↔ decoder room value = .ok result := by
    intro room value result
    rcases found with found | found <;> simp [tagged_iff, found, Decoder.withContent]
  refine ⟨fun _ => Json.noConfusion, fun _ _ found => (by cases found), fun room value other leads row read => ?_⟩
  exact (content room other row).mpr (leads row ((content room value row).mp read))

theorem encloses_opens {α β : Type} {outer : Decoder β} {inner : Decoder α} {around : Json → Json}
    (encloses : Encloses outer inner around) : Opens outer inner around := by
  cases encloses with
  | item _ before after =>
      refine ⟨fun _ => Json.noConfusion, fun _ _ found => (by cases found), fun room value other leads => ?_⟩
      exact leads_all inner inner room room _ _ (forall_around (fun _ _ found => found) before after value other leads)
  | entry _ key before after =>
      refine ⟨fun _ => Json.noConfusion, fun _ _ found => (by cases found), fun room value other leads => ?_⟩
      exact leads_entries inner inner room room _ _ .empty (forall_around (fun _ => ⟨rfl, fun _ found => found⟩)
        before after (some key, value) (some key, other) ⟨rfl, leads⟩)
  | named title declared before after => exact record_named_opens title declared before after
  | placed title declared before after place => exact record_placed_opens title declared before after place
  | content cases tag _ found => exact tagged_opens cases tag inner found

theorem alike_lifted {α β : Type} {least : Nat} {inner : Decoder α} {outer : Decoder β} {value other : Json}
    (alike : AlikeFrom least inner value other)
    (leads : ∀ room first second, (first = .null ↔ second = .null) →
      Leads (inner room first) (inner room second) → Leads (outer room first) (outer room second)) :
    AlikeFrom least outer value other := by
  refine ⟨alike.present, alike.alsoPresent, fun room enough result => ?_⟩
  have absent : value = .null ↔ other = .null := iff_of_false alike.present alike.alsoPresent
  exact ⟨leads room value other absent (fun part => (alike.same room enough part).mp) result,
    leads room other value absent.symm (fun part => (alike.same room enough part).mpr) result⟩

theorem somewhere_alike {change : (α : Type) → Decoder α → Json → Json → Prop} (keeps : Nat → Prop)
    (grows : ∀ least, keeps least → keeps (outward least))
    (each : ∀ {α : Type} {decoder : Decoder α} {value other : Json}, change α decoder value other →
      ∃ least, keeps least ∧ AlikeFrom least decoder value other)
    {α : Type} {decoder : Decoder α} {value other : Json} (changed : Somewhere change decoder value other) :
    ∃ least, keeps least ∧ AlikeFrom least decoder value other := by
  induction changed with
  | here changed => exact each changed
  | mapped f _ ih =>
      obtain ⟨least, kept, alike⟩ := ih
      exact ⟨least, kept, alike_lifted alike fun _ _ _ _ leads => leads_map f _ _ leads⟩
  | present _ ih =>
      obtain ⟨least, kept, alike⟩ := ih
      exact ⟨least, kept, alike_lifted alike fun room _ _ absent leads =>
        leads_optional _ _ room room _ _ absent leads⟩
  | inside encloses _ ih =>
      obtain ⟨least, kept, alike⟩ := ih
      exact ⟨outward least, grows least kept, opens_alike (encloses_opens encloses) alike⟩
  | layered guarded _ ih =>
      obtain ⟨least, kept, alike⟩ := ih
      refine ⟨least, kept, alike.present, alike.alsoPresent, fun room enough result => ?_⟩
      rw [nested_iff guarded, nested_iff guarded]
      exact alike.same room enough result

def Respelled {α : Type} (decoder : Decoder α) : Json → Json → Prop :=
  Relation.EqvGen (Somewhere @Respells decoder)

-- The containers of a value are nested within the limit, those in members that no record declares aside.
def Fits {α : Type} (decoder : Decoder α) (value : Json) : Prop :=
  ∃ bare : Json, bare.nesting ≤ Decoder.depthLimit ∧ Relation.ReflTransGen (Somewhere @Adds decoder) bare value

theorem respelled_same {α : Type} (decoder : Decoder α) (value other : Json)
    (respelled : Respelled decoder value other) :
    ∃ least, ∀ room, least ≤ room → ∀ result, decoder room value = .ok result ↔ decoder room other = .ok result := by
  induction respelled with
  | rel value other changed =>
      obtain ⟨least, _, alike⟩ := somewhere_alike (fun _ => True) (fun _ _ => trivial)
        (fun changed => (respells_alike changed).imp fun _ alike => ⟨trivial, alike⟩) changed
      exact ⟨least, alike.same⟩
  | refl value => exact ⟨0, fun _ _ _ => Iff.rfl⟩
  | symm value other _ ih =>
      obtain ⟨least, same⟩ := ih
      exact ⟨least, fun room enough result => (same room enough result).symm⟩
  | trans value between other _ _ first second =>
      obtain ⟨least, same⟩ := first
      obtain ⟨later, alsoSame⟩ := second
      refine ⟨max least later, fun room enough result => ?_⟩
      exact (same room (by omega) result).trans (alsoSame room (by omega) result)

theorem added_same {α : Type} (decoder : Decoder α) (bare value : Json)
    (added : Relation.ReflTransGen (Somewhere @Adds decoder) bare value) (room : Nat) (result : α) :
    decoder room bare = .ok result ↔ decoder room value = .ok result := by
  induction added with
  | refl => exact Iff.rfl
  | tail _ changed ih =>
      obtain ⟨_, rfl, alike⟩ := somewhere_alike (fun least => least = 0)
        (fun _ none => by rw [none]; rfl) (fun changed => ⟨0, rfl, adds_alike changed⟩) changed
      exact ih.trans (alike.same room (Nat.zero_le room) result)

theorem decode_respelled {α : Type} (decoder : Decoder α) (steady : Steady decoder) (value other : Json)
    (respelled : Respelled decoder value other) (fits : Fits decoder other) (result : α)
    (found : decoder.decode value = .ok result) : decoder.decode other = .ok result := by
  obtain ⟨least, same⟩ := respelled_same decoder value other respelled
  obtain ⟨bare, shallow, added⟩ := fits
  -- The spellings agree only with more room than the limit may grant; steadiness leads there and back.
  have ample : decoder (max least Decoder.depthLimit) value = .ok result :=
    steady_leads decoder steady _ _ value (Or.inl (Nat.le_max_right _ _)) result found
  have respelledAmple := (same _ (Nat.le_max_left _ _) result).mp ample
  have bareAmple := (added_same decoder bare other added _ result).mpr respelledAmple
  have bareFound : decoder Decoder.depthLimit bare = .ok result :=
    steady_leads decoder steady _ _ bare (Or.inr shallow) result bareAmple
  exact (added_same decoder bare other added _ result).mp bareFound

end TemplateManual.Json
