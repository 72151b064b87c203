import Underwriting.Json.NumberForm
import Underwriting.Proofs.Json.Ordered
import Underwriting.Proofs.Number.Finite

/-! # What decoders give

The integers of a JSON value are words of 64 bits and its doubles are finite, so every number that a
decoder reads from it is finite. What a decoder gives is described by a property of its results; the
lemmas carry such properties along the ways in which decoders are put together, from the fields of a
record to the record.
-/

namespace Underwriting

namespace Json

mutual

/-- Integers are words of 64 bits, with a sign or without, and doubles are finite. -/
def HasMachineNumbers : Json → Prop
  | .integer value => -(UInt64.size / 2 : Nat) ≤ value ∧ value < UInt64.size
  | .float value => value.isFinite = true
  | .array items => AllHaveMachineNumbers items
  | .object members => MembersHaveMachineNumbers members
  | .null | .bool _ | .string _ => True

/-- Every item has such numbers. -/
def AllHaveMachineNumbers : List Json → Prop
  | [] => True
  | item :: rest => HasMachineNumbers item ∧ AllHaveMachineNumbers rest

/-- Every value of a member has such numbers. -/
def MembersHaveMachineNumbers : List (String × Json) → Prop
  | [] => True
  | (_, value) :: rest => HasMachineNumbers value ∧ MembersHaveMachineNumbers rest

end

end Json

namespace Source

mutual

/-- Every number that is written stands for a finite double. -/
def IsFinite : Source → Prop
  | .scalar (.number (some (.integer value))) => (Binary64.ofInt value).isFinite = true
  | .scalar (.number (some (.float value))) => value.isFinite = true
  | .array items _ => AllFinite items
  | .object members _ => MembersFinite members
  | .broken | .scalar _ | .buried _ _ => True

/-- Every number in an item stands for a finite double. -/
def AllFinite : List Source → Prop
  | [] => True
  | item :: rest => IsFinite item ∧ AllFinite rest

/-- Every number in the value of a member stands for a finite double. -/
def MembersFinite : List (Source × Source) → Prop
  | [] => True
  | (_, value) :: rest => IsFinite value ∧ MembersFinite rest

end

end Source

section Writing

mutual

theorem Json.isFinite_toSource : (json : Json) → json.HasMachineNumbers → json.toSource.IsFinite
  | .null, _ | .bool _, _ | .string _, _ => trivial
  | .integer value, word => by
    refine Binary64.isFinite_ofInt ?_
    obtain ⟨least, most⟩ := word
    simp only [UInt64.size] at *
    omega
  | .float _, finite => finite
  | .array items, numbers => Json.allFinite_itemsToSource items numbers
  | .object members, numbers => Json.membersFinite_membersToSource members numbers

theorem Json.allFinite_itemsToSource : (items : List Json) → Json.AllHaveMachineNumbers items →
    Source.AllFinite (Json.itemsToSource items)
  | [], _ => trivial
  | item :: rest, numbers =>
    ⟨Json.isFinite_toSource item numbers.1, Json.allFinite_itemsToSource rest numbers.2⟩

theorem Json.membersFinite_membersToSource : (members : List (String × Json)) →
    Json.MembersHaveMachineNumbers members →
    Source.MembersFinite (Json.membersToSource members)
  | [], _ => trivial
  | (_, value) :: rest, numbers =>
    ⟨Json.isFinite_toSource value numbers.1, Json.membersFinite_membersToSource rest numbers.2⟩

end

end Writing

namespace Decoder

variable {α β : Type} {good : α → Prop}

/-- Whatever the decoder reads from finite numbers has the property. -/
def Gives (decoder : Decoder α) (good : α → Prop) : Prop :=
  ∀ source value, source.IsFinite → decoder source = .ok value → good value

theorem gives_plain : NumberForm.plain.read.Gives fun number => number.isFinite = true := by
  intro source value finite read
  change number source = .ok value at read
  unfold number at read
  split at read
  · rw [← Except.ok.inj read]
    exact finite
  · rw [← Except.ok.inj read]
    exact finite
  · cases read

/-- Members are read in the order of their names. -/
theorem gives_members : members.Gives fun params => (Json.object params).IsOrdered := by
  intro source value finite read
  unfold members at read
  split at read
  · split at read
    · rename_i params written
      rw [← Except.ok.inj read]
      exact Source.isOrdered_of_toJson? _ written
    · cases read
  · cases read
  · cases read

theorem Gives.items {inner : Decoder α} (gives : inner.Gives good) {closed : Bool}
    {sources : List Source} {values : List α} (finite : Source.AllFinite sources)
    (read : items inner closed sources = .ok values) : ∀ value ∈ values, good value := by
  induction sources generalizing values with
  | nil =>
    cases closed with
    | false => cases read
    | true =>
      cases read
      intro value member
      cases member
  | cons source rest ih =>
    simp only [Decoder.items] at read
    split at read
    · cases read
    · rename_i first firstRead
      cases restRead : Decoder.items inner closed rest with
      | error error =>
        rw [restRead] at read
        cases read
      | ok others =>
        rw [restRead] at read
        rw [← Except.ok.inj read]
        exact List.forall_mem_cons.mpr
          ⟨gives source first finite.1 firstRead, ih finite.2 restRead⟩

theorem Gives.list {inner : Decoder α} (gives : inner.Gives good) :
    (list inner).Gives fun values => ∀ value ∈ values, good value := by
  intro source values finite read
  unfold Decoder.list at read
  split at read
  · exact gives.items finite read
  · cases read
  · cases read

end Decoder

/-- Whatever is found for a field holds finite numbers only. -/
def FieldEntry.IsFinite : FieldEntry → Prop
  | .present _ value => value.IsFinite
  | .absent _ _ => True

namespace Fields

variable {α β : Type} {good : α → Prop} {result : β → Prop}

/-- Whatever the fields read from finite numbers has the property. -/
def Gives (fields : Fields α) (good : α → Prop) : Prop :=
  ∀ entry value, (∀ name, (entry name).IsFinite) → fields.read entry = .ok value → good value

/-- Two groups of fields give a value if both do. -/
theorem both_eq_ok_iff {function : Except DecodeStop (α → β)} {argument : Except DecodeStop α}
    {value : β} : both function argument = .ok value ↔
      ∃ build given, function = .ok build ∧ argument = .ok given ∧ value = build given := by
  constructor
  · intro given
    cases function with
    | error stop => cases argument <;> cases given
    | ok build =>
      cases argument with
      | error stop => cases given
      | ok argument => exact ⟨build, argument, rfl, rfl, (Except.ok.inj given).symm⟩
  · rintro ⟨build, given, rfl, rfl, rfl⟩
    rfl

theorem Gives.map {fields : Fields α} {build : α → β} (gives : fields.Gives good)
    (builds : ∀ value, good value → result (build value)) : (build <$> fields).Gives result := by
  intro entry value finite read
  obtain ⟨_, given, same, fieldRead, rfl⟩ := both_eq_ok_iff.mp read
  rw [← Except.ok.inj same]
  exact builds given (gives entry given finite fieldRead)

theorem Gives.seq {build : Fields (α → β)} {next : Fields α} (gives : next.Gives good)
    (builds : build.Gives fun function => ∀ value, good value → result (function value)) :
    (build <*> next).Gives result := by
  intro entry value finite read
  obtain ⟨function, given, functionRead, fieldRead, rfl⟩ := both_eq_ok_iff.mp read
  exact builds entry function finite functionRead given (gives entry given finite fieldRead)

/-- The first field may be one of which nothing is known. -/
theorem gives_map (fields : Fields α) {build : α → β} (builds : ∀ value, result (build value)) :
    (build <$> fields).Gives result := by
  intro entry value finite read
  obtain ⟨_, given, same, -, rfl⟩ := both_eq_ok_iff.mp read
  rw [← Except.ok.inj same]
  exact builds given

/-- Any further field may be one of which nothing is known. -/
theorem Gives.ignore {build : Fields (α → β)} {next : Fields α}
    (builds : build.Gives fun function => ∀ value, result (function value)) :
    (build <*> next).Gives result := by
  intro entry value finite read
  obtain ⟨function, given, functionRead, -, rfl⟩ := both_eq_ok_iff.mp read
  exact builds entry function finite functionRead given

theorem gives_field {inner : Decoder α} {default? : Option α} (name : String)
    (gives : inner.Gives good) (goodDefault : ∀ value ∈ default?, good value) :
    (field name inner default?).Gives good := by
  intro entry value finite read
  have finiteHere := finite name
  simp only [Fields.field] at read
  cases found : entry name with
  | present position source =>
    rw [found] at finiteHere
    simp only [found] at read
    split at read
    · rename_i given sourceRead
      rw [← Except.ok.inj read]
      exact gives source given finiteHere sourceRead
    · cases read
  | absent stop mayDefault =>
    simp only [found] at read
    split at read
    · rw [← Except.ok.inj read]
      exact goodDefault _ rfl
    · cases read

theorem gives_required {inner : Decoder α} (name : String) (gives : inner.Gives good) :
    (required name inner).Gives good := by
  refine gives_field name gives fun value absent => ?_
  cases absent

theorem gives_withDefault {inner : Decoder α} {default : α} (name : String)
    (gives : inner.Gives good) (goodDefault : good default) :
    (withDefault name inner default).Gives good := by
  refine gives_field name gives fun value given => ?_
  rw [← Option.some.inj given]
  exact goodDefault

theorem isFinite_entryOfMembers (size : Nat) (name : String) (position : Nat)
    {members : List (Source × Source)} (finite : Source.MembersFinite members) :
    (entryOfMembers size name position members).IsFinite := by
  induction members generalizing position with
  | nil => trivial
  | cons member rest ih =>
    obtain ⟨head, tail⟩ := finite
    unfold entryOfMembers
    split
    · exact head
    · exact ih (position + 1) tail

theorem isFinite_entryOfItems (closed : Bool) (name : String) (position : Nat)
    {items : List Source} (names : List String) (finite : Source.AllFinite items) :
    (entryOfItems closed items name position names).IsFinite := by
  induction names generalizing items position with
  | nil => trivial
  | cons other rest ih =>
    unfold entryOfItems
    cases items with
    | nil =>
      split
      · trivial
      · exact ih (position + 1) finite
    | cons item others =>
      split
      · exact finite.1
      · exact ih (position + 1) finite.2

/-- A record has what its fields give, whether it is read from an object or from an array. -/
theorem Gives.decoder {fields : Fields α} (gives : fields.Gives good) :
    fields.decoder.Gives good := by
  intro source value finite read
  cases source with
  | object members closed =>
    simp only [Fields.decoder] at read
    split at read
    · rename_i fieldsRead _
      rw [← Except.ok.inj read]
      exact gives _ _ (fun name => isFinite_entryOfMembers _ name 0 finite) fieldsRead
    · cases read
    · cases read
    · cases read
  | array items closed =>
    simp only [Fields.decoder] at read
    split at read
    · cases read
    · rename_i fieldsRead
      split at read
      · rw [← Except.ok.inj read]
        exact gives _ _ (fun name => isFinite_entryOfItems _ name 0 _ finite) fieldsRead
      · cases read
  | buried isArray wellFormed => cases read
  | broken => cases read
  | scalar value => cases read

end Fields

end Underwriting
