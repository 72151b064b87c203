import Underwriting.Json.NumberForm
import Underwriting.Proofs.Json.Ordered

/-! # Reading back what was written

A document is written as an object with its members in one order and read by the names of its
fields, so what a field is read from is the member found under its name. The lemmas here follow the
ways in which decoders are put together: a record is read back if each of its fields is read back
from the member of its name, or is given its default because there is no such member.
-/

namespace Underwriting

namespace Decoder

variable {α : Type}

theorem value_bool (flag : Bool) : bool.value (.bool flag) = .ok flag := rfl

theorem value_text (text : String) : Decoder.text.value (.string text) = .ok text := rfl

/-- What is built from a value that is read back is read back. -/
theorem value_map {β : Type} {inner : Decoder α} {json : Json} {result : α} (build : α → β)
    (read : inner.value json = .ok result) :
    Decoder.value (fun source => (inner source).map build) json = .ok (build result) := by
  rw [value] at read
  rw [value, read, Except.map]

/-- A whole number is read back if the limit allows for it. -/
theorem value_whole {limit number : Nat} (allowed : number ≤ limit) :
    (whole limit).value (.integer number) = .ok number := by
  have inRange : (0 : Int) ≤ number ∧ (number : Int) ≤ limit := by omega
  simp only [value, Json.toSource, whole, inRange, and_self, ↓reduceIte, Int.toNat_natCast]

theorem value_word16 (word : UInt16) : word16.value (.integer word.toNat) = .ok word := by
  have allowed : word.toNat ≤ UInt16.size - 1 := Nat.le_pred_of_lt word.toNat_lt
  have built := value_map UInt16.ofNat (value_whole allowed)
  rw [UInt16.ofNat_toNat] at built
  exact built

theorem value_word32 (word : UInt32) : word32.value (.integer word.toNat) = .ok word := by
  have allowed : word.toNat ≤ UInt32.size - 1 := Nat.le_pred_of_lt word.toNat_lt
  have built := value_map UInt32.ofNat (value_whole allowed)
  rw [UInt32.ofNat_toNat] at built
  exact built

theorem value_word64 (word : UInt64) : word64.value (.integer word.toNat) = .ok word := by
  have allowed : word.toNat ≤ UInt64.size - 1 := Nat.le_pred_of_lt word.toNat_lt
  have built := value_map UInt64.ofNat (value_whole allowed)
  rw [UInt64.ofNat_toNat] at built
  exact built

/-- A finite number is written as it is, and read back. -/
theorem value_plain {number : Binary64} (finite : number.isFinite = true) :
    NumberForm.plain.read.value (NumberForm.plain.write number) = .ok number := by
  simp only [NumberForm.plain, Json.ofBinary64, finite, ↓reduceIte]
  rfl

/-- Members in order are read back. -/
theorem value_members {params : List (String × Json)} (ordered : (Json.object params).IsOrdered) :
    members.value (.object params) = .ok params := by
  have read := Json.toJson?_toSource (.object params) ordered
  simp only [Json.toSource] at read
  simp only [value, Json.toSource, members, read]

/-- A list is read back if each of its values is. -/
theorem value_list {inner : Decoder α} {encode : α → Json} {values : List α}
    (read : ∀ each ∈ values, inner.value (encode each) = .ok each) :
    (list inner).value (.array (values.map encode)) = .ok values := by
  have items_read : items inner true (Json.itemsToSource (values.map encode)) = .ok values := by
    induction values with
    | nil => rfl
    | cons first rest ih =>
      obtain ⟨head, tail⟩ := List.forall_mem_cons.mp read
      rw [value] at head
      simp only [List.map_cons, Json.itemsToSource, items, head, ih tail, Except.map]
  exact items_read

/-- What may be null is read back where it is there, as nothing that is there is null. -/
theorem value_nullable {inner : Decoder α} {json : Json} {result : α} (notNull : json ≠ .null)
    (read : inner.value json = .ok result) :
    (nullable inner).value json = .ok (some result) := by
  rw [value] at read
  cases json with
  | null => exact absurd rfl notNull
  | _ =>
    rw [value, nullable]
    · rw [read, Except.map]
    · simp only [Json.toSource, reduceCtorEq, imp_self, Source.scalar.injEq]

/-- A value is read back from its name. -/
theorem value_choice {choices : List (String × α)} {label : String} {result : α}
    (named : choices.lookup label = some result) :
    (choice choices).value (.string label) = .ok result := by
  simp only [value, Json.toSource, choice, byName, Source.text?, named]

end Decoder

section Members

variable {members : List (String × Json)} {name : String}

/-- What the fields of a record are read from, for an object that is written in full. -/
def Json.entries (members : List (String × Json)) (name : String) : FieldEntry :=
  Fields.entryOfMembers (Json.membersToSource members).length name 0 (Json.membersToSource members)

/-- Under a name stands the member that is found under it. -/
theorem Fields.entryOfMembers_membersToSource (members : List (String × Json)) (name : String)
    (size position : Nat) :
    match members.lookup name with
    | some json => ∃ place,
      entryOfMembers size name position (Json.membersToSource members) =
        .present place json.toSource
    | none => ∃ stop,
      entryOfMembers size name position (Json.membersToSource members) = .absent stop true := by
  induction members generalizing position with
  | nil => exact ⟨_, rfl⟩
  | cons member rest ih =>
    obtain ⟨other, json⟩ := member
    by_cases same : name = other
    · subst same
      simp only [List.lookup_cons, beq_self_eq_true, Json.membersToSource, entryOfMembers,
        Source.text?, ↓reduceIte]
      exact ⟨position, rfl⟩
    · have apart : (some other == some name) = false :=
        beq_eq_false_iff_ne.mpr fun equal => same (Option.some.inj equal).symm
      simp only [List.lookup_cons, beq_eq_false_iff_ne.mpr same, Json.membersToSource,
        entryOfMembers, Source.text?, apart, Bool.false_eq_true, ↓reduceIte]
      exact ih (position + 1)

theorem Json.entries_of_lookup {json : Json} (found : members.lookup name = some json) :
    ∃ place, Json.entries members name = .present place json.toSource := by
  have entry := Fields.entryOfMembers_membersToSource members name
    (Json.membersToSource members).length 0
  rw [found] at entry
  exact entry

theorem Json.entries_of_absent (absent : members.lookup name = none) :
    ∃ stop, Json.entries members name = .absent stop true := by
  have entry := Fields.entryOfMembers_membersToSource members name
    (Json.membersToSource members).length 0
  rw [absent] at entry
  exact entry

/-- Of members under distinct names none is in the way of the fields. -/
theorem Fields.memberDefect?_membersToSource (names : List String) {seen : List String}
    (position : Nat) (distinct : (members.map (·.1)).Nodup)
    (fresh : ∀ member ∈ members, member.1 ∉ seen) :
    memberDefect? names seen true position (Json.membersToSource members) = none := by
  induction members generalizing seen position with
  | nil => rfl
  | cons member rest ih =>
    obtain ⟨other, json⟩ := member
    obtain ⟨unique, distinct⟩ := List.nodup_cons.mp distinct
    obtain ⟨new, fresh⟩ := List.forall_mem_cons.mp fresh
    simp only [Json.membersToSource, memberDefect?, Source.text?, List.contains_eq_mem,
      Json.wellFormed_toSource, new, decide_false, Bool.false_eq_true, ↓reduceIte]
    split
    · refine ih (position + 1) distinct fun member present old => ?_
      rcases List.mem_cons.mp old with same | earlier
      · exact unique (List.mem_map.mpr ⟨member, present, same⟩)
      · exact fresh member present earlier
    · exact ih (position + 1) distinct fresh

end Members

namespace Fields

variable {α β : Type} {members : List (String × Json)} {name : String}

/-- The fields give a value for an object with these members. -/
def Reads (fields : Fields α) (members : List (String × Json)) (value : α) : Prop :=
  fields.read (Json.entries members) = .ok value

theorem Reads.map {fields : Fields α} {value : α} (build : α → β)
    (reads : fields.Reads members value) : (build <$> fields).Reads members (build value) := by
  change both (.ok build) (fields.read (Json.entries members)) = _
  rw [reads, both]

theorem Reads.seq {build : Fields (α → β)} {next : Fields α} {function : α → β} {value : α}
    (builds : build.Reads members function) (reads : next.Reads members value) :
    (build <*> next).Reads members (function value) := by
  change both (build.read (Json.entries members)) (next.read (Json.entries members)) = _
  rw [builds, reads, both]

section Field

variable {inner : Decoder α} {json : Json} {value : α}

theorem reads_field (default? : Option α) (found : members.lookup name = some json)
    (read : inner.value json = .ok value) : (field name inner default?).Reads members value := by
  obtain ⟨place, entry⟩ := Json.entries_of_lookup found
  rw [Decoder.value] at read
  simp only [Reads, field, entry, read]

theorem reads_required (found : members.lookup name = some json)
    (read : inner.value json = .ok value) : (required name inner).Reads members value :=
  reads_field none found read

theorem reads_withDefault {default : α} (found : members.lookup name = some json)
    (read : inner.value json = .ok value) :
    (withDefault name inner default).Reads members value :=
  reads_field (some default) found read

theorem reads_default (inner : Decoder α) (default : α) (absent : members.lookup name = none) :
    (withDefault name inner default).Reads members default := by
  obtain ⟨stop, entry⟩ := Json.entries_of_absent absent
  simp only [Reads, withDefault, field, entry]

/-- A field that is left out where there is nothing to say is read back. -/
theorem reads_optional {encode : α → Json} {value? : Option α}
    (found : members.lookup name = value?.map encode)
    (read : ∀ value ∈ value?, encode value ≠ .null ∧ inner.value (encode value) = .ok value) :
    (optional name inner).Reads members value? := by
  cases value? with
  | none => exact reads_default (.nullable inner) none found
  | some value =>
    obtain ⟨notNull, read⟩ := read value rfl
    exact reads_field (some none) found (Decoder.value_nullable notNull read)

/-- A field that says null where there is nothing to say is read back. -/
theorem reads_orNull {encode : α → Json} {value? : Option α}
    (found : members.lookup name = some ((value?.map encode).getD .null))
    (read : ∀ value ∈ value?, encode value ≠ .null ∧ inner.value (encode value) = .ok value) :
    (optional name inner).Reads members value? := by
  cases value? with
  | none => exact reads_field (some none) found rfl
  | some value =>
    obtain ⟨notNull, read⟩ := read value rfl
    exact reads_field (some none) found (Decoder.value_nullable notNull read)

end Field

/-- A record is read back from an object with distinct names. -/
theorem value_decoder {fields : Fields α} {value : α} (distinct : (members.map (·.1)).Nodup)
    (reads : fields.Reads members value) : fields.decoder.value (.object members) = .ok value := by
  have harmless : memberDefect? fields.names [] true 0 (Json.membersToSource members) = none :=
    memberDefect?_membersToSource fields.names 0 distinct fun _ _ => List.not_mem_nil
  have read : fields.read (fun name => entryOfMembers (Json.membersToSource members).length name 0
      (Json.membersToSource members)) = .ok value := reads
  simp only [Decoder.value, Json.toSource, decoder, read, harmless]

end Fields

end Underwriting
