import Underwriting.Json.Decoder

/-! # Ordered values

A value is ordered if every object in it has its members in strictly ascending order of their names.
Ordered values are what reading yields, and they are read back from the way they are written: the
order of the members carries no information, so reading may restore it. A value that is written in
full can always be passed over.
-/

namespace Underwriting

namespace Json

/-- Members in strictly ascending order of their names. -/
def AscendingNames (members : List (String × Json)) : Prop :=
  members.Pairwise fun first second => first.1 < second.1

instance (members : List (String × Json)) : Decidable (AscendingNames members) :=
  inferInstanceAs (Decidable (members.Pairwise fun first second => first.1 < second.1))

mutual

/-- Every object in the value has its members in strictly ascending order of their names. -/
def IsOrdered : Json → Prop
  | .array items => AllOrdered items
  | .object members => AscendingNames members ∧ MembersOrdered members
  | .null | .bool _ | .integer _ | .float _ | .string _ => True

/-- Every item is ordered. -/
def AllOrdered : List Json → Prop
  | [] => True
  | item :: rest => IsOrdered item ∧ AllOrdered rest

/-- Every value of a member is ordered. -/
def MembersOrdered : List (String × Json) → Prop
  | [] => True
  | (_, value) :: rest => IsOrdered value ∧ MembersOrdered rest

end

theorem membersOrdered_iff {members : List (String × Json)} :
    MembersOrdered members ↔ ∀ member ∈ members, member.2.IsOrdered := by
  induction members with
  | nil => simp [MembersOrdered]
  | cons member rest ih => simp [MembersOrdered, ih]

section Sorting

variable {name : String} {value : Json} {members : List (String × Json)}

theorem mem_insertMember {member : String × Json}
    (member_mem : member ∈ insertMember name value members) :
    member = (name, value) ∨ member ∈ members := by
  induction members with
  | nil => exact .inl (List.mem_singleton.mp member_mem)
  | cons held rest ih =>
    obtain ⟨other, kept⟩ := held
    simp only [insertMember] at member_mem
    split at member_mem
    · rcases List.mem_cons.mp member_mem with new | old
      · exact .inl new
      · exact .inr old
    · split at member_mem
      · rcases List.mem_cons.mp member_mem with new | old
        · exact .inl new
        · exact .inr (List.mem_cons_of_mem _ old)
      · rcases List.mem_cons.mp member_mem with same | later
        · exact .inr (same ▸ List.mem_cons_self)
        · exact (ih later).imp_right (List.mem_cons_of_mem _)

/-- Adding a member in its place keeps the names in order. -/
theorem ascendingNames_insertMember (ascending : AscendingNames members) :
    AscendingNames (insertMember name value members) := by
  induction members with
  | nil => exact List.pairwise_singleton _ _
  | cons held rest ih =>
    obtain ⟨other, kept⟩ := held
    obtain ⟨above, tail⟩ := List.pairwise_cons.mp ascending
    simp only [insertMember]
    split
    case isTrue below =>
      refine List.pairwise_cons.mpr ⟨?_, ascending⟩
      intro member present
      rcases List.mem_cons.mp present with rfl | later
      · exact below
      · exact String.lt_trans below (above member later)
    case isFalse notBelow =>
      split
      case isTrue same =>
        subst same
        exact List.pairwise_cons.mpr ⟨above, tail⟩
      case isFalse different =>
        refine List.pairwise_cons.mpr ⟨?_, ih tail⟩
        intro member present
        rcases mem_insertMember present with rfl | later
        · have atMost : other ≤ name := String.not_lt.mp notBelow
          exact String.not_le.mp fun least => different (String.le_antisymm least atMost)
        · exact above member later

/-- A member whose name comes after all others is added at the end. -/
theorem insertMember_of_last (last : ∀ member ∈ members, member.1 < name) :
    insertMember name value members = members ++ [(name, value)] := by
  induction members with
  | nil => rfl
  | cons held rest ih =>
    obtain ⟨other, kept⟩ := held
    obtain ⟨above, others⟩ := List.forall_mem_cons.mp last
    have different : name ≠ other := by
      rintro rfl
      exact String.lt_irrefl _ above
    rw [insertMember, if_neg (String.lt_asymm above), if_neg different, ih others,
      List.cons_append]

/-- Members that were sorted are in order, and each was there before. -/
theorem sortMembers_spec (members : List (String × Json)) :
    AscendingNames (sortMembers members) ∧ ∀ member ∈ sortMembers members, member ∈ members := by
  have step (sorted written : List (String × Json)) (ascending : AscendingNames sorted) :
      AscendingNames (written.foldl (fun sorted member =>
        insertMember member.1 member.2 sorted) sorted) ∧
        ∀ member ∈ written.foldl (fun sorted member => insertMember member.1 member.2 sorted)
          sorted, member ∈ sorted ∨ member ∈ written := by
    induction written generalizing sorted with
    | nil => exact ⟨ascending, fun member present => .inl present⟩
    | cons first rest ih =>
      obtain ⟨ordered, from_before⟩ := ih _ (ascendingNames_insertMember ascending)
      refine ⟨ordered, fun member present => ?_⟩
      rcases from_before member present with inserted | later
      · rcases mem_insertMember inserted with rfl | old
        · exact .inr List.mem_cons_self
        · exact .inl old
      · exact .inr (List.mem_cons_of_mem _ later)
  obtain ⟨ordered, from_members⟩ := step [] members List.Pairwise.nil
  refine ⟨ordered, fun member present => ?_⟩
  exact (from_members member present).resolve_left List.not_mem_nil

/-- Members in order are left as they are. -/
theorem sortMembers_of_ascending (ascending : AscendingNames members) :
    sortMembers members = members := by
  have step (sorted rest : List (String × Json)) (ascending : AscendingNames (sorted ++ rest)) :
      rest.foldl (fun sorted member => insertMember member.1 member.2 sorted) sorted =
        sorted ++ rest := by
    induction rest generalizing sorted with
    | nil => exact (List.append_nil sorted).symm
    | cons first rest ih =>
      have last : ∀ member ∈ sorted, member.1 < first.1 := by
        intro member present
        exact (List.pairwise_append.mp ascending).2.2 member present first List.mem_cons_self
      rw [List.foldl_cons, insertMember_of_last last, ih, List.append_assoc, List.singleton_append]
      rw [List.append_assoc, List.singleton_append]
      exact ascending
  exact step [] members ascending

end Sorting

section Writing

mutual

/-- An ordered value is read back from the way it is written. -/
theorem toJson?_toSource : (json : Json) → json.IsOrdered → json.toSource.toJson? = some json
  | .null, _ | .bool _, _ | .integer _, _ | .float _, _ | .string _, _ => rfl
  | .array items, ordered => by
    simp only [toSource, Source.toJson?, itemsToJson?_itemsToSource items ordered, Option.map_some]
  | .object members, ordered => by
    simp only [toSource, Source.toJson?, membersToJson?_membersToSource members ordered.2,
      Option.map_some, ofMembers, sortMembers_of_ascending ordered.1]

theorem itemsToJson?_itemsToSource : (items : List Json) → AllOrdered items →
    Source.itemsToJson? (itemsToSource items) = some items
  | [], _ => rfl
  | item :: rest, ordered => by
    simp only [itemsToSource, Source.itemsToJson?, toJson?_toSource item ordered.1,
      itemsToJson?_itemsToSource rest ordered.2]

theorem membersToJson?_membersToSource : (members : List (String × Json)) →
    MembersOrdered members → Source.membersToJson? (membersToSource members) = some members
  | [], _ => rfl
  | (name, value) :: rest, ordered => by
    simp only [membersToSource, Source.membersToJson?, Source.text?,
      toJson?_toSource value ordered.1, membersToJson?_membersToSource rest ordered.2]

end

mutual

/-- A value that is written in full can be passed over. -/
theorem wellFormed_toSource : (json : Json) → json.toSource.wellFormed = true
  | .null | .bool _ | .integer _ | .float _ | .string _ => rfl
  | .array items => by
    simp only [toSource, Source.wellFormed, allWellFormed_itemsToSource items, Bool.and_self]
  | .object members => by
    simp only [toSource, Source.wellFormed, membersWellFormed_membersToSource members,
      Bool.and_self]

theorem allWellFormed_itemsToSource : (items : List Json) →
    Source.allWellFormed (itemsToSource items) = true
  | [] => rfl
  | item :: rest => by
    simp only [itemsToSource, Source.allWellFormed, wellFormed_toSource item,
      allWellFormed_itemsToSource rest, Bool.and_self]

theorem membersWellFormed_membersToSource : (members : List (String × Json)) →
    Source.membersWellFormed (membersToSource members) = true
  | [] => rfl
  | (name, value) :: rest => by
    simp only [membersToSource, Source.membersWellFormed, Source.isString,
      wellFormed_toSource value, membersWellFormed_membersToSource rest, Bool.and_self]

end

end Writing

end Json

namespace Source

mutual

/-- What is read is ordered. -/
theorem isOrdered_of_toJson? : (source : Source) → {json : Json} →
    source.toJson? = some json → json.IsOrdered
  | .scalar .null, _, read | .scalar (.bool _), _, read
  | .scalar (.number (some (.integer _))), _, read | .scalar (.number (some (.float _))), _, read
  | .scalar (.text (some _)), _, read => by
    simp only [toJson?, Option.some.injEq] at read
    subst read
    trivial
  | .array items true, _, read => by
    simp only [toJson?, Option.map_eq_some_iff] at read
    obtain ⟨values, items_read, rfl⟩ := read
    exact allOrdered_of_itemsToJson? items items_read
  | .object members true, _, read => by
    simp only [toJson?, Option.map_eq_some_iff] at read
    obtain ⟨written, members_read, rfl⟩ := read
    have ordered := membersOrdered_of_membersToJson? members members_read
    obtain ⟨ascending, from_written⟩ := Json.sortMembers_spec written
    refine ⟨ascending, Json.membersOrdered_iff.mpr fun member present => ?_⟩
    exact Json.membersOrdered_iff.mp ordered member (from_written member present)
  | .broken, _, read | .scalar (.number none), _, read | .scalar (.text none), _, read
  | .array _ false, _, read | .object _ false, _, read | .buried _ _, _, read => by
    simp only [toJson?, reduceCtorEq] at read

theorem allOrdered_of_itemsToJson? : (items : List Source) → {values : List Json} →
    itemsToJson? items = some values → Json.AllOrdered values
  | [], _, read => by
    simp only [itemsToJson?, Option.some.injEq] at read
    subst read
    trivial
  | item :: rest, _, read => by
    simp only [itemsToJson?] at read
    split at read
    · rename_i value others item_read rest_read
      rw [← Option.some.inj read]
      exact ⟨isOrdered_of_toJson? item item_read, allOrdered_of_itemsToJson? rest rest_read⟩
    · cases read

theorem membersOrdered_of_membersToJson? : (members : List (Source × Source)) →
    {values : List (String × Json)} → membersToJson? members = some values →
    Json.MembersOrdered values
  | [], _, read => by
    simp only [membersToJson?, Option.some.injEq] at read
    subst read
    trivial
  | (name, value) :: rest, _, read => by
    simp only [membersToJson?] at read
    split at read
    · rename_i text held others name_read value_read rest_read
      rw [← Option.some.inj read]
      exact ⟨isOrdered_of_toJson? value value_read,
        membersOrdered_of_membersToJson? rest rest_read⟩
    · cases read

end

end Source

end Underwriting
