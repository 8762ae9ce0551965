import CellMemory.Proofs.Layout.Measure

/-! Paths through nested aggregates down to a scalar. The members of an aggregate lie one after the
other in its slots, without a gap and without an overlap, so each slot of a type is at the end of
exactly one path. -/

namespace CellMemory.Layout.Table

/-- A list of member indices that leads from a type through aggregates to a scalar. -/
inductive Leaf (table : Table) : TypeId → List Nat → Prop
  | scalar {id : TypeId} {ty : Ty} (known : table.get id = .ok ty) (scalar : ty.isScalar = true) :
      Leaf table id []
  | member {id member : TypeId} {ty : Ty} {index : Nat} {path : List Nat}
      (known : table.get id = .ok ty) (inside : ty.members[index]? = some member)
      (rest : Leaf table member path) : Leaf table id (index :: path)

def members (table : Table) (id : TypeId) : List TypeId :=
  match table.get id with
  | .ok ty => ty.members
  | .error _ => []

def slotOf (table : Table) (id : TypeId) : List Nat → Nat
  | [] => 0
  | index :: path =>
    match (table.members id)[index]? with
    | some member => table.countAll ((table.members id).take index) + slotOf table member path
    | none => 0

variable {table : Table}

theorem countAll_take_le (members : List TypeId) {index later : Nat} (order : index ≤ later) :
    table.countAll (members.take index) ≤ table.countAll (members.take later) := by
  have front : members.take index = (members.take later).take index := by
    rw [List.take_take, Nat.min_eq_left order]
  have whole := congrArg table.countAll (List.take_append_drop index (members.take later))
  rw [countAll_append, ← front] at whole
  omega

theorem countAll_take_succ {members : List TypeId} {index : Nat} {member : TypeId}
    (inside : members[index]? = some member) :
    table.countAll (members.take (index + 1)) =
      table.countAll (members.take index) + table.count member := by
  rw [List.take_add_one, inside, countAll_append]
  rfl

theorem countAll_take_add_le {members : List TypeId} {index later : Nat} {member : TypeId}
    (inside : members[index]? = some member) (order : index < later) :
    table.countAll (members.take index) + table.count member ≤
      table.countAll (members.take later) := by
  rw [← countAll_take_succ inside]
  exact countAll_take_le members order

theorem countAll_take_add_le_all {members : List TypeId} {index : Nat} {member : TypeId}
    (inside : members[index]? = some member) :
    table.countAll (members.take index) + table.count member ≤ table.countAll members := by
  have bound := (List.getElem?_eq_some_iff.mp inside).1
  calc table.countAll (members.take index) + table.count member
    _ ≤ table.countAll (members.take members.length) := countAll_take_add_le inside bound
    _ = table.countAll members := by rw [List.take_length]

theorem exists_member_of_lt {members : List TypeId} {slot : Nat}
    (inside : slot < table.countAll members) :
    ∃ (index : Nat) (member : TypeId), members[index]? = some member ∧
      table.countAll (members.take index) ≤ slot ∧
        slot < table.countAll (members.take index) + table.count member := by
  induction members generalizing slot with
  | nil => exact absurd inside (Nat.not_lt_zero slot)
  | cons first members ih =>
    rw [countAll_cons] at inside
    by_cases here : slot < table.count first
    · exact ⟨0, first, rfl, Nat.zero_le slot, by simpa using here⟩
    · have rest : slot - table.count first < table.countAll members := by omega
      obtain ⟨index, member, found, low, high⟩ := ih rest
      refine ⟨index + 1, member, found, ?_⟩
      rw [List.take_succ_cons, countAll_cons]
      omega

theorem slotOf_cons {id member : TypeId} {ty : Ty} {index : Nat} (known : table.get id = .ok ty)
    (inside : ty.members[index]? = some member) (path : List Nat) :
    table.slotOf id (index :: path) =
      table.countAll (ty.members.take index) + table.slotOf member path := by
  have own : table.members id = ty.members := by simp only [members, known]
  simp only [slotOf, own, inside]

theorem Measured.count_of_members (measured : table.Measured) {id member : TypeId} {ty : Ty}
    {index : Nat} (known : table.get id = .ok ty) (inside : ty.members[index]? = some member) :
    table.count id = table.countAll ty.members := by
  have aggregate : ty.isScalar ≠ true := by
    intro scalar
    simp [Ty.members_of_isScalar scalar] at inside
  rw [measured.count_of_get known, span, if_neg aggregate]

theorem Measured.slotOf_lt (measured : table.Measured) {id : TypeId} {path : List Nat}
    (leaf : table.Leaf id path) : table.slotOf id path < table.count id := by
  induction leaf with
  | scalar known scalar =>
    rw [measured.count_of_get known, span, if_pos scalar]
    exact Nat.one_pos
  | @member id member ty index path known inside rest ih =>
    rw [slotOf_cons known inside, measured.count_of_members known inside]
    calc table.countAll (ty.members.take index) + table.slotOf member path
      _ < table.countAll (ty.members.take index) + table.count member := Nat.add_lt_add_left ih _
      _ ≤ table.countAll ty.members := countAll_take_add_le_all inside

theorem Measured.slotOf_lt_of_lt (measured : table.Measured) {id first last : TypeId} {ty : Ty}
    {index later : Nat} {path other : List Nat} (known : table.get id = .ok ty)
    (inside : ty.members[index]? = some first) (after : ty.members[later]? = some last)
    (leaf : table.Leaf first path) (order : index < later) :
    table.slotOf id (index :: path) < table.slotOf id (later :: other) := by
  rw [slotOf_cons known inside, slotOf_cons known after]
  calc table.countAll (ty.members.take index) + table.slotOf first path
    _ < table.countAll (ty.members.take index) + table.count first :=
      Nat.add_lt_add_left (measured.slotOf_lt leaf) _
    _ ≤ table.countAll (ty.members.take later) := countAll_take_add_le inside order
    _ ≤ table.countAll (ty.members.take later) + table.slotOf last other := Nat.le_add_right _ _

theorem Measured.eq_of_slotOf (measured : table.Measured) {id : TypeId} {path other : List Nat}
    (first : table.Leaf id path) (second : table.Leaf id other)
    (same : table.slotOf id path = table.slotOf id other) : path = other := by
  induction first generalizing other with
  | scalar known scalar =>
    cases second with
    | scalar => rfl
    | member again inside =>
      cases Except.ok.inj (known.symm.trans again)
      simp [Ty.members_of_isScalar scalar] at inside
  | @member id member ty index path known inside rest ih =>
    cases second with
    | scalar again scalar =>
      cases Except.ok.inj (known.symm.trans again)
      simp [Ty.members_of_isScalar scalar] at inside
    | @member _ last _ later further again after tail =>
      cases Except.ok.inj (known.symm.trans again)
      rcases Nat.lt_trichotomy index later with order | rfl | order
      · exact absurd same (Nat.ne_of_lt (measured.slotOf_lt_of_lt known inside after rest order))
      · cases Option.some.inj (inside.symm.trans after)
        rw [slotOf_cons known inside, slotOf_cons known inside] at same
        rw [ih tail (Nat.add_left_cancel same)]
      · exact absurd same (Nat.ne_of_gt (measured.slotOf_lt_of_lt known after inside tail order))

/-- Every slot is at the end of a path. A member is listed before its aggregate, so the descent
ends. -/
theorem Measured.exists_leaf (measured : table.Measured) {id : TypeId} {slot : Nat}
    (inside : slot < table.count id) :
    ∃ path, table.Leaf id path ∧ table.slotOf id path = slot := by
  induction position : id.number.toNat using Nat.strongRecOn generalizing id slot with
  | ind number ih =>
    cases listed : table.entry id with
    | error fault =>
      have none : table.count id = 0 := by simp only [count, Table.slots, listed]
      omega
    | ok entry =>
      have known : table.get id = .ok entry.ty := get_eq_ok_iff.mpr ⟨entry.slots, listed⟩
      rw [measured.count_of_get known, span] at inside
      by_cases scalar : entry.ty.isScalar = true
      · rw [if_pos scalar] at inside
        exact ⟨[], .scalar known scalar, (Nat.lt_one_iff.mp inside).symm⟩
      · rw [if_neg scalar] at inside
        obtain ⟨index, member, found, low, high⟩ := exists_member_of_lt inside
        have part := Ty.mem_parts_of_mem_members (List.mem_of_getElem? found)
        have before := measured.earlier id entry listed member part
        rw [position] at before
        have within : slot - table.countAll (entry.ty.members.take index) < table.count member := by
          omega
        obtain ⟨path, leaf, reached⟩ := ih member.number.toNat before within rfl
        refine ⟨index :: path, .member known found leaf, ?_⟩
        rw [slotOf_cons known found, reached]
        omega

end CellMemory.Layout.Table
