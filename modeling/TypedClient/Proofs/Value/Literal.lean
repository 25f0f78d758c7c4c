import TypedClient.Proofs.Number.Integer
import TypedClient.Proofs.Value.Equality
import TypedClient.Proofs.Value.Part
import TypedClient.Text.Digit

/-! Values that can be written as literals, and the values with their integers as the doubles nearest to them. -/

namespace TypedClient

/-- A text can be told from what it is printed as for a key: it is no number, and ends with no line feed. -/
def TellsKey (s : String) : Prop :=
  ¬(s ≠ "" ∧ s.toList.all Text.isDigit) ∧ s.toList.getLast? ≠ some '\n'

instance (s : String) : Decidable (TellsKey s) :=
  inferInstanceAs (Decidable (_ ∧ _))

/-- A value made of null, truth values, integers, texts, lists, and maps under texts that can be told. -/
inductive Value.IsLiteral : Value → Prop
  | null : IsLiteral .null
  | bool (b : Bool) : IsLiteral (.bool b)
  | int (n : Int) : IsLiteral (.int n)
  | text (s : String) : IsLiteral (.text s)
  /-- A list may be one of anything. -/
  | list {items : List Value} (each : ∀ v ∈ items, IsLiteral v) : IsLiteral (.list items)
  /-- No two members of a map are under the same key. -/
  | map {members : Members} (keys : ∀ m ∈ members, ∃ s, m.1 = .text s ∧ TellsKey s)
      (distinct : (members.map Prod.fst).Nodup) (each : ∀ m ∈ members, IsLiteral m.2) :
      IsLiteral (.map members)

/-- A member under a new key comes behind those that are there. -/
theorem Members.insert_of_new {s : String} {v : Value} {members : Members}
    (texts : ∀ m ∈ members, ∃ t, m.1 = .text t) (new : .text s ∉ members.map Prod.fst) :
    Members.insert (.text s) v members = members ++ [(.text s, v)] := by
  induction members with
  | nil => rfl
  | cons first rest ih =>
    obtain ⟨key, value⟩ := first
    obtain ⟨⟨t, (rfl : key = .text t)⟩, later⟩ := List.forall_mem_cons.mp texts
    rw [List.map_cons, List.mem_cons, not_or] at new
    -- Texts are equal as keys only if they are the same.
    have other : (Scalar.text t).same (.text s) = false := beq_eq_false_iff_ne.mpr (Ne.symm new.1)
    rw [Members.insert, other, ih later new.2]
    rfl

/-- Entries under different texts are the members of the map that they make. -/
theorem Members.ofEntries_of_nodup {entries : Members} (texts : ∀ m ∈ entries, ∃ t, m.1 = .text t)
    (distinct : (entries.map Prod.fst).Nodup) : Members.ofEntries entries = entries := by
  -- The members that are there already are kept general.
  have general (known rest : Members) (texts : ∀ m ∈ known ++ rest, ∃ t, m.1 = .text t)
      (distinct : ((known ++ rest).map Prod.fst).Nodup) :
      rest.foldl (fun members entry => Members.insert entry.1 entry.2 members) known
        = known ++ rest := by
    induction rest generalizing known with
    | nil => simp
    | cons entry rest ih =>
      obtain ⟨earlier, ⟨t, named⟩, -⟩ :=
        (List.forall_mem_append.mp texts).imp_right List.forall_mem_cons.mp
      obtain ⟨key, value⟩ := entry
      cases named
      -- The key of the next entry is none of those before it.
      have new : .text t ∉ known.map Prod.fst := by
        rw [List.map_append, List.nodup_append] at distinct
        exact fun mem => distinct.2.2 _ mem _ List.mem_cons_self rfl
      rw [List.append_cons] at texts distinct ⊢
      rw [List.foldl_cons, insert_of_new earlier new, ih _ texts distinct]
  exact general [] entries texts distinct

/-- No map in the value has a member under the key for a prototype. -/
def Value.GivesNoPrototype (v : Value) : Prop :=
  v.Throughout fun part => ∀ members, part = .map members → ∀ m ∈ members, m.1 ≠ .text "__proto__"

/-- Every integer in the value is a double. -/
def Value.HasExactIntegers (v : Value) : Prop :=
  v.Throughout fun part => ∀ n, part = .int n → (Floating.ofInt n).IsDouble

mutual

/-- The value with the double nearest to each integer in the place of the integer. -/
def Value.inDoubles : Value → Value
  | .int n => .float (.ofInt n)
  | .list items => .list (itemsInDoubles items)
  | .map members => .map (membersInDoubles members)
  | v => v

/-- The items of a list with doubles for their integers. -/
def Value.itemsInDoubles : List Value → List Value
  | [] => []
  | v :: rest => v.inDoubles :: itemsInDoubles rest

/-- The members of a map with doubles for the integers of their values; the keys stay as they are. -/
def Value.membersInDoubles : Members → Members
  | [] => []
  | (key, v) :: rest => (key, v.inDoubles) :: membersInDoubles rest

end

namespace Value

/-- Each member is put in doubles by itself. -/
theorem membersInDoubles_eq_map (members : Members) :
    membersInDoubles members = members.map fun m => (m.1, m.2.inDoubles) := by
  induction members with
  | nil => rfl
  | cons member rest ih => rw [membersInDoubles, ih, List.map_cons]

/-- The keys stay as they are. -/
theorem keys_membersInDoubles (members : Members) :
    (membersInDoubles members).map Prod.fst = members.map Prod.fst := by
  rw [membersInDoubles_eq_map, List.map_map]
  rfl

/-- A list in doubles is equal to the list exactly if each item is. -/
theorem sameItems_inDoubles_iff (items : List Value) :
    sameItems (itemsInDoubles items) items = true ↔ ∀ v ∈ items, v.inDoubles.same v = true := by
  induction items with
  | nil => simp [itemsInDoubles, sameItems]
  | cons v rest ih => simp [itemsInDoubles, sameItems, ih]

/-- Members are found in a map exactly if each of them is. -/
theorem sameMembers_iff (members others : Members) : sameMembers members others = true ↔
    ∀ m ∈ members, ∃ w, Members.find? others m.1 = some w ∧ m.2.same w = true := by
  induction members with
  | nil => simp [sameMembers]
  | cons member rest ih =>
    cases found : Members.find? others member.1 <;> simp [sameMembers, found, ih]

end Value

/-- A member of a map with distinct texts as keys is what is found under its key. -/
theorem Members.find?_of_mem {members : Members} {m : Scalar × Value} (texts : ∀ m ∈ members, ∃ t, m.1 = .text t)
    (distinct : (members.map Prod.fst).Nodup) (mem : m ∈ members) : Members.find? members m.1 = some m.2 := by
  induction members with
  | nil => cases mem
  | cons first rest ih =>
    obtain ⟨apart, distinct⟩ := List.nodup_cons.mp distinct
    obtain ⟨⟨t, named⟩, later⟩ := List.forall_mem_cons.mp texts
    rcases List.mem_cons.mp mem with rfl | inside
    · -- Texts are equal to themselves.
      simp [find?, named, Scalar.same, Scalar.number?]
    · obtain ⟨u, other⟩ := later m inside
      have different : t ≠ u := by
        rintro rfl
        exact apart (named ▸ other ▸ List.mem_map_of_mem inside)
      have passed : first.1.same m.1 = false := by
        rw [named, other]
        exact beq_eq_false_iff_ne.mpr fun same => different (Scalar.text.inj same)
      have found := ih later distinct inside
      rw [find?] at found ⊢
      rwa [List.find?_cons_of_neg (by simp [passed])]

namespace Value

/-- The double nearest to an integer is equal to it exactly if the integer is a double. -/
theorem same_ofInt_iff (n : Int) : (float (.ofInt n)).same (int n) = true ↔ (Floating.ofInt n).IsDouble := by
  rw [← Double.value_ofInt_iff]
  change Floating.sameNumber (Double.ofInt n).value (.ofInt n) = true ↔ _
  rw [Floating.sameNumber, Bool.or_eq_true, beq_iff_eq, Bool.and_eq_true, or_iff_right_of_imp]
  -- Only zero is kept as zero, and it is a double.
  rintro ⟨-, zero⟩
  obtain rfl | nonzero := eq_or_ne n 0
  · exact (Double.value_ofInt_iff 0).mpr (Floating.isDouble_ofInt (by decide))
  · obtain ⟨m, k, same, -, some⟩ := Floating.exists_reduced (n < 0) (Int.natAbs_ne_zero.mpr nonzero) 0
    rw [Floating.ofInt, same] at zero
    exact absurd (beq_iff_eq.mp zero) some

/-- A literal value in doubles is equal to the value exactly if all its integers are doubles. -/
theorem same_inDoubles_iff {v : Value} (literal : v.IsLiteral) :
    v.inDoubles.same v = true ↔ v.HasExactIntegers := by
  have atom {s : Scalar} (same : s.same s = true) (other : ∀ n, s ≠ .int n) :
      (scalar s).same (scalar s) = true ↔ (scalar s).HasExactIntegers :=
    iff_of_true same ((throughout_scalar s).mpr fun n whole => absurd (Value.scalar.inj whole) (other n))
  induction literal with
  | null => exact atom rfl fun n => by simp
  | bool b => exact atom (by simp [Scalar.same, Scalar.number?, Floating.sameNumber]) fun n => by simp
  | text s => exact atom (by simp [Scalar.same, Scalar.number?]) fun n => by simp
  | int n =>
    rw [HasExactIntegers, throughout_scalar]
    exact (same_ofInt_iff n).trans ⟨fun exact m whole => by cases whole; exact exact, fun each => each n rfl⟩
  | @list items _ ih =>
    rw [HasExactIntegers, throughout_list, inDoubles, same, sameItems_inDoubles_iff, and_iff_right (by simp)]
    exact forall₂_congr ih
  | @map members keys distinct _ ih =>
    have texts : ∀ m ∈ members, ∃ t, m.1 = .text t := fun m mem => (keys m mem).imp fun _ both => both.1
    rw [HasExactIntegers, throughout_map, inDoubles, same, membersInDoubles_eq_map, and_iff_right (by simp),
      List.length_map, beq_self_eq_true, Bool.true_and, sameMembers_iff, List.forall_mem_map]
    -- What is found under the key of a member is its own value.
    refine forall₂_congr fun m mem => ?_
    rw [Members.find?_of_mem texts distinct mem]
    exact Iff.trans (by simp) (ih m mem)

end Value

end TypedClient
