import Mathlib.Data.List.Nodup
import TypedClient.Proofs.Schema.Enumerable
import TypedClient.Proofs.Schema.Form
import TypedClient.Proofs.Value.Equality

/-! Enum values and their names: when each value of a list comes once, with a name that stands beside it. -/

namespace TypedClient

namespace Value

/-- Whether a value is one of the two truth values. -/
def isTruth : Value → Bool
  | .bool _ => true
  | _ => false

/-- Equality of scalars as they are written: unlike equality as values, it tells truth values from numbers. -/
def sameWritten (a b : Value) : Bool :=
  a.same b && a.isTruth == b.isTruth

/-- The values of a list that are not written alike, each at its first place. -/
def distinctWritten (values : List Value) : List Value :=
  values.foldl (fun kept v => if kept.any (·.sameWritten v) then kept else kept ++ [v]) []

/-- A further value is kept unless it is written as one that was kept before. -/
theorem distinctWritten_append_singleton (values : List Value) (v : Value) :
    distinctWritten (values ++ [v])
      = if (distinctWritten values).any (·.sameWritten v) then distinctWritten values
        else distinctWritten values ++ [v] :=
  List.foldl_append

/-- What has a place among the different values of a list comes as a new value somewhere in the list. -/
theorem getElem?_distinct {values : List Value} {v : Value} {place : Nat} :
    (distinct values)[place]? = some v ↔ ∃ k, values[k]? = some v ∧
      v.isIn (distinct (values.take k)) = false ∧ (distinct (values.take k)).length = place := by
  -- The list is gone through from its first value, so the last one is the one to tell from the others.
  induction values using List.reverseRecOn with
  | nil => simp [distinct]
  | append_singleton values last ih =>
    have places : (∃ k, (values ++ [last])[k]? = some v ∧
          v.isIn (distinct ((values ++ [last]).take k)) = false ∧
          (distinct ((values ++ [last]).take k)).length = place) ↔
        (distinct values)[place]? = some v ∨
          last = v ∧ v.isIn (distinct values) = false ∧ (distinct values).length = place := by
      rw [ih]
      constructor
      · rintro ⟨k, found, fresh, count⟩
        rcases Nat.lt_trichotomy k values.length with earlier | rfl | beyond
        · rw [List.getElem?_append_left earlier] at found
          rw [List.take_append_of_le_length (Nat.le_of_lt earlier)] at fresh count
          exact .inl ⟨k, found, fresh, count⟩
        · rw [List.take_left] at fresh count
          exact .inr ⟨by simpa using found, fresh, count⟩
        · rw [List.getElem?_eq_none (by simp; omega)] at found
          cases found
      · rintro (⟨k, found, fresh, count⟩ | ⟨rfl, fresh, count⟩)
        · have earlier := (List.getElem?_eq_some_iff.mp found).1
          refine ⟨k, ?_, ?_, ?_⟩
          · rwa [List.getElem?_append_left earlier]
          · rwa [List.take_append_of_le_length (Nat.le_of_lt earlier)]
          · rwa [List.take_append_of_le_length (Nat.le_of_lt earlier)]
        · exact ⟨values.length, by simp, by simpa using fresh, by simpa using count⟩
    rw [places, Schema.distinct_append_singleton]
    split
    · next known =>
      refine (or_iff_left ?_).symm
      rintro ⟨rfl, fresh, -⟩
      cases known.symm.trans fresh
    · next fresh =>
      by_cases inside : place < (distinct values).length
      · rw [List.getElem?_append_left inside]
        exact (or_iff_left fun held => absurd held.2.2 (by omega)).symm
      · rw [List.getElem?_append_right (by omega), List.getElem?_eq_none (l := distinct values) (by omega),
          List.getElem?_singleton]
        by_cases next : (distinct values).length = place
        · subst next
          simpa using fun same : last = v => same ▸ Bool.eq_false_iff.mpr fresh
        · simp [next, show place - (distinct values).length ≠ 0 by omega]

end Value

namespace Schema

section Labels

variable {values names : List Value} {members : Members} {enum : List EnumValue} {v w : Value} {k : Nat}

/-- A value of an enum comes as a new one at a place of a list. -/
structure IsFirst (values : List Value) (k : Nat) (v : Value) : Prop where
  found : values[k]? = some v
  enumerable : isEnumerable v = true
  fresh : ∀ w ∈ values.take k, w.same v = false

/-- How many different values come before a place. -/
def place (values : List Value) (k : Nat) : Nat :=
  (Value.distinct (values.take k)).length

/-- Enum values are what a list of values and the names beside it ask for. -/
structure Faithful (values names : List Value) (enum : List EnumValue) : Prop where
  /-- The values are the texts, numbers and truth values of the list, each once and at its first place. -/
  distinct : enum.map EnumValue.value = Value.distinctWritten (values.filter isEnumerable)
  /-- Each value has a name that stands beside it. -/
  named : ∀ e ∈ enum, ∃ (k : Nat) (v : Value), values[k]? = some v ∧ e.value.sameWritten v = true ∧
    names[k]? = some e.customName

/-- No truth value of a list is equal to a number of it. -/
def Unmixed (values : List Value) : Prop :=
  ∀ a ∈ values, ∀ b ∈ values, isEnumerable a = true → a.same b = true → a.isTruth = b.isTruth

/-- The name at the place of a new value among the different ones is a name that stands beside the value. -/
def Aligned (values names : List Value) : Prop :=
  ∀ k v, IsFirst values k v → ∃ (l : Nat) (w : Value), values[l]? = some w ∧ v.sameWritten w = true ∧
    names[l]? = names[place values k]?

/-- No value comes again before a new value of an enum comes. -/
def RepeatsLast (values : List Value) : Prop :=
  ∀ k v, IsFirst values k v → (values.take k).Pairwise fun a b => a.same b = false

/-- Among the different values of a list there is one that a value of an enum is equal to if there is one in the
list. -/
theorem isIn_distinct (enumerable : isEnumerable v = true) (values : List Value) :
    v.isIn (Value.distinct values) = v.isIn values := by
  induction values using List.reverseRecOn with
  | nil => rfl
  | append_singleton values last ih =>
    have added (values : List Value) : v.isIn (values ++ [last]) = (v.isIn values || last.same v) := by
      simp [Value.isIn]
    rw [distinct_append_singleton, added, ← ih]
    split
    · next known =>
      -- What stands for the last value stands for whatever this one stands for.
      obtain ⟨kept, inside, equal⟩ := List.any_eq_true.mp known
      suffices covered : last.same v = true → v.isIn (Value.distinct values) = true by
        cases same : last.same v <;> simp_all
      intro same
      have lastEnumerable : isEnumerable last = true := (isEnumerable_of_same same).trans enumerable
      refine List.any_eq_true.mpr ⟨kept, inside, ?_⟩
      rw [Value.same_iff_essence (.inr lastEnumerable)] at equal
      rw [Value.same_iff_essence (.inr enumerable)] at same ⊢
      exact equal.trans same
    · rw [added]

/-- A value of an enum comes as a new one where none of the different values before it is equal to it. -/
theorem isFirst_iff : IsFirst values k v ↔
    isEnumerable v = true ∧ values[k]? = some v ∧ v.isIn (Value.distinct (values.take k)) = false := by
  constructor
  · rintro ⟨found, enumerable, fresh⟩
    refine ⟨enumerable, found, ?_⟩
    rw [isIn_distinct enumerable]
    simpa [Value.isIn] using fresh
  · rintro ⟨enumerable, found, fresh⟩
    rw [isIn_distinct enumerable] at fresh
    exact ⟨found, enumerable, by simpa [Value.isIn] using fresh⟩

/-- The enum values are made at the places of new values. -/
theorem mem_entries_iff {entry : Value × Nat} :
    entry ∈ (Value.distinct values).zipIdx.filter (fun entry => isEnumerable entry.1) ↔
      ∃ k, IsFirst values k entry.1 ∧ place values k = entry.2 := by
  rw [List.mem_filter, List.mem_zipIdx_iff_getElem?, Value.getElem?_distinct]
  simp only [isFirst_iff, place]
  constructor
  · rintro ⟨⟨k, found, fresh, count⟩, enumerable⟩
    exact ⟨k, ⟨enumerable, found, fresh⟩, count⟩
  · rintro ⟨k, ⟨enumerable, found, fresh⟩, count⟩
    exact ⟨⟨k, found, fresh, count⟩, enumerable⟩

/-- No more values are different than there are. -/
theorem place_le (values : List Value) (k : Nat) : place values k ≤ k :=
  Nat.le_trans (foldl_keep_sublist Value.same (values.take k)).length_le (List.length_take_le k values)

/-- A new value comes at a place of the list. -/
theorem IsFirst.lt (first : IsFirst values k v) : k < values.length :=
  (List.getElem?_eq_some_iff.mp first.found).1

/-- A list of labels has one at each of its places, and null behind them. -/
theorem labelAt_list (labels : List Value) (k : Nat) : labelAt (.list labels) k = .ok (labels[k]?.getD .null) := by
  have natural : ¬ (k : Int) < 0 := by omega
  by_cases inside : k < labels.length <;>
    simp [labelAt, Value.count, Value.part, Value.elements, Value.itemAt, inside, natural]

/-- If there are values, the names beside them are the labels. -/
theorem labels_eq (named : members.get "x-enum-varnames" = .list names) (lengths : names.length = values.length)
    (some : values ≠ []) :
    ((members.get "x-enum-varnames").orElse (members.get "x-enumNames")).orElse (.list []) = .list names := by
  have truthy : (Value.list names).truthy = true := by
    cases names with
    | nil => exact absurd (List.length_eq_zero_iff.mp lengths.symm) some
    | cons => rfl
  simp only [named, Value.orElse, truthy, if_true]

/-- The values of an enum are in the list at the places of new values, with the names that are at the places of these
among the different values. -/
theorem labels_of_enumValues (listed : members.get "enum" = .list values)
    (named : members.get "x-enum-varnames" = .list names) (lengths : names.length = values.length)
    (found : enumValues members = .ok enum) :
    (∀ e ∈ enum, ∃ k, IsFirst values k e.value ∧ names[place values k]? = some e.customName) ∧
      ∀ k v, IsFirst values k v → ∃ e ∈ enum, e.value = v ∧ names[place values k]? = some e.customName := by
  rw [enumValues, listed] at found
  -- A label is looked up by the place among the different values, where there is a name.
  have label {entry : Value × Nat} {e : EnumValue} {descriptions : Value} {k : Nat}
      (first : IsFirst values k entry.1) (same : place values k = entry.2)
      (made : enumValueAt (((members.get "x-enum-varnames").orElse (members.get "x-enumNames")).orElse (.list []))
        descriptions entry = .ok e) : e.value = entry.1 ∧ names[place values k]? = some e.customName := by
    have inside : place values k < names.length := by
      have := place_le values k
      have := first.lt
      omega
    have some : values ≠ [] := List.ne_nil_of_length_pos (Nat.zero_lt_of_lt first.lt)
    rw [enumValueAt, labels_eq named lengths some, ← same, labelAt_list] at made
    simp only [Outcome.bind_eq_ok, Outcome.pure_eq_ok] at made
    obtain ⟨name, found, description, -, rfl⟩ := made
    cases found
    exact ⟨rfl, by simp [inside]⟩
  constructor
  · intro e mem
    obtain ⟨entry, inside, made⟩ := Outcome.exists_item found mem
    obtain ⟨k, first, same⟩ := mem_entries_iff.mp inside
    obtain ⟨value, name⟩ := label first same made
    exact ⟨k, value ▸ first, name⟩
  · intro k v first
    have placed : (v, place values k) ∈
        (Value.distinct values).zipIdx.filter fun entry => isEnumerable entry.1 :=
      mem_entries_iff.mpr ⟨k, first, rfl⟩
    obtain ⟨e, mem, made⟩ := Outcome.exists_result found placed
    exact ⟨e, mem, label first rfl made⟩

/-- Names stand beside the values that they are given to exactly if they are aligned. -/
theorem named_iff_aligned (listed : members.get "enum" = .list values)
    (named : members.get "x-enum-varnames" = .list names) (lengths : names.length = values.length)
    (found : enumValues members = .ok enum) :
    (∀ e ∈ enum, ∃ (k : Nat) (v : Value), values[k]? = some v ∧ e.value.sameWritten v = true ∧
      names[k]? = some e.customName) ↔ Aligned values names := by
  obtain ⟨each, every⟩ := labels_of_enumValues listed named lengths found
  constructor
  · intro beside k v first
    obtain ⟨e, mem, rfl, name⟩ := every k v first
    obtain ⟨l, w, at_, same, also⟩ := beside e mem
    exact ⟨l, w, at_, same, also.trans name.symm⟩
  · intro aligned e mem
    obtain ⟨k, first, name⟩ := each e mem
    obtain ⟨l, w, at_, same, also⟩ := aligned k e.value first
    exact ⟨l, w, at_, same, also.trans name⟩

/-- A value of an enum is written as it is. -/
theorem sameWritten_self (enumerable : isEnumerable v = true) : v.sameWritten v = true := by
  simp [Value.sameWritten, same_self_of_isEnumerable enumerable]

/-- Values that are different are written differently, and all of those are different if no truth value is equal to a
number. -/
theorem filter_distinct_of_unmixed (unmixed : Unmixed values) :
    (Value.distinct values).filter isEnumerable = Value.distinctWritten (values.filter isEnumerable) := by
  induction values using List.reverseRecOn with
  | nil => rfl
  | append_singleton values last ih =>
    have earlier := ih fun a first b second => unmixed a (List.mem_append_left _ first) b
      (List.mem_append_left _ second)
    rw [distinct_append_singleton, List.filter_append]
    cases enumerable : isEnumerable last with
    | false =>
      -- What cannot be in an enum is left out on both sides, be it new or not.
      have one : [last].filter isEnumerable = [] := by simp [enumerable]
      rw [one, List.append_nil, ← earlier]
      split
      · rfl
      · rw [List.filter_append, one, List.append_nil]
    | true =>
      have one : [last].filter isEnumerable = [last] := by simp [enumerable]
      -- What is equal to the last value is written as it is.
      have alike : ((Value.distinct values).filter isEnumerable).any (·.sameWritten last)
          = last.isIn (Value.distinct values) := by
        rw [Bool.eq_iff_iff, Value.isIn, List.any_eq_true, List.any_eq_true]
        constructor
        · rintro ⟨kept, inside, same⟩
          exact ⟨kept, List.mem_of_mem_filter inside, (Bool.and_eq_true_iff.mp same).1⟩
        · rintro ⟨kept, inside, same⟩
          have keptEnumerable := (isEnumerable_of_same same).trans enumerable
          have listed := (foldl_keep_sublist Value.same values).subset inside
          have truth := unmixed kept (List.mem_append_left _ listed) last (by simp) keptEnumerable same
          exact ⟨kept, List.mem_filter.mpr ⟨inside, keptEnumerable⟩, by simp [Value.sameWritten, same, truth]⟩
      rw [one, Value.distinctWritten_append_singleton, ← earlier, alike]
      split
      · rfl
      · rw [List.filter_append, one]

/-- The values of an enum are those that are written differently exactly if no truth value is equal to a number. -/
theorem filter_distinct_iff (values : List Value) :
    (Value.distinct values).filter isEnumerable = Value.distinctWritten (values.filter isEnumerable) ↔
      Unmixed values := by
  refine ⟨fun same a first b second enumerable equal => ?_, filter_distinct_of_unmixed⟩
  have reflexive : ∀ v ∈ values.filter isEnumerable, v.sameWritten v = true := fun v mem =>
    sameWritten_self (List.mem_filter.mp mem).2
  have covers := (KeepsFirst.foldl reflexive).covers
  have alsoEnumerable : isEnumerable b = true := (isEnumerable_of_same equal).symm.trans enumerable
  -- Both values are written as one that is kept, and no two of these are equal.
  obtain ⟨u, keptU, alikeU⟩ := covers a (List.mem_filter.mpr ⟨first, enumerable⟩)
  obtain ⟨w, keptW, alikeW⟩ := covers b (List.mem_filter.mpr ⟨second, alsoEnumerable⟩)
  simp only [Value.sameWritten, Bool.and_eq_true, beq_iff_eq] at alikeU alikeW
  have apart : (((Value.distinct values).filter isEnumerable).map Value.essence).Nodup := by
    refine List.pairwise_map.mpr (((Value.pairwise_distinct values).filter isEnumerable).imp_of_mem ?_)
    intro u w mem _ apart alike
    rw [(Value.same_iff_essence (.inl (List.mem_filter.mp mem).2)).mpr alike] at apart
    cases apart
  have one : u = w := by
    refine List.inj_on_of_nodup_map apart (same ▸ keptU) (same ▸ keptW) ?_
    rw [(Value.same_iff_essence (.inr enumerable)).mp alikeU.1,
      (Value.same_iff_essence (.inl enumerable)).mp equal,
      (Value.same_iff_essence (.inr alsoEnumerable)).mp alikeW.1]
  rw [← alikeU.2, ← alikeW.2, one]

/-- If no two names are the same, names are aligned exactly if no value comes again before a new one. -/
theorem aligned_iff_repeatsLast (lengths : names.length = values.length) (apart : names.Nodup) :
    Aligned values names ↔ RepeatsLast values := by
  constructor
  · intro aligned k v first
    obtain ⟨l, w, found, alike, same⟩ := aligned k v first
    have inside : l < names.length := lengths ▸ (List.getElem?_eq_some_iff.mp found).1
    obtain rfl : l = place values k := (List.getElem?_inj inside apart).mp same
    -- The value does not come before it is new, so all values before it are different.
    have reached : k ≤ place values k := by
      by_contra before
      have mem : w ∈ values.take k := List.mem_iff_getElem?.mpr
        ⟨place values k, by rwa [List.getElem?_take_of_lt (by omega)]⟩
      have equal := (Bool.and_eq_true_iff.mp alike).1
      rw [same_comm_of_isEnumerable first.enumerable, first.fresh w mem] at equal
      cases equal
    have whole : Value.distinct (values.take k) = values.take k :=
      (foldl_keep_sublist Value.same (values.take k)).eq_of_length_le
        (Nat.le_trans (List.length_take_le k values) reached)
    exact whole ▸ Value.pairwise_distinct (values.take k)
  · intro last k v first
    have whole : Value.distinct (values.take k) = values.take k := foldl_keep_of_pairwise (last k v first)
    have count : place values k = k := by
      rw [place, whole, List.length_take]
      exact Nat.min_eq_left (Nat.le_of_lt first.lt)
    exact ⟨k, v, first.found, sameWritten_self first.enumerable, by rw [count]⟩

/-- A schema that lists values and as many names has enum values, which are faithful exactly if no truth value of the
list is equal to a number of it and the names are aligned; if no two names are the same, exactly if no value comes
again before a new one. -/
theorem faithful_iff (listed : members.get "enum" = .list values)
    (named : members.get "x-enum-varnames" = .list names) (lengths : names.length = values.length)
    (described : ∀ k, ∃ label, labelAt ((members.get "x-enum-descriptions").orElse (.list [])) k = .ok label) :
    ∃ enum, enumValues members = .ok enum ∧
      (Faithful values names enum ↔ Unmixed values ∧ Aligned values names) ∧
      (names.Nodup → (Aligned values names ↔ RepeatsLast values)) := by
  obtain ⟨enum, found⟩ : ∃ enum, enumValues members = .ok enum := by
    rw [enumValues, listed]
    refine Outcome.exists_mapM fun entry mem => ?_
    obtain ⟨k, first, -⟩ := mem_entries_iff.mp mem
    obtain ⟨description, found⟩ := described entry.2
    have some : values ≠ [] := List.ne_nil_of_length_pos (Nat.zero_lt_of_lt first.lt)
    rw [enumValueAt, labels_eq named lengths some, labelAt_list, found]
    exact ⟨_, rfl⟩
  refine ⟨enum, found, ?_, aligned_iff_repeatsLast lengths⟩
  rw [← filter_distinct_iff, ← values_eq_of_enumValues listed found,
    ← named_iff_aligned listed named lengths found]
  exact ⟨fun faithful => ⟨faithful.distinct, faithful.named⟩, fun both => ⟨both.1, both.2⟩⟩

/-- A text and a number that comes twice, with a name for each place. -/
theorem faithful_iff_last :
    let values : List Value := ["a", .int 1, .int 1]
    let names : List Value := ["A", "One", "Uno"]
    let members : Members := [(.text "enum", .list values), (.text "x-enum-varnames", .list names)]
    members.get "enum" = .list values ∧ members.get "x-enum-varnames" = .list names ∧
      names.length = values.length ∧
      (∀ k, ∃ label, labelAt ((members.get "x-enum-descriptions").orElse (.list [])) k = .ok label) ∧
      names.Nodup ∧ ∃ enum, enumValues members = .ok enum ∧ Faithful values names enum := by
  intro values names members
  have described : ∀ k, ∃ label, labelAt ((members.get "x-enum-descriptions").orElse (.list [])) k = .ok label :=
    fun k => ⟨_, labelAt_list [] k⟩
  have apart : names.Nodup := by simp [names]
  have listed : members.get "enum" = .list values := rfl
  have named : members.get "x-enum-varnames" = .list names := rfl
  obtain ⟨enum, found, faithful, aligned⟩ := faithful_iff listed named rfl described
  refine ⟨rfl, rfl, rfl, described, apart, enum, found, faithful.mpr ⟨?_, (aligned apart).mpr ?_⟩⟩
  · unfold Unmixed
    decide +kernel
  · intro k v first
    match k with
    | 0 => exact .nil
    | 1 => exact List.pairwise_singleton _ _
    | 2 =>
      -- The number is no new value any more.
      cases first.found
      exact absurd (first.fresh (.int 1) (by simp [values])) (by decide +kernel)
    | k + 3 => cases first.found

/-- A text that comes twice gives the next one the name of its second place, and true is not told from one. -/
theorem not_faithful_repeated :
    (∃ enum, enumValues [(.text "enum", .list ["a", "a", "b"]),
        (.text "x-enum-varnames", .list ["A1", "A2", "B"])] = .ok enum ∧
      ¬ Faithful ["a", "a", "b"] ["A1", "A2", "B"] enum) ∧
    ∃ enum, enumValues [(.text "enum", .list [.int 1, .bool true]),
        (.text "x-enum-varnames", .list ["One", "Yes"])] = .ok enum ∧
      ¬ Faithful [.int 1, .bool true] ["One", "Yes"] enum := by
  constructor
  · refine ⟨[{ value := "a", customName := "A1" }, { value := "b", customName := "A2" }], rfl, fun faithful => ?_⟩
    obtain ⟨k, v, found, alike, name⟩ := faithful.named { value := "b", customName := "A2" } (by simp)
    -- The name that the second text is given stands beside the first one only.
    match k with
    | 0 | 2 => simp at name
    | 1 =>
      cases found
      exact absurd alike (by decide)
    | k + 3 => cases found
  · obtain ⟨enum, found, one⟩ := Outcome.exists_of_any
      (x := enumValues [(.text "enum", .list [.int 1, .bool true]),
        (.text "x-enum-varnames", .list ["One", "Yes"])])
      (p := fun enum => enum.length == 1) (by decide +kernel)
    refine ⟨enum, found, fun faithful => ?_⟩
    have lengths := congrArg List.length faithful.distinct
    rw [List.length_map, beq_iff_eq.mp one] at lengths
    exact absurd lengths (by decide +kernel)

end Labels

end Schema

end TypedClient
