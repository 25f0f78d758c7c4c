import Mathlib.Data.List.Nodup
import TypedClient.Client.Build
import TypedClient.Proofs.Outcome

/-! The names that the operations of a service are given, and when two of them meet after all. -/

namespace TypedClient

namespace Name

/-- The name for what comes after `earlier` others of the same name: itself, or with its number behind it. -/
def numbered (name : String) (earlier : Nat) : String :=
  if earlier = 0 then name else name ++ toString (earlier + 1)

/-- Each name with how many times it occurs before, among those that are seen already or in the list. -/
def ranked (seen : List String) : List String → List (String × Nat)
  | [] => []
  | name :: rest => (name, seen.count name) :: ranked (name :: seen) rest

variable {seen names : List String} {name other : String} {earlier otherEarlier : Nat}

/-- A number behind a name makes it another name. -/
theorem append_toString_ne (name : String) (number : Nat) : name ++ toString number ≠ name := by
  -- No numeral is empty.
  intro same
  have empty : toString number = "" := by simpa only [String.append_eq_left_iff] using same
  simpa using congrArg String.toList empty

/-- No two numbers have the same numeral. -/
theorem toString_inj {number otherNumber : Nat} (same : toString number = toString otherNumber) :
    number = otherNumber := by
  -- Reading the numeral gives the number back.
  simpa using congrArg (fun numeral => Nat.ofDigitChars 10 numeral.toList 0) same

/-- What is given to the holders of one name is different for each of them. -/
theorem numbered_inj : numbered name earlier = numbered name otherEarlier ↔ earlier = otherEarlier := by
  refine ⟨fun same => ?_, fun same => by rw [same]⟩
  rw [numbered, numbered] at same
  split at same <;> split at same
  · omega
  · exact absurd same.symm (append_toString_ne _ _)
  · exact absurd same (append_toString_ne _ _)
  · have numbers := toString_inj ((String.append_right_inj name).mp same)
    omega

/-- A name occurs once with each number of times that it can have occurred before. -/
theorem mem_ranked_iff : (name, earlier) ∈ ranked seen names ↔
    seen.count name ≤ earlier ∧ earlier < seen.count name + names.count name := by
  -- The names that are passed count as seen, so what is seen stays quantified over.
  induction names generalizing seen with
  | nil => simp [ranked]
  | cons first rest ih =>
    rw [ranked, List.mem_cons, ih, Prod.mk.injEq, List.count_cons, List.count_cons]
    by_cases same : first = name
    · subst same
      simp
      omega
    · simp [same, Ne.symm same]

/-- No two places of a list have both their name and the number of its earlier occurrences in common. -/
theorem nodup_ranked (seen names : List String) : (ranked seen names).Nodup := by
  induction names generalizing seen with
  | nil => exact .nil
  | cons first rest ih =>
    refine List.nodup_cons.mpr ⟨?_, ih _⟩
    -- Further on, the first name has occurred once more.
    rw [mem_ranked_iff, List.count_cons_self]
    omega

/-- One of those that have a name gets the number behind it: the second one, or a later one. -/
def GetsNumber (names : List String) (name : String) (number : Nat) : Prop :=
  2 ≤ number ∧ number ≤ names.count name

/-- The names that are made with numbers out of repeated ones are new and different from each other. -/
structure NumbersApart (names : List String) : Prop where
  /-- No name with its number is one of the names already. -/
  fresh : ∀ name number, GetsNumber names name number → name ++ toString number ∉ names
  /-- No two names become one name with their numbers. -/
  apart : ∀ name number other otherNumber, GetsNumber names name number →
    GetsNumber names other otherNumber → name ++ toString number = other ++ toString otherNumber →
    name = other

/-- Repeated names are told apart by numbers exactly if the numbers do not make them meet. -/
theorem nodup_numbered_iff (names : List String) :
    ((ranked [] names).map fun entry => numbered entry.1 entry.2).Nodup ↔ NumbersApart names := by
  -- Every place has a pair of its own, so it matters only which pairs give the same name.
  rw [List.nodup_map_iff_inj_on (nodup_ranked [] names)]
  have listed {name : String} {earlier : Nat} :
      (name, earlier) ∈ ranked [] names ↔ earlier < names.count name := by
    simp [mem_ranked_iff]
  constructor
  · intro injective
    have pair {name : String} {number : Nat} (numbers : GetsNumber names name number) :
        (name, number - 1) ∈ ranked [] names ∧ numbered name (number - 1) = name ++ toString number := by
      obtain ⟨repeated, occurs⟩ := numbers
      refine ⟨listed.mpr (by omega), ?_⟩
      rw [numbered, if_neg (by omega), Nat.sub_add_cancel (by omega)]
    refine ⟨fun name number numbers held => ?_, ?_⟩
    · -- The name that is met is one that stands at its first place as it is.
      have first : (name ++ toString number, 0) ∈ ranked [] names :=
        listed.mpr (List.count_pos_iff.mpr held)
      have same := injective _ (pair numbers).1 _ first ((pair numbers).2.trans (if_pos rfl).symm)
      exact append_toString_ne name number (Prod.mk.inj same).1.symm
    · intro name number other otherNumber numbers otherNumbers same
      have equal := injective _ (pair numbers).1 _ (pair otherNumbers).1
        (by rw [(pair numbers).2, (pair otherNumbers).2, same])
      exact (Prod.mk.inj equal).1
  · rintro ⟨fresh, apart⟩ ⟨name, earlier⟩ mem ⟨other, otherEarlier⟩ otherMem same
    rw [listed] at mem otherMem
    -- It is enough that the names agree, as the holders of one name are told apart.
    suffices agree : name = other by
      subst agree
      exact congrArg (Prod.mk name) (numbered_inj.mp same)
    have numbers {name : String} {earlier : Nat} (repeated : earlier ≠ 0)
        (occurs : earlier < names.count name) : GetsNumber names name (earlier + 1) := by
      constructor <;> omega
    have held {name : String} {earlier : Nat} (occurs : earlier < names.count name) : name ∈ names :=
      List.count_pos_iff.mp (by omega)
    dsimp only at same
    rw [numbered, numbered] at same
    split at same <;> split at same
    · exact same
    · next repeated =>
      exact absurd (same ▸ held mem) (fresh other _ (numbers repeated otherMem))
    · next repeated _ =>
      exact absurd (same ▸ held otherMem) (fresh name _ (numbers repeated mem))
    · next repeated otherRepeated =>
      exact apart _ _ _ _ (numbers repeated mem) (numbers otherRepeated otherMem) same

end Name

namespace Operation

/-- Counting gives every operation the name that is due to what comes before it. -/
theorem names_appendCounts (seen : List String) (operations : List Operation) :
    (appendCounts seen operations).map name
      = (Name.ranked seen (operations.map name)).map fun entry => Name.numbered entry.1 entry.2 := by
  induction operations generalizing seen with
  | nil => rfl
  | cons operation rest ih =>
    rw [appendCounts, List.map_cons, ih]
    rfl

/--
The operations of a list get names of their own exactly if the numbers that are put behind repeated
names, once the methods are put behind them, make none of them meet another one.
-/
theorem nodup_names_distinguish_iff (operations : List Operation) :
    ((distinguish operations).map name).Nodup ↔
      Name.NumbersApart ((appendMethods [] operations).map name) := by
  rw [distinguish, names_appendCounts, Name.nodup_numbered_iff]

/-- Three operations of one name and a fourth whose name is the one that the third is given. -/
theorem not_nodup_names_distinguish_fetch :
    let operation (id : String) : Value := .map [(.text "operationId", .text id)]
    let document : Value := .map [(.text "swagger", "2.0"), (.text "paths", .map [
      (.text "/a", .map [(.text "get", operation "fetch")]),
      (.text "/b", .map [(.text "post", operation "fetch")]),
      (.text "/c", .map [(.text "post", operation "fetch")]),
      (.text "/d", .map [(.text "get", operation "fetchPost2")])])]
    ∃ services, Service.all document {} = .ok services ∧
      (services.map fun service => service.operations.map name)
        = [["fetch", "fetchPost", "fetchPost2", "fetchPost2"]] ∧
      ∃ service ∈ services, ¬ (service.operations.map name).Nodup := by
  intro operation document
  obtain ⟨services, built, seen⟩ := Outcome.exists_of_any (x := Service.all document {})
    (p := fun services =>
      decide ((services.map fun service => service.operations.map name)
          = [["fetch", "fetchPost", "fetchPost2", "fetchPost2"]]) &&
        services.any fun service => ¬ (service.operations.map name).Nodup)
    (by decide +kernel)
  simp only [Bool.and_eq_true, decide_eq_true_eq, List.any_eq_true] at seen
  exact ⟨services, built, seen⟩

end Operation

end TypedClient
