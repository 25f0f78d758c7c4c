import Mathlib.Logic.Basic
import TypedClient.Json.Read
import TypedClient.Proofs.Value.Part

/-! The kinds of values that JSON texts denote. -/

namespace TypedClient

namespace Value

/-- A value that is of a kind which JSON has, its parts aside: a map has texts for keys. -/
def IsJsonKind : Value → Prop
  | .scalar (.moment _) | .scalar (.bytes _) | .set _ | .pair .. => False
  | .map members => ∀ entry ∈ members, ∃ s, entry.1 = .text s
  | _ => True

/-- A value of which every part is of a kind that JSON has. -/
def IsJson (v : Value) : Prop :=
  v.Throughout IsJsonKind

/-- A member with a text for its key and such a value. -/
def IsJsonEntry (entry : Scalar × Value) : Prop :=
  (∃ s, entry.1 = .text s) ∧ entry.2.IsJson

variable {items : List Value} {members : Members} {v : Value}

/-- A list is of a kind that JSON has if its items are. -/
theorem isJson_list (each : ∀ v ∈ items, v.IsJson) : IsJson (.list items) :=
  throughout_list.mpr ⟨trivial, each⟩

/-- A map is of a kind that JSON has exactly if its members are. -/
theorem isJson_map : IsJson (.map members) ↔ ∀ entry ∈ members, IsJsonEntry entry :=
  throughout_map.trans forall₂_and.symm

/-- A member that is set in a map of JSON leaves it one. -/
theorem isJsonEntry_insert {key : Scalar} (own : IsJsonEntry (key, v)) (each : ∀ entry ∈ members, IsJsonEntry entry) :
    ∀ entry ∈ Members.insert key v members, IsJsonEntry entry := by
  induction members with
  | nil => simpa [Members.insert] using own
  | cons first rest ih =>
    obtain ⟨k, old⟩ := first
    obtain ⟨head, others⟩ := List.forall_mem_cons.mp each
    rw [Members.insert]
    split
    · -- The key that is there keeps its spelling, which is a text too.
      exact List.forall_mem_cons.mpr ⟨⟨head.1, own.2⟩, others⟩
    · exact List.forall_mem_cons.mpr ⟨head, ih others⟩

/-- Members of JSON make a map of JSON, whichever of them have the same key. -/
theorem isJsonEntry_ofEntries (each : ∀ entry ∈ members, IsJsonEntry entry) :
    ∀ entry ∈ Members.ofEntries members, IsJsonEntry entry :=
  List.foldlRecOn members _ (motive := fun known => ∀ entry ∈ known, IsJsonEntry entry) (List.forall_mem_nil _)
    fun _ known entry mem => isJsonEntry_insert (each entry mem) known

end Value

namespace Json

open Value (IsJson IsJsonEntry)

variable {α β : Type} {text : List Char}

/-- Whatever comes of a reading is as asked. -/
def Gives (asked : α → Prop) (reading : Reading α) : Prop :=
  ∀ a, reading = .ok a → asked a

/-- What is known of a first reading may be used for the second one. -/
theorem Gives.bind {P : α → Prop} {Q : β → Prop} {x : Reading α} {f : α → Reading β} (first : Gives P x)
    (second : ∀ a, P a → Gives Q (f a)) : Gives Q (x >>= f) := by
  cases x with
  | error e => rintro _ ⟨⟩
  | ok a => exact second a (first a rfl)

/-- A reading that cannot fail gives what it is made of. -/
theorem Gives.pure {P : α → Prop} {a : α} (held : P a) : Gives P (pure a : Reading α) := by
  rintro _ ⟨⟩
  exact held

/-- Nothing comes of a failure. -/
theorem Gives.fail {P : α → Prop} (cause : JsonFault) (rest : List Char) : Gives P (fail cause rest) := by
  rintro _ ⟨⟩

/-- Nothing has to be known of a reading. -/
theorem Gives.any (reading : Reading α) : Gives (fun _ => True) reading :=
  fun _ _ => trivial

/-- A value without parts is a word with a meaning or a number. -/
theorem isJson_of_scalar? {scalar : Scalar} {rest : List Char} (found : scalar? text = some (.ok scalar, rest)) :
    IsJson (.scalar scalar) := by
  refine (Value.throughout_scalar _).mpr ?_
  -- Words are looked for first, and numbers only if there is none.
  rcases Option.or_eq_some_iff.mp found with word | ⟨-, number⟩
  · obtain ⟨⟨word, meaning⟩, listed, word⟩ := List.exists_of_findSome?_eq_some word
    obtain ⟨after, -, same⟩ := Option.map_eq_some_iff.mp word
    cases same
    have meanings : ∀ entry ∈ words, Value.IsJsonKind (.scalar entry.2) := by
      simp [words, Value.IsJsonKind]
    exact meanings _ listed
  · rw [numeral?] at number
    obtain ⟨⟨whole, afterWhole⟩, -, number⟩ := Option.bind_eq_some_iff.mp number
    dsimp only at number
    split at number
    · obtain ⟨integer, -⟩ := Prod.mk.inj (Option.some.inj number)
      rw [Json.integer] at integer
      split at integer <;> cases integer
      trivial
    · cases number
      trivial

/-- What is no string, list or map is read as a value without parts. -/
theorem isJson_of_bare (depth : Nat) (noString : ∀ rest, text ≠ '"' :: rest) (noList : ∀ rest, text ≠ '[' :: rest)
    (noMap : ∀ rest, text ≠ '\x7b' :: rest) : Gives (fun found => found.1.IsJson) (value depth text) := by
  rw [value.eq_def]
  split
  · next rest => exact absurd rfl (noString rest)
  · next rest => exact absurd rfl (noList rest)
  · next rest => exact absurd rfl (noMap rest)
  · split
    · next found =>
      rintro _ ⟨⟩
      exact isJson_of_scalar? found
    · rintro _ ⟨⟩
    · exact .fail _ _

/-- Every value that is read is of a kind that JSON has, as are all its parts. -/
theorem isJson_value (depth : Nat) (text : List Char) : Gives (fun found => found.1.IsJson) (value depth text) := by
  -- Items and entries are read behind others of which the same is known.
  induction depth, text using value.induct _
    (fun depth known text => (∀ entry ∈ known, IsJsonEntry entry) →
      Gives (fun found => ∀ entry ∈ found.1, IsJsonEntry entry) (entries depth known text))
    (fun depth known text => (∀ v ∈ known, v.IsJson) →
      Gives (fun found => ∀ v ∈ found.1, v.IsJson) (items depth known text)) with
  | case1 depth rest =>
    rw [value]
    exact (Gives.any _).bind fun found _ => .pure ((Value.throughout_scalar _).mpr trivial)
  | case2 depth rest ih =>
    rw [value]
    refine (Gives.any _).bind fun _ _ => ?_
    dsimp only
    split
    · exact .pure (Value.isJson_list (List.forall_mem_nil _))
    · exact (ih (List.forall_mem_nil _)).bind fun found each => .pure (Value.isJson_list each)
  | case3 depth rest ih =>
    rw [value]
    refine (Gives.any _).bind fun _ _ => ?_
    dsimp only
    split
    · exact .pure (Value.isJson_map.mpr (List.forall_mem_nil _))
    · exact (ih (List.forall_mem_nil _)).bind fun found each =>
        .pure (Value.isJson_map.mpr (Value.isJsonEntry_ofEntries each))
  | case4 depth text _ _ _ noString noList noMap => exact isJson_of_bare depth noString noList noMap
  | case5 depth text _ _ _ noString noList noMap => exact isJson_of_bare depth noString noList noMap
  | case6 depth text _ noString noList noMap => exact isJson_of_bare depth noString noList noMap
  | case7 depth known rest read ih before =>
    rw [entries]
    refine (Gives.any _).bind fun found _ => ?_
    obtain ⟨key, rest', shorter⟩ := found
    dsimp only
    split
    · next after colon =>
      refine (read rest' shorter after colon).bind fun found json => ?_
      obtain ⟨member, rest'', shorter'⟩ := found
      have known' : ∀ entry ∈ (Scalar.text (String.ofList key), member) :: known, IsJsonEntry entry :=
        List.forall_mem_cons.mpr ⟨⟨⟨_, rfl⟩, json⟩, before⟩
      dsimp only
      split
      · exact .pure fun entry mem => known' entry (List.mem_reverse.mp mem)
      · next others comma =>
        exact (ih key rest' shorter after colon member rest'' shorter' others comma known').bind fun _ each =>
          .pure each
      · exact .fail _ _
    · exact .fail _ _
  | case8 depth known text other before =>
    rw [entries.eq_def]
    split
    · next rest => exact absurd rfl (other rest)
    · exact .fail _ _
  | case9 depth known text read ih before =>
    rw [items]
    refine read.bind fun found json => ?_
    obtain ⟨item, rest, shorter⟩ := found
    have known' : ∀ v ∈ item :: known, v.IsJson := List.forall_mem_cons.mpr ⟨json, before⟩
    dsimp only
    split
    · exact .pure fun v mem => known' v (List.mem_reverse.mp mem)
    · next after comma => exact (ih item rest shorter after comma known').bind fun _ each => .pure each
    · exact .fail _ _

/-- A text that denotes a value denotes one of a kind that JSON has, as are all its parts. -/
theorem isJson_read {v : Value} (denoted : read text = .ok v) : v.IsJson := by
  -- Nothing but blanks may stand around the value, so the text denotes what is read first.
  have whole : Gives IsJson (document text) := by
    rw [document.eq_def]
    split
    · exact .fail _ _
    · refine (isJson_value 0 _).bind fun found json => ?_
      dsimp only
      split
      · exact .pure json
      · exact .fail _ _
  rw [read] at denoted
  split at denoted <;> cases denoted
  exact whole v ‹_›

end Json

end TypedClient
