import TypedClient.Value.Moment

/-! Document values: scalars, lists, maps whose members keep their order, sets and pairs. -/

namespace TypedClient

/-- A value without parts, which may also be the key of a member. -/
inductive Scalar
  | null
  | bool (b : Bool)
  | int (n : Int)
  | float (x : Double)
  | text (s : String)
  | moment (m : Moment)
  | bytes (content : List UInt8)
  deriving DecidableEq, Repr

/-- A document value; the keys of a map are pairwise different as numbers and texts. -/
inductive Value
  | scalar (s : Scalar)
  | list (items : List Value)
  | map (members : List (Scalar × Value))
  /-- Scalars that are pairwise different, in the order of their texts. -/
  | set (items : List Scalar)
  /-- A key with its value, as an item of a list of entries. -/
  | pair (key value : Value)
  deriving Repr

/-- The members of a map, in the order of their keys' first appearance. -/
abbrev Members := List (Scalar × Value)

namespace Value

/-- The absent value. -/
@[match_pattern] abbrev null : Value := .scalar .null

/-- A truth value. -/
@[match_pattern] abbrev bool (b : Bool) : Value := .scalar (.bool b)

/-- An integer of any size. -/
@[match_pattern] abbrev int (n : Int) : Value := .scalar (.int n)

/-- A floating-point number. -/
@[match_pattern] abbrev float (x : Double) : Value := .scalar (.float x)

/-- A text. -/
@[match_pattern] abbrev text (s : String) : Value := .scalar (.text s)

instance : Inhabited Value := ⟨null⟩

instance : Coe String Value := ⟨text⟩

end Value

/-- Whether a scalar counts as true: it is neither null nor false nor zero nor empty. -/
def Scalar.truthy : Scalar → Bool
  | null => false
  | bool b => b
  | int n => n != 0
  | float x => !x.isZero
  | text s => s != ""
  | moment _ => true
  | bytes content => !content.isEmpty

namespace Value

/-- Whether a value counts as true: a collection does unless it is empty. -/
def truthy : Value → Bool
  | scalar s => s.truthy
  | list items => !items.isEmpty
  | map members => !members.isEmpty
  | set items => !items.isEmpty
  | pair _ _ => true

/-- The value if it counts as true, else the other one. -/
def orElse (v other : Value) : Value :=
  if v.truthy then v else other

/-- The value if it counts as true, else null. -/
def orNull (v : Value) : Value :=
  v.orElse null

/-- Whether the value is the truth value true itself. -/
def isTrue : Value → Bool
  | bool b => b
  | _ => false

mutual

/-- The number of scalars and collections in a value, the keys of maps and the items of sets aside. -/
def size : Value → Nat
  | scalar _ | set _ => 1
  | list items => sizeOfItems items + 1
  | map members => sizeOfMembers members + 1
  | pair key value => key.size + value.size + 1

/-- The sizes of the items of a list together. -/
def sizeOfItems : List Value → Nat
  | [] => 0
  | v :: rest => v.size + sizeOfItems rest

/-- The sizes of the values of members together. -/
def sizeOfMembers : Members → Nat
  | [] => 0
  | (_, v) :: rest => v.size + sizeOfMembers rest

end

end Value

namespace Members

/-- The value under a text key, if there is one. -/
def get? (members : Members) (key : String) : Option Value :=
  members.lookup (.text key)

/-- The value under a text key, null standing for an absent one. -/
def get (members : Members) (key : String) : Value :=
  (members.get? key).getD .null

/-- Whether there is a member with the text key. -/
def has (members : Members) (key : String) : Bool :=
  (members.get? key).isSome

end Members

end TypedClient
