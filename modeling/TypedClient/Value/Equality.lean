import TypedClient.Value.Basic

/-! Equality of document values, under which numbers and truth values compare by their magnitude. -/

namespace TypedClient

/-- The number a scalar counts as; true counts as one and false as zero. -/
def Scalar.number? : Scalar → Option Floating
  | bool b => some (Floating.ofInt (if b then 1 else 0))
  | int n => some (Floating.ofInt n)
  | float x => some x.value
  | _ => none

/-- Equality of scalars: numbers by magnitude, moments as instants, all else by kind and content. -/
def Scalar.same (a b : Scalar) : Bool :=
  match a, b with
  | moment m, moment n => m.same n
  | _, _ =>
    match a.number?, b.number? with
    | some x, some y => x.sameNumber y
    | none, none => a == b
    | _, _ => false

namespace Members

/-- The value under a key that is equal to the given one. -/
def find? (members : Members) (key : Scalar) : Option Value :=
  (List.find? (fun member => member.1.same key) members).map Prod.snd

/-- Sets what is under a key; a key that is there already keeps its place and spelling. -/
def insert {α : Type} (key : Scalar) (value : α) : List (Scalar × α) → List (Scalar × α)
  | [] => [(key, value)]
  | (k, v) :: rest => if k.same key then (k, value) :: rest else (k, v) :: insert key value rest

/-- The map of a sequence of members, where the last of several equal keys gives the value. -/
def ofEntries (entries : List (Scalar × Value)) : Members :=
  entries.foldl (fun members entry => insert entry.1 entry.2 members) []

end Members

namespace Value

mutual

/-- Equality of values: lists item by item, maps and sets without regard to order. -/
def same : Value → Value → Bool
  | scalar a, scalar b => a.same b
  | list xs, list ys => sameItems xs ys
  | map ms, map ns => ms.length == ns.length && sameMembers ms ns
  | set xs, set ys => xs.length == ys.length && xs.all fun x => ys.any x.same
  | pair k v, pair l w => k.same l && v.same w
  | _, _ => false

/-- Equality of lists, item by item. -/
def sameItems : List Value → List Value → Bool
  | [], [] => true
  | x :: xs, y :: ys => x.same y && sameItems xs ys
  | _, _ => false

/-- Whether every member of the first map is matched by one of the second. -/
def sameMembers : Members → Members → Bool
  | [], _ => true
  | (k, v) :: rest, ns =>
    (match Members.find? ns k with
      | some w => v.same w
      | none => false) && sameMembers rest ns

end

instance : BEq Value := ⟨same⟩

/-- Whether a list holds a value equal to the given one. -/
def isIn (v : Value) (items : List Value) : Bool :=
  items.any fun item => item.same v

/-- The values of a list, each once, at its first place. -/
def distinct (items : List Value) : List Value :=
  items.foldl (fun kept v => if v.isIn kept then kept else kept ++ [v]) []

end Value

end TypedClient
