import TypedClient.Text.Ranges
import TypedClient.Yaml.Build
import TypedClient.Yaml.Node

/-! The value that a YAML text denotes. -/

namespace TypedClient.Yaml

/-- The characters that a text may hold. -/
def allowedRanges : List (Nat × Nat) :=
  [(0x09, 0x0a), (0x0d, 0x0d), (0x20, 0x7e), (0x85, 0x85), (0xa0, 0xd7ff), (0xe000, 0xfffd),
   (0x10000, 0x10ffff)]

/-- The value that a text denotes, null if the text has no document. -/
def read (text : List Char) : Except Failure Value := do
  if !text.all fun c => Text.inRanges c.toNat allowedRanges then mistake .character
  match ← Graph.ofText text with
  | (graph, some root) => graph.value root
  | (_, none) => return .null

end TypedClient.Yaml
