/-! Codes of texts: characters, and halves of the pairs of 16-bit units that denote characters. -/

namespace TypedClient.Text

/-- Whether a code is the first half of a pair. -/
def isHighHalf (code : Nat) : Bool :=
  0xd800 ≤ code && code < 0xdc00

/-- Whether a code is the second half of a pair. -/
def isLowHalf (code : Nat) : Bool :=
  0xdc00 ≤ code && code < 0xe000

/-- Whether a code is half of a pair, and so no character. -/
def isHalf (code : Nat) : Bool :=
  0xd800 ≤ code && code < 0xe000

/-- The code of the character that two halves denote. -/
def joinHalves (high low : Nat) : Nat :=
  0x10000 + 0x400 * (high - 0xd800) + (low - 0xdc00)

/-- The character in front of one that stands for a half, or of itself where it is meant. -/
def mark : Char := Char.ofNat 0xefffe

/-- How far beyond the halves the private characters lie that stand for them after a mark. -/
def halfShift : Nat := 0xf0000

/-- The characters that hold a code: itself, unless it is a half or might be taken for a mark. -/
def ofCode (code : Nat) : List Char :=
  if isHalf code then [mark, Char.ofNat (code + halfShift)]
  else if code = mark.toNat then [mark, mark]
  else [Char.ofNat code]

/-- The code that a character stands for after a mark, if it can follow one. -/
def marked? (c : Char) : Option Nat :=
  if c = mark then some mark.toNat
  else if 0xd800 + halfShift ≤ c.toNat && c.toNat < 0xe000 + halfShift then some (c.toNat - halfShift)
  else none

/-- The codes that characters hold. -/
def codes : List Char → List Nat
  | [] => []
  | [c] => [c.toNat]
  | a :: b :: rest =>
    match if a = mark then marked? b else none with
    | some code => code :: codes rest
    | none => a.toNat :: codes (b :: rest)

/-- The characters that hold a text which consists of characters only. -/
def held (plain : String) : String :=
  String.ofList (plain.toList.flatMap fun c => ofCode c.toNat)

/-- The text that characters hold, if it consists of characters only: halves have no encoding. -/
def plain? (s : String) : Option String :=
  let codes := codes s.toList
  if codes.any isHalf then none else some (String.ofList (codes.map Char.ofNat))

/-- The 16-bit units of a code. -/
def units (code : Nat) : List Nat :=
  if code < 0x10000 then [code]
  else [0xd800 + (code - 0x10000) / 0x400, 0xdc00 + (code - 0x10000) % 0x400]

/-- Characters that do not follow a mark stand for themselves. -/
theorem codes_eq_map {cs : List Char} (unmarked : mark ∉ cs) : codes cs = cs.map Char.toNat := by
  fun_induction codes cs with
  | case1 => rfl
  | case2 => rfl
  | case3 a b rest code found ih =>
    -- Only after a mark is a character read as part of a code.
    have : a ≠ mark := fun same => unmarked (same ▸ List.mem_cons_self)
    simp [this] at found
  | case4 a b rest _ ih =>
    rw [ih fun inside => unmarked (List.mem_cons_of_mem _ inside)]
    rfl

/-- A character other than the mark stands for itself, whatever follows it. -/
theorem codes_cons {c : Char} (unmarked : c ≠ mark) (rest : List Char) :
    codes (c :: rest) = c.toNat :: codes rest := by
  cases rest with
  | nil => rfl
  | cons d rest => simp [codes, unmarked]

/-- A code that is no half is that of a character. -/
theorem toNat_ofNat {code : Nat} (small : code < 0x110000) (whole : isHalf code = false) :
    (Char.ofNat code).toNat = code := by
  have valid : code.isValidChar := by
    simp only [isHalf, Bool.and_eq_false_iff, decide_eq_false_iff_not] at whole
    simp only [Nat.isValidChar]
    omega
  rw [Char.ofNat, dif_pos valid]
  rfl

/-- The mark lies beyond the halves. -/
theorem toNat_mark : mark.toNat = 0xefffe :=
  toNat_ofNat (by decide) (by decide)

end TypedClient.Text
