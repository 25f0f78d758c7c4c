/-! Finding, replacing and splitting in texts. -/

namespace TypedClient.Text

/-- What follows `head` in a text that begins with it. -/
def afterHead? : List Char → List Char → Option (List Char)
  | [], cs => some cs
  | _ :: _, [] => none
  | h :: head, c :: cs => if h == c then afterHead? head cs else none

theorem length_of_afterHead? {head cs rest : List Char} (found : afterHead? head cs = some rest) :
    cs.length = head.length + rest.length := by
  fun_induction afterHead? head cs with
  | case1 => simp_all
  | case2 => simp at found
  | case3 h head c cs same ih => simp [ih found]; omega
  | case4 => simp at found

/-- Whether `part` stands somewhere in the text without a gap. -/
def occurs (part : List Char) : List Char → Bool
  | [] => part.isEmpty
  | c :: rest => part.isPrefixOf (c :: rest) || occurs part rest

/-- Replaces every occurrence of `old`, from the left, once the first `skip` characters are dropped. -/
def replaceFrom (old new : List Char) : Nat → List Char → List Char
  | _, [] => []
  | skip + 1, _ :: rest => replaceFrom old new skip rest
  | 0, c :: rest =>
    -- An occurrence is replaced as a whole, so the rest of it is skipped.
    if old.isPrefixOf (c :: rest) then new ++ replaceFrom old new (old.length - 1) rest
    else c :: replaceFrom old new 0 rest

/-- Replaces every occurrence of the nonempty text `old`, from the left and without overlap. -/
def replaceAll (old new cs : List Char) : List Char :=
  replaceFrom old new 0 cs

/-- The parts of a text between the separators: one more than there are separators. -/
def splitOn (separator : Char) : List Char → List (List Char)
  | [] => [[]]
  | c :: rest =>
    if c == separator then [] :: splitOn separator rest
    else
      match splitOn separator rest with
      | [] => [[c]]
      | part :: parts => (c :: part) :: parts

/-- The maximal runs of characters that are no separators, empty ones left out. -/
def wordsBy (isSeparator : Char → Bool) : List Char → List (List Char)
  | [] => []
  | c :: rest =>
    if isSeparator c then wordsBy isSeparator rest
    else
      -- A word goes on as long as no separator follows.
      match rest with
      | [] => [[c]]
      | next :: _ =>
        if isSeparator next then [c] :: wordsBy isSeparator rest
        else
          match wordsBy isSeparator rest with
          | [] => [[c]]
          | word :: words => (c :: word) :: words

/-- The texts with `separator` between each two of them. -/
def joinWith (separator : List Char) (parts : List (List Char)) : List Char :=
  separator.intercalate parts

end TypedClient.Text
