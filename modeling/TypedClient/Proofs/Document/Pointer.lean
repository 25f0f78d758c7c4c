import TypedClient.Document.Pointer
import TypedClient.Proofs.Outcome
import TypedClient.Proofs.Text.Digit
import TypedClient.Proofs.Text.Percent
import TypedClient.Proofs.Text.Search

/-! Pointers lead to the parts of a document whose keys and positions they spell. -/

namespace TypedClient.Document

/-- A step from a value to one of its parts: to what a map has under a key, or to an item of a list. -/
inductive Step
  | key (name : String)
  | position (index : Nat)

/-- Steps lead from a value to a part of it, by keys that are not empty and by positions that there are. -/
inductive Leads : List Step → Value → Value → Prop
  | here (value : Value) : Leads [] value value
  | key {name : String} {members : Members} {part value : Value} {way : List Step}
      (nonempty : name ≠ "") (found : members.get? name = some part) (further : Leads way part value) :
      Leads (.key name :: way) (.map members) value
  | position {index : Nat} {items : List Value} {part value : Value} {way : List Step}
      (found : items[index]? = some part) (further : Leads way part value) :
      Leads (.position index :: way) (.list items) value

/-- The text of a step: its key, or its position in decimal notation. -/
def Step.label : Step → List Char
  | key name => name.toList
  | position index => index.repr.toList

/-- How the marks of pointers are kept out of a key. -/
def markEscaped : Char → List Char
  | '~' => ['~', '0']
  | '/' => ['~', '1']
  | c => [c]

/-- The segment of a pointer for a step; what is left of a key in the way of a reader is escaped once more. -/
def Step.segment : Step → List Char
  | key name => (name.toList.flatMap markEscaped).flatMap Text.percentEscaped
  | position index => index.repr.toList

/-- The pointer that spells steps from the root of a document. -/
def pointer (way : List Step) : String :=
  String.ofList ('#' :: '/' :: Text.joinWith ['/'] (way.map Step.segment))

/-- A character of a key as it stands in a pointer. -/
def pointed (c : Char) : List Char :=
  (markEscaped c).flatMap Text.percentEscaped

variable {way : List Step} {document value : Value}

/-- Any other character is no mark, and is kept as it is. -/
theorem markEscaped_cases (c : Char) :
    c = '~' ∨ c = '/' ∨ c ≠ '~' ∧ c ≠ '/' ∧ markEscaped c = [c] := by
  unfold markEscaped
  split <;> simp_all

/-- Escaping by percent signs adds neither tildes nor slashes, and leaves no number signs. -/
theorem not_mem_percentEscaped {c d : Char} (mark : d ∈ ['~', '/', '#']) (other : c = d → d = '#') :
    d ∉ Text.percentEscaped c := by
  simp only [List.mem_cons, List.not_mem_nil, or_false] at mark
  -- The two escapes are of a percent sign and digits, and every other character stands for itself.
  obtain rfl | rfl | ⟨-, noHash, same⟩ := Text.percentEscaped_cases c
  · rcases mark with rfl | rfl | rfl <;> decide
  · rcases mark with rfl | rfl | rfl <;> decide
  · rw [same, List.mem_singleton]
    rintro rfl
    exact noHash (other rfl)

/-- A key comes back from the segment that it is escaped to. -/
theorem unescapeSegment_escaped (cs : List Char) :
    unescapeSegment (cs.flatMap pointed) = cs := by
  -- With the slashes back, tildes are the only marks that are still escaped.
  let slashed (c : Char) : List Char := if c = '~' then ['~', '0'] else Text.percentEscaped c
  have slashes : Text.replaceAll ['~', '1'] ['/'] (cs.flatMap pointed) = cs.flatMap slashed := by
    refine Text.replaceAll_flatMap _ _ (fun c rest => ?_) cs
    obtain rfl | rfl | ⟨noTilde, -, same⟩ := markEscaped_cases c
    · -- Behind a tilde that is meant there is a zero, which is no one.
      change Text.replaceAll ['~', '1'] ['/'] ('~' :: '0' :: rest) = _
      rw [Text.replaceAll_cons _ (by simp), Text.replaceAll_cons _ (by simp)]
      rfl
    · exact Text.replaceAll_pair '~' '1' ['/'] rest
    · simp only [pointed, slashed, if_neg noTilde, same, List.flatMap_singleton]
      exact Text.replaceAll_append_left _
        (not_mem_percentEscaped (by simp) fun same => absurd same noTilde) rest
  have tildes : Text.replaceAll ['~', '0'] ['~'] (cs.flatMap slashed)
      = cs.flatMap Text.percentEscaped := by
    refine Text.replaceAll_flatMap _ _ (fun c rest => ?_) cs
    by_cases tilde : c = '~'
    · subst tilde
      exact Text.replaceAll_pair '~' '0' ['~'] rest
    · simp only [slashed, if_neg tilde]
      exact Text.replaceAll_append_left _
        (not_mem_percentEscaped (by simp) fun same => absurd same tilde) rest
  rw [unescapeSegment, slashes, tildes, Text.percentDecode_flatMap]

/-- The segment of a step is its text with the marks escaped, of which a position has none. -/
theorem segment_eq (step : Step) : step.segment = step.label.flatMap pointed := by
  cases step with
  | key name => exact List.flatMap_assoc
  | position index =>
    rw [Step.segment, Step.label, ← List.flatMap_singleton' index.repr.toList, List.flatMap_assoc]
    refine List.flatMap_congr fun c mem => ?_
    have digit : c.isDigit = true :=
      Nat.isDigit_of_mem_toDigits (n := index) (b := 10) (by decide) (by decide) (by simpa using mem)
    -- No mark is a digit.
    obtain rfl | rfl | ⟨-, -, unmarked⟩ := markEscaped_cases c
    · cases digit
    · cases digit
    obtain rfl | rfl | ⟨-, -, kept⟩ := Text.percentEscaped_cases c
    · cases digit
    · cases digit
    simp [pointed, unmarked, kept]

/-- No segment holds a mark that a pointer is taken apart by. -/
theorem not_mem_segment (step : Step) {d : Char} (mark : d ∈ ['/', '#']) : d ∉ step.segment := by
  rw [segment_eq]
  intro mem
  obtain ⟨c, -, mem⟩ := List.mem_flatMap.mp mem
  obtain ⟨e, escaped, mem⟩ := List.mem_flatMap.mp mem
  refine not_mem_percentEscaped (List.mem_cons_of_mem _ mark) ?_ mem
  rintro rfl
  -- A slash is not left by the first escape.
  simp only [List.mem_cons, List.not_mem_nil, or_false] at mark
  rcases mark with rfl | rfl
  · obtain rfl | rfl | ⟨-, noSlash, same⟩ := markEscaped_cases c
    · exact absurd escaped (by decide)
    · exact absurd escaped (by decide)
    · rw [same, List.mem_singleton] at escaped
      exact absurd escaped.symm noSlash
  · rfl

/-- A step with a text has a segment. -/
theorem segment_ne_nil {step : Step} (nonempty : step.label ≠ []) : step.segment ≠ [] := by
  -- From an empty segment, an empty text would come back.
  intro empty
  have back := unescapeSegment_escaped step.label
  rw [← segment_eq, empty] at back
  exact nonempty back.symm

/-- The marks at the start of a pointer are no part of its first segment. -/
theorem dropWhile_pointer (nonempty : ∀ step ∈ way, step.label ≠ []) :
    (pointer way).toList.dropWhile (fun c => c == '#' || c == '/')
      = ['/'].intercalate (way.map Step.segment) := by
  rw [pointer, String.toList_ofList, Text.joinWith]
  cases way with
  | nil => rfl
  | cons step rest =>
    -- The first segment begins with what is neither mark, so the marks end there.
    obtain ⟨c, cs, same⟩ := List.exists_cons_of_ne_nil (segment_ne_nil (nonempty step List.mem_cons_self))
    have solid (mark : Char) (listed : mark ∈ ['/', '#']) : c ≠ mark := by
      rintro rfl
      exact not_mem_segment step listed (by simp [same])
    have first : ∃ more, ['/'].intercalate ((step :: rest).map Step.segment) = c :: more := by
      cases rest <;> simp [same]
    obtain ⟨more, whole⟩ := first
    rw [whole]
    simp [solid '/', solid '#']

/-- The keys of a pointer are the texts of the steps that it spells, if none of them is empty. -/
theorem pointerKeys_pointer (nonempty : ∀ step ∈ way, step.label ≠ []) :
    pointerKeys (pointer way) = way.map Step.label := by
  -- As no segment holds a slash, the segments come back between the slashes.
  have split : Text.splitOn '/' (['/'].intercalate (way.map Step.segment))
      = if way = [] then [[]] else way.map Step.segment := by
    rw [Text.splitOn_eq]
    split
    · next none => subst none; rfl
    · next some =>
      refine List.splitOn_intercalate '/' (fun segment mem => ?_) (by simpa using some)
      obtain ⟨step, -, rfl⟩ := List.mem_map.mp mem
      exact not_mem_segment step (by simp)
  -- The empty segments that are left out are none of these.
  have kept : (way.map Step.segment).filter (fun segment => !segment.isEmpty) = way.map Step.segment := by
    refine List.filter_eq_self.mpr fun segment mem => ?_
    obtain ⟨step, inside, rfl⟩ := List.mem_map.mp mem
    simpa using segment_ne_nil (nonempty step inside)
  have labels : (way.map Step.segment).map unescapeSegment = way.map Step.label := by
    rw [List.map_map]
    exact List.map_congr_left fun step _ => by simp [segment_eq, unescapeSegment_escaped]
  simp only [pointerKeys, dropWhile_pointer nonempty, split]
  split
  · next none => subst none; rfl
  · rw [kept, labels]

/-- A position is read back from its digits, if they are not too many. -/
theorem position?_label (index : Nat) :
    position? (Step.position index).label
      = some (if index.repr.length ≤ Text.maxDigits then .ok index else misfit .notANumber) := by
  -- The decimal notation passes both tests for digits, and gives back its number.
  have spelled : (Step.position index).label = Nat.toDigits 10 index := Nat.toList_repr
  have digits : ∀ c ∈ Nat.toDigits 10 index, c.isDigit = true := fun c mem =>
    Nat.isDigit_of_mem_toDigits (by decide) (by decide) mem
  have nonempty : (Nat.toDigits 10 index).isEmpty = false := by simp
  have allDigits : (Nat.toDigits 10 index).all Text.isDigit = true :=
    List.all_eq_true.mpr fun c mem => (Text.decimal_of_isDigit (digits c mem)).1
  have allDecimal : (Nat.toDigits 10 index).all Text.isDecimal = true :=
    List.all_eq_true.mpr fun c mem => (Text.decimal_of_isDigit (digits c mem)).2.1
  have number : Text.decimalNumber (Nat.toDigits 10 index) = index := by
    rw [Text.decimalNumber_eq digits, Nat.ofDigitChars_ten_toDigits]
  have length : (Nat.toDigits 10 index).length = index.repr.length := by
    rw [← spelled]
    exact String.length_toList
  rw [spelled, position?, nonempty, allDigits, allDecimal, Text.decimalNumber?, number, length]
  by_cases few : index.repr.length ≤ Text.maxDigits
  · simp [few, Nat.not_lt.mpr few]
  · simp [few, Nat.lt_of_not_le few]

/-- The item at a position is entered by the digits of it, if they are not too many. -/
theorem step_position {index : Nat} {items : List Value} {part : Value} (ref : String)
    (found : items[index]? = some part) :
    step ref (.list items) (Step.position index).label
      = if index.repr.length ≤ Text.maxDigits then .ok part else misfit .notANumber := by
  simp only [step, position?_label]
  split
  · simp [found]
  · rfl

/-- Following the texts of steps that lead to a value, one comes to it if all positions on the way can be read. -/
theorem foldlM_step_iff (ref : String) (leads : Leads way document value) :
    (way.map Step.label).foldlM (step ref) document = .ok value ↔
      ∀ index, .position index ∈ way → index.repr.length ≤ Text.maxDigits := by
  -- A key is always found again, so only the positions can keep one from going on.
  induction leads with
  | here => simp [Pure.pure, Except.pure]
  | @key name members part value way nonempty found further ih =>
    have entered : step ref (.map members) (Step.key name).label = .ok part := by
      simp [Step.label, step, found]
    simpa [entered] using ih
  | @position index items part value way found further ih =>
    have entered := step_position ref found
    by_cases few : index.repr.length ≤ Text.maxDigits
    · rw [if_pos few] at entered
      simpa [entered, few] using ih
    · rw [if_neg few] at entered
      simp [entered, few, misfit]

/-- The texts of steps that lead somewhere are not empty. -/
theorem label_ne_nil (leads : Leads way document value) : ∀ step ∈ way, step.label ≠ [] := by
  induction leads with
  | here => simp
  | key nonempty _ _ ih => exact List.forall_mem_cons.mpr ⟨by simpa [Step.label] using nonempty, ih⟩
  | position _ _ ih => exact List.forall_mem_cons.mpr ⟨by simp [Step.label], ih⟩

/-- A pointer leads to the value that its steps lead to, however the keys are spelled, exactly if every
position on the way has few enough digits to be read, as those of all lists in a memory have. -/
theorem resolveRef_pointer_iff (leads : Leads way document value) :
    resolveRef document (pointer way) = .ok value ↔
      ∀ index, .position index ∈ way → index.repr.length ≤ Text.maxDigits := by
  rw [resolveRef, if_pos (by simp [pointer]), pointerKeys_pointer (label_ne_nil leads)]
  exact foldlM_step_iff _ leads

/-- Below a key that holds every mark, and escapes that are none, stands the list that has the value. -/
theorem resolveRef_pointer_iff_marks :
    pointer [.key "~1/%25#", .position 1] = "#/~01~1%2525%23/1" ∧
      resolveRef (.map [(.text "~1/%25#", .list [.null, .bool true])]) "#/~01~1%2525%23/1" = .ok (.bool true) := by
  have spelled : pointer [.key "~1/%25#", .position 1] = "#/~01~1%2525%23/1" := by decide
  refine ⟨spelled, ?_⟩
  rw [← spelled]
  refine (resolveRef_pointer_iff (.key (by decide) rfl (.position rfl (.here _)))).mpr ?_
  intro index mem
  obtain rfl : index = 1 := by simpa using mem
  decide

end TypedClient.Document
