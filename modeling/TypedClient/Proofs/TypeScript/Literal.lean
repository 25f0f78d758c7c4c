import TypedClient.Proofs.Text.Case
import TypedClient.Proofs.TypeScript.TopLevel
import TypedClient.Proofs.Value.Display

/-! Values that are written into the text of a type show no operator, whatever they are. -/

namespace TypedClient

namespace TypeScript

/-- No digit is a sign. -/
theorem not_mem_signs {c : Char} (digit : c.isDigit = true) : c ∉ signs := by
  -- There are ten digits, each of which can be looked at.
  have small : c.toNat < 58 := Nat.lt_succ_of_le (Char.isDigit_iff_toNat.mp digit).2
  exact Text.of_codes (P := fun c => c.isDigit = true → c ∉ signs) (by decide) small digit

/-- A natural number is written without signs. -/
theorem plain_nat (n : Nat) : Plain (toString n).toList :=
  Double.forall_mem_digitText (fun _ digit => not_mem_signs digit) n

/-- An integer is written without signs. -/
theorem plain_int (n : Int) : Plain (toString n).toList :=
  forall_mem_toString (fun _ digit => not_mem_signs digit) (by decide) n

end TypeScript

open TypeScript

/-- A number is written without signs. -/
theorem Double.plain_text (x : Double) : Plain x.text.toList :=
  x.forall_mem_text (fun _ digit => not_mem_signs digit)
    (by simp [signs, operators, quotes, openings, closings])

namespace Moment

/-- A padded number is written without signs. -/
theorem plain_padded (width n : Nat) : Plain (padded width n).toList := by
  rw [padded, String.toList_ofList]
  exact (plain_replicate (by decide) _).append (plain_nat n)

/-- A date is written without signs. -/
theorem plain_dateText (m : Moment) : Plain m.dateText.toList := by
  rw [dateText, dateText.joinParts]
  refine plain_intercalate (by decide) ?_
  simp only [List.forall_mem_cons, List.not_mem_nil, false_implies, implies_true, and_true]
  exact ⟨plain_padded _ _, plain_padded _ _, plain_padded _ _⟩

/-- A time of day is written without signs. -/
theorem plain_timeText (t : TimeOfDay) : Plain (timeText t).toList := by
  -- The clock, the fraction of a second and the zone are made of digits and of marks that are no signs.
  have clock : Plain (":".intercalate [padded 2 t.hour, padded 2 t.minute, padded 2 t.second]).toList := by
    refine plain_intercalate (by decide) ?_
    simp only [List.forall_mem_cons, List.not_mem_nil, false_implies, implies_true, and_true]
    exact ⟨plain_padded _ _, plain_padded _ _, plain_padded _ _⟩
  have fraction : Plain (if t.microsecond == 0 then "" else "." ++ padded 6 t.microsecond).toList := by
    split
    · decide
    · rw [String.toList_append]
      exact Plain.append (by decide) (plain_padded _ _)
  have zone : Plain (offsetText t.offset).toList := by
    cases t.offset with
    | none => decide
    | some minutes =>
      have sign : Plain (if minutes < 0 then "-" else "+").toList := by
        split <;> decide
      rw [offsetText, String.toList_append, String.toList_append, String.toList_append]
      exact ((sign.append (plain_padded _ _)).append (by decide)).append (plain_padded _ _)
  rw [timeText, String.toList_append, String.toList_append]
  exact (clock.append fraction).append zone

/-- A moment is inserted without signs. -/
theorem plain_standardText (m : Moment) : Plain (m.standardText " ").toList := by
  rw [standardText]
  split
  · exact plain_dateText m
  · rw [String.toList_append, String.toList_append]
    exact ((plain_dateText m).append (by decide)).append (plain_timeText _)

/-- The call that a time zone is written as shows nothing. -/
theorem shows_zoneCall (minutes : Int) : Shows false (zoneCall minutes).toList := by
  by_cases zero : minutes = 0
  · rw [zero]
    exact Plain.shows (by decide)
  -- Any other zone is a call inside a call, whose text is put together in another order.
  let days := if minutes < 0 then "days=-1, " else ""
  let seconds := (if minutes < 0 then minutes + 1440 else minutes) * 60
  have called : zoneCall minutes = "datetime.timezone("
      ++ ("datetime.timedelta(" ++ (days ++ "seconds=" ++ toString seconds) ++ ")") ++ ")" := by
    have written : zoneCall minutes
        = "datetime.timezone(datetime.timedelta(" ++ days ++ "seconds=" ++ toString seconds ++ "))" := by
      rw [zoneCall]
      exact zero
    rw [written, ← String.toList_inj]
    simp [String.toList_append]
  have distance : Plain (days ++ "seconds=" ++ toString seconds).toList := by
    have sign : Plain days.toList := by
      simp only [days]
      split <;> decide
    rw [String.toList_append, String.toList_append]
    exact (sign.append (by decide)).append (plain_int seconds)
  rw [called]
  exact shows_call (by decide) (by decide)
    (shows_call (by decide) (by decide) distance.shows.closed).closed

/-- The call that a moment is quoted as shows nothing. -/
theorem shows_quoted (m : Moment) : Shows false m.call.toList := by
  have numbers (numbers : List Nat) : ∀ part ∈ numbers.map toString, Closed part.toList :=
    List.forall_mem_map.mpr fun n _ => (plain_nat n).shows.closed
  rw [call]
  -- The arguments for a date are numbers; for a time, the zone may stand behind them.
  split
  · exact shows_call (by decide) (by decide) (closed_commas (numbers _))
  · next t _ =>
    refine shows_call (by decide) (by decide) (closed_commas (List.forall_mem_append.mpr ⟨numbers _, ?_⟩))
    cases t.offset with
    | none => simp
    | some minutes =>
      rw [List.forall_mem_singleton, String.toList_append]
      have named : Plain "tzinfo=".toList := by decide
      exact (named.shows.append (shows_zoneCall minutes)).closed

end Moment

namespace Text

variable {q : Char}

/-- A hexadecimal digit is neither a quote nor a backslash. -/
theorem plain_hexDigits (isQuote : q ∈ quotes) (width n : Nat) :
    ∀ c ∈ hexDigits width n, c ≠ '\\' ∧ c ≠ q := by
  induction width generalizing n with
  | zero => simp [hexDigits]
  | succ width ih =>
    have digit : ∀ digit < 16, hexDigit digit ≠ '\\' ∧ hexDigit digit ∉ quotes := by decide
    obtain ⟨noEscape, noQuote⟩ := digit (n % 16) (Nat.mod_lt n (by decide))
    rw [hexDigits, List.forall_mem_append, List.forall_mem_singleton]
    exact ⟨ih _, noEscape, fun same => noQuote (same ▸ isQuote)⟩

/-- The escape of a code stays in a literal. -/
theorem stays_codeEscape (isQuote : q ∈ quotes) (code : Nat) : Stays q (codeEscape code) := by
  rw [codeEscape]
  split
  · exact (Stays.of_plain (plain_hexDigits isQuote _ _)).escape _
  · split <;> exact (Stays.of_plain (plain_hexDigits isQuote _ _)).escape _

/-- A character stays in a literal in the way that it is shown there. -/
theorem stays_shown (isQuote : q ∈ quotes) (c : Char) : Stays q (shown q c) := by
  have ended : Stays q [] := Stays.of_plain (by simp)
  rw [shown]
  split
  · exact ended.escape _
  split
  · exact ended.escape _
  split
  · exact ended.escape _
  split
  · exact ended.escape _
  split
  · -- What is shown as it is, is neither the quote nor a backslash.
    next marked _ _ _ _ =>
    refine Stays.of_plain fun d mem => ?_
    rw [List.mem_singleton.mp mem]
    simp only [Bool.or_eq_true, beq_iff_eq, not_or] at marked
    exact marked.symm
  · exact stays_codeEscape isQuote _

/-- The quote around a text is one. -/
theorem quoteFor_mem (cs : List Char) : quoteFor cs ∈ quotes := by
  rw [quoteFor]
  split <;> decide

/-- A quoted text shows nothing. -/
theorem shows_inspected (cs : List Char) : Shows false (inspected cs) := by
  rw [inspected, List.cons_append]
  refine Stays.shows (quoteFor_mem cs) (Stays.flatMap fun code _ => ?_)
  rw [shownCode]
  split
  · exact stays_codeEscape (quoteFor_mem cs) code
  · exact stays_shown (quoteFor_mem cs) _

/-- Quoted bytes show nothing. -/
theorem shows_inspectedBytes (content : List UInt8) : Shows false (inspectedBytes content) := by
  let cs := content.map fun byte => Char.ofNat byte.toNat
  have inner : Stays (quoteFor cs)
      (cs.flatMap fun c => if c.toNat < 0x7f then shown (quoteFor cs) c else codeEscape c.toNat) := by
    refine Stays.flatMap fun c _ => ?_
    split
    · exact stays_shown (quoteFor_mem cs) c
    · exact stays_codeEscape (quoteFor_mem cs) _
  have marked : Plain ['b'] := by decide
  exact marked.shows.append (inner.shows (quoteFor_mem cs))

end Text

/-- A scalar that is quoted shows nothing. -/
theorem Scalar.shows_inspect (s : Scalar) : Shows false s.inspect.toList := by
  -- Quotes hide what is in them; a moment is a call, and all other scalars are plain.
  cases s with
  | null => exact Plain.shows (by decide)
  | bool b => cases b <;> exact Plain.shows (by decide)
  | int n => exact (plain_int n).shows
  | float x => exact x.plain_text.shows
  | text s =>
    rw [inspect, inspectText, String.toList_ofList]
    exact Text.shows_inspected s.toList
  | moment m => exact m.shows_quoted
  | bytes content =>
    rw [inspect, String.toList_ofList]
    exact Text.shows_inspectedBytes content

namespace Value

/-- Texts in brackets, with a comma between them, show nothing if none of them leaves something open. -/
theorem shows_bracketed {opening closing : String} {first last : Char} (opens : opening.toList = [first])
    (isOpening : first ∈ openings) (closes : closing.toList = [last]) (isClosing : last ∈ closings)
    {parts : List String} (each : ∀ part ∈ parts, Closed part.toList) :
    Shows false (opening ++ ", ".intercalate parts ++ closing).toList := by
  have inner := closed_commas each
  rw [String.toList_append, String.toList_append, opens, closes, List.append_assoc]
  exact inner.enclosed isOpening isClosing

mutual

/-- A value that is quoted shows nothing. -/
theorem shows_inspect : (v : Value) → Shows false v.inspect.toList
  | scalar s => by
    rw [inspect]
    exact s.shows_inspect
  | list items => by
    rw [inspect]
    exact shows_bracketed rfl (by decide) rfl (by decide) (closed_inspectItems items)
  | map members => by
    rw [inspect]
    exact shows_bracketed rfl (by decide) rfl (by decide) (closed_inspectMembers members)
  | set [] => by
    -- The empty set is the only one that is quoted as a call.
    rw [inspect]
    have call : Shows false ("set(" ++ "" ++ ")").toList :=
      shows_call (by decide) (by decide) Shows.nil.closed
    exact call
  | set (s :: rest) => by
    rw [inspect]
    · exact shows_bracketed rfl (by decide) rfl (by decide)
        (List.forall_mem_map.mpr fun s _ => s.shows_inspect.closed)
    · simp
  | pair key value => by
    have both : Shows false ("(" ++ ", ".intercalate [key.inspect, value.inspect] ++ ")").toList :=
      shows_bracketed rfl (by decide) rfl (by decide)
        (by simp [key.shows_inspect.closed, value.shows_inspect.closed])
    simpa [inspect, String.toList_append] using both

/-- The items of a list leave nothing open where they are quoted. -/
theorem closed_inspectItems : (items : List Value) → ∀ part ∈ inspectItems items, Closed part.toList
  | [] => by simp [inspectItems]
  | v :: rest => List.forall_mem_cons.mpr ⟨v.shows_inspect.closed, closed_inspectItems rest⟩

/-- The members of a map leave nothing open where they are quoted. -/
theorem closed_inspectMembers : (members : Members) →
    ∀ part ∈ inspectMembers members, Closed part.toList
  | [] => by simp [inspectMembers]
  | (k, v) :: rest => by
    have colon : Plain ": ".toList := by decide
    refine List.forall_mem_cons.mpr ⟨?_, closed_inspectMembers rest⟩
    rw [String.toList_append, String.toList_append]
    exact ((k.shows_inspect.append colon.shows).append v.shows_inspect).closed

end

end Value

/-- A literal shows nothing, whatever value it stands for. -/
theorem shows_enumLiteral (union : Bool) (v : Value) : Shows false (enumLiteral union v).toList := by
  unfold enumLiteral
  split
  · -- A text is put in quotes, of the one kind or of the other.
    split
    · exact shows_quoteText (by decide) _
    · exact shows_quoteText (by decide) _
  · split <;> exact Plain.shows (by decide)
  · exact Plain.shows (by decide)
  · next noText _ _ =>
    -- What is no text is inserted as it is quoted, apart from moments.
    cases v with
    | scalar s =>
      cases s with
      | text s => exact absurd rfl (noText s)
      | moment m => exact m.plain_standardText.shows
      | _ => exact Scalar.shows_inspect _
    | _ => exact Value.shows_inspect _

end TypedClient
