import PolicyReplica.Text.Alphabetic
import PolicyReplica.Text.Blank
import PolicyReplica.Binary64
import PolicyReplica.Time.Span

/-
Spans as they are written on a command line, such as 1h0m0s or 1.5s.

A text is a row of parts, each a number and a unit, and denotes the sum of its
parts. A unit is a longest run of alphabetic characters. A number is read as a
binary64, the unit is taken in seconds, and their product is rounded to
nanoseconds, so that every part has the value that binary64 arithmetic gives it.
-/

namespace PolicyReplica

inductive NumberFault where
  | empty
  | malformed
  deriving DecidableEq, Repr

inductive SpanFault where
  | invalidUnit
  | missingUnit
  | negative
  | overflow
  | notANumber (fault : NumberFault)
  deriving DecidableEq, Repr

def NumberFault.message : NumberFault → String
  | .empty => "cannot parse float from empty string"
  | .malformed => "invalid float literal"

def SpanFault.message : SpanFault → String
  | .invalidUnit =>
      "invalid unit: expected one of 'ns', 'us', '\u00b5s', 'ms', 's', 'm', or 'h'"
  | .missingUnit =>
      "missing a unit: expected one of 'ns', 'us', '\u00b5s', 'ms', 's', 'm', or 'h'"
  | .negative => "durations must not be negative"
  | .overflow => "duration is too large"
  | .notANumber fault => "invalid number: " ++ fault.message

namespace Span

structure Quantity where
  negative : Bool
  magnitude : Binary64
  deriving DecidableEq

/-- Digits with at most one point among them, and at least one digit. -/
def readMagnitude (cs : List Char) : Except NumberFault Binary64 :=
  let whole := cs.takeWhile Char.isDigit
  let decimals := (cs.dropWhile Char.isDigit).drop 1
  let separated := match cs.dropWhile Char.isDigit with
    | [] => true
    | c :: _ => c = '.'
  if separated && decimals.all Char.isDigit && whole ++ decimals ≠ [] then
    .ok (.ofQuotient (Text.digitsValue (whole ++ decimals)) (Nat.pow 10 decimals.length))
  else .error .malformed

def readQuantity : List Char → Except NumberFault Quantity
  | [] => .error .empty
  | '-' :: rest => (readMagnitude rest).map (Quantity.mk true)
  | '+' :: rest => (readMagnitude rest).map (Quantity.mk false)
  | cs => (readMagnitude cs).map (Quantity.mk false)

/-- A unit in seconds. The micro sign and the Greek letter mu are both accepted. -/
def unit? (name : List Char) : Option Binary64 :=
  if name = ['n', 's'] then some (.ofQuotient 1 1000000000)
  else if name = ['u', 's'] || name = ['\u00b5', 's'] || name = ['\u03bc', 's'] then
    some (.ofQuotient 1 1000000)
  else if name = ['m', 's'] then some (.ofQuotient 1 1000)
  else if name = ['s'] then some (.ofQuotient 1 1)
  else if name = ['m'] then some (.ofQuotient 60 1)
  else if name = ['h'] then some (.ofQuotient 3600 1)
  else none

/-- The product of a number and a unit. A negative zero is zero. -/
def ofProduct? (quantity : Quantity) (unit : Binary64) : Option Span :=
  match unit.scale quantity.magnitude with
  | .finite 0 _ => some zero
  | product =>
      if quantity.negative then none
      else (product.timesNatBelow? (Nat.pow 2 64) 1000000000).bind ofNanoseconds?

def readPart (number name : List Char) : Except SpanFault Span :=
  match readQuantity number with
  | .error fault => .error (.notANumber fault)
  | .ok quantity =>
      match unit? name with
      | none => .error .invalidUnit
      | some unit =>
          match ofProduct? quantity unit with
          | none => .error .overflow
          | some part => .ok part

structure Cut where
  number : List Char
  unit : List Char
  rest : List Char
  hasUnit : unit ≠ []
  deriving DecidableEq

/-- Cuts off the first part of a text: its number ends before the first alphabetic
character, and its unit after the last one of the run. -/
def cut? (cs : List Char) : Option Cut :=
  match cs.dropWhile (!Text.isAlphabetic ·) with
  | [] => none
  | first :: tail =>
      some
        { number := cs.takeWhile (!Text.isAlphabetic ·)
          unit := first :: tail.takeWhile Text.isAlphabetic
          rest := tail.dropWhile Text.isAlphabetic
          hasUnit := List.cons_ne_nil _ _ }

/-- Nothing gets lost by a cut. -/
theorem eq_append_of_cut {cs : List Char} {cut : Cut} (found : cut? cs = some cut) :
    cs = cut.number ++ cut.unit ++ cut.rest := by
  unfold cut? at found
  split at found
  · cases found
  · next first tail dropped =>
      obtain rfl := Option.some.inj found
      simp only [List.append_assoc, List.cons_append, List.takeWhile_append_dropWhile]
      rw [← dropped, List.takeWhile_append_dropWhile]

theorem rest_length_of_cut {cs : List Char} {cut : Cut} (found : cut? cs = some cut) :
    cut.rest.length < cs.length := by
  have lengths := congrArg List.length (eq_append_of_cut found)
  have unit := List.length_pos_iff.mpr cut.hasUnit
  simp only [List.length_append] at lengths
  omega

inductive Reading where
  | ended (result : Except SpanFault Span)
  /-- There is a sum of parts, and a rest to read. -/
  | goesOn (total : Span) (rest : List Char)

def readRound (total : Span) (cs : List Char) : Reading :=
  if cs = [] then .ended (.ok total)
  else
    match cut? cs with
    | none => .ended (.error .missingUnit)
    | some cut =>
        match readPart cut.number cut.unit with
        | .error fault => .ended (.error fault)
        | .ok part =>
            match total.add? part with
            | none => .ended (.error .overflow)
            | some sum => .goesOn sum cut.rest

theorem readRound_goesOn {total sum : Span} {cs rest : List Char}
    (reading : readRound total cs = .goesOn sum rest) :
    ∃ cut part, cut? cs = some cut ∧ readPart cut.number cut.unit = .ok part ∧
      total.add? part = some sum ∧ rest = cut.rest := by
  unfold readRound at reading
  split at reading
  · cases reading
  · split at reading
    · cases reading
    · next cut found =>
        split at reading
        · cases reading
        · next part value =>
            split at reading
            · cases reading
            · next fits =>
                cases reading
                exact ⟨cut, part, found, value, fits, rfl⟩

theorem rest_length_of_goesOn {total sum : Span} {cs rest : List Char}
    (reading : readRound total cs = .goesOn sum rest) : rest.length < cs.length := by
  obtain ⟨cut, _, found, _, _, rfl⟩ := readRound_goesOn reading
  exact rest_length_of_cut found

def readParts (total : Span) (cs : List Char) : Except SpanFault Span :=
  match reading : readRound total cs with
  | .ended result => result
  | .goesOn sum rest =>
      have := rest_length_of_goesOn reading
      readParts sum rest
termination_by cs.length

/-- The span that a text denotes. Blanks around it and plus signs before it are
ignored, and a zero needs no unit. -/
def read (cs : List Char) : Except SpanFault Span :=
  match Text.trim cs with
  | '-' :: rest => if rest = ['0'] then .ok zero else .error .negative
  | trimmed =>
      let unsigned := trimmed.dropWhile (· = '+')
      if unsigned = ['0'] then .ok zero
      else if unsigned = [] then .error .missingUnit
      else readParts zero unsigned

def parse (text : String) : Except SpanFault Span :=
  read text.toList

/-! ### Timeouts -/

/-- The text without a zero at its end that is no part of a number, as it needs no
unit. -/
def dropFinalZero (cs : List Char) : List Char :=
  match cs.reverse with
  | '0' :: before => if before.head?.all Text.isAlphabetic then before.reverse else cs
  | _ => cs

/-- The span of a timeout. Signs before it are ignored, a zero at its end needs no
unit, and nothing is zero. -/
def readTimeout (cs : List Char) : Except SpanFault Span :=
  readParts zero (dropFinalZero ((cs.dropWhile (· = '+')).dropWhile (· = '-')))

def parseTimeout (text : String) : Except SpanFault Span :=
  readTimeout text.toList

end Span

end PolicyReplica
