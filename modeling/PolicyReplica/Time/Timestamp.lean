import PolicyReplica.Time.Date
import PolicyReplica.Text.Blank
import PolicyReplica.Text.Decimal

/-
Moments in universal time, with nanoseconds, and their text form.

The written form is that of RFC 3339. A leap second is the last second of its
minute with a thousand million nanoseconds or more, so that it comes after that
second and before the next minute; it is written as second 60. A text may also
give a local time with its offset, which is converted, may separate date and
time by a blank and may have blanks around its numbers.
-/

namespace PolicyReplica

structure Timestamp where
  date : Date
  /-- The second of the day. -/
  second : Nat
  /-- The nanosecond of the second; a leap second starts at a thousand million. -/
  nanosecond : Nat
  secondInDay : second < 86400
  nanosecondInRange : nanosecond < 2000000000
  leapEndsMinute : 1000000000 ≤ nanosecond → second % 60 = 59
  deriving DecidableEq

namespace Timestamp

def ofParts? (date : Date) (second nanosecond : Nat) : Option Timestamp :=
  if secondInDay : second < 86400 then
    if nanosecondInRange : nanosecond < 2000000000 then
      if leapEndsMinute : 1000000000 ≤ nanosecond → second % 60 = 59 then
        some { date, second, nanosecond, secondInDay, nanosecondInRange, leapEndsMinute }
      else none
    else none
  else none

def epoch : Timestamp where
  date :=
    { year := 1970, month := 1, day := 1, yearInRange := by decide, dayInMonth := by decide }
  second := 0
  nanosecond := 0
  secondInDay := by decide
  nanosecondInRange := by decide
  leapEndsMinute := by decide

def rank (time : Timestamp) : Int :=
  (time.date.rank * 86400 + time.second) * 2000000000 + time.nanosecond

def later (left right : Timestamp) : Timestamp :=
  if left.rank ≤ right.rank then right else left

def latest? : List Timestamp → Option Timestamp
  | [] => none
  | time :: rest =>
      match latest? rest with
      | none => some time
      | some other => some (time.later other)

/-! ### Writing -/

/-- The year: four digits, or a sign and at least four digits outside the years
0 to 9999. -/
def writeYear (year : Int) : List Char :=
  if year < 0 then '-' :: Text.paddedDigits 4 year.natAbs
  else if year ≤ 9999 then Text.paddedDigits 4 year.natAbs
  else '+' :: Text.paddedDigits 4 year.natAbs

def writeDate (date : Date) : List Char :=
  writeYear date.year ++ '-' :: Text.paddedDigits 2 date.month ++
    '-' :: Text.paddedDigits 2 date.day

/-- The time of day in whole seconds; a leap second is second 60. -/
def writeClock (second nanosecond : Nat) : List Char :=
  let shown := if 1000000000 ≤ nanosecond then second % 60 + 1 else second % 60
  Text.paddedDigits 2 (second / 3600) ++ ':' :: Text.paddedDigits 2 (second / 60 % 60) ++
    ':' :: Text.paddedDigits 2 shown

/-- The fraction of a second in the fewest of 0, 3, 6 and 9 digits that are exact. -/
def writeFraction (nanosecond : Nat) : List Char :=
  if nanosecond = 0 then []
  else if nanosecond % 1000000 = 0 then '.' :: Text.paddedDigits 3 (nanosecond / 1000000)
  else if nanosecond % 1000 = 0 then '.' :: Text.paddedDigits 6 (nanosecond / 1000)
  else '.' :: Text.paddedDigits 9 nanosecond

def write (time : Timestamp) : List Char :=
  writeDate time.date ++ 'T' :: writeClock time.second time.nanosecond ++
    writeFraction (time.nanosecond % 1000000000) ++ ['Z']

def writeSeconds (time : Timestamp) : List Char :=
  writeDate time.date ++ 'T' :: writeClock time.second time.nanosecond ++ ['Z']

def render (time : Timestamp) : String :=
  String.ofList time.write

/-! ### Reading -/

def readNumber (limit : Nat) (cs : List Char) : Option (Nat × List Char) :=
  match (cs.take limit).takeWhile Char.isDigit with
  | [] => none
  | ds => some (Text.digitsValue ds, cs.drop ds.length)

/-- A number of at most two digits, after blanks. -/
def readPair (cs : List Char) : Option (Nat × List Char) :=
  readNumber 2 (Text.trimStart cs)

/-- The year, after blanks: any number of digits after a sign, else at most four. -/
def readYear (cs : List Char) : Option (Int × List Char) :=
  match Text.trimStart cs with
  | '-' :: rest => (readNumber rest.length rest).map fun (n, rest) => (-(n : Int), rest)
  | '+' :: rest => (readNumber rest.length rest).map fun (n, rest) => ((n : Int), rest)
  | rest => (readNumber 4 rest).map fun (n, rest) => ((n : Int), rest)

/-- The characters after a mark, which may have blanks before it. -/
def readMark (mark : Char) (cs : List Char) : Option (List Char) :=
  match Text.trimStart cs with
  | c :: rest => if c = mark then some rest else none
  | [] => none

def readDate (cs : List Char) : Option (Date × List Char) := do
  let (year, cs) ← readYear cs
  let cs ← readMark '-' cs
  let (month, cs) ← readPair cs
  let cs ← readMark '-' cs
  let (day, cs) ← readPair cs
  let date ← Date.ofParts? year month day
  pure (date, cs)

def readSeparator : List Char → Option (List Char)
  | c :: rest => if c = 'T' || c = 't' || c = ' ' then some rest else none
  | [] => none

/-- The nanoseconds after a point, if there is one; digits after the ninth are
dropped. -/
def readFraction : List Char → Option (Nat × List Char)
  | '.' :: rest =>
      match rest.takeWhile Char.isDigit with
      | [] => none
      | ds =>
          some (Text.digitsValue (ds.take 9) * Nat.pow 10 (9 - (ds.take 9).length),
            rest.dropWhile Char.isDigit)
  | cs => some (0, cs)

/-- The second of the day and the nanosecond; second 60 is the leap second. -/
def readClock (cs : List Char) : Option ((Nat × Nat) × List Char) := do
  let (hour, cs) ← readPair cs
  let cs ← readMark ':' cs
  let (minute, cs) ← readPair cs
  let cs ← readMark ':' cs
  let (second, cs) ← readPair cs
  let (fraction, cs) ← readFraction cs
  if hour ≤ 23 ∧ minute ≤ 59 then
    if second ≤ 59 then pure (((hour * 60 + minute) * 60 + second, fraction), cs)
    else if second = 60 then
      pure (((hour * 60 + minute) * 60 + 59, 1000000000 + fraction), cs)
    else none
  else none

def readTwoDigits : List Char → Option (Nat × List Char)
  | a :: b :: rest =>
      if a.isDigit && b.isDigit then some (Text.digitsValue [a, b], rest) else none
  | _ => none

/-- Hours and minutes of an offset, in minutes. -/
def readOffsetSize (cs : List Char) : Option (Nat × List Char) := do
  let (hours, cs) ← readTwoDigits cs
  let (minutes, cs) ← readTwoDigits (cs.dropWhile fun c => c = ':' || Text.isBlank c)
  if minutes ≤ 59 then pure (hours * 60 + minutes, cs) else none

def readOffset (cs : List Char) : Option (Int × List Char) :=
  match cs with
  | a :: b :: c :: rest =>
      if [a.toLower, b.toLower, c.toLower] = ['u', 't', 'c'] then some (0, rest) else signed cs
  | _ => signed cs
where
  signed : List Char → Option (Int × List Char)
    | 'Z' :: rest => some (0, rest)
    | 'z' :: rest => some (0, rest)
    | '+' :: rest => (readOffsetSize rest).map fun (n, rest) => ((n : Int), rest)
    | '-' :: rest => (readOffsetSize rest).map fun (n, rest) => (-(n : Int), rest)
    | '−' :: rest => (readOffsetSize rest).map fun (n, rest) => (-(n : Int), rest)
    | _ => none

/-- The moment at which clocks with this offset show this date and time. The
offset is less than a day. -/
def ofLocal? (date : Date) (second nanosecond : Nat) (offset : Int) : Option Timestamp :=
  if offset.natAbs < 1440 then
    let shifted : Int := second - offset * 60
    if shifted < 0 then
      date.previous?.bind fun date => ofParts? date (shifted + 86400).toNat nanosecond
    else if shifted < 86400 then ofParts? date shifted.toNat nanosecond
    else date.next?.bind fun date => ofParts? date (shifted - 86400).toNat nanosecond
  else none

def read? (cs : List Char) : Option Timestamp := do
  let (date, cs) ← readDate cs
  let cs ← readSeparator cs
  let ((second, nanosecond), cs) ← readClock cs
  let (offset, cs) ← readOffset (Text.trimStart cs)
  if Text.trimStart cs = [] then ofLocal? date second nanosecond offset else none

def parse? (text : String) : Option Timestamp :=
  read? text.toList

end Timestamp

end PolicyReplica
