import PolicyReplica.Proofs.Text.Digits
import PolicyReplica.Proofs.Time.Order

/-
Reading the written form of a moment.

Each part is written with a fixed width, the year with a sign when it needs one, and the
fraction with as few digits as are exact. Main statement: what is written reads as the same
moment, whatever its year and whether or not its second is a leap second.
-/

namespace PolicyReplica.Timestamp

open Text

theorem readNumber_eq {limit : Nat} {cs ds : List Char}
    (taken : (cs.take limit).takeWhile Char.isDigit = ds) (written : ds ≠ []) :
    readNumber limit cs = some (digitsValue ds, cs.drop ds.length) := by
  unfold readNumber
  rw [taken]
  cases ds with
  | nil => exact absurd rfl written
  | cons d rest => rfl

theorem readNumber_paddedDigits {width n : Nat} (wide : 0 < width) (fits : n < 10 ^ width)
    (rest : List Char) : readNumber width (paddedDigits width n ++ rest) = some (n, rest) := by
  have length := length_paddedDigits wide fits
  have taken : ((paddedDigits width n ++ rest).take width).takeWhile Char.isDigit =
      paddedDigits width n := by
    have nothing : NoDigit [] := nofun
    have all := takeWhile_paddedDigits width n nothing
    rw [List.append_nil] at all
    rw [List.take_left' length, all]
  rw [readNumber_eq taken (paddedDigits_ne_nil width n), length, List.drop_left' length,
    digitsValue_paddedDigits]

/-- Without a limit the number ends where the digits do. -/
theorem readNumber_unlimited (width n : Nat) {rest : List Char} (ends : NoDigit rest) :
    readNumber (paddedDigits width n ++ rest).length (paddedDigits width n ++ rest) =
      some (n, rest) := by
  have taken := takeWhile_paddedDigits width n ends
  rw [← List.take_length (l := paddedDigits width n ++ rest)] at taken
  rw [readNumber_eq taken (paddedDigits_ne_nil width n), List.drop_left,
    digitsValue_paddedDigits]

theorem readPair_paddedDigits {n : Nat} (fits : n < 100) (rest : List Char) :
    readPair (paddedDigits 2 n ++ rest) = some (n, rest) := by
  unfold readPair
  rw [trimStart_paddedDigits]
  exact readNumber_paddedDigits (by decide) fits rest

theorem readMark_cons {mark : Char} (visible : isBlank mark = false) (rest : List Char) :
    readMark mark (mark :: rest) = some rest := by
  unfold readMark
  rw [trimStart_cons visible]
  exact if_pos rfl

theorem readYear_of_isDigit {d : Char} (digit : d.isDigit = true) (rest : List Char) :
    readYear (d :: rest) =
      (readNumber 4 (d :: rest)).map fun (n, rest) => ((n : Int), rest) := by
  unfold readYear
  rw [trimStart_cons (isBlank_of_isDigit digit)]
  split
  · rename_i same
    obtain ⟨rfl, _⟩ := List.cons.inj same
    cases digit
  · rename_i same
    obtain ⟨rfl, _⟩ := List.cons.inj same
    cases digit
  · rfl

theorem readYear_writeYear (year : Int) {rest : List Char} (ends : NoDigit rest) :
    readYear (writeYear year ++ rest) = some (year, rest) := by
  unfold writeYear
  by_cases negative : year < 0
  · rw [if_pos negative, List.cons_append]
    unfold readYear
    rw [trimStart_cons (by decide)]
    have value : -(year.natAbs : Int) = year := by omega
    simp only [readNumber_unlimited 4 year.natAbs ends, Option.map_some, value]
  · rw [if_neg negative]
    by_cases short : year ≤ 9999
    · rw [if_pos short]
      have fits : year.natAbs < 10 ^ 4 := by omega
      have read := readNumber_paddedDigits (by decide) fits rest
      obtain ⟨d, more, split, digit⟩ := paddedDigits_eq_cons 4 year.natAbs
      rw [split, List.cons_append] at read ⊢
      rw [readYear_of_isDigit digit, read, Option.map_some]
      have value : (year.natAbs : Int) = year := by omega
      simp only [value]
    · rw [if_neg short, List.cons_append]
      unfold readYear
      rw [trimStart_cons (by decide)]
      have value : (year.natAbs : Int) = year := by omega
      simp only [readNumber_unlimited 4 year.natAbs ends, Option.map_some, value]

theorem ofParts?_date (date : Date) : Date.ofParts? date.year date.month date.day = some date := by
  unfold Date.ofParts?
  rw [dif_pos date.yearInRange, dif_pos date.dayInMonth]

theorem readDate_writeDate (date : Date) (rest : List Char) :
    readDate (writeDate date ++ rest) = some (date, rest) := by
  have month := date.month_range
  have day := date.dayInMonth
  have limit := Date.daysInMonth_le date.year date.month
  unfold writeDate readDate
  simp only [List.append_assoc, List.cons_append]
  rw [readYear_writeYear _ (by rintro _ ⟨⟩; rfl)]
  simp only [Option.bind_eq_bind, Option.bind_some]
  rw [readMark_cons (by decide), Option.bind_some, readPair_paddedDigits (by omega),
    Option.bind_some, readMark_cons (by decide), Option.bind_some,
    readPair_paddedDigits (by omega), Option.bind_some, ofParts?_date]
  rfl

theorem readFraction_eq {cs ds : List Char} (taken : cs.takeWhile Char.isDigit = ds)
    (written : ds ≠ []) :
    readFraction ('.' :: cs) =
      some (digitsValue (ds.take 9) * 10 ^ (9 - (ds.take 9).length),
        cs.dropWhile Char.isDigit) := by
  unfold readFraction
  simp only [taken]
  cases ds with
  | nil => exact absurd rfl written
  | cons d rest => rfl

theorem readFraction_paddedDigits {width n : Nat} (wide : 0 < width) (narrow : width ≤ 9)
    (fits : n < 10 ^ width) {rest : List Char} (ends : NoDigit rest) :
    readFraction ('.' :: (paddedDigits width n ++ rest)) =
      some (n * 10 ^ (9 - width), rest) := by
  have digits := takeWhile_paddedDigits width n ends
  have others := dropWhile_paddedDigits width n ends
  have length := length_paddedDigits wide fits
  have whole : (paddedDigits width n).take 9 = paddedDigits width n :=
    List.take_of_length_le (by omega)
  rw [readFraction_eq digits (paddedDigits_ne_nil width n), whole, length, others,
    digitsValue_paddedDigits]

theorem readFraction_writeFraction {nanosecond : Nat} (fits : nanosecond < 1000000000)
    (rest : List Char) :
    readFraction (writeFraction nanosecond ++ 'Z' :: rest) = some (nanosecond, 'Z' :: rest) := by
  have ends : NoDigit ('Z' :: rest) := by
    rintro _ ⟨⟩
    rfl
  unfold writeFraction
  by_cases none : nanosecond = 0
  · rw [if_pos none, none]
    rfl
  rw [if_neg none]
  by_cases millis : nanosecond % 1000000 = 0
  · rw [if_pos millis, List.cons_append,
      readFraction_paddedDigits (by decide) (by decide) (by omega) ends]
    have exact : nanosecond / 1000000 * 10 ^ (9 - 3) = nanosecond := by omega
    rw [exact]
  rw [if_neg millis]
  by_cases micros : nanosecond % 1000 = 0
  · rw [if_pos micros, List.cons_append,
      readFraction_paddedDigits (by decide) (by decide) (by omega) ends]
    have exact : nanosecond / 1000 * 10 ^ (9 - 6) = nanosecond := by omega
    rw [exact]
  · rw [if_neg micros, List.cons_append,
      readFraction_paddedDigits (by decide) (by decide) (by omega) ends]
    have exact : nanosecond * 10 ^ (9 - 9) = nanosecond := by omega
    rw [exact]

/-- A leap second is read back from the second 60. -/
theorem readClock_write (time : Timestamp) (rest : List Char) :
    readClock (writeClock time.second time.nanosecond ++
        (writeFraction (time.nanosecond % 1000000000) ++ 'Z' :: rest)) =
      some ((time.second, time.nanosecond), 'Z' :: rest) := by
  have inDay := time.secondInDay
  have range := time.nanosecondInRange
  have leapEnds := time.leapEndsMinute
  have shown : (if 1000000000 ≤ time.nanosecond then time.second % 60 + 1
      else time.second % 60) < 100 := by
    split <;> omega
  unfold writeClock readClock
  simp only [List.append_assoc, List.cons_append, Option.bind_eq_bind]
  rw [readPair_paddedDigits (by omega), Option.bind_some, readMark_cons (by decide),
    Option.bind_some, readPair_paddedDigits (by omega), Option.bind_some,
    readMark_cons (by decide), Option.bind_some, readPair_paddedDigits shown, Option.bind_some,
    readFraction_writeFraction (by omega), Option.bind_some, if_pos (by omega)]
  have joined :
      (time.second / 3600 * 60 + time.second / 60 % 60) * 60 + time.second % 60 = time.second := by
    omega
  by_cases leap : 1000000000 ≤ time.nanosecond
  · have last := leapEnds leap
    have fraction : 1000000000 + time.nanosecond % 1000000000 = time.nanosecond := by omega
    rw [last] at joined
    simp only [if_pos leap, last, joined, fraction]
    rfl
  · have fraction : time.nanosecond % 1000000000 = time.nanosecond := by omega
    simp only [if_neg leap, joined, fraction]
    rw [if_pos (by omega)]
    rfl

theorem ofParts?_of_timestamp (time : Timestamp) :
    ofParts? time.date time.second time.nanosecond = some time := by
  unfold ofParts?
  rw [dif_pos time.secondInDay, dif_pos time.nanosecondInRange, dif_pos time.leapEndsMinute]

theorem ofLocal?_universal (time : Timestamp) :
    ofLocal? time.date time.second time.nanosecond 0 = some time := by
  have inDay := time.secondInDay
  unfold ofLocal?
  simp only [Int.zero_mul, Int.sub_zero]
  rw [if_pos (by decide), if_neg (by omega), if_pos (by omega), Int.toNat_natCast,
    ofParts?_of_timestamp]

theorem read?_write (time : Timestamp) : read? time.write = some time := by
  unfold write read?
  simp only [List.append_assoc, List.cons_append, Option.bind_eq_bind]
  rw [readDate_writeDate, Option.bind_some]
  change (readClock _).bind _ = _
  have universal : readOffset (trimStart ['Z']) = some (0, []) := rfl
  rw [readClock_write, Option.bind_some, universal, Option.bind_some]
  have nothing : trimStart [] = [] := rfl
  simp only [nothing, if_pos, ofLocal?_universal]

/-- Every moment is read back from its text, whatever its year, and leap seconds, too. -/
@[simp] theorem parse?_render (time : Timestamp) : parse? time.render = some time := by
  unfold parse? render
  rw [String.toList_ofList, read?_write]

/-- An offset can lead out of the years with four digits, and a leap second stays one. -/
example :
    (parse? "9999-12-31T23:59:60.5-01:00").map render = some "+10000-01-01T00:59:60.500Z" := by
  decide +kernel

end PolicyReplica.Timestamp
