import Mathlib.Data.List.Basic
import Mathlib.Data.List.TakeWhile
import Mathlib.Logic.Function.Iterate
import PolicyReplica.Time.SpanText

/-
Spans of texts that are put together.

The text of a span is a row of parts. A number has no alphabetic character and a unit has no
other one, so where one text ends after a unit and the next one starts with a number, a part
ends as well. Sums of parts are checked one by one, and as parts are not negative, one of them
is too long only if the last one is. Main statement: two texts after each other denote the sum
of their spans, or what they denote is too long. Whatever a text is, each part that is read
takes some characters away, so reading comes to an end.
-/

namespace PolicyReplica.Span

/-! ### Sums -/

theorem ofNanoseconds?_eq_some_iff {nanoseconds : Nat} {span : Span} :
    ofNanoseconds? nanoseconds = some span ↔ span.nanoseconds = nanoseconds := by
  unfold ofNanoseconds?
  constructor
  · intro made
    split at made
    · rw [← Option.some.inj made]
    · cases made
  · rintro rfl
    rw [dif_pos span.inRange]

theorem add?_eq_some_iff {left right sum : Span} :
    left.add? right = some sum ↔ sum.nanoseconds = left.nanoseconds + right.nanoseconds :=
  ofNanoseconds?_eq_some_iff

theorem add?_eq_none_iff {left right : Span} :
    left.add? right = none ↔ limit ≤ left.nanoseconds + right.nanoseconds := by
  unfold add? ofNanoseconds?
  rw [dite_eq_right_iff, ← Nat.not_lt]
  simp

/-! ### Cuts -/

variable {total sum : Span} {cs rest later : List Char}

structure IsCut (cs : List Char) (cut : Cut) : Prop where
  whole : cs = cut.number ++ cut.unit ++ cut.rest
  number : ∀ c ∈ cut.number, Text.isAlphabetic c = false
  unit : ∀ c ∈ cut.unit, Text.isAlphabetic c = true
  ends : ∀ c ∈ cut.rest.head?, Text.isAlphabetic c = false

theorem isCut_of_cut {cut : Cut} (found : cut? cs = some cut) : IsCut cs cut := by
  have whole := eq_append_of_cut found
  unfold cut? at found
  split at found
  case h_1 => cases found
  case h_2 first tail dropped =>
    have alphabetic : Text.isAlphabetic first = true := by
      have stops := List.head?_dropWhile_not (!Text.isAlphabetic ·) cs
      rw [dropped] at stops
      simpa using stops
    obtain rfl := Option.some.inj found
    refine ⟨whole, fun c member => ?_, fun c member => ?_, fun c starts => ?_⟩
    · simpa using List.mem_takeWhile_imp member
    · rcases List.mem_cons.mp member with rfl | later
      · exact alphabetic
      · exact List.mem_takeWhile_imp later
    · have stops := List.head?_dropWhile_not Text.isAlphabetic tail
      rw [Option.mem_def.mp starts] at stops
      exact stops

/-- There is one cut at most. -/
theorem IsCut.cut?_eq {cut : Cut} (isCut : IsCut cs cut) : cut? cs = some cut := by
  obtain ⟨number, unit, rest, hasUnit⟩ := cut
  obtain ⟨whole, inNumber, inUnit, ends⟩ := isCut
  obtain ⟨first, units, rfl⟩ := List.exists_cons_of_ne_nil hasUnit
  obtain ⟨firstInUnit, laterInUnit⟩ := List.forall_mem_cons.mp inUnit
  have numeric : ∀ c ∈ number, (!Text.isAlphabetic c) = true := by simpa using inNumber
  have restStops : rest.takeWhile Text.isAlphabetic = [] ∧
      rest.dropWhile Text.isAlphabetic = rest := by
    cases rest with
    | nil => exact ⟨rfl, rfl⟩
    | cons c later =>
        have stops := ends c rfl
        exact ⟨List.takeWhile_cons_of_neg (by simp [stops]),
          List.dropWhile_cons_of_neg (by simp [stops])⟩
  have split : cs = number ++ first :: (units ++ rest) := by
    rw [whole, List.append_assoc, List.cons_append]
  have dropped : cs.dropWhile (!Text.isAlphabetic ·) = first :: (units ++ rest) := by
    rw [split, List.dropWhile_append_of_pos numeric, List.dropWhile_cons_of_neg (by
      simp [firstInUnit])]
  have taken : cs.takeWhile (!Text.isAlphabetic ·) = number := by
    rw [split, List.takeWhile_append_of_pos numeric, List.takeWhile_cons_of_neg (by
      simp [firstInUnit]), List.append_nil]
  unfold cut?
  rw [dropped]
  simp only [taken, List.takeWhile_append_of_pos laterInUnit,
    List.dropWhile_append_of_pos laterInUnit, restStops.1, restStops.2, List.append_nil]

/-- What comes after a text does not change its first part, unless it goes on with a unit. -/
theorem cut?_append {cut : Cut} (found : cut? cs = some cut)
    (apart : ∀ c ∈ later.head?, Text.isAlphabetic c = false) :
    cut? (cs ++ later) = some { cut with rest := cut.rest ++ later } := by
  obtain ⟨whole, number, unit, ends⟩ := isCut_of_cut found
  refine IsCut.cut?_eq ⟨?_, number, unit, ?_⟩
  · rw [whole, List.append_assoc _ cut.rest]
  · cases remains : cut.rest with
    | nil => exact apart
    | cons c more =>
        rw [remains] at ends
        exact ends

/-! ### Rounds -/

theorem readRound_ended_ok (reading : readRound total cs = .ended (.ok sum)) :
    cs = [] ∧ total = sum := by
  unfold readRound at reading
  split at reading
  · next empty =>
      cases reading
      exact ⟨empty, rfl⟩
  · split at reading
    · cases reading
    · split at reading
      · cases reading
      · split at reading
        · cases reading
        · cases reading

theorem readRound_of_cut (total : Span) {cut : Cut} {part : Span} (found : cut? cs = some cut)
    (value : readPart cut.number cut.unit = .ok part) :
    readRound total cs =
      match total.add? part with
      | none => .ended (.error .overflow)
      | some sum => .goesOn sum cut.rest := by
  have present : cs ≠ [] := by
    rintro rfl
    cases found
  unfold readRound
  rw [if_neg present, found]
  cases added : total.add? part with
  | none => simp only [value, added]
  | some sum => simp only [value, added]

theorem readParts_of_ended {result : Except SpanFault Span}
    (reading : readRound total cs = .ended result) : readParts total cs = result := by
  rw [readParts]
  split
  · next same => cases same.symm.trans reading; rfl
  · next same => cases same.symm.trans reading

theorem readParts_of_goesOn (reading : readRound total cs = .goesOn sum rest) :
    readParts total cs = readParts sum rest := by
  rw [readParts]
  split
  · next same => cases same.symm.trans reading
  · next same => cases same.symm.trans reading; rfl

/-- No text of a span starts with a unit. -/
theorem head_of_readParts_ok (done : readParts total cs = .ok sum) :
    ∀ c ∈ cs.head?, Text.isAlphabetic c = false := by
  intro c starts
  obtain ⟨more, rfl⟩ := List.head?_eq_some_iff.mp starts
  rw [Bool.eq_false_iff]
  intro alphabetic
  have stuck : readRound total (c :: more) = .ended (.error (.notANumber .empty)) := by
    unfold readRound cut?
    rw [if_neg (List.cons_ne_nil c more), List.dropWhile_cons_of_neg (by simp [alphabetic]),
      List.takeWhile_cons_of_neg (by simp [alphabetic])]
    rfl
  rw [readParts_of_ended stuck] at done
  cases done

/-- Reading goes on with the second text where the first one ends. -/
theorem readParts_append (done : readParts total cs = .ok sum)
    (apart : ∀ c ∈ later.head?, Text.isAlphabetic c = false) :
    readParts total (cs ++ later) = readParts sum later := by
  induction total, cs using readParts.induct with
  | case1 total cs result reading =>
      rw [readParts_of_ended reading] at done
      rw [done] at reading
      obtain ⟨rfl, rfl⟩ := readRound_ended_ok reading
      rw [List.nil_append]
  | case2 total cs next rest reading shorter ih =>
      rw [readParts_of_goesOn reading] at done
      obtain ⟨cut, part, found, value, fits, rfl⟩ := readRound_goesOn reading
      have goesOn : readRound total (cs ++ later) = .goesOn next (cut.rest ++ later) := by
        rw [readRound_of_cut total (cut?_append found apart) value, fits]
      rw [readParts_of_goesOn goesOn]
      exact ih done

theorem le_of_readParts_ok (done : readParts total cs = .ok sum) :
    total.nanoseconds ≤ sum.nanoseconds := by
  induction total, cs using readParts.induct with
  | case1 total cs result reading =>
      rw [readParts_of_ended reading] at done
      rw [done] at reading
      exact (congrArg nanoseconds (readRound_ended_ok reading).2).le
  | case2 total cs next rest reading shorter ih =>
      rw [readParts_of_goesOn reading] at done
      obtain ⟨cut, part, found, value, fits, rfl⟩ := readRound_goesOn reading
      have grown := add?_eq_some_iff.mp fits
      have bound := ih done
      omega

/-- If more has been read before, the result is more by that, or too long. -/
theorem readParts_later {before : Span} (done : readParts total cs = .ok sum) {start : Span}
    (more : start.nanoseconds = before.nanoseconds + total.nanoseconds) :
    readParts start cs =
      match before.add? sum with
      | some result => .ok result
      | none => .error .overflow := by
  induction total, cs using readParts.induct generalizing start with
  | case1 total cs result reading =>
      rw [readParts_of_ended reading] at done
      rw [done] at reading
      obtain ⟨rfl, rfl⟩ := readRound_ended_ok reading
      have ended : readRound start [] = .ended (.ok start) := rfl
      rw [readParts_of_ended ended, add?_eq_some_iff.mpr more]
  | case2 total cs next rest reading shorter ih =>
      rw [readParts_of_goesOn reading] at done
      obtain ⟨cut, part, found, value, fits, rfl⟩ := readRound_goesOn reading
      have grown := add?_eq_some_iff.mp fits
      have round := readRound_of_cut start found value
      cases sums : start.add? part with
      | none =>
          -- The sum of the parts that are still to come is not less than this one.
          rw [sums] at round
          have bound := le_of_readParts_ok done
          have tooLong := add?_eq_none_iff.mp sums
          have overflows : before.add? sum = none := add?_eq_none_iff.mpr (by omega)
          rw [readParts_of_ended round, overflows]
      | some reached =>
          rw [sums] at round
          have length := add?_eq_some_iff.mp sums
          rw [readParts_of_goesOn round]
          exact ih done (by omega)

/-! ### Texts -/

/-- The text has no blanks at its ends and no sign, and is not the zero without a unit. -/
structure Bare (cs : List Char) : Prop where
  starts : ∀ c ∈ cs.head?, Text.isBlank c = false ∧ c ≠ '+' ∧ c ≠ '-'
  ends : ∀ c ∈ cs.getLast?, Text.isBlank c = false
  notZero : cs ≠ ['0']

theorem bare_iff (cs : List Char) :
    Bare cs ↔ cs.head?.all (fun c => !Text.isBlank c && c ≠ '+' && c ≠ '-') = true ∧
      cs.getLast?.all (fun c => !Text.isBlank c) = true ∧ cs ≠ ['0'] := by
  have sides : Bare cs ↔ (∀ c ∈ cs.head?, Text.isBlank c = false ∧ c ≠ '+' ∧ c ≠ '-') ∧
      (∀ c ∈ cs.getLast?, Text.isBlank c = false) ∧ cs ≠ ['0'] :=
    ⟨fun bare => ⟨bare.starts, bare.ends, bare.notZero⟩,
      fun ⟨starts, ends, notZero⟩ => ⟨starts, ends, notZero⟩⟩
  simp [sides, Option.all_eq_true, and_assoc]

instance (cs : List Char) : Decidable (Bare cs) :=
  decidable_of_iff' _ (bare_iff cs)

theorem trimStart_of_head (starts : ∀ c ∈ cs.head?, Text.isBlank c = false) :
    Text.trimStart cs = cs := by
  cases cs with
  | nil => rfl
  | cons c more => exact List.dropWhile_cons_of_neg (by simp [starts c rfl])

theorem Bare.trim (bare : Bare cs) : Text.trim cs = cs := by
  have front := trimStart_of_head fun c member => (bare.starts c member).1
  have back : Text.trimStart cs.reverse = cs.reverse := by
    refine trimStart_of_head fun c member => bare.ends c ?_
    rwa [List.head?_reverse] at member
  rw [Text.trim, front, back, List.reverse_reverse]

theorem Bare.read (bare : Bare cs) (present : cs ≠ []) : read cs = readParts zero cs := by
  obtain ⟨c, more, rfl⟩ := List.exists_cons_of_ne_nil present
  obtain ⟨_, notPlus, notMinus⟩ := bare.starts c rfl
  have unsigned : (c :: more).dropWhile (· = '+') = c :: more :=
    List.dropWhile_cons_of_neg (by simpa using notPlus)
  unfold Span.read
  rw [bare.trim]
  split
  · next same =>
      exact absurd (List.cons.inj same).1 notMinus
  · simp only [unsigned, if_neg bare.notZero, if_neg present]

theorem Bare.ne_nil_of_read (bare : Bare cs) {span : Span} (done : Span.read cs = .ok span) :
    cs ≠ [] := by
  rintro rfl
  cases done

theorem Bare.append {second : List Char} (bare : Bare cs) (present : cs ≠ [])
    (bareSecond : Bare second) (presentSecond : second ≠ []) : Bare (cs ++ second) where
  starts := by
    rw [List.head?_append_of_ne_nil _ present]
    exact bare.starts
  ends := by
    rw [List.getLast?_append_of_ne_nil _ presentSecond]
    exact bareSecond.ends
  notZero := by
    intro zero
    have lengths := congrArg List.length zero
    have first := List.length_pos_iff.mpr present
    have other := List.length_pos_iff.mpr presentSecond
    rw [List.length_append, List.length_singleton] at lengths
    omega

theorem read_append {second : List Char} (bare : Bare cs) (bareSecond : Bare second)
    {left right : Span} (done : read cs = .ok left) (doneSecond : read second = .ok right) :
    read (cs ++ second) =
      match left.add? right with
      | some result => .ok result
      | none => .error .overflow := by
  have present := bare.ne_nil_of_read done
  have presentSecond := bareSecond.ne_nil_of_read doneSecond
  rw [bare.read present] at done
  rw [bareSecond.read presentSecond] at doneSecond
  have whole := (bare.append present bareSecond presentSecond).read (by simp [present])
  rw [whole, readParts_append done (head_of_readParts_ok doneSecond)]
  exact readParts_later doneSecond rfl

/-! ### Progress -/

def Reading.next : Reading → Reading
  | .ended result => .ended result
  | .goesOn total rest => readRound total rest

theorem reading_ends (total : Span) (cs : List Char) :
    ∃ rounds ≤ cs.length,
      Reading.next^[rounds + 1] (.goesOn total cs) = .ended (readParts total cs) := by
  induction total, cs using readParts.induct with
  | case1 total cs result reading =>
      refine ⟨0, Nat.zero_le _, ?_⟩
      rw [readParts_of_ended reading]
      exact reading
  | case2 total cs next rest reading shorter ih =>
      obtain ⟨rounds, bound, ended⟩ := ih
      refine ⟨rounds + 1, Nat.succ_le_of_lt (bound.trans_lt shorter), ?_⟩
      rw [Function.iterate_succ_apply, readParts_of_goesOn reading, ← ended]
      exact congrArg _ reading

def bytesBefore (stops : Char → Bool) : List Char → Nat
  | [] => 0
  | c :: rest => if stops c then 0 else c.utf8Size + bytesBefore stops rest

/-- After that many bytes the text falls into two, and a character starts there or the text
ends. -/
def SplitsAt (cs : List Char) (bytes : Nat) (before after : List Char) : Prop :=
  cs = before ++ after ∧ (String.ofList before).utf8ByteSize = bytes ∧
    String.Pos.Raw.IsValid (String.ofList cs) ⟨bytes⟩

theorem bytesBefore_append {stops : Char → Bool} {before after : List Char}
    (passes : ∀ c ∈ before, stops c = false) (halts : ∀ c ∈ after.head?, stops c = true) :
    bytesBefore stops (before ++ after) = (String.ofList before).utf8ByteSize := by
  induction before with
  | nil =>
      cases after with
      | nil => rfl
      | cons c more =>
          rw [List.nil_append, bytesBefore, if_pos (halts c rfl)]
          rfl
  | cons c more ih =>
      obtain ⟨here, there⟩ := List.forall_mem_cons.mp passes
      rw [List.cons_append, bytesBefore, if_neg (by simp [here]), ih there, String.ofList_cons,
        String.utf8ByteSize_append, String.utf8ByteSize_singleton]

theorem splitsAt_bytesBefore {stops : Char → Bool} {before after : List Char}
    (passes : ∀ c ∈ before, stops c = false) (halts : ∀ c ∈ after.head?, stops c = true) :
    SplitsAt (before ++ after) (bytesBefore stops (before ++ after)) before after := by
  have bytes := bytesBefore_append passes halts
  refine ⟨rfl, bytes.symm, String.Pos.Raw.isValid_iff_exists_append.mpr ?_⟩
  refine ⟨String.ofList before, String.ofList after, String.ofList_append, ?_⟩
  rw [bytes]
  rfl

theorem splitsAt_of_cut {cut : Cut} (found : cut? cs = some cut) :
    let tail := cut.unit ++ cut.rest
    SplitsAt cs (bytesBefore Text.isAlphabetic cs) cut.number tail ∧
      SplitsAt tail (bytesBefore (!Text.isAlphabetic ·) tail) cut.unit cut.rest := by
  obtain ⟨whole, number, unit, ends⟩ := isCut_of_cut found
  obtain ⟨first, units, same⟩ := List.exists_cons_of_ne_nil cut.hasUnit
  constructor
  · rw [whole, List.append_assoc]
    refine splitsAt_bytesBefore number fun c starts => unit c ?_
    rw [same, List.cons_append] at starts
    rw [same, ← Option.some.inj starts]
    exact List.mem_cons_self
  · refine splitsAt_bytesBefore ?_ ?_
    · simpa using unit
    · simpa using ends

/-- Two texts after each other denote the sum of their spans if there is such a span, and are too
long otherwise. Any text is read in rounds that cut it between two characters and leave less
of it. -/
theorem parse_append :
    (∀ (first second : String) (left right : Span),
      Bare first.toList → Bare second.toList →
      parse first = .ok left → parse second = .ok right →
      (left.nanoseconds + right.nanoseconds < limit →
        ∃ sum, parse (first ++ second) = .ok sum ∧
          sum.nanoseconds = left.nanoseconds + right.nanoseconds) ∧
      (limit ≤ left.nanoseconds + right.nanoseconds →
        parse (first ++ second) = .error .overflow)) ∧
    ∀ (total : Span) (cs : List Char),
      (∀ cut, cut? cs = some cut →
        let tail := cut.unit ++ cut.rest
        SplitsAt cs (bytesBefore Text.isAlphabetic cs) cut.number tail ∧
          SplitsAt tail (bytesBefore (!Text.isAlphabetic ·) tail) cut.unit cut.rest) ∧
      (∀ sum rest, readRound total cs = .goesOn sum rest →
        (∃ cut, cut? cs = some cut ∧ rest = cut.rest) ∧ rest.length < cs.length) ∧
      ∃ rounds ≤ cs.length,
        Reading.next^[rounds + 1] (.goesOn total cs) = .ended (readParts total cs) := by
  refine ⟨?_, ?_⟩
  · intro first second left right bare bareSecond done doneSecond
    have whole : parse (first ++ second) =
        match left.add? right with
        | some result => .ok result
        | none => .error .overflow := by
      unfold parse
      rw [String.toList_append]
      exact read_append bare bareSecond done doneSecond
    rw [whole]
    constructor
    · intro fits
      obtain ⟨sum, length⟩ : ∃ sum : Span,
          sum.nanoseconds = left.nanoseconds + right.nanoseconds := ⟨⟨_, fits⟩, rfl⟩
      rw [add?_eq_some_iff.mpr length]
      exact ⟨sum, rfl, length⟩
    · intro tooLong
      rw [add?_eq_none_iff.mpr tooLong]
  · intro total cs
    refine ⟨fun cut => splitsAt_of_cut, fun sum rest reading => ?_, reading_ends total cs⟩
    obtain ⟨cut, _, found, _, _, same⟩ := readRound_goesOn reading
    exact ⟨⟨cut, found, same⟩, rest_length_of_goesOn reading⟩

/-- The second sum is the least one that is too long. -/
theorem parse_append_hours :
    (∃ sum, parse ("1h30m" ++ "0.5µs") = .ok sum ∧ sum.nanoseconds = 5400000000500) ∧
      parse ("10000000000000000000s" ++ "8446744073709551616s") = .error .overflow := by
  constructor
  · exact (parse_append.1 "1h30m" "0.5µs" ⟨5400000000000, by decide⟩ ⟨500, by decide⟩
      (by decide) (by decide) (by decide +kernel) (by decide +kernel)).1 (by decide)
  · exact (parse_append.1 "10000000000000000000s" "8446744073709551616s"
      ⟨10000000000000000000000000000, by decide⟩ ⟨8446744073709551616000000000, by decide⟩
      (by decide) (by decide) (by decide +kernel) (by decide +kernel)).2 (by decide)

end PolicyReplica.Span
