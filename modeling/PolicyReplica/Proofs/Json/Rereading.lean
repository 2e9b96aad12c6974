import PolicyReplica.Json.Reader
import PolicyReplica.Json.Writer
import PolicyReplica.Proofs.Text.Digits

/-
Reading the written form of a value.

A written value has no blanks, starts with a character that closes nothing, and is followed by
a mark that no number goes on with. The fuel of a reader is enough when it is the length of
what was written. Main statement: a value whose numbers fit a machine word is read back from
its text.
-/

namespace PolicyReplica.Json

open Text

theorem skipSpace_cons {c : Char} (visible : isSpace c = false) (rest : List Char) :
    skipSpace (c :: rest) = c :: rest :=
  List.dropWhile_cons_of_neg (by rw [visible]; exact Bool.false_ne_true)

/-! ### Strings -/

theorem hexValue?_hexDigit : ∀ n < 16, hexValue? (hexDigit n) = some n := by
  decide

theorem readUnit_writeChar {n : Nat} (small : n < 0x20) (rest : List Char) :
    readUnit ('0' :: '0' :: hexDigit (n / 16) :: hexDigit (n % 16) :: rest) = some (n, rest) := by
  have zero : hexValue? '0' = some 0 := rfl
  have value : n / 16 * 16 + n % 16 = n := by omega
  unfold readUnit
  simp only [zero, hexValue?_hexDigit _ (show n / 16 < 16 by omega),
    hexValue?_hexDigit _ (show n % 16 < 16 by omega), Option.bind_eq_bind, Option.bind_some,
    Option.pure_def, Nat.zero_mul, Nat.zero_add, value]

theorem readEscape_control {c : Char} (control : c.toNat < 0x20) (rest : List Char) :
    readEscape ('u' :: '0' :: '0' :: hexDigit (c.toNat / 16) :: hexDigit (c.toNat % 16) :: rest) =
      some (.character c, rest) := by
  have high : (0xd800 ≤ c.toNat && c.toNat ≤ 0xdbff) = false := by
    simp only [Bool.and_eq_false_iff, decide_eq_false_iff_not]
    omega
  have low : (0xdc00 ≤ c.toNat && c.toNat ≤ 0xdfff) = false := by
    simp only [Bool.and_eq_false_iff, decide_eq_false_iff_not]
    omega
  unfold readEscape
  simp only [readUnit_writeChar control, Option.bind_eq_bind, Option.bind_some, high, low,
    Bool.false_eq_true, if_false, Option.pure_def, Char.ofNat_toNat]

theorem readElements_plain {c : Char} (quote : c ≠ '"') (backslash : c ≠ '\\')
    (shown : ¬ c.toNat < 0x20) (fuel : Nat) (rest : List Char) :
    readElements (fuel + 1) (c :: rest) =
      (readElements fuel rest).map fun (elements, rest) => (.character c :: elements, rest) := by
  rw [readElements]
  · rw [if_neg shown]
    cases readElements fuel rest <;> rfl
  · exact quote
  · exact backslash

theorem readElements_escape {escape rest : List Char} {element : Element}
    (read : readEscape escape = some (element, rest)) (fuel : Nat) :
    readElements (fuel + 1) ('\\' :: escape) =
      (readElements fuel rest).map fun (elements, rest) => (element :: elements, rest) := by
  rw [readElements, read]
  simp only [Option.bind_eq_bind, Option.bind_some]
  cases readElements fuel rest <;> rfl

theorem readElements_writeChar (c : Char) (fuel : Nat) (rest : List Char) :
    readElements (fuel + 1) (writeChar c ++ rest) =
      (readElements fuel rest).map fun (elements, rest) => (.character c :: elements, rest) := by
  by_cases letter : c ∈ ['"', '\\', '\x08', '\x0c', '\n', '\r', '\t']
  · simp only [List.mem_cons, List.not_mem_nil, or_false] at letter
    rcases letter with rfl | rfl | rfl | rfl | rfl | rfl | rfl
    all_goals exact readElements_escape rfl fuel
  · simp only [List.mem_cons, List.not_mem_nil, or_false, not_or] at letter
    obtain ⟨quote, backslash, backspace, formFeed, lineFeed, carriageReturn, tab⟩ := letter
    unfold writeChar
    rw [if_neg quote, if_neg backslash, if_neg backspace, if_neg formFeed, if_neg lineFeed,
      if_neg carriageReturn, if_neg tab]
    by_cases control : c.toNat < 0x20
    · rw [if_pos control]
      exact readElements_escape (readEscape_control control rest) fuel
    · rw [if_neg control]
      exact readElements_plain quote backslash control fuel rest

theorem readElements_write (cs : List Char) {fuel : Nat} (enough : cs.length < fuel)
    (rest : List Char) :
    readElements fuel (cs.flatMap writeChar ++ '"' :: rest) =
      some (cs.map Element.character, rest) := by
  induction cs generalizing fuel with
  | nil =>
      cases fuel with
      | zero => exact absurd enough (Nat.lt_irrefl 0)
      | succ fuel => rfl
  | cons c cs ih =>
      cases fuel with
      | zero => exact absurd enough (Nat.not_lt_zero _)
      | succ fuel =>
          rw [List.flatMap_cons, List.append_assoc, readElements_writeChar,
            ih (Nat.lt_of_succ_lt_succ enough)]
          rfl

theorem spell_characters (cs : List Char) : spell (cs.map Element.character) = some cs := by
  induction cs with
  | nil => rfl
  | cons c cs ih => rw [List.map_cons, spell, ih, Option.map_some]

theorem length_le_flatMap_writeChar (cs : List Char) :
    cs.length ≤ (cs.flatMap writeChar).length := by
  induction cs with
  | nil => exact Nat.le_refl 0
  | cons c cs ih =>
      have written : 1 ≤ (writeChar c).length := by
        unfold writeChar
        repeat' split
        all_goals exact Nat.le_add_left 1 _
      rw [List.flatMap_cons, List.length_append, List.length_cons]
      omega

/-- The reader of a string literal starts after the opening quote. -/
theorem readString_write (text : String) (rest : List Char) :
    readString (text.toList.flatMap writeChar ++ '"' :: rest) = some (some text, rest) := by
  have short := length_le_flatMap_writeChar text.toList
  unfold readString
  rw [readElements_write text.toList (by rw [List.length_append]; omega)]
  simp only [Option.bind_eq_bind, Option.bind_some, spell_characters, Option.map_some,
    String.ofList_toList, Option.pure_def]

/-! ### Numbers -/

/-- Holds of a number that the reader can give back: an integer of at most 64 bits, or a
decimal whose significand has no more. -/
def Number.Fits : Number → Prop
  | .integer n => -9223372036854775808 ≤ n ∧ n < 18446744073709551616
  | .decimal _ significand _ => significand < 18446744073709551616

def NumberEnds (cs : List Char) : Prop :=
  ∀ c ∈ cs.head?, c.isDigit = false ∧ c ≠ '.' ∧ c ≠ 'e' ∧ c ≠ 'E'

theorem NumberEnds.noDigit {cs : List Char} (ends : NumberEnds cs) : NoDigit cs :=
  fun c head => (ends c head).1

theorem readDigits_digits (n : Nat) {rest : List Char} (ends : NoDigit rest) :
    readDigits (digits n ++ rest) = some (digits n, rest) := by
  have taken := takeWhile_isDigit (fun c => isDigit_of_mem_digits (n := n)) ends
  have left := dropWhile_isDigit (fun c => isDigit_of_mem_digits (n := n)) ends
  have written := digits_ne_nil n
  unfold readDigits
  rw [taken, left]
  cases split : digits n with
  | nil => exact absurd split written
  | cons d more => rfl

theorem readWhole_digits (n : Nat) {rest : List Char} (ends : NoDigit rest) :
    readWhole (digits n ++ rest) = some (digits n, rest) := by
  by_cases zero : n = 0
  · subst zero
    change readWhole ('0' :: rest) = some (['0'], rest)
    cases rest with
    | nil => rfl
    | cons c more =>
        unfold readWhole
        simp only [ends c rfl, Bool.false_eq_true, if_false]
  · have read := readDigits_digits n ends
    obtain ⟨d, more, split, _, onlyZero⟩ := digits_eq_cons n
    rw [split, List.cons_append] at read ⊢
    rw [readWhole]
    · exact read
    · rintro _ ⟨⟩
      exact zero (onlyZero rfl)

theorem readFraction_none {cs : List Char} (point : ∀ c ∈ cs.head?, c ≠ '.') :
    readFraction cs = some (none, cs) := by
  unfold readFraction
  split
  · exact absurd rfl (point '.' rfl)
  · rfl

theorem readExponent_none {cs : List Char} (ends : NumberEnds cs) :
    readExponent cs = some (none, cs) := by
  cases cs with
  | nil => rfl
  | cons c rest =>
      obtain ⟨_, _, lower, upper⟩ := ends c rfl
      unfold readExponent
      simp only [lower, upper, decide_false, Bool.or_self, Bool.false_eq_true, if_false]

theorem readExponent_writeInt (n : Int) {rest : List Char} (ends : NoDigit rest) :
    readExponent ('e' :: (writeInt n ++ rest)) = some (some n, rest) := by
  have read := readDigits_digits n.natAbs ends
  unfold readExponent writeInt
  simp only [decide_true, Bool.true_or, if_true]
  by_cases negative : n < 0
  · have value : -(n.natAbs : Int) = n := by omega
    rw [if_pos negative, List.cons_append]
    simp only [read, Option.map_some, digitsValue_digits, value]
  · have value : (n.natAbs : Int) = n := by omega
    rw [if_neg negative]
    split
    · rename_i same
      exact absurd same (digits_append_ne_cons rfl _ _ _)
    · rename_i same
      exact absurd same (digits_append_ne_cons rfl _ _ _)
    · simp only [read, Option.map_some, digitsValue_digits, value]

theorem le_ofDigitChars (ds : List Char) (n : Nat) : n ≤ Nat.ofDigitChars 10 ds n := by
  induction ds generalizing n with
  | nil => exact Nat.le_refl n
  | cons d ds ih =>
      have more := ih (10 * n + (d.toNat - '0'.toNat))
      rw [Nat.ofDigitChars_cons]
      omega

theorem appendDigits_of_fits (ds : List Char) (n : Nat)
    (fits : Nat.ofDigitChars 10 ds n < Nat.pow 2 64) :
    appendDigits n ds = (Nat.ofDigitChars 10 ds n, 0) := by
  induction ds generalizing n with
  | nil => rfl
  | cons d ds ih =>
      have zero : '0'.toNat = 48 := rfl
      rw [Nat.ofDigitChars_cons, zero] at fits ⊢
      have longer := le_ofDigitChars ds (10 * n + (d.toNat - 48))
      unfold appendDigits
      simp only
      rw [if_pos (Nat.lt_of_le_of_lt longer fits)]
      exact ih _ fits

theorem decimalOf_digits {significand : Nat} (fits : significand < 18446744073709551616)
    (negative : Bool) (exponent : Int) :
    decimalOf negative (digits significand) [] exponent =
      .decimal negative significand exponent := by
  have appended := appendDigits_of_fits (digits significand) 0
    (by rw [← digitsValue, digitsValue_digits]; exact fits)
  rw [← digitsValue, digitsValue_digits] at appended
  unfold decimalOf
  simp only [appended, appendDigits, List.length_nil, Nat.sub_zero]
  rw [Int.natCast_zero, Int.add_zero, Int.sub_zero]

/-- The sign and the digits of a number, and what they are followed by. -/
theorem readNumber_signed (negative : Bool) (n : Nat) {tail rest : List Char}
    {exponent : Option Int} (ends : NoDigit tail) (point : ∀ c ∈ tail.head?, c ≠ '.')
    (read : readExponent tail = some (exponent, rest)) :
    readNumber ((if negative then ['-'] else []) ++ digits n ++ tail) =
      some (numberOf negative (digits n) none exponent, rest) := by
  have whole := readWhole_digits n ends
  have fraction := readFraction_none point
  unfold readNumber
  cases negative with
  | true =>
      simp only [if_true, List.cons_append, List.nil_append, whole, fraction, read,
        Option.bind_eq_bind, Option.bind_some, Option.pure_def]
  | false =>
      simp only [Bool.false_eq_true, if_false, List.nil_append]
      split
      · rename_i same
        exact absurd same (digits_append_ne_cons rfl _ _ _)
      · simp only [whole, fraction, read, Option.bind_eq_bind, Option.bind_some, Option.pure_def]

theorem writeInt_eq (n : Int) :
    writeInt n = (if decide (n < 0) then ['-'] else []) ++ digits n.natAbs := by
  unfold writeInt
  by_cases negative : n < 0
  · simp only [negative, if_true, decide_true, List.cons_append, List.nil_append]
  · simp only [negative, if_false, decide_false, Bool.false_eq_true, List.nil_append]

theorem numberOf_integer {n : Int} (fits : (Number.integer n).Fits) :
    numberOf (decide (n < 0)) (digits n.natAbs) none none = .integer n := by
  unfold Number.Fits at fits
  unfold numberOf
  simp only [digitsValue_digits]
  by_cases negative : n < 0
  · have within : (0 < n.natAbs && n.natAbs ≤ Nat.pow 2 63) = true := by
      have limit : Nat.pow 2 63 = 9223372036854775808 := rfl
      simp only [Bool.and_eq_true, decide_eq_true_eq]
      omega
    have value : -(n.natAbs : Int) = n := by omega
    simp only [negative, decide_true, if_true, within, value]
  · have within : n.natAbs < Nat.pow 2 64 := by
      have limit : Nat.pow 2 64 = 18446744073709551616 := rfl
      omega
    have value : (n.natAbs : Int) = n := by omega
    simp only [negative, decide_false, Bool.false_eq_true, if_false, within, if_true, value]

theorem readNumber_write {value : Number} (fits : value.Fits) {rest : List Char}
    (ends : NumberEnds rest) :
    readNumber (writeNumber value ++ rest) = some (value, rest) := by
  cases value with
  | integer n =>
      have read := readNumber_signed (decide (n < 0)) n.natAbs ends.noDigit
        (fun c head => (ends c head).2.1) (readExponent_none ends)
      rw [numberOf_integer fits] at read
      rw [writeNumber, writeInt_eq]
      exact read
  | decimal negative significand exponent =>
      have read := readNumber_signed negative significand
        (by rintro _ ⟨⟩; rfl)
        (by rintro _ ⟨⟩; decide) (readExponent_writeInt exponent ends.noDigit)
      rw [writeNumber, List.append_assoc, List.cons_append, read]
      change some (decimalOf negative (digits significand) [] exponent, rest) = _
      rw [decimalOf_digits fits]

/-! ### Values -/

mutual
def Fits : Json → Prop
  | .number value => value.Fits
  | .array items => FitItems items
  | .object fields => FitFields fields
  | _ => True

def FitItems : List Json → Prop
  | [] => True
  | item :: rest => item.Fits ∧ FitItems rest

def FitFields : List (String × Json) → Prop
  | [] => True
  | (_, value) :: rest => value.Fits ∧ FitFields rest
end

theorem writeNumber_eq_cons (value : Number) :
    ∃ c rest, writeNumber value = c :: rest ∧ (c = '-' ∨ c.isDigit = true) := by
  have signed (negative : Bool) (n : Nat) (tail : List Char) :
      ∃ c rest, (if negative then ['-'] else []) ++ digits n ++ tail = c :: rest ∧
        (c = '-' ∨ c.isDigit = true) := by
    cases negative with
    | true => exact ⟨'-', _, rfl, Or.inl rfl⟩
    | false =>
        obtain ⟨d, more, split, digit, _⟩ := digits_eq_cons n
        exact ⟨d, more ++ tail, congrArg (· ++ tail) split, Or.inr digit⟩
  cases value with
  | integer n =>
      obtain ⟨c, rest, split, mark⟩ := signed (decide (n < 0)) n.natAbs []
      rw [List.append_nil, ← writeInt_eq] at split
      exact ⟨c, rest, split, mark⟩
  | decimal negative significand exponent => exact signed negative significand _

theorem isSpace_of_isDigit {c : Char} (digit : c.isDigit = true) : isSpace c = false := by
  unfold isSpace
  simp only [Bool.or_eq_false_iff, decide_eq_false_iff_not]
  refine ⟨⟨⟨?_, ?_⟩, ?_⟩, ?_⟩
  all_goals
    rintro rfl
    cases digit

theorem readValue_number {c : Char} (mark : c = '-' ∨ c.isDigit = true) (fuel : Nat)
    (rest : List Char) :
    readValue (fuel + 1) (c :: rest) =
      (readNumber (c :: rest)).map fun (value, rest) => (.number value, rest) := by
  have visible : isSpace c = false := by
    rcases mark with rfl | digit
    · rfl
    · exact isSpace_of_isDigit digit
  rw [readValue, skipSpace_cons visible]
  split
  case h_7 => rfl
  all_goals
    rename_i same
    obtain ⟨rfl, _⟩ := List.cons.inj same
    rcases mark with minus | digit
    · cases minus
    · cases digit

theorem readValue_string (fuel : Nat) (text : String) (rest : List Char) :
    readValue (fuel + 1) (writeString text ++ rest) = some (.string text, rest) := by
  have read := readString_write text rest
  unfold writeString
  simp only [List.cons_append, List.append_assoc, List.nil_append]
  rw [readValue, skipSpace_cons rfl]
  simp only [read, Option.map_some]
  rfl

theorem readValue_items {c : Char} (visible : isSpace c = false) (opens : c ≠ ']') (fuel : Nat)
    (rest : List Char) :
    readValue (fuel + 1) ('[' :: c :: rest) =
      (readItems fuel (c :: rest)).map fun (items, rest) => (.array items, rest) := by
  rw [readValue, skipSpace_cons rfl]
  simp only [skipSpace_cons visible]
  split
  · rename_i same
    exact absurd (List.cons.inj same).1 opens
  · rfl

theorem readValue_fields (fuel : Nat) (rest : List Char) :
    readValue (fuel + 1) ('\x7b' :: '"' :: rest) =
      (readFields fuel ('"' :: rest)).map fun (fields, rest) =>
        ((fields.map object).getD .broken, rest) := by
  rw [readValue, skipSpace_cons rfl]
  rfl

theorem readItems_more {fuel : Nat} {cs rest : List Char} {item : Json}
    (read : readValue fuel cs = some (item, ',' :: rest)) :
    readItems (fuel + 1) cs =
      (readItems fuel rest).map fun (items, rest) => (item :: items, rest) := by
  rw [readItems, read]
  simp only [Option.bind_eq_bind, Option.bind_some,
    skipSpace_cons (show isSpace ',' = false from rfl)]
  cases readItems fuel rest <;> rfl

theorem readItems_last {fuel : Nat} {cs rest : List Char} {item : Json}
    (read : readValue fuel cs = some (item, ']' :: rest)) :
    readItems (fuel + 1) cs = some ([item], rest) := by
  rw [readItems, read]
  rfl

theorem readFields_more {fuel : Nat} {name : String} {cs rest : List Char} {value : Json}
    (read : readValue fuel cs = some (value, ',' :: rest)) :
    readFields (fuel + 1) (writeString name ++ ':' :: cs) =
      (readFields fuel rest).map fun (fields, rest) => (fields.map ((name, value) :: ·), rest) := by
  have readName := readString_write name (':' :: cs)
  unfold writeString
  simp only [List.cons_append, List.append_assoc, List.nil_append]
  rw [readFields, skipSpace_cons rfl]
  simp only [readName, Option.bind_eq_bind, Option.bind_some,
    skipSpace_cons (show isSpace ':' = false from rfl), read,
    skipSpace_cons (show isSpace ',' = false from rfl)]
  cases readFields fuel rest with
  | none => rfl
  | some read =>
      obtain ⟨fields, rest⟩ := read
      cases fields <;> rfl

theorem readFields_last {fuel : Nat} {name : String} {cs rest : List Char} {value : Json}
    (read : readValue fuel cs = some (value, '\x7d' :: rest)) :
    readFields (fuel + 1) (writeString name ++ ':' :: cs) = some (some [(name, value)], rest) := by
  have readName := readString_write name (':' :: cs)
  unfold writeString
  simp only [List.cons_append, List.append_assoc, List.nil_append]
  rw [readFields, skipSpace_cons rfl]
  simp only [readName, Option.bind_eq_bind, Option.bind_some,
    skipSpace_cons (show isSpace ':' = false from rfl), read,
    skipSpace_cons (show isSpace '\x7d' = false from rfl)]
  rfl

/-- What a value is written with starts neither with a blank nor with the end of a list. -/
theorem write_eq_cons (value : Json) :
    ∃ c rest, value.write = c :: rest ∧ isSpace c = false ∧ c ≠ ']' := by
  cases value with
  | null => exact ⟨'n', _, rfl, rfl, by decide⟩
  | bool value => cases value <;> exact ⟨_, _, rfl, rfl, by decide⟩
  | number value =>
      obtain ⟨c, rest, split, mark⟩ := writeNumber_eq_cons value
      refine ⟨c, rest, split, ?_⟩
      rcases mark with rfl | digit
      · exact ⟨rfl, by decide⟩
      · refine ⟨isSpace_of_isDigit digit, ?_⟩
        rintro rfl
        cases digit
  | string text => exact ⟨'"', _, rfl, rfl, by decide⟩
  | broken => exact ⟨'"', _, rfl, rfl, by decide⟩
  | array items => exact ⟨'[', _, rfl, rfl, by decide⟩
  | object fields => exact ⟨'\x7b', _, rfl, rfl, by decide⟩

theorem numberEnds_cons {c : Char} (ends : c.isDigit = false ∧ c ≠ '.' ∧ c ≠ 'e' ∧ c ≠ 'E')
    (rest : List Char) : NumberEnds (c :: rest) := by
  rintro _ ⟨⟩
  exact ends

theorem writeItems_cons_cons (item other : Json) (items : List Json) :
    writeItems (item :: other :: items) = item.write ++ ',' :: writeItems (other :: items) :=
  rfl

theorem writeFields_cons_cons (name : String) (value : Json) (other : String × Json)
    (fields : List (String × Json)) :
    writeFields ((name, value) :: other :: fields) =
      writeString name ++ ':' :: (value.write ++ ',' :: writeFields (other :: fields)) := by
  rw [writeFields, List.append_assoc, List.cons_append]
  exact List.cons_ne_nil other fields

theorem writeItems_eq_cons (item : Json) (items : List Json) :
    ∃ c rest, writeItems (item :: items) = c :: rest ∧ isSpace c = false ∧ c ≠ ']' := by
  obtain ⟨c, rest, split, head⟩ := write_eq_cons item
  cases items with
  | nil => exact ⟨c, rest, split, head⟩
  | cons other items =>
      refine ⟨c, rest ++ ',' :: writeItems (other :: items), ?_, head⟩
      rw [writeItems_cons_cons, split, List.cons_append]

theorem writeFields_eq_cons (field : String × Json) (fields : List (String × Json)) :
    ∃ rest, writeFields (field :: fields) = '"' :: rest := by
  obtain ⟨name, value⟩ := field
  cases fields with
  | nil => exact ⟨_, rfl⟩
  | cons other fields => exact ⟨_, rfl⟩

/-- Half of a surrogate pair denotes no text. -/
theorem readValue_broken (fuel : Nat) (rest : List Char) :
    readValue (fuel + 1) (broken.write ++ rest) = some (broken, rest) :=
  rfl

mutual
/-- The fuel that a value needs is the length of its text, and lists need one more. -/
theorem readValue_write (value : Json) (fits : value.Fits) (fuel : Nat) (rest : List Char)
    (enough : value.write.length ≤ fuel) (ends : NumberEnds rest) :
    readValue fuel (value.write ++ rest) = some (value, rest) := by
  obtain ⟨fuel, rfl⟩ : ∃ less, fuel = less + 1 := by
    obtain ⟨c, more, split, _⟩ := write_eq_cons value
    rw [split, List.length_cons] at enough
    exact ⟨fuel - 1, by omega⟩
  match value with
  | .null => rfl
  | .bool true => rfl
  | .bool false => rfl
  | .number value =>
      obtain ⟨c, more, split, mark⟩ := writeNumber_eq_cons value
      have read := readNumber_write fits ends
      rw [write]
      rw [split, List.cons_append] at read ⊢
      rw [readValue_number mark, read]
      rfl
  | .string text => exact readValue_string fuel text rest
  | .broken => exact readValue_broken fuel rest
  | .array [] => rfl
  | .array (item :: items) =>
      rw [write, List.cons_append, List.length_cons, List.length_append] at enough
      have read := readItems_write (item :: items) fits (List.cons_ne_nil item items) fuel rest
        (by simp only [List.length_singleton] at enough; omega)
      obtain ⟨c, more, split, visible, opens⟩ := writeItems_eq_cons item items
      rw [write, List.cons_append, List.cons_append, List.append_assoc]
      rw [split] at read ⊢
      rw [List.cons_append, readValue_items visible opens]
      exact congrArg (Option.map _) read
  | .object [] => rfl
  | .object (field :: fields) =>
      rw [write, List.cons_append, List.length_cons, List.length_append] at enough
      have read := readFields_write (field :: fields) fits (List.cons_ne_nil field fields) fuel
        rest (by simp only [List.length_singleton] at enough; omega)
      obtain ⟨more, split⟩ := writeFields_eq_cons field fields
      rw [write, List.cons_append, List.cons_append, List.append_assoc]
      rw [split] at read ⊢
      rw [List.cons_append, readValue_fields]
      exact congrArg (Option.map _) read

theorem readItems_write (items : List Json) (fit : FitItems items) (inhabited : items ≠ [])
    (fuel : Nat) (rest : List Char) (enough : (writeItems items).length < fuel) :
    readItems fuel (writeItems items ++ ']' :: rest) = some (items, rest) := by
  obtain ⟨fuel, rfl⟩ : ∃ less, fuel = less + 1 := ⟨fuel - 1, by omega⟩
  match items with
  | [item] =>
      have read := readValue_write item fit.1 fuel (']' :: rest) (Nat.le_of_lt_succ enough)
        (numberEnds_cons (by decide) rest)
      exact readItems_last read
  | item :: other :: items =>
      rw [writeItems_cons_cons, List.length_append, List.length_cons] at enough
      have read := readValue_write item fit.1 fuel
        (',' :: (writeItems (other :: items) ++ ']' :: rest)) (by omega)
        (numberEnds_cons (by decide) _)
      have others := readItems_write (other :: items) fit.2 (List.cons_ne_nil other items) fuel
        rest (by omega)
      rw [writeItems_cons_cons, List.append_assoc, List.cons_append, readItems_more read, others]
      rfl

theorem readFields_write (fields : List (String × Json)) (fit : FitFields fields)
    (inhabited : fields ≠ []) (fuel : Nat) (rest : List Char)
    (enough : (writeFields fields).length < fuel) :
    readFields fuel (writeFields fields ++ '\x7d' :: rest) = some (some fields, rest) := by
  obtain ⟨fuel, rfl⟩ : ∃ less, fuel = less + 1 := ⟨fuel - 1, by omega⟩
  match fields with
  | [(name, value)] =>
      rw [writeFields, List.length_append, List.length_cons] at enough
      have read := readValue_write value fit.1 fuel ('\x7d' :: rest) (by omega)
        (numberEnds_cons (by decide) rest)
      rw [writeFields, List.append_assoc, List.cons_append]
      exact readFields_last read
  | (name, value) :: other :: fields =>
      rw [writeFields_cons_cons, List.length_append, List.length_cons, List.length_append,
        List.length_cons] at enough
      have read := readValue_write value fit.1 fuel
        (',' :: (writeFields (other :: fields) ++ '\x7d' :: rest)) (by omega)
        (numberEnds_cons (by decide) _)
      have others := readFields_write (other :: fields) fit.2 (List.cons_ne_nil other fields) fuel
        rest (by omega)
      rw [writeFields_cons_cons, List.append_assoc, List.cons_append, List.append_assoc,
        List.cons_append, readFields_more read, others]
      rfl
end

/-- A value whose numbers fit is read back from its text. -/
theorem parse?_render {value : Json} (fits : value.Fits) : parse? value.render = some value := by
  have read := readValue_write value fits (value.write.length + 1) [] (Nat.le_succ _) nofun
  rw [List.append_nil] at read
  unfold parse? render
  simp only [String.toList_ofList, read]
  rfl

end PolicyReplica.Json
