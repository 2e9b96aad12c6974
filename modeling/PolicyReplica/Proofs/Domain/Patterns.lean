import Mathlib.Data.List.Forall2
import PolicyReplica.Domain.Wildcard
import PolicyReplica.Text.Regex

/-
What resource patterns describe.

A pattern describes the texts that come from it when each star is replaced by a row of
characters and each question mark by one character, none of them a line feed. The matcher
accepts these texts. The expression of the pattern is found in these texts as well: all
that could have another meaning in an expression is escaped, and both ends are anchored.
Main statement: the matcher and any engine for regular expressions that does what it says
agree about a pattern and a name, and hold exactly if the pattern describes the name.
-/

namespace PolicyReplica.Wildcard

def StandsFor (c : Char) (part : List Char) : Prop :=
  if c = '*' then '\n' ∉ part
  else if c = '?' then ∃ d, d ≠ '\n' ∧ part = [d]
  else part = [c]

/-- The text is the pattern, with each character replaced by what it may stand for. -/
def Describes (pattern text : List Char) : Prop :=
  ∃ parts, List.Forall₂ StandsFor pattern parts ∧ parts.flatten = text

variable {c d : Char} {pattern rest text row : List Char}

theorem standsFor_star : StandsFor '*' row ↔ '\n' ∉ row := by
  unfold StandsFor
  rw [if_pos rfl]

theorem standsFor_mark : StandsFor '?' row ↔ ∃ d, d ≠ '\n' ∧ row = [d] := by
  unfold StandsFor
  rw [if_neg (by decide), if_pos rfl]

theorem standsFor_literal (notStar : c ≠ '*') (notMark : c ≠ '?') :
    StandsFor c row ↔ row = [c] := by
  unfold StandsFor
  rw [if_neg notStar, if_neg notMark]

theorem describes_nil : Describes [] text ↔ text = [] := by
  unfold Describes
  constructor
  · rintro ⟨parts, stand, rfl⟩
    cases stand
    rfl
  · rintro rfl
    exact ⟨[], .nil, rfl⟩

theorem describes_cons :
    Describes (c :: rest) text ↔
      ∃ part later, text = part ++ later ∧ StandsFor c part ∧ Describes rest later := by
  unfold Describes
  constructor
  · rintro ⟨parts, stand, rfl⟩
    cases stand with
    | @cons _ part _ parts here later => exact ⟨part, parts.flatten, rfl, here, parts, later, rfl⟩
  · rintro ⟨part, later, rfl, here, parts, stand, rfl⟩
    exact ⟨part :: parts, .cons here stand, rfl⟩

/-! ### The matcher -/

theorem describes_star_nil : Describes ('*' :: rest) [] ↔ Describes rest [] := by
  rw [describes_cons]
  constructor
  · rintro ⟨part, later, cut, _, describes⟩
    obtain ⟨rfl, rfl⟩ := List.append_eq_nil_iff.mp cut.symm
    exact describes
  · intro describes
    exact ⟨[], [], rfl, standsFor_star.mpr List.not_mem_nil, describes⟩

/-- A star stands for nothing, or it takes one character and stays. -/
theorem describes_star_cons :
    Describes ('*' :: rest) (d :: text) ↔
      Describes rest (d :: text) ∨ Describes ('*' :: rest) text ∧ d ≠ '\n' := by
  rw [describes_cons, describes_cons]
  constructor
  · rintro ⟨part, later, cut, stands, describes⟩
    cases part with
    | nil =>
        rw [List.nil_append] at cut
        rw [cut]
        exact .inl describes
    | cons first row =>
        obtain ⟨rfl, rfl⟩ := List.cons.inj cut
        obtain ⟨apart, visible⟩ := List.ne_and_not_mem_of_not_mem_cons (standsFor_star.mp stands)
        exact .inr ⟨⟨row, later, rfl, standsFor_star.mpr visible, describes⟩, apart.symm⟩
  · rintro (describes | ⟨⟨row, later, rfl, stands, describes⟩, visible⟩)
    · exact ⟨[], d :: text, rfl, standsFor_star.mpr List.not_mem_nil, describes⟩
    · refine ⟨d :: row, later, rfl, standsFor_star.mpr ?_, describes⟩
      exact List.not_mem_cons_of_ne_of_not_mem visible.symm (standsFor_star.mp stands)

theorem describes_other_nil (notStar : c ≠ '*') : ¬ Describes (c :: rest) [] := by
  rw [describes_cons]
  rintro ⟨part, later, cut, stands, _⟩
  obtain ⟨rfl, rfl⟩ := List.append_eq_nil_iff.mp cut.symm
  by_cases mark : c = '?'
  · subst mark
    obtain ⟨d, _, impossible⟩ := standsFor_mark.mp stands
    cases impossible
  · cases (standsFor_literal notStar mark).mp stands

theorem describes_other_cons (notStar : c ≠ '*') :
    Describes (c :: rest) (d :: text) ↔
      Describes rest text ∧ (c = d ∨ c = '?' ∧ d ≠ '\n') := by
  rw [describes_cons]
  by_cases mark : c = '?'
  · subst mark
    constructor
    · rintro ⟨part, later, cut, stands, describes⟩
      obtain ⟨first, visible, rfl⟩ := standsFor_mark.mp stands
      obtain ⟨rfl, rfl⟩ := List.cons.inj cut
      exact ⟨describes, .inr ⟨rfl, visible⟩⟩
    · rintro ⟨describes, same | ⟨_, visible⟩⟩
      · subst same
        exact ⟨['?'], text, rfl, standsFor_mark.mpr ⟨'?', by decide, rfl⟩, describes⟩
      · exact ⟨[d], text, rfl, standsFor_mark.mpr ⟨d, visible, rfl⟩, describes⟩
  · constructor
    · rintro ⟨part, later, cut, stands, describes⟩
      obtain rfl := (standsFor_literal notStar mark).mp stands
      obtain ⟨rfl, rfl⟩ := List.cons.inj cut
      exact ⟨describes, .inl rfl⟩
    · rintro ⟨describes, same | ⟨impossible, _⟩⟩
      · subst same
        exact ⟨[c], text, rfl, (standsFor_literal notStar mark).mpr rfl, describes⟩
      · exact absurd impossible mark

/-- The truth values are the answers for the ends of a pattern, from the whole of it on. -/
def Answers (pattern text : List Char) (answers : List Bool) : Prop :=
  List.Forall₂ (fun ending answer => answer = true ↔ Describes ending text) pattern.tails answers

theorem Answers.head {answers : List Bool} (correct : Answers pattern text answers) :
    answers.headD false = true ↔ Describes pattern text := by
  unfold Answers at correct
  cases pattern with
  | nil =>
      cases correct with
      | cons here _ => exact here
  | cons first rest =>
      cases correct with
      | cons here _ => exact here

theorem answers_matchesOfEmpty (pattern : List Char) :
    Answers pattern [] (matchesOfEmpty pattern) := by
  induction pattern with
  | nil => exact .cons (iff_of_true rfl (describes_nil.mpr rfl)) .nil
  | cons first rest ih =>
      refine .cons ?_ ih
      by_cases star : first = '*'
      · subst star
        rw [describes_star_nil, ← Answers.head ih]
        simp
      · simp [star, describes_other_nil star]

theorem answers_matchesOfCons (d : Char) {below : List Bool}
    (correct : Answers pattern text below) :
    Answers pattern (d :: text) (matchesOfCons d pattern below) := by
  induction pattern generalizing below with
  | nil => exact .cons (iff_of_false nofun (by rw [describes_nil]; exact nofun)) .nil
  | cons first rest ih =>
      cases correct with
      | @cons _ here _ below staying correct =>
          have shorter := ih correct
          refine .cons ?_ shorter
          by_cases star : first = '*'
          · subst star
            rw [describes_star_cons, ← shorter.head, ← staying]
            simp
          · rw [describes_other_cons star, ← Answers.head correct]
            simp [star]

theorem answers_endMatches (pattern text : List Char) :
    Answers pattern text (endMatches pattern text) := by
  induction text with
  | nil => exact answers_matchesOfEmpty pattern
  | cons d text ih => exact answers_matchesOfCons d ih

theorem isMatch_eq_true_iff (pattern name : String) :
    isMatch pattern name = true ↔ Describes pattern.toList name.toList :=
  (answers_endMatches pattern.toList name.toList).head

/-! ### The expression of a pattern -/

open Regex

def pieceOf (c : Char) : Piece :=
  if c = '*' then .many .any else if c = '?' then .one .any else .one (.exactly c)

def tokensOf (c : Char) : List Token :=
  if c = '*' then [.atom .any, .star] else if c = '?' then [.atom .any] else [.atom (.exactly c)]

theorem isEscapable_of_mem {c : Char} (special : c ∈ metaCharacters) : isEscapable c = true := by
  have all : metaCharacters.all isEscapable = true := by decide
  exact List.all_eq_true.mp all c special

theorem not_operator_of_not_mem {c : Char} (plain : c ∉ metaCharacters) : c ∉ operators := by
  have all : operators.all metaCharacters.contains = true := by decide
  exact fun operator => plain (List.contains_iff_mem.mp (List.all_eq_true.mp all c operator))

/-- A character that is not escaped is no operator. -/
theorem token?_of_not_operator {c : Char} (plain : c ∉ operators) :
    token? c = some (.atom (.exactly c)) := by
  have apart : ∀ other ∈ operators, c ≠ other := fun other operator same =>
    plain (same ▸ operator)
  unfold token?
  rw [if_neg (apart '^' (by decide)), if_neg (apart '$' (by decide)),
    if_neg (apart '*' (by decide)), if_neg (apart '.' (by decide)),
    if_neg (by rwa [List.contains_iff_mem])]

theorem tokens?_regexChar (c : Char) (rest : List Char) :
    tokens? (regexChar c ++ rest) = (tokens? rest).map (tokensOf c ++ ·) := by
  unfold regexChar tokensOf
  by_cases star : c = '*'
  · rw [if_pos star, if_pos star]
    cases read : tokens? rest <;> simp [tokens?, read, token?]
  · rw [if_neg star, if_neg star]
    by_cases mark : c = '?'
    · rw [if_pos mark, if_pos mark]
      cases read : tokens? rest <;> simp [tokens?, read, token?]
    · rw [if_neg mark, if_neg mark]
      by_cases special : c ∈ metaCharacters
      · rw [if_pos (List.contains_iff_mem.mpr special)]
        simp only [List.cons_append, List.nil_append, tokens?, isEscapable_of_mem special, if_true]
      · rw [if_neg (by rwa [List.contains_iff_mem])]
        have plain := not_operator_of_not_mem special
        have notEscape : c ≠ '\\' := fun same => plain (same ▸ by decide)
        cases read : tokens? rest <;>
          simp [tokens?, notEscape, read, token?_of_not_operator plain]

theorem tokens?_pattern (pattern : List Char) :
    tokens? (pattern.flatMap regexChar ++ ['$']) =
      some (pattern.flatMap tokensOf ++ [.finish]) := by
  induction pattern with
  | nil => rfl
  | cons c rest ih =>
      rw [List.flatMap_cons, List.append_assoc, tokens?_regexChar, ih, List.flatMap_cons,
        List.append_assoc]
      rfl

/-- An atom that no star follows stands alone. -/
theorem pieces?_atom (atom : Atom) {rest : List Token} (alone : rest.head? ≠ some .star) :
    pieces? (.atom atom :: rest) = (pieces? rest).map (.one atom :: ·) := by
  cases rest with
  | nil => rfl
  | cons next later =>
      cases next with
      | star => exact absurd rfl alone
      | start => rfl
      | finish => rfl
      | atom other => rfl

theorem head?_tokens (pattern : List Char) :
    (pattern.flatMap tokensOf ++ [Token.finish]).head? ≠ some .star := by
  cases pattern with
  | nil => exact nofun
  | cons c rest =>
      rw [List.flatMap_cons]
      unfold tokensOf
      by_cases star : c = '*'
      · rw [if_pos star]
        exact nofun
      · rw [if_neg star]
        by_cases mark : c = '?'
        · rw [if_pos mark]
          exact nofun
        · rw [if_neg mark]
          exact nofun

theorem pieces?_pattern (pattern : List Char) :
    pieces? (pattern.flatMap tokensOf ++ [.finish]) =
      some (pattern.map pieceOf ++ [.finish]) := by
  induction pattern with
  | nil => rfl
  | cons c rest ih =>
      have alone := head?_tokens rest
      rw [List.flatMap_cons, List.append_assoc, List.map_cons, List.cons_append]
      unfold tokensOf pieceOf
      by_cases star : c = '*'
      · rw [if_pos star, if_pos star]
        exact congrArg (Option.map _) ih
      · rw [if_neg star, if_neg star]
        by_cases mark : c = '?'
        · rw [if_pos mark, if_pos mark]
          exact (pieces?_atom _ alone).trans (congrArg (Option.map _) ih)
        · rw [if_neg mark, if_neg mark]
          exact (pieces?_atom _ alone).trans (congrArg (Option.map _) ih)

theorem read?_toRegex (pattern : String) :
    read? (toRegex pattern) = some (.start :: pattern.toList.map pieceOf ++ [.finish]) := by
  have tokens : tokens? (toRegex pattern).toList =
      some (.start :: (pattern.toList.flatMap tokensOf ++ [.finish])) := by
    unfold toRegex
    rw [String.toList_ofList, List.cons_append, tokens?]
    · rw [tokens?_pattern]
      rfl
    · exact nofun
  unfold read?
  rw [tokens]
  exact congrArg (Option.map _) (pieces?_pattern pattern.toList)

/-- A piece matches what its character may stand for. -/
theorem matchesAt_pieceOf (c : Char) (pieces : List Piece) (before after : List Char) :
    MatchesAt (pieceOf c :: pieces) before after ↔
      ∃ part later, after = part ++ later ∧ StandsFor c part ∧
        MatchesAt pieces (before ++ part) later := by
  unfold pieceOf
  by_cases star : c = '*'
  · subst star
    have visible : ∀ row : List Char, row.all Atom.any.matches = true ↔ StandsFor '*' row := by
      intro row
      rw [standsFor_star, List.all_eq_true]
      unfold Atom.matches
      simp only [decide_eq_true_eq]
      exact ⟨fun all member => all _ member rfl, fun free d member same => free (same ▸ member)⟩
    rw [if_pos rfl]
    simp only [← visible]
    exact Iff.rfl
  · rw [if_neg star]
    by_cases mark : c = '?'
    · subst mark
      rw [if_pos rfl]
      constructor
      · rintro ⟨d, later, rfl, visible, matchesAt⟩
        exact ⟨[d], later, rfl, standsFor_mark.mpr ⟨d, of_decide_eq_true visible, rfl⟩, matchesAt⟩
      · rintro ⟨part, later, rfl, stands, matchesAt⟩
        obtain ⟨d, visible, rfl⟩ := standsFor_mark.mp stands
        exact ⟨d, later, rfl, decide_eq_true visible, matchesAt⟩
    · rw [if_neg mark]
      simp only [standsFor_literal star mark]
      constructor
      · rintro ⟨d, later, rfl, same, matchesAt⟩
        obtain rfl : d = c := of_decide_eq_true same
        exact ⟨[d], later, rfl, rfl, matchesAt⟩
      · rintro ⟨part, later, rfl, rfl, matchesAt⟩
        exact ⟨c, later, rfl, decide_eq_true rfl, matchesAt⟩

/-- The pieces of a pattern match from a place to the end of the text exactly if the pattern
describes what is there. -/
theorem matchesAt_pattern (pattern before after : List Char) :
    MatchesAt (pattern.map pieceOf ++ [.finish]) before after ↔ Describes pattern after := by
  induction pattern generalizing before after with
  | nil =>
      rw [describes_nil]
      exact and_iff_left trivial
  | cons c rest ih =>
      rw [List.map_cons, List.cons_append, matchesAt_pieceOf, describes_cons]
      simp only [ih]

theorem found_pattern (pattern text : List Char) :
    Found (.start :: pattern.map pieceOf ++ [.finish]) text ↔ Describes pattern text := by
  constructor
  · rintro ⟨before, after, rfl, rfl, matchesAt⟩
    exact (matchesAt_pattern pattern [] after).mp matchesAt
  · intro describes
    exact ⟨[], text, rfl, rfl, (matchesAt_pattern pattern [] text).mpr describes⟩

/-! ### Engines -/

/-- The test of a name that an engine makes of the expression of a pattern; nothing matches
if the engine refuses it. -/
def isMatchBy (engine : Engine) (pattern name : String) : Bool :=
  match engine (toRegex pattern) with
  | some test => test name
  | none => false

/-- An engine that handles the expression of a pattern finds it in the names that the pattern
describes, and the matcher accepts the same names. -/
theorem isMatch_describes (engine : Engine) (pattern name : String)
    (handles : engine.Handles (toRegex pattern)) :
    (isMatchBy engine pattern name = true ↔ Describes pattern.toList name.toList) ∧
      (isMatch pattern name = true ↔ Describes pattern.toList name.toList) := by
  obtain ⟨test, compiled, tests⟩ := handles _ (read?_toRegex pattern)
  refine ⟨?_, isMatch_eq_true_iff pattern name⟩
  unfold isMatchBy
  rw [compiled]
  exact (tests name).trans (found_pattern pattern.toList name.toList)

/-- The dot and the brackets stand for themselves, the star in the name is one of the
characters that a star takes, and no line feed is taken. -/
theorem isMatch_describes_punctuated :
    isMatchBy exhaustive "a.(*)?" "a.(b*c)é" = true ∧
      isMatchBy exhaustive "a.(*)?" "aX(b*c)é" = false ∧
      isMatchBy exhaustive "a.(*)?" "a.(b\nc)é" = false := by
  have matcher : ∀ name, isMatchBy exhaustive "a.(*)?" name = isMatch "a.(*)?" name := by
    intro name
    obtain ⟨byEngine, byMatcher⟩ :=
      isMatch_describes exhaustive "a.(*)?" name (exhaustive_handles _)
    exact Bool.eq_iff_iff.mpr (byEngine.trans byMatcher.symm)
  simp only [matcher]
  decide

end PolicyReplica.Wildcard
