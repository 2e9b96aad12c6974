/-
Regular expressions, as far as they are rows of pieces.

A piece is an end of the text, a character, or a repeated character. A character stands for
itself unless it is an operator; after a backslash an operator stands for itself, too. Of
what an expression can hold besides, nothing is read here. What an expression means is said
as a proposition about each place of a text, which can be decided by trying all ways to cut
the text.
-/

namespace PolicyReplica.Regex

inductive Atom where
  /-- Any character but a line feed. -/
  | any
  | exactly (c : Char)
  deriving DecidableEq, Repr

inductive Piece where
  /-- The start of the text. -/
  | start
  /-- The end of the text. -/
  | finish
  | one (atom : Atom)
  /-- Any number of characters, each of which the atom matches. -/
  | many (atom : Atom)
  deriving DecidableEq, Repr

/-! ### Reading -/

inductive Token where
  | start
  | finish
  | star
  | atom (atom : Atom)
  deriving DecidableEq, Repr

def operators : List Char :=
  ['\\', '.', '+', '*', '?', '(', ')', '|', '[', ']', '\x7b', '\x7d', '^', '$']

def isEscapable (c : Char) : Bool :=
  c.toNat < 128 && !c.isAlphanum && c ≠ '<' && c ≠ '>'

/-- What a character without a backslash before it says; not all operators are read. -/
def token? (c : Char) : Option Token :=
  if c = '^' then some .start
  else if c = '$' then some .finish
  else if c = '*' then some .star
  else if c = '.' then some (.atom .any)
  else if operators.contains c then none
  else some (.atom (.exactly c))

def tokens? : List Char → Option (List Token)
  | [] => some []
  | '\\' :: c :: rest =>
      if isEscapable c then (tokens? rest).map (.atom (.exactly c) :: ·) else none
  | c :: rest => do
      let token ← token? c
      let tokens ← tokens? rest
      pure (token :: tokens)

/-- A star repeats the atom before it. -/
def pieces? : List Token → Option (List Piece)
  | [] => some []
  | .start :: rest => (pieces? rest).map (.start :: ·)
  | .finish :: rest => (pieces? rest).map (.finish :: ·)
  | .star :: _ => none
  | .atom atom :: .star :: rest => (pieces? rest).map (.many atom :: ·)
  | .atom atom :: rest => (pieces? rest).map (.one atom :: ·)

def read? (expression : String) : Option (List Piece) := do
  pieces? (← tokens? expression.toList)

/-! ### Meaning -/

def Atom.matches : Atom → Char → Bool
  | .any, c => c ≠ '\n'
  | .exactly expected, c => c = expected

/-- The pieces match, one after the other, from a place of a text on: what stands before the
place, and what stands after it, is given. -/
def MatchesAt : List Piece → List Char → List Char → Prop
  | [], _, _ => True
  | .start :: rest, before, after => before = [] ∧ MatchesAt rest before after
  | .finish :: rest, before, after => after = [] ∧ MatchesAt rest before after
  | .one atom :: rest, before, after =>
      ∃ c later, after = c :: later ∧ atom.matches c = true ∧
        MatchesAt rest (before ++ [c]) later
  | .many atom :: rest, before, after =>
      ∃ row later, after = row ++ later ∧ row.all atom.matches = true ∧
        MatchesAt rest (before ++ row) later

def Found (pieces : List Piece) (text : List Char) : Prop :=
  ∃ before after, text = before ++ after ∧ MatchesAt pieces before after

theorem exists_cut_iff {text : List Char} {holds : List Char → List Char → Prop} :
    (∃ first second, text = first ++ second ∧ holds first second) ↔
      ∃ length ∈ List.range (text.length + 1), holds (text.take length) (text.drop length) := by
  constructor
  · rintro ⟨first, second, rfl, here⟩
    refine ⟨first.length, ?_, ?_⟩
    · rw [List.mem_range, List.length_append]
      omega
    · rw [List.take_left, List.drop_left]
      exact here
  · rintro ⟨length, _, here⟩
    exact ⟨text.take length, text.drop length, (List.take_append_drop length text).symm, here⟩

instance decidableMatchesAt :
    (pieces : List Piece) → (before after : List Char) → Decidable (MatchesAt pieces before after)
  | [], _, _ => isTrue trivial
  | .start :: rest, before, after =>
      have := decidableMatchesAt rest before after
      inferInstanceAs (Decidable (before = [] ∧ MatchesAt rest before after))
  | .finish :: rest, before, after =>
      have := decidableMatchesAt rest before after
      inferInstanceAs (Decidable (after = [] ∧ MatchesAt rest before after))
  | .one atom :: rest, before, [] => isFalse fun ⟨_, _, impossible, _⟩ => nomatch impossible
  | .one atom :: rest, before, c :: later =>
      have := decidableMatchesAt rest (before ++ [c]) later
      decidable_of_iff (atom.matches c = true ∧ MatchesAt rest (before ++ [c]) later)
        ⟨fun here => ⟨c, later, rfl, here⟩, fun ⟨_, _, same, here⟩ => by cases same; exact here⟩
  | .many atom :: rest, before, after =>
      have := fun row later => decidableMatchesAt rest (before ++ row) later
      decidable_of_iff _ exists_cut_iff.symm

instance (pieces : List Piece) (text : List Char) : Decidable (Found pieces text) :=
  decidable_of_iff _ exists_cut_iff.symm

/-! ### Engines -/

/-- What compiles an expression, unless it refuses it, into a test of texts. -/
abbrev Engine := String → Option (String → Bool)

/-- The engine compiles an expression, and finds it in the texts in which its pieces match
somewhere. Nothing is said about expressions that are not read here. -/
def Engine.Handles (engine : Engine) (expression : String) : Prop :=
  ∀ pieces, read? expression = some pieces →
    ∃ test, engine expression = some test ∧ ∀ text, test text = true ↔ Found pieces text.toList

def exhaustive : Engine := fun expression =>
  (read? expression).map fun pieces text => decide (Found pieces text.toList)

theorem exhaustive_handles (expression : String) : exhaustive.Handles expression := by
  intro pieces read
  refine ⟨fun text => decide (Found pieces text.toList), ?_, fun text => decide_eq_true_iff⟩
  unfold exhaustive
  rw [read]
  rfl

end PolicyReplica.Regex
