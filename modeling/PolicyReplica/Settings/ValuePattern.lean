import PolicyReplica.Http.Percent
import PolicyReplica.Text.Alphabetic
import PolicyReplica.Text.Blank
import PolicyReplica.Text.Numeric

/-
The regular expressions that a log filter can compare values with.

An expression is read from left to right. What matters is only whether it is well
formed and can be matched by an automaton on characters, so nothing is kept of it
but the modes, the open groups and whether a repetition has something to repeat.
A counted repetition has a brace at its end, which never stands in a filter, so
there are none.
-/

namespace PolicyReplica.ValuePattern

structure Mode where
  /-- Classes and boundaries go by the properties of Unicode. -/
  unicode : Bool
  /-- Blanks and comments do not count. -/
  verbose : Bool
  deriving DecidableEq, Repr

def Mode.initial : Mode :=
  { unicode := true, verbose := false }

/-! ### Single characters -/

inductive Atom where
  | literal (c : Char)
  /-- One of several characters. -/
  | choice
  /-- A place between characters. -/
  | place

def hexChar? (digits : List Char) : Option Char := do
  let value ← digits.foldlM
    (fun value c => (Percent.hexValue? c).map fun digit => value * 16 + digit) 0
  if value.isValidChar then pure (Char.ofNat value) else none

def readHex (mode : Mode) (count : Nat) (cs : List Char) : Option (Atom × List Char) :=
  if cs.length < count then none
  else do
    let c ← hexChar? (cs.take count)
    if mode.unicode || c.toNat < 0x80 then pure (.literal c, cs.drop count) else none

def controls : List (Char × Char) :=
  [('a', '\x07'), ('f', '\x0c'), ('n', '\n'), ('r', '\r'), ('t', '\t'), ('v', '\x0b')]

/-- What follows a backslash. Without Unicode, nothing may match half of a
character, and with it no automaton finds the boundaries of words. -/
def readEscape (mode : Mode) : List Char → Option (Atom × List Char)
  | [] => none
  | 'x' :: rest => readHex mode 2 rest
  | 'u' :: rest => readHex mode 4 rest
  | 'U' :: rest => readHex mode 8 rest
  | c :: rest =>
      if c = 'p' || c = 'P' then
        match rest with
        | category :: after =>
            if mode.unicode && "CLMNPSZclmnpsz".toList.contains category then
              some (.choice, after)
            else none
        | [] => none
      else if "dsw".toList.contains c then some (.choice, rest)
      else if "DSW".toList.contains c then if mode.unicode then some (.choice, rest) else none
      else if "bB<>".toList.contains c then if mode.unicode then none else some (.place, rest)
      else if c = 'A' || c = 'z' then some (.place, rest)
      else if c.toNat < 0x80 && !c.isAlphanum then some (.literal c, rest)
      else (controls.find? (·.1 = c)).map fun control => (.literal control.2, rest)

def readAtom (mode : Mode) : List Char → Option (Atom × List Char)
  | [] => none
  | '\\' :: rest => readEscape mode rest
  | c :: rest => if mode.unicode || c.toNat < 0x80 then some (.literal c, rest) else none

/-! ### Classes in brackets -/

def classNames : List String :=
  ["alnum", "alpha", "ascii", "blank", "cntrl", "digit", "graph", "lower", "print", "punct",
    "space", "upper", "word", "xdigit"]

def afterNamed? : List Char → Option (List Char)
  | ':' :: rest =>
      let name := match rest with
        | '^' :: rest => rest
        | rest => rest
      match name.dropWhile (· ≠ ':') with
      | ':' :: ']' :: after =>
          if classNames.contains (String.ofList (name.takeWhile (· ≠ ':'))) then some after
          else none
      | _ => none
  | _ => none

/-- What follows the start of a class: it may be negated, and the dashes and a closing
bracket that come first stand for themselves. -/
def afterOpening? (mode : Mode) (cs : List Char) : Option (List Char) :=
  let start? := match cs with
    | '^' :: rest => if mode.unicode then some rest else none
    | rest => some rest
  start?.map fun start =>
    match start with
    | ']' :: rest => rest
    | _ => start.dropWhile (· = '-')

def afterItem? (mode : Mode) (cs : List Char) : Option (List Char) := do
  let (first, rest) ← readAtom mode cs
  let single : Option (List Char) := match first with
    | .place => none
    | _ => some rest
  match rest with
  | '-' :: ']' :: _ | '-' :: '-' :: _ => single
  | '-' :: rest =>
      let (last, after) ← readAtom mode rest
      match first, last with
      | .literal low, .literal high => if low ≤ high then some after else none
      | _, _ => none
  | _ => single

/-- What follows a class, given how many brackets are open. The fuel is the number
of characters that are left. -/
def afterClass? (mode : Mode) : Nat → Nat → List Char → Option (List Char)
  | 0, _, _ => none
  | _, _, [] => none
  | fuel + 1, depth, '[' :: rest =>
      match afterNamed? rest with
      | some after => afterClass? mode fuel depth after
      | none => (afterOpening? mode rest).bind (afterClass? mode fuel (depth + 1))
  | fuel + 1, depth, ']' :: rest =>
      if depth ≤ 1 then some rest else afterClass? mode fuel (depth - 1) rest
  | fuel + 1, depth, '&' :: '&' :: rest => afterClass? mode fuel depth rest
  | fuel + 1, depth, '-' :: '-' :: rest => afterClass? mode fuel depth rest
  | fuel + 1, depth, '~' :: '~' :: rest => afterClass? mode fuel depth rest
  | fuel + 1, depth, cs => (afterItem? mode cs).bind (afterClass? mode fuel depth)

/-! ### Groups -/

/-- The mode that a row of flags makes, given the flags before; after a dash they
are taken away, and each stands once at most. -/
def applyFlags (mode : Mode) (negated : Bool) (seen : List Char) : List Char → Option Mode
  | [] => if negated && seen.head? = some '-' then none else some mode
  | c :: rest =>
      if seen.contains c then none
      else if c = '-' then applyFlags mode true (c :: seen) rest
      else if c = 'u' then applyFlags { mode with unicode := !negated } negated (c :: seen) rest
      else if c = 'x' then applyFlags { mode with verbose := !negated } negated (c :: seen) rest
      else if "imsUR".toList.contains c then applyFlags mode negated (c :: seen) rest
      else none

def isName : List Char → Bool
  | [] => false
  | first :: rest =>
      (first = '_' || Text.isAlphabetic first) &&
        rest.all fun c =>
          "_.[]".toList.contains c || Text.isAlphabetic c || Text.isNumeric c

structure Progress where
  mode : Mode
  /-- The modes around the open groups, the innermost group first. -/
  outer : List Mode
  /-- Whether there is something to repeat. -/
  repeatable : Bool
  /-- The names of the groups. -/
  names : List (List Char)

def Progress.initial : Progress :=
  { mode := .initial, outer := [], repeatable := false, names := [] }

def Progress.enter (progress : Progress) (mode : Mode) : Progress :=
  { progress with mode, outer := progress.mode :: progress.outer, repeatable := false }

def openNamed? (progress : Progress) (cs : List Char) : Option (Progress × List Char) :=
  let name := cs.takeWhile (· ≠ '>')
  match cs.dropWhile (· ≠ '>') with
  | [] => none
  | _ :: rest =>
      if isName name && !progress.names.contains name then
        some ({ progress.enter progress.mode with names := name :: progress.names }, rest)
      else none

/-- The start of a group, after its parenthesis, or a change of the mode for the rest
of the group around it. Nothing looks ahead or behind. -/
def openGroup? (progress : Progress) : List Char → Option (Progress × List Char)
  | '?' :: 'P' :: '<' :: rest => openNamed? progress rest
  | '?' :: '<' :: rest => openNamed? progress rest
  | '?' :: rest =>
      let isFlag (c : Char) : Bool := c ≠ ':' && c ≠ ')'
      let flags := rest.takeWhile isFlag
      match rest.dropWhile isFlag, applyFlags progress.mode false [] flags with
      | ':' :: after, some mode => some (progress.enter mode, after)
      | ')' :: after, some mode =>
          if flags.isEmpty then none
          else some ({ progress with mode, repeatable := false }, after)
      | _, _ => none
  | rest => some (progress.enter progress.mode, rest)

/-! ### Expressions -/

def advance? (progress : Progress) : List Char → Option (Progress × List Char)
  | '(' :: rest => openGroup? progress rest
  | ')' :: rest =>
      match progress.outer with
      | [] => none
      | mode :: outer => some ({ progress with mode, outer, repeatable := true }, rest)
  | '|' :: rest => some ({ progress with repeatable := false }, rest)
  | '[' :: rest =>
      ((afterOpening? progress.mode rest).bind
        (afterClass? progress.mode (rest.length + 1) 1)).map
          ({ progress with repeatable := true }, ·)
  | '\x7b' :: _ => none
  | '.' :: rest =>
      if progress.mode.unicode then some ({ progress with repeatable := true }, rest) else none
  | c :: rest =>
      if c = '*' || c = '+' || c = '?' then
        if progress.repeatable then
          match rest with
          | '?' :: rest => some (progress, rest)
          | rest => some (progress, rest)
        else none
      else if progress.mode.verbose && Text.isBlank c then some (progress, rest)
      else if progress.mode.verbose && c = '#' then
        some (progress, rest.dropWhile (· ≠ '\n'))
      else
        (readAtom progress.mode (c :: rest)).map fun (_, rest) =>
          ({ progress with repeatable := true }, rest)
  | [] => none

/-- Holds when the rest of an expression is well formed. The fuel is the number of
characters that are left. -/
def isRest : Nat → Progress → List Char → Bool
  | _, progress, [] => progress.outer.isEmpty
  | 0, _, _ => false
  | fuel + 1, progress, cs =>
      match advance? progress cs with
      | none => false
      | some (progress, rest) => isRest fuel progress rest

def isExpression (cs : List Char) : Bool :=
  isRest cs.length .initial cs

/-! ### Numbers -/

def isExponent : List Char → Bool
  | [] => true
  | mark :: rest =>
      let digits := match rest with
        | '+' :: rest | '-' :: rest => rest
        | rest => rest
      (mark = 'e' || mark = 'E') && !digits.isEmpty && digits.all Char.isDigit

/-- Holds of a number in decimal notation, and of the names of what is no finite
number. -/
def isNumber (cs : List Char) : Bool :=
  let unsigned := match cs with
    | '+' :: rest | '-' :: rest => rest
    | rest => rest
  let whole := unsigned.takeWhile Char.isDigit
  let (decimals, rest) := match unsigned.dropWhile Char.isDigit with
    | '.' :: rest => (rest.takeWhile Char.isDigit, rest.dropWhile Char.isDigit)
    | rest => ([], rest)
  ["inf", "infinity", "nan"].contains (String.ofList (unsigned.map Char.toLower)) ||
    (!(whole ++ decimals).isEmpty && isExponent rest)

def isPattern (cs : List Char) : Bool :=
  isNumber cs || isExpression cs

end PolicyReplica.ValuePattern
