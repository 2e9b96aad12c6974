/-
Resource patterns.

A star stands for any row of characters and a question mark for one character,
neither of them for a line feed; every other character stands for itself. The
matcher walks the name from its end. At each place it keeps one truth value for
each end of the pattern, so its work is the product of the two lengths.

A pattern also has a form as a regular expression, anchored at both ends.
-/

namespace PolicyReplica.Wildcard

/-- For each end of the pattern, from the whole pattern to the empty end, whether
it matches the empty text: it does when it has only stars. -/
def matchesOfEmpty : List Char → List Bool
  | [] => [true]
  | first :: rest =>
      let shorter := matchesOfEmpty rest
      (first = '*' && shorter.headD false) :: shorter

/-- For each end of the pattern, whether it matches a text that starts with `c`,
given which of them match what follows. A star either stands for nothing, so that
the next end has to match, or takes the character and stays. -/
def matchesOfCons (c : Char) : List Char → List Bool → List Bool
  | first :: rest, here :: below =>
      let shorter := matchesOfCons c rest below
      let taken :=
        if first = '*' then shorter.headD false || (here && c ≠ '\n')
        else below.headD false && (first = c || (first = '?' && c ≠ '\n'))
      taken :: shorter
  | _, _ => [false]

def endMatches (pattern : List Char) (text : List Char) : List Bool :=
  text.foldr (fun c below => matchesOfCons c pattern below) (matchesOfEmpty pattern)

def isMatch (pattern name : String) : Bool :=
  (endMatches pattern.toList name.toList).headD false

/-! ### The regular expression of a pattern -/

def metaCharacters : List Char :=
  ['\\', '.', '+', '*', '?', '(', ')', '|', '[', ']', '\x7b', '\x7d', '^', '$', '#', '&', '-', '~']

def regexChar (c : Char) : List Char :=
  if c = '*' then ['.', '*']
  else if c = '?' then ['.']
  else if metaCharacters.contains c then ['\\', c]
  else [c]

def toRegex (pattern : String) : String :=
  String.ofList ('^' :: pattern.toList.flatMap regexChar ++ ['$'])

end PolicyReplica.Wildcard
