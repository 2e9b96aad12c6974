import PolicyReplica.HostName.Direction
import PolicyReplica.HostName.Joining
import PolicyReplica.HostName.Mapping
import PolicyReplica.HostName.Punycode
import PolicyReplica.Text.CombiningClass
import PolicyReplica.Text.Normal

/-
Names of hosts in any script, and their ASCII forms.

A name is a row of labels with dots between them. Every character is replaced by what
it stands for, and the name by its normal form. A label that then is not ASCII is
encoded; one that is encoded already has to stand for a label that could be.
-/

namespace PolicyReplica.HostName

def zeroWidthNonJoiner : Char := '\u200c'

def zeroWidthJoiner : Char := '\u200d'

def isAscii (c : Char) : Bool :=
  c.toNat < 0x80

/-- The text that the characters of another one stand for, in its normal form. An ASCII
text only loses its capitals. -/
def mapped? (text : List Char) : Option (List Char) :=
  if text.all isAscii then some (text.map Char.toLower)
  else (text.mapM map?).map fun targets => Text.normal targets.flatten

/-- Holds of the text before a joiner, the last character first, and the text after it
if the joiner may stand there: after a sign that takes the vowel from a letter, or, if
it keeps letters apart, between letters that would join. -/
def isJoinerPlace (joiner : Char) (before after : List Char) : Bool :=
  before.head?.any (Text.combiningClass · = Text.viramaClass) ||
    joiner = zeroWidthNonJoiner && (before.dropWhile isTransparent).head?.any joinsAfter &&
      (after.dropWhile isTransparent).head?.any joinsBefore

/-- Holds of a text in which every joiner has its place; the text before it is given
with the last character first. -/
def hasJoinersInPlace (before : List Char) : List Char → Bool
  | [] => true
  | c :: rest =>
      (c ≠ zeroWidthNonJoiner && c ≠ zeroWidthJoiner || isJoinerPlace c before rest) &&
        hasJoinersInPlace (c :: before) rest

def isWellFormed (label : List Char) : Bool :=
  !label.head?.any Text.isMark && hasJoinersInPlace [] label

/-! ### Labels -/

def encodedStart : List Char := "xn--".toList

def isEncoded (label : List Char) : Bool :=
  encodedStart.isPrefixOf label

def longestEncoded : Nat := 2000

def longestLabel : Nat := 1000

/-- The label that an encoded one stands for: not in ASCII, and one that stands for
itself. -/
def decoded? (label : List Char) : Option (List Char) := do
  let digits := label.drop encodedStart.length
  let text ← if longestEncoded < digits.length then none else Punycode.decode? digits
  if !text.all isAscii && !isEncoded text && mapped? text = some text then pure text else none

def label? (label : List Char) : Option (List Char) :=
  if isEncoded label then if label.all isAscii then decoded? label else none else some label

def asciiLabel? (label : List Char) : Option (List Char) :=
  if label.all isAscii then some label
  else if longestLabel < label.length then none
  else some (encodedStart ++ Punycode.encode label)

/-! ### Names -/

/-- The ASCII form of a name none of whose characters is forbidden. -/
def ascii? (isForbidden : Char → Bool) (name : List Char) : Option (List Char) := do
  let labels ← ((← mapped? name).splitOn '.').mapM label?
  if labels.all (fun label => isWellFormed label && !label.any isForbidden) && isOneWay labels then
    let parts ← labels.mapM asciiLabel?
    pure (['.'].intercalate parts)
  else none

end PolicyReplica.HostName
