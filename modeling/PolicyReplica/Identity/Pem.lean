import PolicyReplica.Identity.PrivateKey
import PolicyReplica.Text.Base64

/-
Sections of PEM texts.

A section stands between a line that begins it and one that ends it, and holds a
Base64 text. Lines outside of sections do not count. A byte is taken as the character
of its number.
-/

namespace PolicyReplica.Pem

inductive Item where
  | certificate (bytes : Der.Bytes)
  | key (key : PrivateKey)
  /-- Something else that has a known label. -/
  | other
  deriving DecidableEq, Repr

/-- What the bytes of a section with that label are taken for; sections with other
labels are passed over. -/
def item? (label : List Char) : Option (Der.Bytes → Item) :=
  match String.ofList label with
  | "CERTIFICATE" => some .certificate
  | "PRIVATE KEY" => some fun bytes => .key { form := .named, bytes }
  | "RSA PRIVATE KEY" => some fun bytes => .key { form := .factors, bytes }
  | "EC PRIVATE KEY" => some fun bytes => .key { form := .curve, bytes }
  | "PUBLIC KEY" | "X509 CRL" | "CERTIFICATE REQUEST" | "ECHCONFIG" => some fun _ => .other
  | _ => none

/-! ### Lines -/

def isEnd (c : Char) : Bool :=
  c = '\n' || c = '\r'

def lines : List Char → List (List Char)
  | [] => []
  | c :: rest =>
      if isEnd c then [c] :: lines rest
      else
        match lines rest with
        | [] => [[c]]
        | line :: others => (c :: line) :: others

def opening : List Char := "-----BEGIN ".toList

def isTrailing (c : Char) : Bool :=
  c = '-' || c = ' ' || isEnd c

/-- The label of a line that begins a section; it ends before five dashes, among
which there may be blanks. -/
def label? (line : List Char) : Option (List Char) :=
  let trailing := (line.reverse.takeWhile isTrailing).reverse.dropWhile (· ≠ '-')
  if trailing.count '-' = 5 then
    some ((line.take (line.length - trailing.length)).drop opening.length)
  else none

def closing (label : List Char) : List Char :=
  "-----END ".toList ++ label ++ "-----".toList

/-! ### Sections -/

structure Section where
  label : List Char
  /-- Its lines so far, the last one first. -/
  held : List (List Char)

/-- What a text with these lines holds; nothing if a section does not end, does not
begin well, or does not hold Base64. A section ends also where another one begins,
which then holds its lines, too. -/
def items? : Option Section → List (List Char) → Option (List Item)
  | none, [] => some []
  | some _, [] => none
  | current, line :: rest =>
      if opening.isPrefixOf line then
        match label? line with
        | none => none
        | some label => items? (some { label, held := (current.map Section.held).getD [] }) rest
      else
        match current with
        | none => items? none rest
        | some { label, held } =>
            if (closing label).isPrefixOf line then
              match item? label with
              | none => items? none rest
              | some item => do
                  let bytes ← Text.Base64.decode? held.reverse.flatten
                  pure (item bytes :: (← items? none rest))
            else items? (some { label, held := line :: held }) rest

def read? (bytes : Der.Bytes) : Option (List Item) :=
  items? none (lines (bytes.map fun byte => Char.ofNat byte.toNat))

end PolicyReplica.Pem
