import PolicyReplica.Http.Host

/-
Absolute URLs.

A URL has a scheme and a path; a path in segments can be the base of other URLs,
while a flat one, as that of a mail address, cannot. The special schemes are
lenient: a backslash is a slash and superfluous slashes do not count. Their hosts are
names in any script or addresses, while other hosts are taken as they are.
-/

namespace PolicyReplica

inductive UrlPath where
  /-- A path that means nothing to URLs. -/
  | flat (text : String)
  | segments (items : List String)
  deriving DecidableEq, Repr

structure Url where
  scheme : String
  /-- The host, if the URL names one, and the number after it. -/
  host : Option String
  portNumber : Option Nat
  path : UrlPath
  deriving DecidableEq, Repr

namespace Url

def specialSchemes : List String :=
  ["http", "https", "ws", "wss", "ftp", "file"]

/-- The text without control characters and spaces at its ends, and without line
feeds, carriage returns and tabs. -/
def clean (text : List Char) : List Char :=
  let start (cs : List Char) : List Char := cs.dropWhile fun c => c.toNat ≤ 0x20
  (start (start text).reverse).reverse.filter fun c => c ≠ '\t' && c ≠ '\n' && c ≠ '\r'

def scheme? (text : List Char) : Option (List Char × List Char) :=
  let isInner (c : Char) : Bool := c.isAlphanum || ['+', '-', '.'].contains c
  let name := text.takeWhile isInner
  match name, text.dropWhile isInner with
  | first :: _, ':' :: rest => if first.isAlpha then some (name.map Char.toLower, rest) else none
  | _, _ => none

def isPathEnd (c : Char) : Bool :=
  c = '?' || c = '#'

def isSlash (isSpecial : Bool) (c : Char) : Bool :=
  c = '/' || isSpecial && c = '\\'

def isHere (segment : List Char) : Bool :=
  ["." , "%2e"].contains (String.ofList (segment.map Char.toLower))

def isAbove (segment : List Char) : Bool :=
  ["..", ".%2e", "%2e.", "%2e%2e"].contains (String.ofList (segment.map Char.toLower))

def walk : List String → List (List Char) → List String
  | done, [] => done
  | done, segment :: rest =>
      if isAbove segment then
        walk (done.dropLast ++ if rest.isEmpty then [""] else []) rest
      else if isHere segment then
        walk (done ++ if rest.isEmpty then [""] else []) rest
      else
        walk (done ++ [String.ofList (Percent.encode Percent.isKeptInPath segment)]) rest

def segments (isSpecial : Bool) (text : List Char) : List String :=
  let path := text.takeWhile (!isPathEnd ·)
  if path.isEmpty then if isSpecial then [""] else []
  else walk [] ((path.drop 1).splitOnP (isSlash isSpecial))

/-- The number that a text starts with, which may have no digits, and what follows
it. -/
def portNumber? (text : List Char) : Option (Option Nat × List Char) :=
  let digits := text.takeWhile Char.isDigit
  let number := Nat.ofDigitChars 10 digits 0
  if digits.isEmpty then some (none, text)
  else if number < Nat.pow 2 16 then some (some number, text.dropWhile Char.isDigit)
  else none

/-- The host of an authority without its credentials, and what follows its colon. -/
def splitHost (text : List Char) : List Char × Option (List Char) :=
  let rec go (inside : Bool) (before : List Char) : List Char → List Char × Option (List Char)
    | [] => (before.reverse, none)
    | c :: rest =>
        if c = ':' && !inside then (before.reverse, some rest)
        else go (if c = '[' then true else if c = ']' then false else inside) (c :: before) rest
  go false [] text

/-- The text before the last at sign, if there is one, and the text after it. -/
def splitCredentials (text : List Char) : Option (List Char) × List Char :=
  let after := text.reverse.takeWhile (· ≠ '@')
  match text.reverse.dropWhile (· ≠ '@') with
  | [] => (none, text)
  | _ :: before => (some before.reverse, after.reverse)

def namesSomeone (credentials : List Char) : Bool :=
  credentials ≠ [] && credentials ≠ [':']

/-- The host that an authority names, the number after it, and what the number does
not reach; a host may be missing only where nothing else needs it. -/
def authority? (isSpecial : Bool) (text : List Char) : Option (String × Option Nat × List Char) :=
  let (credentials, place) := splitCredentials text
  let (host, number) := splitHost place
  if host.isEmpty && (isSpecial || number.isSome || credentials.any namesSomeone) then none
  else do
    let name ← Host.parse? isSpecial host
    let (portNumber, rest) ← portNumber? (number.getD [])
    pure (name, portNumber, rest)

/-- The URL with an authority and a path. A lone at sign is no authority unless the
text ends after it. A backslash ends the number after any host, and is part of the path
where it is not a slash. -/
def ofAuthority? (scheme : String) (isSpecial : Bool) (text : List Char) : Option Url :=
  let ends (c : Char) : Bool := isSlash isSpecial c || isPathEnd c
  let authority := text.takeWhile (!ends ·)
  let after := text.dropWhile (!ends ·)
  if authority = ['@'] && !after.isEmpty then none
  else do
    let (host, portNumber, rest) ← authority? isSpecial authority
    let path ← match rest with
      | [] => some after
      | '\\' :: _ => some ('/' :: rest ++ after)
      | _ => none
    pure { scheme, host := some host, portNumber, path := .segments (segments isSpecial path) }

/-- Holds of a letter with a colon or a bar, which name a drive. -/
def isDrive : List Char → Bool
  | [letter, mark] => letter.isAlpha && (mark = ':' || mark = '|')
  | _ => false

/-- The URL of a file; its host may be empty, and a drive is not a host. -/
def ofFile? (text : List Char) : Option Url :=
  let slash := isSlash true
  let onDisk (path : List Char) : Url :=
    { scheme := "file", host := none, portNumber := none
      path := .segments (segments true path) }
  match text with
  | [] => some (onDisk [])
  | [c] => some (onDisk (if slash c then [c] else ['/', c]))
  | a :: b :: rest =>
      if slash a && slash b then
        let ends (c : Char) : Bool := slash c || isPathEnd c
        let host := rest.takeWhile (!ends ·)
        let path := rest.dropWhile (!ends ·)
        if host.isEmpty then some (onDisk path)
        else if isDrive host then some (onDisk ('/' :: rest))
        else (Host.parse? true host).map fun host => { onDisk path with host := some host }
      else some (onDisk (if slash a then text else '/' :: text))

def parse? (text : String) : Option Url :=
  match scheme? (clean text.toList) with
  | none => none
  | some (name, rest) =>
      let scheme := String.ofList name
      if scheme = "file" then ofFile? rest
      else if specialSchemes.contains scheme then
        ofAuthority? scheme true (rest.dropWhile (isSlash true))
      else
        match rest with
        | '/' :: '/' :: after => ofAuthority? scheme false after
        | '/' :: _ =>
            some
              { scheme, host := none, portNumber := none
                path := .segments (segments false rest) }
        | _ =>
            let text := rest.takeWhile (!isPathEnd ·)
            some { scheme, host := none, portNumber := none, path := .flat (String.ofList text) }

/-- The path of what a URL has below it, if it can be a base. -/
def below? (url : Url) (relative : String) : Option String :=
  match url.path with
  | .flat _ => none
  | .segments items =>
      let directory := if items.getLast? = some "" then items.dropLast else items
      some (String.join (directory.map ("/" ++ ·)) ++ "/" ++ relative)

end Url

end PolicyReplica
