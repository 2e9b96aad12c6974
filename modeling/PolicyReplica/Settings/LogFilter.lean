import PolicyReplica.Settings.ValuePattern
import PolicyReplica.Text.Decimal

/-
Log filters: comma separated directives.

A directive is a level, or a target, or a span in brackets with fields in braces,
or a target and a span, and a level may follow them after an equals sign.

The blanks at the ends of a directive are passed over when its parts are found,
but the parts are cut out of the directive with them, at the same offsets in
bytes. Blanks before a directive therefore shift its parts, and when a cut falls
inside a character there is no filter at all.
-/

namespace PolicyReplica.LogFilter

inductive Fault where
  | malformed
  /-- A cut falls inside a character. -/
  | misaligned
  deriving DecidableEq, Repr

def levelNames : List String :=
  ["trace", "debug", "info", "warn", "error", "off"]

def isLevel (text : List Char) : Bool :=
  let digits := match text with
    | '+' :: rest => rest
    | rest => rest
  levelNames.contains (String.ofList (text.map Char.toLower)) ||
    (!digits.isEmpty && digits.all Char.isDigit && Text.digitsValue digits ≤ 5)

/-- Holds of a field: a name, and a pattern for its value after an equals sign. -/
def isField (text : List Char) : Bool :=
  !text.isEmpty &&
    match text.splitOn '=' with
    | _ :: value :: _ => ValuePattern.isPattern value
    | _ => true

def isInitial (c : Char) : Bool :=
  c = '-' || c = ':' || c = '_' || Text.isAlphabetic c || Text.isNumeric c

/-! ### Cuts -/

def isBoundary (bytes : List UInt8) (offset : Nat) : Bool :=
  match bytes[offset]? with
  | some byte => byte.toNat / 64 ≠ 2
  | none => true

def cut (bytes : List UInt8) (first last : Nat) : Except Fault (List Char) :=
  if isBoundary bytes first && isBoundary bytes last then
    match String.fromUTF8? ⟨((bytes.drop first).take (last - first)).toArray⟩ with
    | some text => .ok text.toList
    | none => .error .misaligned
  else .error .misaligned

/-! ### Directives -/

/-- What a directive is being read for; a part that is open is given with the offset
of its start. -/
inductive Stage where
  | start
  /-- A level or a target. -/
  | name (first : Nat)
  | span (first : Nat)
  | field (first : Nat)
  /-- After the fields of a span. -/
  | fields
  /-- After a span. -/
  | bracketed
  | level (first : Nat)

def advance (bytes : List UInt8) (offset : Nat) (c : Char) : Stage → Except Fault Stage
  | .start =>
      if c = '[' then .ok (.span (offset + 1))
      else if isInitial c then .ok (.name offset)
      else .error .malformed
  | .name first =>
      if c = '=' then (cut bytes first offset).map fun _ => .level (offset + 1)
      else if c = '[' then (cut bytes first offset).map fun _ => .span (offset + 1)
      else .ok (.name first)
  | .span first =>
      if c = ']' then (cut bytes first offset).map fun _ => .bracketed
      else if c = '\x7b' then (cut bytes first offset).map fun _ => .field (offset + 1)
      else .ok (.span first)
  | .field first =>
      if c = '\x7d' then
        match cut bytes first offset with
        | .error fault => .error fault
        | .ok text => if isField text then .ok .fields else .error .malformed
      else .ok (.field first)
  | .fields => if c = ']' then .ok .bracketed else .error .malformed
  | .bracketed => if c = '=' then .ok (.level (offset + 1)) else .error .malformed
  | .level first => .ok (.level first)

def run (bytes : List UInt8) : Nat → Stage → List Char → Except Fault Stage
  | _, stage, [] => .ok stage
  | offset, stage, c :: rest =>
      match advance bytes offset c stage with
      | .error fault => .error fault
      | .ok stage => run bytes (offset + c.utf8Size) stage rest

def finish (bytes : List UInt8) : Stage → Except Fault Unit
  | .name first => (cut bytes first bytes.length).map fun _ => ()
  | .level first =>
      match cut bytes first bytes.length with
      | .error fault => .error fault
      | .ok text => if text.isEmpty || isLevel text then .ok () else .error .malformed
  | .bracketed => .ok ()
  | _ => .error .malformed

def checkDirective (text : List Char) : Except Fault Unit :=
  let bytes := (String.ofList text).toUTF8.toList
  match run bytes 0 .start (Text.trim text) with
  | .error fault => .error fault
  | .ok stage => finish bytes stage

def check (text : String) : Except Fault Unit :=
  ((text.toList.splitOn ',').filter (!·.isEmpty)).forM checkDirective

end PolicyReplica.LogFilter
