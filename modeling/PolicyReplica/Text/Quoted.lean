import PolicyReplica.Text.Printable

/-
Texts in quotes, as they are shown in a log.

Quotes and backslashes are escaped, and so is every character that would not show
as itself: the common controls by a letter, all others by their number.
-/

namespace PolicyReplica.Text

structure QuoteStyle where
  /-- Whether single quotes are escaped, too. -/
  escapesSingle : Bool
  deriving DecidableEq, Repr

def QuoteStyle.plain : QuoteStyle :=
  { escapesSingle := false }

def QuoteStyle.path : QuoteStyle :=
  { escapesSingle := true }

def numberEscape (c : Char) : List Char :=
  ['\\', 'u', '\x7b'] ++ Nat.toDigits 16 c.toNat ++ ['\x7d']

def quoteChar (style : QuoteStyle) (c : Char) : List Char :=
  if c = '\x00' then ['\\', '0']
  else if c = '\t' then ['\\', 't']
  else if c = '\r' then ['\\', 'r']
  else if c = '\n' then ['\\', 'n']
  else if c = '"' ∨ c = '\\' ∨ c = '\'' ∧ style.escapesSingle then ['\\', c]
  else if isPrintable c then [c]
  else numberEscape c

def quote (style : QuoteStyle) (text : String) : String :=
  String.ofList ('"' :: text.toList.flatMap (quoteChar style) ++ ['"'])

def quoteAll (style : QuoteStyle) (texts : List String) : String :=
  "[" ++ ", ".intercalate (texts.map (quote style)) ++ "]"

end PolicyReplica.Text
