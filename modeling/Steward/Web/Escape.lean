import Steward.Text.Numeral
import Steward.Text.Utf8

/-!
Percent signs for the bytes that may not stand for themselves in a part of a URL. Bytes outside printable
ASCII never do; a percent sign itself stays.
-/
namespace Steward.Web

open Steward.Text

/-- The parts of a URL in which different characters stand for themselves. -/
inductive UrlPart where
  /-- The path of a URL that is no hierarchy, and a host that is no domain name. -/
  | opaquePart
  | userInfo
  | path
  | query
  /-- The query of a URL of the web. -/
  | webQuery
  | fragment
deriving DecidableEq

/-- Printable ASCII characters that are escaped in every part but an opaque one. -/
def commonEscapes : List Char := [' ', '"', '<', '>']

def pathEscapes : List Char := commonEscapes ++ ['#', '?', Char.ofNat 0x60, '\x7b', '\x7d']

/-- Printable ASCII characters that are escaped in a part. -/
def UrlPart.escaped : UrlPart → List Char
  | opaquePart => []
  | userInfo => pathEscapes ++ "/:;=@[\\]^|".toList
  | path => pathEscapes
  | query => '#' :: commonEscapes
  | webQuery => '#' :: '\'' :: commonEscapes
  | fragment => Char.ofNat 0x60 :: commonEscapes

def escapeByte (b : UInt8) : List Char :=
  ['%', (hexDigit (b.toNat / 16)).toUpper, (hexDigit (b.toNat % 16)).toUpper]

def escapeChar (part : UrlPart) (c : Char) : List Char :=
  if c.toNat < 0x20 || 0x7F ≤ c.toNat || part.escaped.contains c then (utf8 c.toString).flatMap escapeByte
  else [c]

def escape (part : UrlPart) (cs : List Char) : List Char := cs.flatMap (escapeChar part)

/-- The bytes of a text with escapes; a percent sign without two digits behind it stands for itself. -/
def unescape : List Char → List UInt8
  | [] => []
  | '%' :: a :: b :: rest =>
    match hexDigitValue? a, hexDigitValue? b with
    | some high, some low => UInt8.ofNat (high * 16 + low) :: unescape rest
    | _, _ => 0x25 :: unescape (a :: b :: rest)
  | c :: rest => utf8 c.toString ++ unescape rest

/-- The text that a text with escapes stands for. -/
def unescaped? (cs : List Char) : Option (List Char) := (ofUtf8? (unescape cs)).map String.toList

end Steward.Web
