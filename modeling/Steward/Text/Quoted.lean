import Steward.Text.Mark
import Steward.Text.Unassigned

/-!
A text in double quotes, as error messages show it: quotes and backslashes are escaped, the usual
control characters have short forms, and what does not print on its own is shown by its code point.
-/
namespace Steward.Text

/-- Formatting characters, separators other than the space, and code points for private use. -/
def unprintable : CodeTable := .ofText
  "7f-a0 ad 600-605 61c 6dd 70f 890-891 8e2 1680 180e 2000-200f 2028-202f 205f-2064 2066-206f 3000
   e000-f8ff feff fff9-fffb 110bd 110cd 13430-1343f 1bca0-1bca3 1d173-1d17a e0001 e0020-e007f f0000-ffffd
   100000-10fffd"

/-- Characters that extend the one before them although they are no attached marks. -/
def extending : CodeTable := .ofText
  "9be 9d7 b3e b57 bbe bd7 cc0 cc2 cc7-cc8 cca-ccb cd5-cd6 d3e d57 dcf ddf 1715 1734 1b35 1b3b 1b3d
   1b43-1b44 1baa 1bf2-1bf3 200c 302e-302f a953 a9c0 ff9e-ff9f 111c0 11235 1133e 1134d 11357 113b8 113c2
   113c5 113c7-113c9 113cf 114b0 114bd 115af 116b6 11930 1193d 11f41 16ff0-16ff1 1d165-1d166 1d16d-1d172
   e0020-e007f"

/-- Whether a message shows a character by its code point. -/
def isHidden (c : Char) : Bool :=
  let n := c.toNat
  if n < 0x7F then n < 0x20
  else unprintable.holds n || extending.holds n || attachedMarks.holds n || unassigned.holds n

def codePoint (c : Char) : String :=
  "\\u\x7b" ++ String.ofList (Nat.toDigits 16 c.toNat) ++ "\x7d"

def quotedChar (c : Char) : String :=
  if c = '"' then "\\\""
  else if c = '\\' then "\\\\"
  else if c = '\n' then "\\n"
  else if c = '\t' then "\\t"
  else if c = '\r' then "\\r"
  else if c.toNat = 0 then "\\0"
  else if isHidden c then codePoint c
  else c.toString

def quoted (s : String) : String :=
  "\"" ++ String.join (s.toList.map quotedChar) ++ "\""

end Steward.Text
