import Steward.Message.Command
import Steward.Text.Line
import Steward.Update.Version

/-!
What an update offers: where the new binary is, its version, and perhaps the digest of its bytes.
-/
namespace Steward.Update

open Steward.Message Steward.Text

structure Descriptor where
  url : String
  version : Version
  /-- In lower case, never empty. -/
  sha256 : Option String
deriving DecidableEq

inductive DescriptorFault where
  | noUrl
  | badVersion (version : String)
deriving DecidableEq

def DescriptorFault.message : DescriptorFault → String
  | noUrl => "update url is missing"
  | badVersion version => "invalid update version: " ++ version

namespace Descriptor

/-- Letters `v` in front of the version are dropped; an empty digest is none. -/
def make (url version : String) (sha256 : Option String) : Except DescriptorFault Descriptor :=
  if url.isEmpty then .error .noUrl
  else match Version.ofChars? (version.toList.dropWhile (· == 'v')) with
    | none => .error (.badVersion version)
    | some v => .ok { url, version := v, sha256 := (sha256.filter (!·.isEmpty)).map lower }

def ofCommand (c : Command) : Except DescriptorFault Descriptor :=
  make ((c.arg? "url").getD "") ((c.arg? "version").getD "") (c.arg? "sha256")

end Descriptor
end Steward.Update
