import FeatureGraph.Fault
import FeatureGraph.Text.Encoding
import FeatureGraph.Text.LetterCase

/-! # The text of a body in a character set -/
namespace FeatureGraph

/-- Reads a body in the character set that is named, in UTF-8 where none is. -/
abbrev Codec := Option String → List UInt8 → Except Defect String

namespace Codec

def latin : List String := ["latin-1", "latin1", "iso-8859-1", "iso8859-1", "iso_8859_1"]

def ascii : List String := ["ascii", "us-ascii"]

/-- Names that stand for a change of bytes into bytes, which gives no text. -/
def byteCodecs : List String :=
  ["hex", "hex_codec", "base64", "base64_codec", "bz2", "bz2_codec", "zlib", "zlib_codec", "zip", "quopri",
    "quopri_codec", "quoted_printable", "uu", "uu_codec"]

/-- Each malformed stretch shows as U+FFFD. A character set that is not known counts as UTF-8. -/
def standard : Codec := fun charset body =>
  let name := charset.map Text.lower
  if name.any byteCodecs.contains then .error (.foreign "AssertionError" "")
  else if name.any latin.contains then .ok (Text.ofSingleBytes 0x100 body)
  else if name.any ascii.contains then .ok (Text.ofSingleBytes 0x80 body)
  else .ok (Text.Utf8.decodeLossy body)

end Codec
end FeatureGraph
