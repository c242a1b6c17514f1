import NodeTelemetry.Text.Blank
import NodeTelemetry.Text.Charset.SingleByte
import NodeTelemetry.Text.Charset.Switching
import NodeTelemetry.Text.Charset.Units
import NodeTelemetry.Text.MediaType
import NodeTelemetry.Text.Utf8

/-!
# Texts in other character sets

A text that comes over the network is UTF-8 unless its type names another character set by one of
its labels. The sets and their labels are those of the encoding standard. A byte order mark at the
start decides over any label, and is no part of the text. What is no character is shown as U+FFFD.
-/

namespace NodeTelemetry.Text

/-- A character set. -/
inductive Charset where
  /-- UTF-8. -/
  | utf8
  /-- Units of 16 bits, the high byte first or last. -/
  | utf16 (highFirst : Bool)
  /-- One byte for each character. -/
  | single (set : Charset.SingleByte)
  /-- Simplified Chinese. -/
  | gb18030
  /-- Traditional Chinese. -/
  | big5
  /-- Japanese in rows and cells. -/
  | eucJp
  /-- Japanese with switches. -/
  | iso2022Jp
  /-- Japanese in shifted rows. -/
  | shiftJis
  /-- Korean. -/
  | eucKr
  /-- Bytes as characters of private use. -/
  | userDefined
  /-- Sets that are not read at all. -/
  | replacement
  deriving DecidableEq, Repr

namespace Charset

/-- The sets with their labels. -/
def labels : List (Charset × List String) := [
    (.utf8, ["unicode-1-1-utf-8", "unicode11utf8", "unicode20utf8", "utf8", "utf-8",
      "x-unicode20utf8"]),
    (.single .ibm866, ["866", "cp866", "csibm866", "ibm866"]),
    (.single .latin2, ["csisolatin2", "iso-8859-2", "iso-ir-101", "iso8859-2", "iso88592",
      "iso_8859-2", "iso_8859-2:1987", "l2", "latin2"]),
    (.single .latin3, ["csisolatin3", "iso-8859-3", "iso-ir-109", "iso8859-3", "iso88593",
      "iso_8859-3", "iso_8859-3:1988", "l3", "latin3"]),
    (.single .latin4, ["csisolatin4", "iso-8859-4", "iso-ir-110", "iso8859-4", "iso88594",
      "iso_8859-4", "iso_8859-4:1988", "l4", "latin4"]),
    (.single .isoCyrillic, ["csisolatincyrillic", "cyrillic", "iso-8859-5", "iso-ir-144",
      "iso8859-5", "iso88595", "iso_8859-5", "iso_8859-5:1988"]),
    (.single .isoArabic, ["arabic", "asmo-708", "csiso88596e", "csiso88596i", "csisolatinarabic",
      "ecma-114", "iso-8859-6", "iso-8859-6-e", "iso-8859-6-i", "iso-ir-127", "iso8859-6",
      "iso88596", "iso_8859-6", "iso_8859-6:1987"]),
    (.single .isoGreek, ["csisolatingreek", "ecma-118", "elot_928", "greek", "greek8",
      "iso-8859-7", "iso-ir-126", "iso8859-7", "iso88597", "iso_8859-7", "iso_8859-7:1987",
      "sun_eu_greek"]),
    (.single .isoHebrew, ["csiso88598e", "csisolatinhebrew", "hebrew", "iso-8859-8",
      "iso-8859-8-e", "iso-ir-138", "iso8859-8", "iso88598", "iso_8859-8", "iso_8859-8:1988",
      "visual", "csiso88598i", "iso-8859-8-i", "logical"]),
    (.single .latin6, ["csisolatin6", "iso-8859-10", "iso-ir-157", "iso8859-10", "iso885910",
      "l6", "latin6"]),
    (.single .latin7, ["iso-8859-13", "iso8859-13", "iso885913"]),
    (.single .latin8, ["iso-8859-14", "iso8859-14", "iso885914"]),
    (.single .latin9, ["csisolatin9", "iso-8859-15", "iso8859-15", "iso885915", "iso_8859-15",
      "l9"]),
    (.single .latin10, ["iso-8859-16"]),
    (.single .koi8Russian, ["cskoi8r", "koi", "koi8", "koi8-r", "koi8_r"]),
    (.single .koi8Ukrainian, ["koi8-ru", "koi8-u"]),
    (.single .macRoman, ["csmacintosh", "mac", "macintosh", "x-mac-roman"]),
    (.single .thai, ["dos-874", "iso-8859-11", "iso8859-11", "iso885911", "tis-620",
      "windows-874"]),
    (.single .centralEuropean, ["cp1250", "windows-1250", "x-cp1250"]),
    (.single .cyrillic, ["cp1251", "windows-1251", "x-cp1251"]),
    (.single .western, ["ansi_x3.4-1968", "ascii", "cp1252", "cp819", "csisolatin1", "ibm819",
      "iso-8859-1", "iso-ir-100", "iso8859-1", "iso88591", "iso_8859-1", "iso_8859-1:1987", "l1",
      "latin1", "us-ascii", "windows-1252", "x-cp1252"]),
    (.single .greek, ["cp1253", "windows-1253", "x-cp1253"]),
    (.single .turkish, ["cp1254", "csisolatin5", "iso-8859-9", "iso-ir-148", "iso8859-9",
      "iso88599", "iso_8859-9", "iso_8859-9:1989", "l5", "latin5", "windows-1254", "x-cp1254"]),
    (.single .hebrew, ["cp1255", "windows-1255", "x-cp1255"]),
    (.single .arabic, ["cp1256", "windows-1256", "x-cp1256"]),
    (.single .baltic, ["cp1257", "windows-1257", "x-cp1257"]),
    (.single .vietnamese, ["cp1258", "windows-1258", "x-cp1258"]),
    (.single .macCyrillic, ["x-mac-cyrillic", "x-mac-ukrainian"]),
    (.gb18030, ["chinese", "csgb2312", "csiso58gb231280", "gb2312", "gb_2312", "gb_2312-80",
      "gbk", "iso-ir-58", "x-gbk", "gb18030"]),
    (.big5, ["big5", "big5-hkscs", "cn-big5", "csbig5", "x-x-big5"]),
    (.eucJp, ["cseucpkdfmtjapanese", "euc-jp", "x-euc-jp"]),
    (.iso2022Jp, ["csiso2022jp", "iso-2022-jp"]),
    (.shiftJis, ["csshiftjis", "ms932", "ms_kanji", "shift-jis", "shift_jis", "sjis",
      "windows-31j", "x-sjis"]),
    (.eucKr, ["cseuckr", "csksc56011987", "euc-kr", "iso-ir-149", "korean", "ks_c_5601-1987",
      "ks_c_5601-1989", "ksc5601", "ksc_5601", "windows-949"]),
    (.replacement, ["csiso2022kr", "hz-gb-2312", "iso-2022-cn", "iso-2022-cn-ext", "iso-2022-kr",
      "replacement"]),
    (.utf16 true, ["unicodefffe", "utf-16be"]),
    (.utf16 false, ["csunicode", "iso-10646-ucs-2", "ucs-2", "unicode", "unicodefeff",
      "utf-16le", "utf-16"]),
    (.userDefined, ["x-user-defined"])]

/-- Whether a character can stand around a label. -/
def isAround (c : Char) : Bool :=
  c == '\t' || c == '\n' || c == '\x0c' || c == '\r' || c == ' '

/-- The set of a label in any case; an unknown label counts as UTF-8. -/
def ofLabel (label : String) : Charset :=
  let inner := ((label.toList.dropWhile isAround).reverse.dropWhile isAround).reverse
  let label := asciiLower (String.ofList inner)
  match labels.find? (fun s => s.2.contains label) with
  | some s => s.1
  | none => utf8

/-- The character of private use for a byte. -/
def userChar (b : UInt8) : Char :=
  Char.ofNat (if b < 0x80 then b.toNat else 0xF780 + (b.toNat - 0x80))

/-- The text of a list of bytes without a mark. -/
def text (set : Charset) (bytes : List UInt8) : String :=
  match set with
  | utf8 => Utf8.lossy bytes
  | utf16 highFirst => String.ofList (unitsRun highFirst [] bytes)
  | single table => String.ofList (table.decode bytes)
  | gb18030 => String.ofList (simplifiedRun [] bytes)
  | big5 => String.ofList (traditionalSet.decode bytes)
  | eucJp => String.ofList (extendedRun [] bytes)
  | iso2022Jp => String.ofList (switchingRun .basic false [] bytes)
  | shiftJis => String.ofList (shiftedSet.decode bytes)
  | eucKr => String.ofList (koreanSet.decode bytes)
  | userDefined => String.ofList (bytes.map userChar)
  | replacement => if bytes.isEmpty then "" else "\ufffd"

/-- The text of a list of bytes. -/
def decode (set : Charset) : List UInt8 → String
  | 0xEF :: 0xBB :: 0xBF :: rest => utf8.text rest
  | 0xFE :: 0xFF :: rest => (utf16 true).text rest
  | 0xFF :: 0xFE :: rest => (utf16 false).text rest
  | bytes => set.text bytes

/-- The character set of a content type. -/
def ofContentType (contentType : Option String) : Charset :=
  match (contentType.bind MediaType.read).bind (·.parameter? "charset") with
  | some label => ofLabel label
  | none => utf8

end Charset

end NodeTelemetry.Text
