/-
**Charsets by name.**

A charset is named in any case, and what stands between the letters and digits of a name does not matter:
`ISO-8859-1` and `iso_8859_1` are one name. Some names are of codings that spell no text: they turn bytes
into other bytes, or texts into other texts, or nothing into anything.

* `Multibyte`, `Switched`, `Charset`: the charsets;
* `Charset.canonical`: what matters of a name;
* `Charset.ofName?`: the charset with a name;
* `Charset.decode`: what bytes spell in a charset.
-/

import RouteCompiler.Text.Charset.Chart.Console
import RouteCompiler.Text.Charset.Chart.Desktop
import RouteCompiler.Text.Charset.Chart.Iso
import RouteCompiler.Text.Charset.Chart.Mainframe
import RouteCompiler.Text.Charset.Chart.Windows
import RouteCompiler.Text.Charset.Chinese
import RouteCompiler.Text.Charset.Escaped
import RouteCompiler.Text.Charset.Japanese
import RouteCompiler.Text.Charset.Korean
import RouteCompiler.Text.Charset.Punycode
import RouteCompiler.Text.Charset.Switched
import RouteCompiler.Text.Charset.Utf16
import RouteCompiler.Text.Charset.Utf7
import RouteCompiler.Text.Charset.Utf8

namespace RouteCompiler.Text

/-- Why bytes cannot be read at all. -/
inductive CharsetFault where
  /-- The bytes do not say in which order they are. -/
  | noByteOrder
  /-- The coding turns bytes into bytes. -/
  | bytesOnly
  /-- The coding turns texts into texts. -/
  | textsOnly
  /-- The coding reads no gap, or nothing at all. -/
  | unreadable
  /-- The part of the bytes that must be ASCII is not. -/
  | notAscii
  deriving DecidableEq, Repr

/-- What is said of bytes that cannot be read. -/
def CharsetFault.text : CharsetFault → String
  | .noByteOrder => "the text does not start with a byte order mark"
  | .bytesOnly => "the coding spells no text"
  | .textsOnly => "the coding is one of texts, not of bytes"
  | .unreadable => "the coding cannot be read"
  | .notAscii => "the numbers of the coding are not ASCII"

/-- A charset with characters of several bytes. -/
inductive Multibyte where
  /-- The least charset of Simplified Chinese. -/
  | gb2312
  /-- A larger charset of Simplified Chinese. -/
  | gbk
  /-- The largest charset of Simplified Chinese. -/
  | gb18030
  /-- Traditional Chinese. -/
  | big5
  /-- Traditional Chinese on windowed systems. -/
  | cp950
  /-- Traditional Chinese in Hong Kong. -/
  | hongKong
  /-- Japanese by row and cell. -/
  | eucJp
  /-- Japanese by folded rows. -/
  | shiftJis
  /-- Japanese on windowed systems. -/
  | cp932
  /-- Later Japanese by row and cell. -/
  | laterEuc (edition : Edition)
  /-- Later Japanese by folded rows. -/
  | laterShift (edition : Edition)
  /-- The smaller charset of Korean. -/
  | eucKr
  /-- The larger charset of Korean. -/
  | cp949
  /-- Korean in packed letters. -/
  | johab
  /-- Escapes of all kinds. -/
  | escaped
  /-- Escapes by code. -/
  | codes
  deriving DecidableEq, Repr

/-- What the bytes at the start of a text are. -/
def Multibyte.reading : Multibyte → UInt8 → List UInt8 → Reading
  | .gb2312 => gb2312Reading
  | .gbk => gbkReading
  | .gb18030 => gb18030Reading
  | .big5 => big5Reading
  | .cp950 => cp950Reading
  | .hongKong => hongKongReading
  | .eucJp => eucJpReading
  | .shiftJis => shiftJisReading
  | .cp932 => cp932Reading
  | .laterEuc edition => laterEucReading edition
  | .laterShift edition => laterShiftReading edition
  | .eucKr => eucKrReading
  | .cp949 => cp949Reading
  | .johab => johabReading
  | .escaped => escapedReading
  | .codes => codesReading

/-- A charset that is switched by escapes. -/
inductive Switched where
  /-- Japanese in its first form. -/
  | japanese
  /-- Japanese with the supplementary rows. -/
  | supplement
  /-- Japanese with other scripts. -/
  | scripts
  /-- Japanese with the narrow syllables. -/
  | narrow
  /-- Later Japanese. -/
  | later (edition : Edition)
  /-- Korean. -/
  | korean
  deriving DecidableEq, Repr

/-- What a charset switches to. -/
def Switched.switching : Switched → Switching
  | .japanese => switchedJapanese
  | .supplement => switchedSupplement
  | .scripts => switchedScripts
  | .narrow => switchedNarrow
  | .later edition => switchedLater edition
  | .korean => switchedKorean

/-- A charset. -/
inductive Charset where
  /-- The characters below U+0080. -/
  | ascii
  /-- The characters below U+0100. -/
  | latin1
  /-- The characters of a chart. -/
  | chart (chart : Chart)
  /-- Characters of several bytes. -/
  | multibyte (kind : Multibyte)
  /-- Characters that escapes switch to. -/
  | switched (kind : Switched)
  /-- Simplified Chinese that a tilde and a brace switch to. -/
  | tilde
  /-- Punycode. -/
  | punycode
  /-- UTF-7. -/
  | utf7
  /-- UTF-8. -/
  | utf8
  /-- UTF-8, perhaps after a byte order mark. -/
  | utf8Marked
  /-- UTF-16 in the given order, or in that of a byte order mark. -/
  | utf16 (order : Option ByteOrder)
  /-- UTF-32 in the given order, or in that of a byte order mark. -/
  | utf32 (order : Option ByteOrder)
  /-- A coding that spells no text. -/
  | other (fault : CharsetFault)
  deriving DecidableEq, Repr

namespace Charset

/-! ### Names -/

/-- A charset with its name and its other names. -/
structure Entry where
  name : String
  aliases : List String
  charset : Charset
  deriving DecidableEq, Repr

/-- The charsets that no chart is needed for. -/
def wide : List Entry := [
  ⟨"ascii", ["646", "ansi_x3.4_1968", "ansi_x3_4_1968", "ansi_x3.4_1986", "cp367", "csascii", "ibm367",
    "iso646_us", "iso_646.irv_1991", "iso_ir_6", "us", "us_ascii"], .ascii⟩,
  ⟨"latin_1", ["8859", "cp819", "csisolatin1", "ibm819", "iso8859", "iso8859_1", "iso_8859_1",
    "iso_8859_1_1987", "iso_ir_100", "l1", "latin", "latin1"], .latin1⟩,
  ⟨"charmap", [], .latin1⟩,
  ⟨"utf_7", ["u7", "utf7", "unicode_1_1_utf_7"], .utf7⟩,
  ⟨"utf_8", ["u8", "utf", "utf8", "utf8_ucs2", "utf8_ucs4", "cp65001"], .utf8⟩,
  ⟨"utf_8_sig", [], .utf8Marked⟩,
  ⟨"utf_16", ["u16", "utf16"], .utf16 none⟩,
  ⟨"utf_16_le", ["unicodelittleunmarked", "utf_16le"], .utf16 (some .little)⟩,
  ⟨"utf_16_be", ["unicodebigunmarked", "utf_16be"], .utf16 (some .big)⟩,
  ⟨"utf_32", ["u32", "utf32"], .utf32 none⟩,
  ⟨"utf_32_le", ["utf_32le"], .utf32 (some .little)⟩,
  ⟨"utf_32_be", ["utf_32be"], .utf32 (some .big)⟩]

/-- The charsets with characters of several bytes. -/
def multibytes : List Entry := [
  ⟨"gb2312", ["chinese", "csiso58gb231280", "euc_cn", "euccn", "eucgb2312_cn", "gb2312_1980",
    "gb2312_80", "iso_ir_58", "x_mac_simp_chinese"], .multibyte .gb2312⟩,
  ⟨"gbk", ["936", "cp936", "ms936"], .multibyte .gbk⟩,
  ⟨"gb18030", ["gb18030_2000"], .multibyte .gb18030⟩,
  ⟨"big5", ["big5_tw", "csbig5", "x_mac_trad_chinese"], .multibyte .big5⟩,
  ⟨"cp950", ["950", "ms950"], .multibyte .cp950⟩,
  ⟨"euc_jp", ["eucjp", "ujis", "u_jis"], .multibyte .eucJp⟩,
  ⟨"shift_jis", ["csshiftjis", "shiftjis", "sjis", "s_jis", "x_mac_japanese"],
    .multibyte .shiftJis⟩,
  ⟨"big5hkscs", ["big5_hkscs", "hkscs"], .multibyte .hongKong⟩,
  ⟨"euc_jis_2004", ["jisx0213", "eucjis2004", "euc_jis2004"], .multibyte (.laterEuc .second)⟩,
  ⟨"euc_jisx0213", ["eucjisx0213"], .multibyte (.laterEuc .first)⟩,
  ⟨"shift_jis_2004", ["shiftjis2004", "sjis_2004", "s_jis_2004"], .multibyte (.laterShift .second)⟩,
  ⟨"shift_jisx0213", ["shiftjisx0213", "sjisx0213", "s_jisx0213"], .multibyte (.laterShift .first)⟩,
  ⟨"johab", ["cp1361", "ms1361"], .multibyte .johab⟩,
  ⟨"punycode", [], .punycode⟩,
  ⟨"cp932", ["932", "ms932", "mskanji", "ms_kanji"], .multibyte .cp932⟩,
  ⟨"euc_kr", ["euckr", "korean", "ksc5601", "ks_c_5601", "ks_c_5601_1987", "ksx1001", "ks_x_1001",
    "x_mac_korean"], .multibyte .eucKr⟩,
  ⟨"cp949", ["949", "ms949", "uhc"], .multibyte .cp949⟩,
  ⟨"unicode_escape", [], .multibyte .escaped⟩,
  ⟨"raw_unicode_escape", [], .multibyte .codes⟩]

/-- The charsets that escapes switch. -/
def switching : List Entry := [
  ⟨"iso2022_jp", ["csiso2022jp", "iso2022jp", "iso_2022_jp"], .switched .japanese⟩,
  ⟨"iso2022_jp_1", ["iso2022jp_1", "iso_2022_jp_1"], .switched .supplement⟩,
  ⟨"iso2022_jp_2", ["iso2022jp_2", "iso_2022_jp_2"], .switched .scripts⟩,
  ⟨"iso2022_jp_3", ["iso2022jp_3", "iso_2022_jp_3"], .switched (.later .first)⟩,
  ⟨"iso2022_jp_2004", ["iso_2022_jp_2004", "iso2022jp_2004"], .switched (.later .second)⟩,
  ⟨"iso2022_jp_ext", ["iso2022jp_ext", "iso_2022_jp_ext"], .switched .narrow⟩,
  ⟨"iso2022_kr", ["csiso2022kr", "iso2022kr", "iso_2022_kr"], .switched .korean⟩,
  ⟨"hz", ["hzgb", "hz_gb", "hz_gb_2312"], .tilde⟩]

/-- The codings that spell no text. -/
def others : List Entry := [
  ⟨"base64_codec", ["base64", "base_64"], .other .bytesOnly⟩,
  ⟨"bz2_codec", ["bz2"], .other .bytesOnly⟩,
  ⟨"hex_codec", ["hex"], .other .bytesOnly⟩,
  ⟨"quopri_codec", ["quopri", "quoted_printable", "quotedprintable"], .other .bytesOnly⟩,
  ⟨"uu_codec", ["uu"], .other .bytesOnly⟩,
  ⟨"zlib_codec", ["zip", "zlib"], .other .bytesOnly⟩,
  ⟨"rot_13", ["rot13"], .other .textsOnly⟩,
  ⟨"idna", [], .other .unreadable⟩,
  ⟨"undefined", [], .other .unreadable⟩]

/-- All charts. -/
def charts : List Chart :=
  Chart.iso ++ Chart.windows ++ Chart.console ++ Chart.desktop ++ Chart.mainframe

/-- All charsets with their names. -/
def entries : List Entry :=
  wide ++ charts.map (fun rows => ⟨rows.name, rows.aliases, .chart rows⟩) ++ multibytes ++
    switching ++ others

/-- The characters that matter in a name. -/
def isNameChar (c : Char) : Bool :=
  c.isAlphanum || c == '.'

/-- A character before the rest of a name. -/
def joinName (c : Char) (rest : List Char) : List Char :=
  if isNameChar c then c.toLower :: rest
  else
    match rest with
    | [] => []
    | '_' :: _ => rest
    | _ => '_' :: rest

/-- What matters of a name: its letters and digits, with one underscore for all that stands between. -/
def canonical (name : String) : String :=
  String.ofList ((name.toList.foldr joinName []).dropWhile (· == '_'))

/-- A name with underscores for its points. -/
def withoutPoints (name : String) : String :=
  String.ofList (name.toList.map fun c => if c = '.' then '_' else c)

/-- The charset with a name. A point in a name may stand for an underscore of another name of the
charset. -/
def ofName? (name : String) : Option Charset :=
  let name := canonical name
  let byAlias := fun (text : String) => entries.find? fun entry => entry.aliases.contains text
  let found := ((byAlias name).or (byAlias (withoutPoints name))).or
    (entries.find? fun entry => entry.name == name)
  found.map Entry.charset

/-! ### Reading -/

/-- The bytes of a mark that a text in UTF-8 may start with. -/
def utf8Mark : List UInt8 :=
  [0xEF, 0xBB, 0xBF]

/-- What bytes of UTF-8 spell after a mark. -/
def decodeMarked : List UInt8 → Spelled
  | 0xEF :: 0xBB :: 0xBF :: rest => Text.utf8.run rest
  | bytes => if bytes.isPrefixOf utf8Mark then [] else Text.utf8.run bytes

/-- What bytes of UTF-16 spell. -/
def decodeUtf16 : Option ByteOrder → List UInt8 → Except CharsetFault Spelled
  | some order, bytes => .ok ((Text.utf16 order).run bytes)
  | none, 0xFF :: 0xFE :: rest => .ok ((Text.utf16 .little).run rest)
  | none, 0xFE :: 0xFF :: rest => .ok ((Text.utf16 .big).run rest)
  | none, bytes =>
    if bytes.length < 2 then .ok ((Text.utf16 .little).run bytes) else .error .noByteOrder

/-- What bytes of UTF-32 spell. -/
def decodeUtf32 : Option ByteOrder → List UInt8 → Except CharsetFault Spelled
  | some order, bytes => .ok ((Text.utf32 order).run bytes)
  | none, 0xFF :: 0xFE :: 0 :: 0 :: rest => .ok ((Text.utf32 .little).run rest)
  | none, 0 :: 0 :: 0xFE :: 0xFF :: rest => .ok ((Text.utf32 .big).run rest)
  | none, bytes =>
    if bytes.length < 4 then .ok ((Text.utf32 .little).run bytes) else .error .noByteOrder

/-- The character of a byte below 0x80. -/
def asciiChar? (byte : UInt8) : Option Char :=
  if byte.toNat < 0x80 then some (Char.ofNat byte.toNat) else none

/-- The character with the code that a byte is. -/
def latin1Char? (byte : UInt8) : Option Char :=
  some (Char.ofNat byte.toNat)

/-- What is read, or the fault if nothing is. -/
def readOr (fault : CharsetFault) : Option Spelled → Except CharsetFault Spelled
  | some spelled => .ok spelled
  | none => .error fault

/-- What bytes spell. -/
def decode : Charset → List UInt8 → Except CharsetFault Spelled
  | .ascii, bytes => .ok ((Decoder.bytewise asciiChar?).run bytes)
  | .latin1, bytes => .ok ((Decoder.bytewise latin1Char?).run bytes)
  | .chart rows, bytes => .ok ((Decoder.bytewise rows.char?).run bytes)
  | .multibyte kind, bytes => readOr .unreadable (readSequences kind.reading bytes)
  | .switched kind, bytes => readOr .unreadable (readSwitched kind.switching bytes)
  | .tilde, bytes => readOr .unreadable (readTilde bytes)
  | .punycode, bytes => readOr .notAscii (Punycode.read? bytes)
  | .utf7, bytes => .ok (Text.utf7.run bytes)
  | .utf8, bytes => .ok (Text.utf8.run bytes)
  | .utf8Marked, bytes => .ok (decodeMarked bytes)
  | .utf16 order, bytes => decodeUtf16 order bytes
  | .utf32 order, bytes => decodeUtf32 order bytes
  | .other fault, _ => .error fault

end Charset

end RouteCompiler.Text
