import BooksGateway.Charset.Chinese
import BooksGateway.Charset.Escapes
import BooksGateway.Charset.Japanese
import BooksGateway.Charset.Japanese.Planes
import BooksGateway.Charset.Korean
import BooksGateway.Charset.Page.Console
import BooksGateway.Charset.Page.Desktop
import BooksGateway.Charset.Page.Mainframe
import BooksGateway.Charset.Page.Standard
import BooksGateway.Charset.Page.Windows
import BooksGateway.Charset.Punycode
import BooksGateway.Charset.Switched
import BooksGateway.Charset.Utf7
import BooksGateway.Charset.Utf8
import BooksGateway.Text.Words

/-!
# Charsets

A charset says which text octets mean. Charsets are known by many names; letter case and the signs
between the words of a name do not matter.

1. Charsets.
2. Charsets without a reader.
3. The registry.
4. Finding a charset by name.
-/

namespace BooksGateway

/-! ## 1. Charsets -/

/-- Why octets have no text. -/
inductive CharsetFault where
  /-- The name of the charset has a null character in it. -/
  | nullInName
  /-- The octets have to begin with a mark that tells their order, and do not. -/
  | markMissing (isDouble : Bool)
  /-- The charset cannot mark damage. -/
  | noMarking
  /-- The charset has no text for any octets. -/
  | neverReadable
  /-- What is named turns octets into octets. -/
  | notText
  /-- What is named turns texts into texts. -/
  | notOctets
  /-- Of the parts of one parameter some are numbered and some are not. -/
  | partlyNumbered
  /-- Sets of characters cannot be switched as the octets say. -/
  | unswitched (trouble : Switched.Trouble)
  /-- Octets are damaged in a way that is not marked. -/
  | damaged (damage : Octets.Damage)
  deriving DecidableEq, Repr

/-- The words for octets without a text. -/
def CharsetFault.message : CharsetFault → String
  | .nullInName => "embedded null character"
  | .markMissing isDouble =>
    (if isDouble then "UTF-32" else "UTF-16") ++ " stream does not start with BOM"
  | .noMarking => "Unsupported error handling replace"
  | .neverReadable => "undefined encoding"
  | .notText => ""
  | .notOctets => ""
  | .partlyNumbered => ""
  | .unswitched trouble => trouble.message
  | .damaged damage => damage.message

/-- A charset. -/
structure Charset where
  /-- Its name. -/
  name : String
  /-- Other names for it. -/
  aliases : List String
  /-- The text of octets. -/
  read : List Nat → Except CharsetFault String

namespace Charset

/-- The charset of a reader. -/
def ofReader {σ : Type} (name : String) (aliases : List String) (reader : Octets.Reader σ) :
    Charset where
  name
  aliases
  read octets := .ok (reader.read octets)

/-- The charset of a code page. -/
def ofPage (page : CodePage) : Charset where
  name := page.name
  aliases := page.aliases
  read octets := .ok (page.reader.read octets)

/-- The charset of a form in which sets of characters are switched. -/
def ofForm (name : String) (aliases : List String) (form : Switched.Form) : Charset where
  name
  aliases
  read octets := (form.read octets).mapError .unswitched

/-- The octets that mark a text as one of characters of one to four octets. -/
def signature : List Nat := [0xEF, 0xBB, 0xBF]

/-- Octets without a signature at their start. -/
def unsigned (octets : List Nat) : List Nat :=
  if signature.isPrefixOf octets then octets.drop signature.length else octets

/-- The text of octets whose order is told by a mark at their start. Octets that are too few for a
    mark are damage. -/
def readMarked (isDouble : Bool) (octets : List Nat) : Except CharsetFault String :=
  let small := if isDouble then [0xFF, 0xFE, 0, 0] else [0xFF, 0xFE]
  let text := fun (bigFirst : Bool) =>
    (Wide.reader ⟨isDouble, bigFirst⟩).read (octets.drop small.length)
  if octets.length < small.length then .ok (if octets.isEmpty then "" else Octets.mark.toString)
  else if small.isPrefixOf octets then .ok (text false)
  else if small.reverse.isPrefixOf octets then .ok (text true)
  else .error (.markMissing isDouble)

/-- The charset of a form with wide units whose order is told by a mark. -/
def marked (name : String) (aliases : List String) (isDouble : Bool) : Charset where
  name
  aliases
  read := readMarked isDouble

/-! ## 2. Charsets without a reader -/

/-- What is known by a name but has no text for octets. -/
def failing (fault : CharsetFault) (name : String) (aliases : List String) : Charset where
  name
  aliases
  read _ := .error fault

/-! ## 3. The registry -/

/-- The charsets that have every character. -/
def universal : List Charset := [
  ofReader "utf_8" ["cp65001", "u8", "utf", "utf8", "utf8_ucs2", "utf8_ucs4"] Utf8.reader,
  ⟨"utf_8_sig", [], fun octets => .ok (Utf8.reader.read (unsigned octets))⟩,
  ofReader "utf_7" ["u7", "unicode_1_1_utf_7", "utf7"] Utf7.reader,
  marked "utf_16" ["u16", "utf16"] false,
  ofReader "utf_16_be" ["unicodebigunmarked", "utf_16be"] (Wide.reader ⟨false, true⟩),
  ofReader "utf_16_le" ["unicodelittleunmarked", "utf_16le"] (Wide.reader ⟨false, false⟩),
  marked "utf_32" ["u32", "utf32"] true,
  ofReader "utf_32_be" ["utf_32be"] (Wide.reader ⟨true, true⟩),
  ofReader "utf_32_le" ["utf_32le"] (Wide.reader ⟨true, false⟩)]

/-- The charsets of code pages. -/
def pages : List Charset :=
  (CodePage.standardPages ++ CodePage.windowsPages ++ CodePage.consolePages ++ CodePage.desktopPages
    ++ CodePage.mainframePages).map ofPage

/-- The charsets of East Asia. -/
def eastAsian : List Charset := [
  ofReader "gb2312"
    ["chinese", "csiso58gb231280", "euc_cn", "euccn", "eucgb2312_cn", "gb2312_1980", "gb2312_80",
      "iso_ir_58", "x_mac_simp_chinese"]
    (.paired Chinese.firstSet?),
  ofReader "gbk" ["936", "cp936", "ms936"] (.paired Chinese.hanzi.charOf?),
  ofReader "gb18030" ["gb18030_2000"] Chinese.reader,
  ofReader "big5" ["big5_tw", "csbig5", "x_mac_trad_chinese"] (.paired Chinese.smaller?),
  ofReader "cp950" ["950", "ms950"] (.paired Chinese.traditional.charOf?),
  ofReader "shift_jis" ["csshiftjis", "s_jis", "shiftjis", "sjis", "x_mac_japanese"]
    Japanese.squeezedReader,
  ofReader "cp932" ["932", "ms932", "ms_kanji", "mskanji"] Japanese.vendorReader,
  ofReader "euc_jp" ["eucjp", "u_jis", "ujis"] Japanese.rowReader,
  ofReader "euc_kr"
    ["euckr", "korean", "ks_c_5601", "ks_c_5601_1987", "ks_x_1001", "ksc5601", "ksx1001",
      "x_mac_korean"]
    Korean.reader,
  ofReader "cp949" ["949", "ms949", "uhc"] (.paired Korean.larger?),
  ofReader "johab" ["cp1361", "ms1361"] (.paired Korean.composed?),
  ofReader "hz" ["hz_gb", "hz_gb_2312", "hzgb"] Chinese.markedReader,
  ofReader "big5hkscs" ["big5_hkscs", "hkscs"] Chinese.hongKongReader,
  ofReader "shift_jisx0213" ["s_jisx0213", "shiftjisx0213", "sjisx0213"]
    (Japanese.extendedReader .early),
  ofReader "shift_jis_2004" ["s_jis_2004", "shiftjis2004", "sjis_2004"]
    (Japanese.extendedReader .late),
  ofReader "euc_jisx0213" ["eucjisx0213"] (Japanese.extendedRowReader .early),
  ofReader "euc_jis_2004" ["euc_jis2004", "eucjis2004", "jisx0213"]
    (Japanese.extendedRowReader .late)]

/-- The charsets in which sets of characters are switched. -/
def switched : List Charset := [
  ofForm "iso2022_kr" ["csiso2022kr", "iso2022kr", "iso_2022_kr"] Switched.korean,
  ofForm "iso2022_jp" ["csiso2022jp", "iso2022jp", "iso_2022_jp"] Switched.japanese,
  ofForm "iso2022_jp_1" ["iso2022jp_1", "iso_2022_jp_1"] Switched.japaneseBoth,
  ofForm "iso2022_jp_2" ["iso2022jp_2", "iso_2022_jp_2"] Switched.japaneseMixed,
  ofForm "iso2022_jp_3" ["iso2022jp_3", "iso_2022_jp_3"] (Switched.japaneseExtended .early),
  ofForm "iso2022_jp_2004" ["iso2022jp_2004", "iso_2022_jp_2004"] (Switched.japaneseExtended .late),
  ofForm "iso2022_jp_ext" ["iso2022jp_ext", "iso_2022_jp_ext"] Switched.japaneseNarrow]

/-- The charsets that spell characters beyond the first ones. -/
def spelled : List Charset := [
  ofReader "unicode_escape" [] (Escapes.reader Escapes.quoted),
  ofReader "raw_unicode_escape" [] (Escapes.reader Escapes.numbered),
  ⟨"punycode", [], fun octets => (Punycode.read octets).mapError .damaged⟩]

/-- What is named like a charset but has no text for octets. -/
def textless : List Charset := [
  failing .noMarking "idna" [],
  failing .neverReadable "undefined" [],
  failing .notText "base64_codec" ["base64", "base_64"],
  failing .notText "bz2_codec" ["bz2"],
  failing .notText "hex_codec" ["hex"],
  failing .notText "quopri_codec" ["quopri", "quoted_printable", "quotedprintable"],
  failing .notText "uu_codec" ["uu"],
  failing .notText "zlib_codec" ["zip", "zlib"],
  failing .notOctets "rot_13" ["rot13"]]

/-- All charsets. -/
def all : List Charset := universal ++ pages ++ eastAsian ++ switched ++ spelled ++ textless

/-! ## 4. Finding a charset by name -/

/-- Whether a character belongs to a word of a name. -/
def isWordChar (c : Char) : Bool := c.isAlphanum || c == '.'

/-- The words of a name, in lower case, with a low line between each two. -/
def plainName (name : String) : String :=
  let words := Text.pieces (fun c => !isWordChar c) (name.toList.map Char.toLower)
  String.intercalate "_" ((words.filter (!·.isEmpty)).map String.ofList)

/-- The charset with another name. -/
def byAlias? (plain : String) : Option Charset :=
  all.find? fun charset => charset.aliases.contains plain

/-- The charset with a name. Points in other names may stand for low lines. -/
def ofPlainName? (plain : String) : Option Charset :=
  byAlias? plain <|> byAlias? (Text.replaceChar '.' '_' plain)
    <|> all.find? fun charset => charset.name == plain

/-- The charset with a name in any spelling. -/
def ofName? (name : String) : Option Charset := ofPlainName? (plainName name)

end Charset

end BooksGateway
