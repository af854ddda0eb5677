import Rowwise.Text.Basic

/-!
# Character encodings and their labels

The encodings of text on the web, and the labels by which documents name them. Labels are compared
without regard to ASCII case and to ASCII white space around them.
-/

namespace Rowwise.Charset

/-- The encodings with one byte a character and ASCII in their lower half. -/
inductive SingleByte
  | ibm866
  | iso8859_2
  | iso8859_3
  | iso8859_4
  | iso8859_5
  | iso8859_6
  | iso8859_7
  | iso8859_8
  | iso8859_10
  | iso8859_13
  | iso8859_14
  | iso8859_15
  | iso8859_16
  | koi8R
  | koi8U
  | macintosh
  | windows874
  | windows1250
  | windows1251
  | windows1252
  | windows1253
  | windows1254
  | windows1255
  | windows1256
  | windows1257
  | windows1258
  | macCyrillic
  deriving DecidableEq

/-- The encodings that have characters of several bytes and are no part of Unicode. -/
inductive MultiByte
  | big5
  | eucJp
  | eucKr
  | gb18030
  | gbk
  | iso2022Jp
  | shiftJis
  deriving DecidableEq

/-- The encodings. -/
inductive Encoding
  | utf8
  | utf16LE
  | utf16BE
  | singleByte (charset : SingleByte)
  /-- One byte a character, the upper half in a private area. -/
  | userDefined
  | multiByte (charset : MultiByte)
  /-- Encodings that are refused: any content is one fault. -/
  | replacement
  deriving DecidableEq

/-- The labels, in lower case. -/
def labels : List (String × Encoding) :=
  [("866", .singleByte .ibm866), ("ansi_x3.4-1968", .singleByte .windows1252),
   ("arabic", .singleByte .iso8859_6), ("ascii", .singleByte .windows1252),
   ("asmo-708", .singleByte .iso8859_6), ("big5", .multiByte .big5),
   ("big5-hkscs", .multiByte .big5), ("chinese", .multiByte .gbk), ("cn-big5", .multiByte .big5),
   ("cp1250", .singleByte .windows1250), ("cp1251", .singleByte .windows1251),
   ("cp1252", .singleByte .windows1252), ("cp1253", .singleByte .windows1253),
   ("cp1254", .singleByte .windows1254), ("cp1255", .singleByte .windows1255),
   ("cp1256", .singleByte .windows1256), ("cp1257", .singleByte .windows1257),
   ("cp1258", .singleByte .windows1258), ("cp819", .singleByte .windows1252),
   ("cp866", .singleByte .ibm866), ("csbig5", .multiByte .big5), ("cseuckr", .multiByte .eucKr),
   ("cseucpkdfmtjapanese", .multiByte .eucJp), ("csgb2312", .multiByte .gbk),
   ("csibm866", .singleByte .ibm866), ("csiso2022jp", .multiByte .iso2022Jp),
   ("csiso2022kr", .replacement), ("csiso58gb231280", .multiByte .gbk),
   ("csiso88596e", .singleByte .iso8859_6), ("csiso88596i", .singleByte .iso8859_6),
   ("csiso88598e", .singleByte .iso8859_8), ("csiso88598i", .singleByte .iso8859_8),
   ("csisolatin1", .singleByte .windows1252), ("csisolatin2", .singleByte .iso8859_2),
   ("csisolatin3", .singleByte .iso8859_3), ("csisolatin4", .singleByte .iso8859_4),
   ("csisolatin5", .singleByte .windows1254), ("csisolatin6", .singleByte .iso8859_10),
   ("csisolatin9", .singleByte .iso8859_15), ("csisolatinarabic", .singleByte .iso8859_6),
   ("csisolatincyrillic", .singleByte .iso8859_5), ("csisolatingreek", .singleByte .iso8859_7),
   ("csisolatinhebrew", .singleByte .iso8859_8), ("cskoi8r", .singleByte .koi8R),
   ("csksc56011987", .multiByte .eucKr), ("csmacintosh", .singleByte .macintosh),
   ("csshiftjis", .multiByte .shiftJis), ("csunicode", .utf16LE),
   ("cyrillic", .singleByte .iso8859_5), ("dos-874", .singleByte .windows874),
   ("ecma-114", .singleByte .iso8859_6), ("ecma-118", .singleByte .iso8859_7),
   ("elot_928", .singleByte .iso8859_7), ("euc-jp", .multiByte .eucJp),
   ("euc-kr", .multiByte .eucKr), ("gb18030", .multiByte .gb18030), ("gb2312", .multiByte .gbk),
   ("gb_2312", .multiByte .gbk), ("gb_2312-80", .multiByte .gbk), ("gbk", .multiByte .gbk),
   ("greek", .singleByte .iso8859_7), ("greek8", .singleByte .iso8859_7),
   ("hebrew", .singleByte .iso8859_8), ("hz-gb-2312", .replacement),
   ("ibm819", .singleByte .windows1252), ("ibm866", .singleByte .ibm866),
   ("iso-10646-ucs-2", .utf16LE), ("iso-2022-cn", .replacement), ("iso-2022-cn-ext", .replacement),
   ("iso-2022-jp", .multiByte .iso2022Jp), ("iso-2022-kr", .replacement),
   ("iso-8859-1", .singleByte .windows1252), ("iso-8859-10", .singleByte .iso8859_10),
   ("iso-8859-11", .singleByte .windows874), ("iso-8859-13", .singleByte .iso8859_13),
   ("iso-8859-14", .singleByte .iso8859_14), ("iso-8859-15", .singleByte .iso8859_15),
   ("iso-8859-16", .singleByte .iso8859_16), ("iso-8859-2", .singleByte .iso8859_2),
   ("iso-8859-3", .singleByte .iso8859_3), ("iso-8859-4", .singleByte .iso8859_4),
   ("iso-8859-5", .singleByte .iso8859_5), ("iso-8859-6", .singleByte .iso8859_6),
   ("iso-8859-6-e", .singleByte .iso8859_6), ("iso-8859-6-i", .singleByte .iso8859_6),
   ("iso-8859-7", .singleByte .iso8859_7), ("iso-8859-8", .singleByte .iso8859_8),
   ("iso-8859-8-e", .singleByte .iso8859_8), ("iso-8859-8-i", .singleByte .iso8859_8),
   ("iso-8859-9", .singleByte .windows1254), ("iso-ir-100", .singleByte .windows1252),
   ("iso-ir-101", .singleByte .iso8859_2), ("iso-ir-109", .singleByte .iso8859_3),
   ("iso-ir-110", .singleByte .iso8859_4), ("iso-ir-126", .singleByte .iso8859_7),
   ("iso-ir-127", .singleByte .iso8859_6), ("iso-ir-138", .singleByte .iso8859_8),
   ("iso-ir-144", .singleByte .iso8859_5), ("iso-ir-148", .singleByte .windows1254),
   ("iso-ir-149", .multiByte .eucKr), ("iso-ir-157", .singleByte .iso8859_10),
   ("iso-ir-58", .multiByte .gbk), ("iso8859-1", .singleByte .windows1252),
   ("iso8859-10", .singleByte .iso8859_10), ("iso8859-11", .singleByte .windows874),
   ("iso8859-13", .singleByte .iso8859_13), ("iso8859-14", .singleByte .iso8859_14),
   ("iso8859-15", .singleByte .iso8859_15), ("iso8859-2", .singleByte .iso8859_2),
   ("iso8859-3", .singleByte .iso8859_3), ("iso8859-4", .singleByte .iso8859_4),
   ("iso8859-5", .singleByte .iso8859_5), ("iso8859-6", .singleByte .iso8859_6),
   ("iso8859-7", .singleByte .iso8859_7), ("iso8859-8", .singleByte .iso8859_8),
   ("iso8859-9", .singleByte .windows1254), ("iso88591", .singleByte .windows1252),
   ("iso885910", .singleByte .iso8859_10), ("iso885911", .singleByte .windows874),
   ("iso885913", .singleByte .iso8859_13), ("iso885914", .singleByte .iso8859_14),
   ("iso885915", .singleByte .iso8859_15), ("iso88592", .singleByte .iso8859_2),
   ("iso88593", .singleByte .iso8859_3), ("iso88594", .singleByte .iso8859_4),
   ("iso88595", .singleByte .iso8859_5), ("iso88596", .singleByte .iso8859_6),
   ("iso88597", .singleByte .iso8859_7), ("iso88598", .singleByte .iso8859_8),
   ("iso88599", .singleByte .windows1254), ("iso_8859-1", .singleByte .windows1252),
   ("iso_8859-15", .singleByte .iso8859_15), ("iso_8859-1:1987", .singleByte .windows1252),
   ("iso_8859-2", .singleByte .iso8859_2), ("iso_8859-2:1987", .singleByte .iso8859_2),
   ("iso_8859-3", .singleByte .iso8859_3), ("iso_8859-3:1988", .singleByte .iso8859_3),
   ("iso_8859-4", .singleByte .iso8859_4), ("iso_8859-4:1988", .singleByte .iso8859_4),
   ("iso_8859-5", .singleByte .iso8859_5), ("iso_8859-5:1988", .singleByte .iso8859_5),
   ("iso_8859-6", .singleByte .iso8859_6), ("iso_8859-6:1987", .singleByte .iso8859_6),
   ("iso_8859-7", .singleByte .iso8859_7), ("iso_8859-7:1987", .singleByte .iso8859_7),
   ("iso_8859-8", .singleByte .iso8859_8), ("iso_8859-8:1988", .singleByte .iso8859_8),
   ("iso_8859-9", .singleByte .windows1254), ("iso_8859-9:1989", .singleByte .windows1254),
   ("koi", .singleByte .koi8R), ("koi8", .singleByte .koi8R), ("koi8-r", .singleByte .koi8R),
   ("koi8-ru", .singleByte .koi8U), ("koi8-u", .singleByte .koi8U), ("koi8_r", .singleByte .koi8R),
   ("korean", .multiByte .eucKr), ("ks_c_5601-1987", .multiByte .eucKr),
   ("ks_c_5601-1989", .multiByte .eucKr), ("ksc5601", .multiByte .eucKr),
   ("ksc_5601", .multiByte .eucKr), ("l1", .singleByte .windows1252),
   ("l2", .singleByte .iso8859_2), ("l3", .singleByte .iso8859_3), ("l4", .singleByte .iso8859_4),
   ("l5", .singleByte .windows1254), ("l6", .singleByte .iso8859_10),
   ("l9", .singleByte .iso8859_15), ("latin1", .singleByte .windows1252),
   ("latin2", .singleByte .iso8859_2), ("latin3", .singleByte .iso8859_3),
   ("latin4", .singleByte .iso8859_4), ("latin5", .singleByte .windows1254),
   ("latin6", .singleByte .iso8859_10), ("logical", .singleByte .iso8859_8),
   ("mac", .singleByte .macintosh), ("macintosh", .singleByte .macintosh),
   ("ms932", .multiByte .shiftJis), ("ms_kanji", .multiByte .shiftJis),
   ("replacement", .replacement), ("shift-jis", .multiByte .shiftJis),
   ("shift_jis", .multiByte .shiftJis), ("sjis", .multiByte .shiftJis),
   ("sun_eu_greek", .singleByte .iso8859_7), ("tis-620", .singleByte .windows874),
   ("ucs-2", .utf16LE), ("unicode", .utf16LE), ("unicode-1-1-utf-8", .utf8),
   ("unicode11utf8", .utf8), ("unicode20utf8", .utf8), ("unicodefeff", .utf16LE),
   ("unicodefffe", .utf16BE), ("us-ascii", .singleByte .windows1252), ("utf-16", .utf16LE),
   ("utf-16be", .utf16BE), ("utf-16le", .utf16LE), ("utf-8", .utf8), ("utf8", .utf8),
   ("visual", .singleByte .iso8859_8), ("windows-1250", .singleByte .windows1250),
   ("windows-1251", .singleByte .windows1251), ("windows-1252", .singleByte .windows1252),
   ("windows-1253", .singleByte .windows1253), ("windows-1254", .singleByte .windows1254),
   ("windows-1255", .singleByte .windows1255), ("windows-1256", .singleByte .windows1256),
   ("windows-1257", .singleByte .windows1257), ("windows-1258", .singleByte .windows1258),
   ("windows-31j", .multiByte .shiftJis), ("windows-874", .singleByte .windows874),
   ("windows-949", .multiByte .eucKr), ("x-cp1250", .singleByte .windows1250),
   ("x-cp1251", .singleByte .windows1251), ("x-cp1252", .singleByte .windows1252),
   ("x-cp1253", .singleByte .windows1253), ("x-cp1254", .singleByte .windows1254),
   ("x-cp1255", .singleByte .windows1255), ("x-cp1256", .singleByte .windows1256),
   ("x-cp1257", .singleByte .windows1257), ("x-cp1258", .singleByte .windows1258),
   ("x-euc-jp", .multiByte .eucJp), ("x-gbk", .multiByte .gbk),
   ("x-mac-cyrillic", .singleByte .macCyrillic), ("x-mac-roman", .singleByte .macintosh),
   ("x-mac-ukrainian", .singleByte .macCyrillic), ("x-sjis", .multiByte .shiftJis),
   ("x-unicode20utf8", .utf8), ("x-user-defined", .userDefined), ("x-x-big5", .multiByte .big5)]

/-- ASCII white space. -/
def isAsciiSpace (c : Char) : Bool :=
  c == ' ' || c == '\t' || c == '\n' || c == '\r' || c == '\x0c'

/-- The encoding that a label names. -/
def ofLabel? (label : Text) : Option Encoding :=
  let trimmed := ((label.dropWhile isAsciiSpace).reverse.dropWhile isAsciiSpace).reverse
  labels.lookup (String.ofList (trimmed.map Char.toLower))

end Rowwise.Charset
