/-
  ScriptReport.Text.Charset

  Character sets: which one a name stands for, and the text that octets are in it. A text that is
  read can hold surrogates; it cannot be written then.
-/

import ScriptReport.Text.Blank
import ScriptReport.Text.Charset.Names
import ScriptReport.Text.Charset.OctetTables
import ScriptReport.Text.Charset.Utf16
import ScriptReport.Text.Charset.Utf7
import ScriptReport.Text.Charset.Escapes
import ScriptReport.Text.Charset.HostName
import ScriptReport.Text.Charset.Iso2022
import ScriptReport.Text.Wide

namespace ScriptReport.Text

/-! ## Character sets -/

/-- The character sets that can be decoded. -/
inductive Charset where
  | ascii
  | latin1
  /-- ASCII, and a table for the octets from 128 on. -/
  | upperHalf (chars : List String)
  /-- A table for all octets. -/
  | octetTable (chars : List String)
  | utf7
  | utf8
  /-- UTF-8 with an optional mark in front, which is not part of the text. -/
  | utf8Marked
  /-- Units of two octets, in a given order or in one that a mark tells. -/
  | utf16 (order : Option ByteOrder)
  /-- Units of four octets, in a given order or in one that a mark tells. -/
  | utf32 (order : Option ByteOrder)
  | escapes
  | rawEscapes
  | punycode
  /-- Host names in ASCII, whose marked labels stand for others. -/
  | hostName
  | eucJp
  /-- EUC with the squares of JIS X 0213 in an edition. -/
  | eucOf (edition : Japanese.Edition)
  | shiftJis
  /-- Shift JIS with the squares of JIS X 0213 in an edition. -/
  | shiftOf (edition : Japanese.Edition)
  | codePage932
  | gb2312
  | gbk
  | gb18030
  | hz
  | big5
  /-- Big5 with the supplementary set of Hong Kong. -/
  | hkscs
  | codePage950
  | eucKr
  | codePage949
  | johab
  | iso2022 (variant : Iso2022.Variant)
  /-- No octets are text in it. -/
  | undefined
  deriving DecidableEq, Repr

namespace Charset

/-! ## Names -/

/-- The character sets whose characters are computed. -/
def computed : List (String × Charset) :=
  [("ascii", .ascii), ("latin_1", .latin1), ("iso8859_1", .latin1), ("charmap", .latin1),
   ("utf_7", .utf7), ("utf_8", .utf8), ("utf_8_sig", .utf8Marked),
   ("utf_16", .utf16 none), ("utf_16_le", .utf16 (some .little)), ("utf_16_be", .utf16 (some .big)),
   ("utf_32", .utf32 none), ("utf_32_le", .utf32 (some .little)), ("utf_32_be", .utf32 (some .big)),
   ("unicode_escape", .escapes), ("raw_unicode_escape", .rawEscapes),
   ("idna", .hostName), ("punycode", .punycode), ("undefined", .undefined)]

/-- The character sets with squares of characters. -/
def squares : List (String × Charset) :=
  [("euc_jp", .eucJp), ("euc_jis_2004", .eucOf .y2004), ("euc_jisx0213", .eucOf .y2000),
   ("shift_jis", .shiftJis), ("shift_jis_2004", .shiftOf .y2004),
   ("shift_jisx0213", .shiftOf .y2000),
   ("cp932", .codePage932), ("gb2312", .gb2312), ("gbk", .gbk), ("gb18030", .gb18030),
   ("hz", .hz), ("big5", .big5), ("big5hkscs", .hkscs), ("cp950", .codePage950),
   ("euc_kr", .eucKr), ("johab", .johab), ("cp949", .codePage949)]

/-- The character sets with escapes. -/
def escaped : List (String × Charset) :=
  [("iso2022_kr", .iso2022 Iso2022.iso2022Kr), ("iso2022_jp", .iso2022 Iso2022.iso2022Jp),
   ("iso2022_jp_1", .iso2022 Iso2022.iso2022Jp1), ("iso2022_jp_2", .iso2022 Iso2022.iso2022Jp2),
   ("iso2022_jp_2004", .iso2022 (Iso2022.iso2022JpOf .y2004)),
   ("iso2022_jp_3", .iso2022 (Iso2022.iso2022JpOf .y2000)),
   ("iso2022_jp_ext", .iso2022 Iso2022.iso2022JpExt)]

/-- The character set whose first name this is. -/
def ofFirstName? (name : String) : Option Charset :=
  ((((computed.lookup name).or (squares.lookup name)).or (escaped.lookup name)).or
    ((CodeTable.upperHalves.lookup name).map .upperHalf)).or
    ((CodeTable.fullTables.lookup name).map .octetTable)

/-- Each run of characters other than ASCII letters, digits and points becomes one underscore. -/
def squeezeName : Chars → Chars
  | [] => []
  | [c] => [if c.isAlphanum || c = '.' then c else '_']
  | c :: d :: rest =>
    if c.isAlphanum || c = '.' then c :: squeezeName (d :: rest)
    else if d.isAlphanum || d = '.' then '_' :: squeezeName (d :: rest)
    else squeezeName (d :: rest)

/-- The form in which names are compared. -/
def nameKey (name : Chars) : Chars := trimOf '_' (squeezeName (name.map Char.toLower))

/-- The first name that has this one as a further name. -/
def firstName? (name : String) : Option String :=
  (CharsetNames.furtherNames.find? fun (_, names) => names.contains name).map (·.1)

/-- The first name for a name in any case and with any punctuation. In a further name, points
    count as punctuation too. -/
def firstName (name : Chars) : String :=
  let key := nameKey name
  let spellings := [key, key.map fun c => if c = '.' then '_' else c]
  ((spellings.map String.ofList).findSome? firstName?).getD (String.ofList key)

/-- The character set of a name. -/
def ofName? (name : Chars) : Option Charset := ofFirstName? (firstName name)

/-- The name stands for a way to pack octets. -/
def isPacking (name : Chars) : Bool := CharsetNames.packings.contains (firstName name)

/-! ## Decoding -/

/-- The character of an octet in a table. -/
def octetChar? (table : Array Char) (place : Nat) : Option Char := do
  let c ← table[place]?
  if c = Char.ofNat 0xFFFE then none else some c

/-- The text of octets that are looked up in a table whose first place is that of `least`; those
    before it are ASCII. -/
def decodeOctets (table : List String) (least : Nat) (octets : Octets) : Option Chars :=
  let table := (table.map (·.toList)).flatten.toArray
  octets.mapM fun b =>
    if b.toNat < least then some (Char.ofNat b.toNat) else octetChar? table (b.toNat - least)

/-- The text of octets in a character set that has no surrogates, if they are one. -/
def decodeChars? : Charset → Octets → Option Chars
  | .ascii, octets => octets.mapM CodeTable.asciiChar?
  | .latin1, octets => some (octets.map fun b => Char.ofNat b.toNat)
  | .upperHalf chars, octets => decodeOctets chars 128 octets
  | .octetTable chars, octets => decodeOctets chars 0 octets
  | .utf8, octets => (Utf8.decode octets).toOption
  | .utf8Marked, 0xEF :: 0xBB :: 0xBF :: octets => (Utf8.decode octets).toOption
  | .utf8Marked, octets => (Utf8.decode octets).toOption
  | .utf16 none, octets => Utf16.decode octets
  | .utf16 (some order), octets => Utf16.decodeIn order octets
  | .utf32 none, octets => Utf32.decode octets
  | .utf32 (some order), octets => Utf32.decodeIn order octets
  | .hostName, octets => (HostName.decode octets).toOption
  | .eucJp, octets => Japanese.decodeEuc octets
  | .eucOf edition, octets => Japanese.decodeEuc2004 edition octets
  | .shiftJis, octets => Japanese.decodeShift octets
  | .shiftOf edition, octets => Japanese.decodeShift2004 edition octets
  | .codePage932, octets => Japanese.decode932 octets
  | .gb2312, octets => Chinese.decodeGb2312 octets
  | .gbk, octets => Chinese.decodeGbk octets
  | .gb18030, octets => Chinese.decodeGb18030 octets
  | .hz, octets => Chinese.decodeHz false octets
  | .big5, octets => Chinese.decodeBig5 octets
  | .hkscs, octets => Chinese.decodeHkscs octets
  | .codePage950, octets => Chinese.decode950 octets
  | .eucKr, octets => Korean.decodeEuc octets
  | .codePage949, octets => Korean.decode949 octets
  | .johab, octets => Korean.decodeJohab octets
  | .iso2022 variant, octets => Iso2022.decode variant octets
  | .utf7, _ => none
  | .escapes, _ => none
  | .rawEscapes, _ => none
  | .punycode, _ => none
  | .undefined, _ => none

/-- The text of octets, if they are one. Where surrogates can be asked for one by one, they stay
    as they are, even two that would be the halves of a character. -/
def decode? : Charset → Octets → Option Wide
  | .utf7, octets => Utf7.decode octets
  | .escapes, octets => Escapes.decode octets
  | .rawEscapes, octets => Escapes.decodeRaw octets
  | .punycode, octets => (Punycode.decode octets).toOption
  | charset, octets => (charset.decodeChars? octets).map Wide.ofChars

/-! ## Faults -/

/-- Why a character set refuses octets, where it has a wording for it. -/
inductive Refusal where
  /-- The character set has no text. -/
  | undefined
  | punycode (fault : Punycode.Fault)
  | hostName (fault : HostName.ReadFault)
  deriving DecidableEq, Repr

/-- The wording of a failure of which a character set gives the reason. -/
def failed (name reason : Chars) : Chars :=
  "decoding with '" ++ name ++ "' codec failed (UnicodeError: " ++ reason ++ ")"

/-- The wording of a fault of Punycode. -/
def punycodeReason? : Punycode.Fault → Option Chars
  | .notAscii => none
  | .incomplete => some "incomplete punicode string"
  | .noDigit c => some ("Invalid extended code point '" ++ [c] ++ "'")
  | .tooGreat n => some ("Invalid character U+" ++ Nat.toDigits 16 n)

/-- The text that reports a refusal by the character set of a name, if it has a wording. -/
def Refusal.message? (name : Chars) : Refusal → Option Chars
  | .undefined => some (failed name "undefined encoding")
  | .punycode fault => (punycodeReason? fault).map (failed name)
  | .hostName .notAscii => none
  | .hostName (.punycode fault) =>
    (punycodeReason? fault).map fun reason => failed name (failed "punycode" reason)
  | .hostName (.label fault) => some (failed name fault.message)
  | .hostName (.surrogate n) =>
    some (failed name ("Invalid character " ++ Wide.quoted [.surrogate n]))
  | .hostName (.unequal label written) =>
    some ("('IDNA does not round-trip', b" ++ quoted label ++ ", b" ++ quoted written ++ ")")

/-- Why octets in a character set of a name are no text. -/
inductive Fault where
  /-- The name holds a null character. -/
  | nullCharacter
  | unknown (name : Chars)
  /-- The name stands for a way to pack octets. -/
  | packing (name : Chars)
  /-- The character set refuses the octets, and says why. -/
  | refused (name message : Chars)
  /-- The octets are no text in the character set. -/
  | invalid (name : Chars)
  /-- UTF-8 has no octets for the surrogates that start at a place. -/
  | surrogates (place : Nat) (run : Wide)
  deriving DecidableEq, Repr

/-- The text that reports the fault. -/
def Fault.message : Fault → Chars
  | .nullCharacter => "embedded null character"
  | .unknown name => "unknown encoding: " ++ name
  | .packing name =>
    "'" ++ name ++ "' is not a text encoding; use codecs.decode() to handle arbitrary codecs"
  | .refused _ message => message
  | .invalid name => "'" ++ name ++ "' codec can't decode the octets"
  | .surrogates place [point] =>
    "'utf-8' codec can't encode character " ++ Wide.quoted [point] ++ " in position " ++
      Nat.toDigits 10 place ++ ": surrogates not allowed"
  | .surrogates place run =>
    "'utf-8' codec can't encode characters in position " ++ Nat.toDigits 10 place ++ "-" ++
      Nat.toDigits 10 (place + run.length - 1) ++ ": surrogates not allowed"

/-- The refusal of octets that are no text. -/
def refusal? : Charset → Octets → Option Refusal
  | .undefined, _ => some .undefined
  | .punycode, octets =>
    match Punycode.decode octets with
    | .error fault => some (.punycode fault)
    | .ok _ => none
  | .hostName, octets =>
    match HostName.decode octets with
    | .error fault => some (.hostName fault)
    | .ok _ => none
  | _, _ => none

/-- The text of octets in the character set of a name. Without octets the name does not matter,
    except that it must be one. -/
def decodeNamed (name : Chars) (octets : Octets) : Except Fault Wide :=
  if name.contains (Char.ofNat 0) then .error .nullCharacter
  else if octets.isEmpty then .ok []
  else
    match ofName? name with
    | none => .error (if isPacking name then .packing name else .unknown name)
    | some charset =>
      match charset.decode? octets, (charset.refusal? octets).bind (Refusal.message? name) with
      | some text, _ => .ok text
      | none, some message => .error (.refused name message)
      | none, none => .error (.invalid name)

/-! ## Writing -/

/-- The characters of a text, if it can be written in UTF-8. -/
def writable (text : Wide) : Except Fault Chars :=
  match text.chars? with
  | some chars => .ok chars
  | none => .error (.surrogates text.surrogateRun.1 text.surrogateRun.2)

@[simp] theorem writable_ofChars (text : Chars) : writable (.ofChars text) = .ok text := by
  rw [writable, Wide.chars?_ofChars]

end Charset

end ScriptReport.Text
