import AgentLedger.Http.Codepage
import AgentLedger.Http.MediaType
import AgentLedger.Http.Message
import AgentLedger.Text.Blank
import AgentLedger.Text.Utf16
/-!
# Bodies as text

A body begins with a byte order mark, or is in the charset that the media type
names, or in UTF-8. Bytes that encode nothing become U+FFFD. The encodings of
Chinese, Japanese and Korean with two bytes a character are not among the
charsets here: they are taken for UTF-8, as an unknown name is.
-/

namespace AgentLedger.Http

open Text (Bytes Received)

inductive Charset where
  | utf8
  | utf16 (order : Text.ByteOrder)
  | codepage (p : Codepage)
  /-- One of those that are never decoded. -/
  | replacement

namespace Charset

def decode : Charset → Bytes → Received
  | .utf8, bs => Text.decode bs
  | .utf16 order, bs => Text.decodeUtf16 order bs
  | .codepage p, bs => bs.map p.char?
  | .replacement, bs => if bs.isEmpty then [] else [none]

def littleEndianNames : List String :=
  ["csunicode", "iso-10646-ucs-2", "ucs-2", "unicode", "unicodefeff", "utf-16", "utf-16le"]

def bigEndianNames : List String := ["unicodefffe", "utf-16be"]

def replacementNames : List String :=
  ["csiso2022kr", "hz-gb-2312", "iso-2022-cn", "iso-2022-cn-ext", "iso-2022-kr", "replacement"]

/-- The charset with a name, in whatever case and with spaces around it. -/
def ofName (name : List Char) : Charset :=
  let name := MediaType.lower (Text.dropTail (· == ' ') (name.dropWhile (· == ' ')))
  let isOneOf (names : List String) : Bool := names.contains (String.ofList name)
  if isOneOf littleEndianNames then .utf16 .littleEndian
  else if isOneOf bigEndianNames then .utf16 .bigEndian
  else if isOneOf replacementNames then .replacement
  else ((Codepage.all.find? (·.names.contains name)).map .codepage).getD .utf8

def ofHeaders (hs : List Header) : Charset :=
  let name := do (← MediaType.read? (← header? "content-type" hs)).parameter? "charset"
  (name.map ofName).getD .utf8

/-- The charset that a byte order mark stands for, and what follows the mark. -/
def ofMark? : Bytes → Option (Charset × Bytes)
  | 0xEF :: 0xBB :: 0xBF :: bs => some (.utf8, bs)
  | 0xFF :: 0xFE :: bs => some (.utf16 .littleEndian, bs)
  | 0xFE :: 0xFF :: bs => some (.utf16 .bigEndian, bs)
  | _ => none

end Charset

def decodeBody (hs : List Header) (bs : Bytes) : String :=
  let (charset, bs) := (Charset.ofMark? bs).getD (.ofHeaders hs, bs)
  String.ofList (charset.decode bs).lenient

/-- The text of a response; some have no body whatever is sent. -/
def Response.text (r : Response) : String :=
  if r.status = 204 ∨ r.status = 304 then "" else decodeBody r.headers r.body

end AgentLedger.Http
