import TableGraph.Http.Message

/-!
# Messages as they are written

What a server puts on the wire, for the statements about reading it: lines of bytes with one of
two ends, a head of a status line and header lines, and a body that is plain or in chunks.

* A line holds neither a line feed nor a carriage return;
* a head ends with an empty line;
* a size line gives the size of a chunk in hexadecimal, in either case and with any zeros in front,
  and extensions behind a semicolon;
* the chunks of a body may be cut anywhere;
* a connection may break off at any byte, and the data that was sent until then is told by marks on
  the bytes.
-/

namespace TableGraph.Http

/-- The end of a line: a line feed alone, or behind a carriage return. -/
inductive LineEnd where
  | feed
  | returnFeed
  deriving DecidableEq, Repr

/-- The bytes of a line end. -/
def LineEnd.bytes : LineEnd → List UInt8
  | .feed => [lineFeed]
  | .returnFeed => [carriageReturn, lineFeed]

/-- The bytes stay on one line. -/
def IsLine (line : List UInt8) : Prop := lineFeed ∉ line ∧ carriageReturn ∉ line

instance (line : List UInt8) : Decidable (IsLine line) :=
  inferInstanceAs (Decidable (lineFeed ∉ line ∧ carriageReturn ∉ line))

/-- Every line with its end, and an empty line. -/
def headBytes (ending : LineEnd) (lines : List (List UInt8)) : List UInt8 :=
  lines.flatMap (· ++ ending.bytes) ++ ending.bytes

/-- The text spells a word in either case, with any blanks around it. -/
def Says (word text : List Char) : Prop :=
  ∃ before spelled after, text = before ++ (spelled ++ after) ∧
    (∀ c ∈ before, Text.isBlank c) ∧ (∀ c ∈ after, Text.isBlank c) ∧
    spelled.map Char.toLower = word

/-- The header line is of the name `transfer-encoding`, and `chunked` is among the codings that
its value lists. -/
def DeclaresChunked (line : List Char) : Prop :=
  ∃ name value, line = name ++ ':' :: value ∧ ':' ∉ name ∧
    Says "transfer-encoding".toList name ∧
    ∃ coding ∈ value.splitOn ',', Says "chunked".toList coding

/-- A head as text: version, status and reason on the first line, and header lines. -/
structure Head where
  version : List Char
  status : Nat
  reason : List Char
  headers : List (List Char)
  version_ne_nil : version ≠ []
  version_word : ∀ c ∈ version, Text.isBlank c = false
  status_le : status ≤ 65535
  reason_line : '\n' ∉ reason ∧ '\r' ∉ reason
  headers_ne_nil : ∀ line ∈ headers, line ≠ []
  headers_line : ∀ line ∈ headers, '\n' ∉ line ∧ '\r' ∉ line

namespace Head

/-- The first line. -/
def statusLine (head : Head) : List Char :=
  head.version ++ ' ' :: (Nat.toDigits 10 head.status ++ ' ' :: head.reason)

/-- The lines of the head. -/
def lines (head : Head) : List (List Char) := head.statusLine :: head.headers

/-- The bytes of the head, in UTF-8. -/
def bytes (ending : LineEnd) (head : Head) : List UInt8 :=
  headBytes ending (head.lines.map Text.Utf8.encode)

end Head

/-- The digits spell a number in a base: its own digits behind any zeros, in either case. -/
def Spells (base n : Nat) (digits : List Char) : Prop :=
  ∃ zeros, digits.map Char.toLower = List.replicate zeros '0' ++ Nat.toDigits base n

/-- A line with the size of a chunk. What stands between the digits and the semicolon of the
extensions, or the end of the line, is blank. -/
structure SizeLine (size : Nat) where
  digits : List Char
  extension : List UInt8
  ending : LineEnd
  spells : Spells 16 size digits
  extension_line : IsLine extension
  extension_blank : ∀ b ∈ extension.takeWhile (· ≠ 59), b = 32 ∨ b = 9

/-- The bytes of a size line. -/
def SizeLine.bytes {size : Nat} (line : SizeLine size) : List UInt8 :=
  Text.Utf8.encode line.digits ++ (line.extension ++ line.ending.bytes)

/-- A chunk with its size line and its line end. Its length is a number of the machine. -/
structure Chunk where
  data : List UInt8
  line : SizeLine data.length
  ending : LineEnd
  data_ne_nil : data ≠ []
  length_lt : data.length < Nat.pow 2 64

/-- The bytes of a chunk. -/
def Chunk.bytes (chunk : Chunk) : List UInt8 :=
  chunk.line.bytes ++ (chunk.data ++ chunk.ending.bytes)

/-- A body in chunks: the chunks, the size line of the last one, which is empty, and a trailer. -/
structure ChunkedBody where
  chunks : List Chunk
  last : SizeLine 0
  trailer : List UInt8

namespace ChunkedBody

/-- The bytes of a body in chunks. -/
def bytes (body : ChunkedBody) : List UInt8 :=
  body.chunks.flatMap Chunk.bytes ++ (body.last.bytes ++ body.trailer)

/-- The bytes that the chunks hold. -/
def content (body : ChunkedBody) : List UInt8 := body.chunks.flatMap Chunk.data

end ChunkedBody

/-- Bytes on the wire that are all data, or all not. -/
def marked (isData : Bool) (bytes : List UInt8) : List (UInt8 × Bool) := bytes.map (·, isData)

/-- The data among marked bytes. -/
def dataAmong (bytes : List (UInt8 × Bool)) : List UInt8 := (bytes.filter Prod.snd).map Prod.fst

/-- The bytes of a chunk. Of these only what stands between the size line and the last line end is
data. -/
def Chunk.marked (chunk : Chunk) : List (UInt8 × Bool) :=
  Http.marked false chunk.line.bytes ++
    (Http.marked true chunk.data ++ Http.marked false chunk.ending.bytes)

/-- Chunks as a server sends them, with what ends them or without: the size line of an empty chunk,
and a trailer. -/
structure SentChunks where
  chunks : List Chunk
  closing : Option (SizeLine 0 × List UInt8)

namespace SentChunks

/-- The bytes that end the chunks. -/
def closingBytes (sent : SentChunks) : List UInt8 :=
  sent.closing.elim [] fun closing => closing.1.bytes ++ closing.2

/-- The bytes that are sent, with marks on the data. -/
def marked (sent : SentChunks) : List (UInt8 × Bool) :=
  sent.chunks.flatMap Chunk.marked ++ Http.marked false sent.closingBytes

/-- The bytes that are sent. -/
def bytes (sent : SentChunks) : List UInt8 := sent.marked.map Prod.fst

/-- The data among the first `n` bytes. -/
def dataWithin (sent : SentChunks) (n : Nat) : List UInt8 := dataAmong (sent.marked.take n)

/-- The bytes that the chunks hold. -/
def content (sent : SentChunks) : List UInt8 := sent.chunks.flatMap Chunk.data

end SentChunks

end TableGraph.Http
