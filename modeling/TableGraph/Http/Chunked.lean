import TableGraph.Http.Url
import TableGraph.Text.Utf8

/-!
# Chunked bodies

The body of a message in chunks: a line with the size of the chunk in hexadecimal and possibly
extensions behind a semicolon, the bytes of the chunk, and a line end.

* A chunk of size zero ends the body, and so does the end of the bytes;
* a chunk that is cut off gives the bytes that are there;
* lines end with a line feed, with or without a carriage return before it.
-/

namespace TableGraph.Http

/-- The byte of a line feed. -/
def lineFeed : UInt8 := 10

/-- The byte of a carriage return. -/
def carriageReturn : UInt8 := 13

/-- The bytes before and after the first line feed. -/
def splitLine : List UInt8 → Option (List UInt8 × List UInt8)
  | [] => none
  | b :: rest =>
    if b = lineFeed then some ([], rest) else (splitLine rest).map fun p => (b :: p.1, p.2)

/-- Drops one line end. -/
def skipLineEnd : List UInt8 → List UInt8
  | 13 :: 10 :: rest => rest
  | 10 :: rest => rest
  | bytes => bytes

/-- The size that a line gives: its text up to a semicolon, without blanks around it. -/
def sizeText (line : List UInt8) : List Char :=
  Text.trim ((Text.trim (Text.Utf8.decodeLossy line)).takeWhile (· ≠ ';'))

/-- The number of a size, of at most 64 bits. -/
def chunkSize? (text : List Char) : Option Nat := number? 16 (Nat.pow 2 64 - 1) text

theorem length_splitLine {bytes line rest : List UInt8} (h : splitLine bytes = some (line, rest)) :
    rest.length < bytes.length := by
  induction bytes generalizing line with
  | nil => simp [splitLine] at h
  | cons b tail ih =>
    unfold splitLine at h
    split at h
    · simp only [Option.some.injEq, Prod.mk.injEq] at h
      simp [← h.2]
    · simp only [Option.map_eq_some_iff] at h
      obtain ⟨p, hp, hpe⟩ := h
      obtain ⟨p1, p2⟩ := p
      simp only [Prod.mk.injEq] at hpe
      have := ih (hpe.2 ▸ hp)
      simp only [List.length_cons]
      omega

/-- Puts chunks together, at most `fuel` of them. -/
def readChunks : Nat → List UInt8 → Except (List Char) (List UInt8)
  | 0, _ => .ok []
  | fuel + 1, bytes =>
    match splitLine bytes with
    | none => .ok []
    | some (line, rest) =>
      match chunkSize? (sizeText line) with
      | none => .error (sizeText line)
      | some 0 => .ok []
      | some (n + 1) =>
        if rest.length < n + 1 then .ok rest
        else (readChunks fuel (skipLineEnd (rest.drop (n + 1)))).map (rest.take (n + 1) ++ ·)

/-- The bytes of a chunked body; every chunk takes up at least one byte. A line that gives no size
is an error. -/
def chunkedBody (bytes : List UInt8) : Except (List Char) (List UInt8) :=
  readChunks (bytes.length + 1) bytes

end TableGraph.Http
