import ScientificResourceLab.Contracts.Canonical
import ScientificResourceLab.Python.Strings

/-!
# The stdio server of `srl.mcp`

The framing layer and the loop of `serve`.  A stream is the bytes that are
still to be read.  `readFrame` returns what it read and what remains, also
when it raises, because the loop goes on from wherever the stream stands.

`McpServer.dispatch` is an argument of the loop: any function from the
members of a request to a response, or to none for a notification.  The loop
notes every header block it starts to read, with its position and the message
it dispatched, in a history variable.
-/

namespace ScientificResourceLab.Mcp

open Python Contracts

/-! ## Frames -/

/-- `MAX_FRAME_BYTES`. -/
def maxFrameBytes : Nat := 1048576

/-- The typed fail reasons of the framing layer. -/
inductive FrameFailReason where
  | tooLarge
  | parse
  | malformed
  deriving DecidableEq, Repr

def FrameFailReason.value : FrameFailReason → Text
  | .tooLarge => text "FRAME_TOO_LARGE"
  | .parse => text "FRAME_PARSE_ERROR"
  | .malformed => text "FRAME_MALFORMED"

/-- `FrameError`. -/
structure FrameError where
  failReason : FrameFailReason
  message : Text
  deriving DecidableEq

/-- A `FrameError` that no handler catches. -/
def FrameError.escape (error : FrameError) : PyError :=
  ⟨.frameError, error.message⟩

/-- `bytes.rstrip(b"\n")`. -/
def rstripNewlines (data : Bytes) : Bytes :=
  (data.reverse.dropWhile (· = 10)).reverse

def asciiBytes (value : Text) : Bytes :=
  value.map fun point => byte point.val

/-- `encode_frame`. -/
def encodeFrame (message : Json) : Except FrameError Bytes :=
  match dumps message with
  | .error error =>
      .error ⟨.parse,
        text "frame body is not canonical-JSON serializable: " ++
          error.message⟩
  | .ok data =>
      let body := rstripNewlines data
      if maxFrameBytes < body.length then
        .error ⟨.tooLarge,
          text "encoded frame body is " ++ decimalText body.length ++
            text " bytes, exceeding the 1048576-byte cap " ++
            text "(FRAME_TOO_LARGE)"⟩
      else
        .ok (asciiBytes (text "Content-Length: " ++
          decimalText body.length ++ text "\r\n\r\n") ++ body)

/-- The lengths of the `Content-Length` headers among the lines. -/
def contentLengths : List Text → Except FrameError (List Nat)
  | [] => .ok []
  | line :: rest =>
      if line = [] then contentLengths rest
      else if codePoint ':' ∉ line then
        .error ⟨.malformed,
          text "malformed header line (no ':'): " ++ quoted line⟩
      else
        let (name, rawValue) := partitionColon line
        if lowerAscii (strip name) ≠ text "content-length" then
          contentLengths rest
        else
          match intOf (strip rawValue) with
          | none =>
              .error ⟨.malformed,
                text "Content-Length is not an integer: " ++
                  quoted (strip rawValue)⟩
          | some value =>
              if value < 0 then
                .error ⟨.malformed,
                  text "Content-Length is negative: " ++ intText value⟩
              else do
                let others ← contentLengths rest
                pure (value.toNat :: others)

/-- `parse_content_length`. -/
def parseContentLength (headerBlock : Text) : Except FrameError Nat := do
  let found ← contentLengths (splitCrlf headerBlock)
  match found with
  | [] =>
      throw ⟨.malformed, text "frame is missing the Content-Length header"⟩
  | [length] => pure length
  | lengths =>
      throw ⟨.malformed,
        text "frame has multiple Content-Length headers: [" ++
          (text ", ").intercalate (lengths.map decimalText) ++ text "]"⟩

/-! ## Reading one frame -/

/-- `b"\r\n\r\n"`. -/
def headerTerminator : Bytes := [13, 10, 13, 10]

/-- How reading a header ends early. -/
inductive HeaderStop where
  | endOfFile
  | closed
  | tooLong
  deriving DecidableEq, Repr

/-- The header loop of `_read_frame`; `buffer` is what was read so far. -/
def readHeader (buffer : Bytes) :
    Bytes → Except HeaderStop Bytes × Bytes
  | [] => (.error (if buffer = [] then .endOfFile else .closed), [])
  | byte :: rest =>
      if headerTerminator <:+ buffer ++ [byte] then
        (.ok (buffer ++ [byte]), rest)
      else if maxFrameBytes < (buffer ++ [byte]).length then
        (.error .tooLong, rest)
      else readHeader (buffer ++ [byte]) rest

/-- What `_read_frame` returns or raises. -/
inductive FrameOutcome where
  | endOfFile
  | message (members : List (Text × Json))
  | frameError (error : FrameError)
  | raised (error : PyError)

/-- The last part of `_read_frame`, on the bytes of a body. -/
def parseBody (body : Bytes) : FrameOutcome :=
  match loadsBytes body with
  | .error .value =>
      .raised (raised .valueError
        "Exceeds the limit for integer string conversion")
  | .error _ =>
      .frameError ⟨.parse, text "frame body is not valid JSON"⟩
  | .ok (.obj members) => .message members
  | .ok value =>
      .frameError ⟨.parse,
        text "frame body must be a JSON object, got " ++ typeName value⟩

/-- The part of `_read_frame` after the header block. -/
def readBody (header rest : Bytes) : FrameOutcome × Bytes :=
  match parseContentLength (asciiReplace header) with
  | .error error => (.frameError error, rest)
  | .ok length =>
      if maxFrameBytes < length then
        (.frameError ⟨.tooLarge,
          text "declared Content-Length " ++ decimalText length ++
            text " exceeds the 1048576-byte cap (FRAME_TOO_LARGE)"⟩, rest)
      else if rest.length < length then
        (.frameError ⟨.parse,
          text "stream closed mid-frame (read " ++
            decimalText rest.length ++ text " of " ++
            decimalText length ++ text " bytes)"⟩, [])
      else (parseBody (rest.take length), rest.drop length)

/-- `_read_frame`. -/
def readFrame (stream : Bytes) : FrameOutcome × Bytes :=
  match readHeader [] stream with
  | (.error .endOfFile, rest) => (.endOfFile, rest)
  | (.error .closed, rest) =>
      (.frameError ⟨.parse, text "stream closed mid-header"⟩, rest)
  | (.error .tooLong, rest) =>
      (.frameError ⟨.tooLarge,
        text "frame header exceeded 1048576 bytes without a terminator " ++
          text "(FRAME_TOO_LARGE)"⟩, rest)
  | (.ok header, rest) => readBody header rest

/-! ## The loop -/

/-- The JSON-RPC error response to a frame error. -/
def frameErrorResponse (error : FrameError) : Json :=
  let code : Int :=
    if error.failReason = .tooLarge then -32600 else -32700
  .obj
    [(text "jsonrpc", .str (text "2.0")),
      (text "id", .null),
      (text "error", .obj
        [(text "code", .int code),
          (text "message", .str (text "frame error: " ++ error.message)),
          (text "data", .obj
            [(text "schema_version", .str (text "McpError/v1")),
              (text "fail_reason", .str error.failReason.value),
              (text "read_only", .bool true),
              (text "note", .str error.message),
              (text "status", .str error.failReason.value)])])]

section

variable (dispatch : List (Text × Json) → Option Json)

/-- The bytes written in answer to a frame; an error leaves `serve`. -/
def respond : FrameOutcome → Except PyError Bytes
  | .endOfFile => .ok []
  | .message members =>
      match dispatch members with
      | none => .ok []
      | some response => (encodeFrame response).mapError FrameError.escape
  | .frameError error =>
      (encodeFrame (frameErrorResponse error)).mapError FrameError.escape
  | .raised error => .error error

/-- A header block that was read: its position, and what was dispatched. -/
structure Attempt where
  start : Nat
  message : Option (List (Text × Json))

def FrameOutcome.dispatched :
    FrameOutcome → Option (List (Text × Json))
  | .message members => some members
  | _ => none

/-- What `serve` returned or raised, wrote and read. -/
structure Served where
  result : Except PyError Nat
  output : Bytes
  attempts : List Attempt

/-- The loop of `serve` from a position of the stream. -/
def serveFrom : Nat → Nat → Bytes → Served
  | 0, _, _ => { result := .ok 0, output := [], attempts := [] }
  | _ + 1, _, [] => { result := .ok 0, output := [], attempts := [] }
  | fuel + 1, position, byte :: following =>
      let (outcome, rest) := readFrame (byte :: following)
      let attempt : Attempt :=
        { start := position, message := outcome.dispatched }
      match respond dispatch outcome with
      | .error error =>
          { result := .error error, output := [], attempts := [attempt] }
      | .ok written =>
          let later := serveFrom fuel
            (position + ((byte :: following).length - rest.length)) rest
          { result := later.result
            output := written ++ later.output
            attempts := attempt :: later.attempts }

/-- `serve` on a whole stream. -/
def serve (stream : Bytes) : Served :=
  serveFrom dispatch (stream.length + 1) 0 stream

end

end ScientificResourceLab.Mcp
