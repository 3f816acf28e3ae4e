import ScientificResourceLab.Mcp.Server
import ScientificResourceLab.Steps.Reader

/-!
# Frames on a stream with short reads

`_read_exact` and `_read_frame` against any binary stream: a reader that
returns what is asked for in portions of its own choice.  Reading a frame
from such a reader is reading it from the bytes that are pending
(`readFrameFrom_spec`).

Frames that were encoded one after the other are read back in their order,
whatever follows them and however the stream is split
(`frames_round_trip`).  The messages are dicts: the encoder takes any JSON
value, and the reader refuses a body that is not an object.
-/

namespace ScientificResourceLab.Mcp

open Python Contracts Steps

/-! ## Reading from a stream -/

section

variable {σ : Type} (reader : Reader σ UInt8)

/-- `_read_exact`. -/
def readExact (count : Nat) (state : σ) : Except FrameError Bytes × σ :=
  let result := reader.readExactly count [] state
  (result.1.mapError fun missing =>
    ⟨.parse, text "stream closed mid-frame (read " ++
      decimalText (count - missing) ++ text " of " ++
      decimalText count ++ text " bytes)"⟩, result.2)

/-- The header loop of `_read_frame`. -/
def readHeaderFrom (buffer : Bytes) (state : σ) :
    Except HeaderStop Bytes × σ :=
  let portion := reader.read state 1
  if _ended : portion.1 = [] then
    (.error (if buffer = [] then .endOfFile else .closed), portion.2)
  else if headerTerminator <:+ buffer ++ portion.1 then
    (.ok (buffer ++ portion.1), portion.2)
  else if maxFrameBytes < (buffer ++ portion.1).length then
    (.error .tooLong, portion.2)
  else readHeaderFrom (buffer ++ portion.1) portion.2
termination_by (reader.pending state).length
decreasing_by exact reader.pending_lt _ended

/-- The part of `_read_frame` after the header block. -/
def readBodyFrom (header : Bytes) (state : σ) : FrameOutcome × σ :=
  match parseContentLength (asciiReplace header) with
  | .error error => (.frameError error, state)
  | .ok length =>
      if maxFrameBytes < length then
        (.frameError ⟨.tooLarge,
          text "declared Content-Length " ++ decimalText length ++
            text " exceeds the 1048576-byte cap (FRAME_TOO_LARGE)"⟩,
          state)
      else
        match readExact reader length state with
        | (.error error, after) => (.frameError error, after)
        | (.ok body, after) => (parseBody body, after)

/-- `_read_frame`. -/
def readFrameFrom (state : σ) : FrameOutcome × σ :=
  match readHeaderFrom reader [] state with
  | (.error .endOfFile, after) => (.endOfFile, after)
  | (.error .closed, after) =>
      (.frameError ⟨.parse, text "stream closed mid-header"⟩, after)
  | (.error .tooLong, after) =>
      (.frameError ⟨.tooLarge,
        text "frame header exceeded 1048576 bytes without a terminator " ++
          text "(FRAME_TOO_LARGE)"⟩, after)
  | (.ok header, after) => readBodyFrom reader header after

/-- As many calls of `_read_frame` as wanted. -/
def readFrames : Nat → σ → List FrameOutcome × σ
  | 0, state => ([], state)
  | count + 1, state =>
      let (outcome, after) := readFrameFrom reader state
      let (outcomes, final) := readFrames count after
      (outcome :: outcomes, final)

/-! ## The pending bytes decide -/

theorem readHeaderFrom_spec (buffer : Bytes) (state : σ) :
    (readHeaderFrom reader buffer state).1 =
        (readHeader buffer (reader.pending state)).1 ∧
      reader.pending (readHeaderFrom reader buffer state).2 =
        (readHeader buffer (reader.pending state)).2 := by
  induction pending : reader.pending state
    generalizing buffer state with
  | nil =>
      obtain ⟨none, ended⟩ := reader.read_of_pending_nil pending 1
      rw [readHeaderFrom, dif_pos none]
      exact ⟨rfl, ended⟩
  | cons byte rest induction =>
      obtain ⟨portion, after⟩ := reader.read_one pending
      have some : (reader.read state 1).1 ≠ [] := by
        rw [portion]
        exact List.cons_ne_nil _ _
      rw [readHeaderFrom, dif_neg some, readHeader, portion]
      split_ifs
      · exact ⟨rfl, after⟩
      · exact ⟨rfl, after⟩
      · exact induction _ _ after

theorem readExact_spec (count : Nat) (state : σ) :
    (readExact reader count state).1 =
        (if (reader.pending state).length < count then
          .error ⟨.parse, text "stream closed mid-frame (read " ++
            decimalText (reader.pending state).length ++ text " of " ++
            decimalText count ++ text " bytes)"⟩
        else .ok ((reader.pending state).take count)) ∧
      reader.pending (readExact reader count state).2 =
        (reader.pending state).drop count := by
  obtain ⟨result, after⟩ := reader.readExactly_spec count [] state
  refine ⟨?_, after⟩
  simp only [readExact, result]
  split_ifs with short
  · have taken : count - (count - (reader.pending state).length) =
        (reader.pending state).length := by omega
    simp only [Except.mapError, taken]
  · simp [Except.mapError]

theorem readBodyFrom_spec (header : Bytes) (state : σ) :
    (readBodyFrom reader header state).1 =
        (readBody header (reader.pending state)).1 ∧
      reader.pending (readBodyFrom reader header state).2 =
        (readBody header (reader.pending state)).2 := by
  rw [readBodyFrom, readBody]
  cases parseContentLength (asciiReplace header) with
  | error error => exact ⟨rfl, rfl⟩
  | ok length =>
      dsimp only
      split_ifs with large short
      · exact ⟨rfl, rfl⟩
      · obtain ⟨result, after⟩ := readExact_spec reader length state
        rw [if_pos short] at result
        rw [List.drop_of_length_le (Nat.le_of_lt short)] at after
        cases read : readExact reader length state with
        | mk body final =>
            rw [read] at result after
            subst result
            exact ⟨rfl, after⟩
      · obtain ⟨result, after⟩ := readExact_spec reader length state
        rw [if_neg short] at result
        cases read : readExact reader length state with
        | mk body final =>
            rw [read] at result after
            subst result
            exact ⟨rfl, after⟩

/-- A frame is read from a stream as from the bytes that are pending. -/
theorem readFrameFrom_spec (state : σ) :
    (readFrameFrom reader state).1 =
        (readFrame (reader.pending state)).1 ∧
      reader.pending (readFrameFrom reader state).2 =
        (readFrame (reader.pending state)).2 := by
  obtain ⟨result, after⟩ := readHeaderFrom_spec reader [] state
  rw [readFrameFrom, readFrame]
  cases read : readHeaderFrom reader [] state with
  | mk stop final =>
      cases bytes : readHeader [] (reader.pending state) with
      | mk blockStop rest =>
          rw [read, bytes] at result after
          subst result
          subst after
          cases stop with
          | error stop => cases stop <;> exact ⟨rfl, rfl⟩
          | ok header => exact readBodyFrom_spec reader header final

end

/-! ## Header blocks -/

/-- After a plain buffer the terminator ends at its own last byte. -/
theorem terminator_ends
    {buffer : Bytes} (plain : (13 : UInt8) ∉ buffer) :
    ¬ headerTerminator <:+ buffer ++ [13] ∧
      ¬ headerTerminator <:+ buffer ++ [13] ++ [10] ∧
      ¬ headerTerminator <:+ buffer ++ [13] ++ [10] ++ [13] ∧
      headerTerminator <:+ buffer ++ [13] ++ [10] ++ [13] ++ [10] := by
  refine ⟨?_, ?_, ?_, ?_⟩
  · rw [← List.reverse_prefix]
    simp [headerTerminator]
  · rw [← List.reverse_prefix]
    simp only [headerTerminator, List.reverse_cons, List.reverse_nil,
      List.nil_append, List.cons_append, List.reverse_append,
      List.cons_prefix_cons, true_and]
    intro ends
    have isMember : (13 : UInt8) ∈ buffer.reverse :=
      ends.subset (by decide)
    exact plain (List.mem_reverse.mp isMember)
  · rw [← List.reverse_prefix]
    simp [headerTerminator]
  · exact ⟨buffer, by simp [headerTerminator]⟩

/-- A block that ends with the first terminator is read as a whole. -/
theorem readHeader_block
    {line : Bytes} (plain : (13 : UInt8) ∉ line) {buffer : Bytes}
    (plainBuffer : (13 : UInt8) ∉ buffer)
    (short : buffer.length + line.length + 4 ≤ maxFrameBytes)
    (rest : Bytes) :
    readHeader buffer (line ++ (headerTerminator ++ rest)) =
      (.ok (buffer ++ (line ++ headerTerminator)), rest) := by
  induction line generalizing buffer with
  | nil =>
      obtain ⟨one, two, three, four⟩ := terminator_ends plainBuffer
      have within (more : Bytes) (few : more.length ≤ 4) :
          ¬ maxFrameBytes < (buffer ++ more).length := by
        rw [List.length_append]
        rw [List.length_nil] at short
        omega
      have goesOn := within [13] (by decide)
      have goesOnTwo := within [13, 10] (by decide)
      have goesOnThree := within [13, 10, 13] (by decide)
      rw [List.nil_append, headerTerminator, List.cons_append, readHeader,
        if_neg one, if_neg goesOn, List.cons_append, readHeader,
        if_neg two, if_neg (by simpa using goesOnTwo), List.cons_append,
        readHeader, if_neg three, if_neg (by simpa using goesOnThree),
        List.cons_append, readHeader, if_pos four]
      simp
  | cons byte others induction =>
      rw [List.mem_cons, not_or] at plain
      have plainNext : (13 : UInt8) ∉ buffer ++ [byte] := by
        simp only [List.mem_append, List.mem_singleton, not_or]
        exact ⟨plainBuffer, plain.1⟩
      have notYet : ¬ headerTerminator <:+ buffer ++ [byte] := by
        intro ends
        exact plainNext (ends.subset (by decide))
      rw [List.length_cons] at short
      have goesOn : ¬ maxFrameBytes < (buffer ++ [byte]).length := by
        rw [List.length_append, List.length_singleton]
        omega
      have shortNext : (buffer ++ [byte]).length + others.length + 4 ≤
          maxFrameBytes := by
        rw [List.length_append, List.length_singleton]
        omega
      rw [List.cons_append, readHeader, if_neg notYet, if_neg goesOn,
        induction plain.2 plainNext shortNext]
      simp

/-! ## Encoded frames -/

/-- The header line of `encode_frame`. -/
def lengthLine (length : Nat) : Text :=
  text "Content-Length: " ++ decimalText length

/-- The ASCII characters. -/
def IsAscii (value : Text) : Prop :=
  ∀ point ∈ value, point.val < 128

/-- Decoding undoes encoding on ASCII texts. -/
theorem asciiReplace_asciiBytes
    {value : Text} (isAscii : IsAscii value) :
    asciiReplace (asciiBytes value) = value := by
  rw [asciiReplace, asciiBytes, List.map_map]
  refine (List.map_congr_left fun point isPoint => ?_).trans
    (List.map_id value)
  have small := isAscii point isPoint
  have isByte := byte_toNat point.val (by omega)
  simp only [Function.comp_apply, isByte, if_pos small, id]
  exact ofNat_eq_point point rfl

theorem isAscii_lengthLine (length : Nat) :
    IsAscii (lengthLine length) := by
  intro point isPoint
  rcases List.mem_append.mp isPoint with inName | inDigits
  · have named : (text "Content-Length: ").all
        (fun letter => decide (letter.val < 128)) = true := by
      decide
    exact of_decide_eq_true (List.all_eq_true.mp named point inName)
  · have isDigit := decimalText_isDigit length point inDigits
    simp only [CodePoint.isDigit, Bool.and_eq_true, decide_eq_true_eq]
      at isDigit
    omega

/-- A header line has no carriage return. -/
theorem lengthLine_plain (length : Nat) :
    codePoint '\r' ∉ lengthLine length := by
  intro isMember
  rcases List.mem_append.mp isMember with inName | inDigits
  · revert inName
    decide
  · have isDigit := decimalText_isDigit length _ inDigits
    revert isDigit
    decide

theorem asciiBytes_append (left right : Text) :
    asciiBytes (left ++ right) = asciiBytes left ++ asciiBytes right :=
  List.map_append

theorem lengthLine_bytes_plain (length : Nat) :
    (13 : UInt8) ∉ asciiBytes (lengthLine length) := by
  intro isMember
  obtain ⟨point, isPoint, isReturn⟩ := List.mem_map.mp isMember
  have small := isAscii_lengthLine length point isPoint
  have value : point.val = 13 := by
    rw [← byte_toNat point.val (by omega), isReturn]
    rfl
  have same : point = codePoint '\r' := Fin.ext value
  exact lengthLine_plain length (same ▸ isPoint)

theorem lengthDigits
    {length : Nat} (small : length ≤ maxFrameBytes) :
    (decimalText length).length ≤ 7 := by
  refine decimalText_length_le (by decide) ?_
  simp only [maxFrameBytes] at small
  omega

theorem lengthLine_short
    {length : Nat} (small : length ≤ maxFrameBytes) :
    ([] : Bytes).length + (asciiBytes (lengthLine length)).length + 4 ≤
      maxFrameBytes := by
  have digits := lengthDigits small
  have name : (text "Content-Length: ").length = 16 := by decide
  simp only [asciiBytes, lengthLine, List.length_map, List.length_append,
    List.length_nil, name, maxFrameBytes]
  omega

/-- The parts of a header line. -/
theorem partitionColon_lengthLine (length : Nat) :
    partitionColon (lengthLine length) =
      (text "Content-Length", codePoint ' ' :: decimalText length) := by
  have named : lengthLine length =
      text "Content-Length" ++
        codePoint ':' :: codePoint ' ' :: decimalText length := rfl
  have noColon : (text "Content-Length").all
      (fun point => decide (point ≠ codePoint ':')) = true := by
    decide
  rw [partitionColon, named,
    List.takeWhile_append_of_pos (List.all_eq_true.mp noColon),
    List.dropWhile_append_of_pos (List.all_eq_true.mp noColon)]
  simp

theorem strip_blank_decimalText (length : Nat) :
    strip (codePoint ' ' :: decimalText length) = decimalText length := by
  have noSpace : ∀ point ∈ decimalText length,
      CodePoint.isSpace point = false := fun point isPoint =>
    isSpace_of_isDigit (decimalText_isDigit length point isPoint)
  have blank : (codePoint ' ' :: decimalText length).dropWhile
      CodePoint.isSpace = (decimalText length).dropWhile
        CodePoint.isSpace :=
    List.dropWhile_cons_of_pos (by decide)
  rw [strip, blank]
  exact strip_of_noSpace noSpace

/-- The length in a header line is read back. -/
theorem parseContentLength_lengthLine
    {length : Nat} (small : length ≤ maxFrameBytes) :
    parseContentLength (asciiReplace
      (asciiBytes (lengthLine length) ++ headerTerminator)) =
        .ok length := by
  have decoded : asciiReplace
      (asciiBytes (lengthLine length) ++ headerTerminator) =
        lengthLine length ++ codePoint '\r' :: codePoint '\n' ::
          codePoint '\r' :: codePoint '\n' :: [] := by
    rw [asciiReplace, List.map_append]
    congr 1
    exact asciiReplace_asciiBytes (isAscii_lengthLine length)
  have lines : splitCrlf (asciiReplace
      (asciiBytes (lengthLine length) ++ headerTerminator)) =
        [lengthLine length, [], []] := by
    rw [decoded, splitCrlf_line (lengthLine_plain length)]
    rfl
  have short : (decimalText length).length ≤ intMaxStrDigits := by
    have digits := lengthDigits small
    simp only [intMaxStrDigits]
    omega
  have nonempty : lengthLine length ≠ [] := by
    intro empty
    cases empty
  have hasColon : codePoint ':' ∈ lengthLine length :=
    List.mem_append_left _ (by decide)
  have isName : lowerAscii (strip (text "Content-Length")) =
      text "content-length" := by
    decide
  have found : contentLengths [lengthLine length, [], []] =
      .ok [length] := by
    rw [contentLengths, if_neg nonempty, if_neg (not_not.mpr hasColon),
      partitionColon_lengthLine]
    dsimp only
    rw [if_neg (not_not.mpr isName), strip_blank_decimalText,
      intOf_decimalText short]
    rfl
  rw [parseContentLength, lines, found]
  rfl

/-! ## Encoded bodies -/

theorem utf8Encode_append
    {left right : Text} {data : Bytes}
    (encoded : utf8Encode (left ++ right) = some data) :
    ∃ first second, utf8Encode left = some first ∧
      utf8Encode right = some second ∧ data = first ++ second := by
  induction left generalizing data with
  | nil => exact ⟨[], data, rfl, encoded, rfl⟩
  | cons point rest induction =>
      simp only [List.cons_append, utf8Encode, Option.bind_eq_bind,
        Option.bind_eq_some_iff, Option.pure_def,
        Option.some.injEq] at encoded ⊢
      obtain ⟨head, isHead, tail, isTail, rfl⟩ := encoded
      obtain ⟨first, second, isFirst, isSecond, rfl⟩ := induction isTail
      exact ⟨head ++ first, second, ⟨head, isHead, first, isFirst, rfl⟩,
        isSecond, (List.append_assoc _ _ _).symm⟩

/-- The text of a dict starts and ends with its braces. -/
theorem dumpText_obj
    {members : List (Text × Json)} {written : Text}
    (dumped : dumpText (.obj members) = some written) :
    ∃ inner,
      written = codePoint '{' :: (inner ++ [codePoint '}']) ∧
        (inner = [] ∨ inner.head? = some (codePoint '"')) := by
  rw [dumpText] at dumped
  simp only [Option.bind_eq_bind, Option.bind_eq_some_iff, Option.pure_def,
    Option.some.injEq] at dumped
  obtain ⟨texts, _, rfl⟩ := dumped
  refine ⟨_, rfl, ?_⟩
  cases (texts.insertionSort KeyLe) with
  | nil => exact .inl rfl
  | cons member rest =>
      right
      cases rest <;> rfl

/-- The encoded text of a value ends with one newline. -/
theorem dumps_eq_ok
    {value : Json} {data : Bytes} (encoded : dumps value = .ok data) :
    ∃ written body, dumpText value = some written ∧
      utf8Encode written = some body ∧ data = body ++ [10] := by
  obtain ⟨written, isWritten, bytes⟩ := dumps_eq_ok_iff.mp encoded
  obtain ⟨body, newline, isBody, isNewline, rfl⟩ := utf8Encode_append bytes
  cases isNewline
  exact ⟨written, body, isWritten, isBody, rfl⟩

/-- Stripping takes off the one newline of the encoded text of a dict. -/
theorem dumps_obj_body
    {members : List (Text × Json)} {data : Bytes}
    (encoded : dumps (.obj members) = .ok data) :
    ∃ written second rest,
      dumpText (.obj members) = some written ∧
        utf8Encode written = some (rstripNewlines data) ∧
        rstripNewlines data = 0x7B :: second :: rest ∧ second ≠ 0 := by
  obtain ⟨written, body, isWritten, isBody, rfl⟩ := dumps_eq_ok encoded
  obtain ⟨inner, rfl, opens⟩ := dumpText_obj isWritten
  obtain ⟨brace, between, isBrace, isBetween, rfl⟩ := utf8Encode_append
    (show utf8Encode ([codePoint '{'] ++ (inner ++ [codePoint '}'])) =
      some body from isBody)
  obtain ⟨innerBytes, closing, isInner, isClosing, rfl⟩ :=
    utf8Encode_append isBetween
  have braces : brace = [123] ∧ closing = [125] := by
    cases isBrace
    cases isClosing
    exact ⟨rfl, rfl⟩
  obtain ⟨rfl, rfl⟩ := braces
  have stripped : rstripNewlines
      ([123] ++ (innerBytes ++ [125]) ++ [10]) =
        [123] ++ (innerBytes ++ [125]) := by
    simp [rstripNewlines]
  rw [stripped]
  rcases opens with rfl | quote
  · cases isInner
    exact ⟨_, 125, [], isWritten, isBody, rfl, by decide⟩
  · cases inner with
    | nil => cases quote
    | cons point more =>
        cases quote
        obtain ⟨first, others, isFirst, _, rfl⟩ := utf8Encode_append
          (show utf8Encode ([codePoint '"'] ++ more) = some innerBytes
            from isInner)
        cases isFirst
        exact ⟨_, 34, others ++ [125], isWritten, isBody, rfl, by decide⟩

/-- Bytes that open a dict are taken as UTF-8. -/
theorem detectEncoding_obj
    {second : UInt8} (nonzero : second ≠ 0) (rest : Bytes) :
    detectEncoding (0x7B :: second :: rest) = .utf8 := by
  have first : (0x7B : UInt8) ≠ 0 := by decide
  match rest with
  | [] => simp [detectEncoding, nonzero]
  | [_] => simp [detectEncoding]
  | _ :: _ :: _ => simp [detectEncoding, nonzero]

/-- The body of an encoded dict is parsed as the dict. -/
theorem parseBody_dumps
    {members : List (Text × Json)}
    (distinct : (Json.obj members).Distinct) {data : Bytes}
    (encoded : dumps (.obj members) = .ok data) :
    parseBody (rstripNewlines data) = .message (stored members) := by
  obtain ⟨written, second, rest, isWritten, isBody, opens, nonzero⟩ :=
    dumps_obj_body encoded
  have decoded : decodeDetected (rstripNewlines data) = some written := by
    rw [decodeDetected, opens, detectEncoding_obj nonzero, ← opens]
    exact utf8DecodePass_of_utf8Decode (utf8Decode_utf8Encode isBody)
  have parsed := parseText_dumpText_sorted distinct isWritten (.inl rfl)
    true
  rw [List.append_nil, sorted_obj] at parsed
  rw [parseBody, loadsBytes, decoded]
  simp only [parsed]

theorem encodeFrame_eq_ok
    {message : Json} {frame : Bytes} :
    encodeFrame message = .ok frame ↔
      ∃ data, dumps message = .ok data ∧
        (rstripNewlines data).length ≤ maxFrameBytes ∧
        frame = asciiBytes (lengthLine (rstripNewlines data).length) ++
          (headerTerminator ++ rstripNewlines data) := by
  rw [encodeFrame]
  cases dumps message with
  | error error => simp
  | ok data =>
      dsimp only
      split_ifs with large
      · constructor
        · intro impossible
          cases impossible
        · rintro ⟨_, ⟨⟩, small, _⟩
          omega
      · have header : asciiBytes (text "Content-Length: " ++
            decimalText (rstripNewlines data).length ++
              text "\r\n\r\n") =
            asciiBytes (lengthLine (rstripNewlines data).length) ++
              headerTerminator := by
          rw [asciiBytes_append]
          rfl
        rw [header, List.append_assoc]
        constructor
        · rintro ⟨⟩
          exact ⟨data, rfl, Nat.le_of_not_lt large, rfl⟩
        · rintro ⟨_, ⟨⟩, _, rfl⟩
          rfl

/-- An encoded dict is read back, and what follows it is left. -/
theorem readFrame_encodeFrame
    {members : List (Text × Json)}
    (distinct : (Json.obj members).Distinct) {frame : Bytes}
    (encoded : encodeFrame (.obj members) = .ok frame) (rest : Bytes) :
    readFrame (frame ++ rest) = (.message (stored members), rest) := by
  obtain ⟨data, isData, small, rfl⟩ := encodeFrame_eq_ok.mp encoded
  have block := readHeader_block
    (lengthLine_bytes_plain (rstripNewlines data).length)
    List.not_mem_nil (lengthLine_short small) (rstripNewlines data ++ rest)
  rw [readFrame, List.append_assoc, List.append_assoc, block]
  dsimp only
  rw [List.nil_append, readBody, parseContentLength_lengthLine small]
  dsimp only
  rw [if_neg (Nat.not_lt.mpr small), if_neg (by simp),
    List.take_left, List.drop_left, parseBody_dumps distinct isData]

/-! ## Streams of frames -/

/--
Dicts that were encoded one after the other are read back in their order,
and the stream is left at the first byte that follows them, for every reader
of the stream.
-/
theorem frames_round_trip
    {σ : Type} (reader : Reader σ UInt8)
    {messages : List (List (Text × Json))}
    (distinct : ∀ message ∈ messages, (Json.obj message).Distinct)
    {frames : List Bytes}
    (encoded : messages.mapM (fun message => encodeFrame (.obj message)) =
      .ok frames)
    (rest : Bytes) (state : σ)
    (pending : reader.pending state = frames.flatten ++ rest) :
    (readFrames reader messages.length state).1 =
        messages.map (fun message => .message (stored message)) ∧
      reader.pending (readFrames reader messages.length state).2 =
        rest := by
  induction messages generalizing frames state with
  | nil =>
      cases encoded
      exact ⟨rfl, pending⟩
  | cons message others induction =>
      simp only [List.mapM_cons, bind_eq_ok_iff, pure_eq_ok_iff]
        at encoded
      obtain ⟨frame, isFrame, later, isLater, rfl⟩ := encoded
      rw [List.flatten_cons, List.append_assoc] at pending
      have taken := readFrameFrom_spec reader state
      rw [pending, readFrame_encodeFrame (distinct message
        List.mem_cons_self) isFrame] at taken
      have tail := induction (fun other isOther =>
        distinct other (List.mem_cons_of_mem _ isOther)) isLater
        (readFrameFrom reader state).2 taken.2
      rw [List.length_cons, readFrames]
      dsimp only
      rw [taken.1, tail.1, tail.2]
      exact ⟨rfl, rfl⟩

/-- Two frames with one byte after them. -/
def twoFrames : Bytes :=
  asciiBytes (text "Content-Length: 2\r\n\r\n\x7b\x7d" ++
    text "Content-Length: 7\r\n\r\n\x7b\"a\":1\x7dX")

/-- The two frames are read in portions of three bytes and of one byte. -/
theorem two_frames_round_trip :
    (readFrames (portions UInt8) 2 (twoFrames, [3, 1, 3, 1])).1 =
        [.message [], .message [(text "a", .int 1)]] ∧
      (portions UInt8).pending (readFrames (portions UInt8) 2
        (twoFrames, [3, 1, 3, 1])).2 = asciiBytes (text "X") := by
  have distinct : ∀ message ∈
      [([] : List (Text × Json)), [(text "a", .int 1)]],
        (Json.obj message).Distinct := by
    simp only [List.mem_cons, List.not_mem_nil, or_false, forall_eq_or_imp,
      forall_eq]
    exact ⟨⟨trivial, List.nodup_nil⟩, ⟨trivial, trivial⟩,
      List.nodup_singleton _⟩
  have encoded :
      [([] : List (Text × Json)), [(text "a", .int 1)]].mapM
          (fun message => encodeFrame (.obj message)) =
        .ok [asciiBytes (text "Content-Length: 2\r\n\r\n\x7b\x7d"),
          asciiBytes (text
            "Content-Length: 7\r\n\r\n\x7b\"a\":1\x7d")] := by
    decide +kernel
  exact frames_round_trip (portions UInt8) distinct encoded
    (asciiBytes (text "X")) (twoFrames, [3, 1, 3, 1]) (by decide +kernel)

/-- A list is encoded and its frame is refused. -/
theorem list_frame_refused :
    encodeFrame (.arr []) =
        .ok (asciiBytes (text "Content-Length: 2\r\n\r\n[]")) ∧
      ∀ members rest, readFrame
          (asciiBytes (text "Content-Length: 2\r\n\r\n[]")) ≠
        (.message members, rest) := by
  refine ⟨by decide +kernel, ?_⟩
  intro members rest same
  have refused : (readFrame (asciiBytes
      (text "Content-Length: 2\r\n\r\n[]"))).1.dispatched.isNone =
        true := by
    decide +kernel
  rw [same] at refused
  cases refused

end ScientificResourceLab.Mcp
