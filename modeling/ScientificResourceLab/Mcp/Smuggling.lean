import ScientificResourceLab.Mcp.Server
import ScientificResourceLab.Steps.Fallible
import ScientificResourceLab.Steps.Units

/-!
# Request smuggling

The framing of a stream is stated without the server: a header block up to
and including its first blank line, then as many bytes of body as the block
declares.  A block declares a length when exactly one of its lines is a
`Content-Length` header and the value is a non-negative integer literal; a
block that declares nothing has no body.

`NoSmuggling` says that the server starts to read a header only where a frame
starts, and dispatches only the decoded body of that frame.  It fails:
`_read_frame` refuses a block without consuming the body that the block
declares, and `serve` goes on from there.  `noSmuggling_iff` gives the exact
condition.
-/

namespace ScientificResourceLab.Mcp

open Python Contracts Steps

/-! ## The framing -/

/-- The bytes up to the first terminator, and what follows them. -/
def headerBlock (buffer : Bytes) : Bytes → Bytes × Bytes
  | [] => (buffer, [])
  | byte :: rest =>
      if headerTerminator <:+ buffer ++ [byte] then
        (buffer ++ [byte], rest)
      else headerBlock (buffer ++ [byte]) rest

/-- The value of a `Content-Length` header; `none` if it is not a length. -/
def lengthField (rawValue : Text) : Option Nat :=
  match intLiteral (strip rawValue) with
  | none => none
  | some literal =>
      if signedValue literal < 0 then none
      else some (signedValue literal).toNat

/-- The values of the `Content-Length` headers among the lines. -/
def lengthFields (lines : List Text) : List (Option Nat) :=
  (lines.filter fun line =>
    codePoint ':' ∈ line ∧
      lowerAscii (strip (partitionColon line).1) =
        text "content-length").map
    fun line => lengthField (partitionColon line).2

/-- The length that a header block declares. -/
def declaredLength (header : Bytes) : Option Nat :=
  match lengthFields (splitCrlf (asciiReplace header)) with
  | [length] => length
  | _ => none

/-- A frame of the framing: where it starts, its block and its body. -/
structure Frame where
  start : Nat
  header : Bytes
  body : Bytes

/-- The frame at the head of the remaining stream. -/
def frameAt (unit : Nat × Bytes) : Frame where
  start := unit.1
  header := (headerBlock [] unit.2).1
  body := (headerBlock [] unit.2).2.take
    ((declaredLength (headerBlock [] unit.2).1).getD 0)

/-- The bytes that the frame at the head of a stream takes. -/
def frameSize (stream : Bytes) : Nat :=
  (frameAt (0, stream)).header.length + (frameAt (0, stream)).body.length

def framing (stream : Bytes) : List Frame :=
  (units frameSize (stream.length + 1) 0 stream).map frameAt

/-! ## Staying in step -/

section

variable (dispatch : List (Text × Json) → Option Json)

/--
Every header block that the server reads starts at a frame, and a message
that it dispatches is the decoded body of that frame.
-/
def NoSmuggling (stream : Bytes) : Prop :=
  ∀ attempt ∈ (serve dispatch stream).attempts,
    ∃ frame ∈ framing stream,
      frame.start = attempt.start ∧
        ∀ members, attempt.message = some members →
          loadsBytes frame.body = .ok (.obj members)

/-- The server goes on after reading the frame at the head of a stream. -/
def goesOn (stream : Bytes) : Bool :=
  (respond dispatch (readFrame stream).1).toBool

/-- The frames, from the start of the stream, after which serve goes on. -/
def resumedFrames (stream : Bytes) : List Frame :=
  ((visited frameSize (goesOn dispatch) (stream.length + 1) 0
    stream).filter fun unit => goesOn dispatch unit.2).map frameAt

end

/-- The reader goes past the header block of the frame to its body. -/
def AcceptsHeader (frame : Frame) : Prop :=
  ∃ length, parseContentLength (asciiReplace frame.header) = .ok length ∧
    length ≤ maxFrameBytes

/--
A frame after which the reader stands inside it: its header block is longer
than the reader's limit, or the reader refuses the block while bytes of the
declared body follow.
-/
def Desyncs (frame : Frame) : Prop :=
  maxFrameBytes + 1 < frame.header.length ∨
    ¬ AcceptsHeader frame ∧ frame.body ≠ []

/-! ## Header blocks -/

theorem headerBlock_append (buffer stream : Bytes) :
    (headerBlock buffer stream).1 ++ (headerBlock buffer stream).2 =
      buffer ++ stream := by
  induction stream generalizing buffer with
  | nil => rfl
  | cons byte rest induction =>
      rw [headerBlock]
      split_ifs with ends
      · simp
      · rw [induction]
        simp

theorem length_le_headerBlock (buffer stream : Bytes) :
    buffer.length ≤ (headerBlock buffer stream).1.length := by
  induction stream generalizing buffer with
  | nil => exact le_rfl
  | cons byte rest induction =>
      rw [headerBlock]
      split_ifs with ends
      · simp
      · have longer := induction (buffer ++ [byte])
        rw [List.length_append] at longer
        exact le_trans (Nat.le_add_right _ _) longer

/--
The reader reads the header block of the framing, or all of an unfinished
one, unless the block exceeds the limit, when it stops inside it.
-/
theorem readHeader_cases
    (buffer stream : Bytes) (short : buffer.length ≤ maxFrameBytes) :
    (readHeader buffer stream =
        (.ok (headerBlock buffer stream).1,
          (headerBlock buffer stream).2) ∧
      (headerBlock buffer stream).1.length ≤ maxFrameBytes + 1) ∨
    (∃ stop, readHeader buffer stream = (.error stop, []) ∧
      (headerBlock buffer stream).2 = [] ∧
      (headerBlock buffer stream).1.length ≤ maxFrameBytes + 1) ∨
    (readHeader buffer stream =
        (.error .tooLong,
          stream.drop (maxFrameBytes + 1 - buffer.length)) ∧
      maxFrameBytes + 1 < (headerBlock buffer stream).1.length) := by
  induction stream generalizing buffer with
  | nil =>
      refine .inr (.inl ⟨_, rfl, rfl, ?_⟩)
      exact le_trans short (Nat.le_succ _)
  | cons byte rest induction =>
      have grown : (buffer ++ [byte]).length = buffer.length + 1 := by
        simp
      rw [readHeader, headerBlock]
      split_ifs with ends long
      · refine .inl ⟨rfl, ?_⟩
        rw [grown]
        exact Nat.succ_le_succ short
      · rw [grown] at long
        have full : buffer.length = maxFrameBytes := by omega
        cases rest with
        | nil =>
            refine .inr (.inl ⟨_, rfl, rfl, ?_⟩)
            rw [headerBlock, grown, full]
        | cons next rest =>
            refine .inr (.inr ⟨by simp [full], ?_⟩)
            have longer : (buffer ++ [byte] ++ [next]).length ≤
                (headerBlock (buffer ++ [byte]) (next :: rest)).1.length
                := by
              rw [headerBlock]
              split_ifs
              · exact le_rfl
              · exact length_le_headerBlock _ _
            simp only [List.length_append, List.length_cons,
              List.length_nil] at longer
            omega
      · rw [not_lt] at long
        have dropped :
            (byte :: rest).drop (maxFrameBytes + 1 - buffer.length) =
              rest.drop (maxFrameBytes + 1 -
                (buffer ++ [byte]).length) := by
          rw [grown] at long ⊢
          have shift : maxFrameBytes + 1 - buffer.length =
              maxFrameBytes + 1 - (buffer.length + 1) + 1 := by
            omega
          rw [shift, List.drop_succ_cons]
        rw [dropped]
        exact induction (buffer ++ [byte]) long

/-! ## Declared lengths -/

theorem intOf_eq_some
    {value : Text} {number : Int} (parsed : intOf value = some number) :
    ∃ literal, intLiteral value = some literal ∧
      signedValue literal = number := by
  rw [intOf] at parsed
  cases read : intLiteral value with
  | none =>
      rw [read] at parsed
      cases parsed
  | some literal =>
      simp only [read] at parsed
      split_ifs at parsed with short
      exact ⟨literal, rfl, Option.some.inj parsed⟩

/-- Lengths that the reader finds are those that the lines declare. -/
theorem lengthFields_of_contentLengths
    {lines : List Text} {lengths : List Nat}
    (found : contentLengths lines = .ok lengths) :
    lengthFields lines = lengths.map some := by
  induction lines generalizing lengths with
  | nil =>
      cases found
      rfl
  | cons line rest induction =>
      rw [contentLengths] at found
      split_ifs at found with blank colonless
      · have skipped : codePoint ':' ∉ line := by simp [blank]
        rw [← induction found, lengthFields, lengthFields,
          List.filter_cons_of_neg (by simp [skipped])]
      · have colon : codePoint ':' ∈ line := by
          simpa using colonless
        simp only at found
        split_ifs at found with other
        · rw [← induction found, lengthFields, lengthFields,
            List.filter_cons_of_neg (by simp [other])]
        · rw [not_not] at other
          cases parsed : intOf (strip (partitionColon line).2) with
          | none =>
              rw [parsed] at found
              cases found
          | some value =>
              simp only [parsed] at found
              split_ifs at found with negative
              simp only [bind_eq_ok_iff, pure_eq_ok_iff] at found
              obtain ⟨others, restFound, rfl⟩ := found
              obtain ⟨literal, read, denotes⟩ := intOf_eq_some parsed
              have field : lengthField (partitionColon line).2 =
                  some value.toNat := by
                rw [lengthField, read]
                simp only [denotes, negative, if_false]
              have tail := induction restFound
              rw [lengthFields] at tail
              rw [lengthFields, List.filter_cons_of_pos
                (by simp [colon, other]), List.map_cons, tail, field]
              rfl

theorem declaredLength_of_parse
    {header : Bytes} {length : Nat}
    (parsed : parseContentLength (asciiReplace header) = .ok length) :
    declaredLength header = some length := by
  simp only [parseContentLength, bind_eq_ok_iff] at parsed
  obtain ⟨found, isFound, single⟩ := parsed
  have fields := lengthFields_of_contentLengths isFound
  rcases found with _ | ⟨only, _ | ⟨second, others⟩⟩
  · cases single
  · rw [pure_eq_ok_iff] at single
    subst single
    rw [declaredLength, fields]
    rfl
  · cases single

/-! ## What the reader takes -/

theorem drop_headerBlock (stream : Bytes) :
    (headerBlock [] stream).2 =
      stream.drop (headerBlock [] stream).1.length := by
  have whole := headerBlock_append [] stream
  rw [List.nil_append] at whole
  calc
    (headerBlock [] stream).2 =
        ((headerBlock [] stream).1 ++ (headerBlock [] stream).2).drop
          (headerBlock [] stream).1.length := List.drop_left.symm
    _ = stream.drop (headerBlock [] stream).1.length := by rw [whole]

theorem headerBlock_pos
    {stream : Bytes} (nonempty : stream ≠ []) :
    0 < (headerBlock [] stream).1.length := by
  cases stream with
  | nil => exact absurd rfl nonempty
  | cons byte rest =>
      rw [headerBlock]
      split_ifs with ends
      · simp
      · have longer := length_le_headerBlock ([] ++ [byte]) rest
        exact lt_of_lt_of_le Nat.zero_lt_one longer

theorem frameSize_eq (stream : Bytes) :
    frameSize stream =
      (headerBlock [] stream).1.length +
        (frameAt (0, stream)).body.length :=
  rfl

theorem frameSize_le (stream : Bytes) :
    frameSize stream ≤ stream.length := by
  have whole := congrArg List.length (headerBlock_append [] stream)
  rw [List.length_append, List.nil_append] at whole
  have body : (frameAt (0, stream)).body.length ≤
      (headerBlock [] stream).2.length :=
    List.length_take_le' _ _
  rw [frameSize_eq]
  omega

/-- The reader accepts only the length that the parser returns. -/
theorem acceptsHeader_iff
    {frame : Frame} {length : Nat}
    (parsed : parseContentLength (asciiReplace frame.header) =
      .ok length) :
    AcceptsHeader frame ↔ length ≤ maxFrameBytes := by
  constructor
  · rintro ⟨other, otherParsed, small⟩
    rw [parsed] at otherParsed
    cases otherParsed
    exact small
  · exact fun small => ⟨length, parsed, small⟩

/--
What remains of a stream without a part of its first frame, where that part
is the whole frame unless the frame desynchronises the reader.
-/
def TakesFrame (stream rest : Bytes) : Prop :=
  ∃ size, rest = stream.drop size ∧ 0 < size ∧
    size ≤ frameSize stream ∧
    (size = frameSize stream ↔ ¬ Desyncs (frameAt (0, stream)))

theorem takesFrame_header
    {stream : Bytes} (nonempty : stream ≠ [])
    (short : (headerBlock [] stream).1.length ≤ maxFrameBytes + 1)
    (refused : ¬ AcceptsHeader (frameAt (0, stream))) :
    TakesFrame stream (headerBlock [] stream).2 := by
  refine ⟨_, drop_headerBlock stream, headerBlock_pos nonempty,
    Nat.le_add_right _ _, ?_⟩
  have sized : ¬ maxFrameBytes + 1 <
      (frameAt (0, stream)).header.length := not_lt.mpr short
  simp [frameSize_eq, Desyncs, sized, refused]

theorem takesFrame_whole
    {stream rest : Bytes} (size : Nat) (nonempty : stream ≠ [])
    (short : (headerBlock [] stream).1.length ≤ maxFrameBytes + 1)
    (settled : AcceptsHeader (frameAt (0, stream)) ∨
      (frameAt (0, stream)).body = [])
    (whole : size = frameSize stream)
    (remains : rest = stream.drop size) :
    TakesFrame stream rest := by
  subst whole
  have positive := headerBlock_pos nonempty
  refine ⟨_, remains, ?_, le_rfl, ?_⟩
  · rw [frameSize_eq]
    exact Nat.add_pos_left positive _
  · have sized : ¬ maxFrameBytes + 1 <
        (frameAt (0, stream)).header.length := not_lt.mpr short
    rcases settled with accepted | empty
    · simp [Desyncs, sized, accepted]
    · simp [Desyncs, sized, empty]

theorem takesFrame_readBody
    {stream : Bytes} (nonempty : stream ≠ [])
    (short : (headerBlock [] stream).1.length ≤ maxFrameBytes + 1) :
    TakesFrame stream
      (readBody (headerBlock [] stream).1
        (headerBlock [] stream).2).2 := by
  have after := drop_headerBlock stream
  rw [readBody]
  cases parsed : parseContentLength
      (asciiReplace (headerBlock [] stream).1) with
  | error error =>
      refine takesFrame_header nonempty short ?_
      rintro ⟨length, accepted, -⟩
      rw [frameAt, parsed] at accepted
      cases accepted
  | ok length =>
      have accepts : AcceptsHeader (frameAt (0, stream)) ↔
          length ≤ maxFrameBytes := acceptsHeader_iff parsed
      have body : (frameAt (0, stream)).body =
          (headerBlock [] stream).2.take length := by
        rw [frameAt, declaredLength_of_parse parsed]
        rfl
      simp only
      split_ifs with large closed
      · refine takesFrame_header nonempty short ?_
        rw [accepts, not_le]
        exact large
      · refine takesFrame_whole stream.length nonempty short
          (.inl (accepts.mpr (not_lt.mp large))) ?_
          List.drop_length.symm
        rw [frameSize_eq, body, List.take_of_length_le closed.le,
          ← List.length_append, headerBlock_append]
        rfl
      · refine takesFrame_whole
          ((headerBlock [] stream).1.length + length) nonempty short
          (.inl (accepts.mpr (not_lt.mp large))) ?_ ?_
        · rw [frameSize_eq, body,
            List.length_take_of_le (not_lt.mp closed)]
        · rw [after, List.drop_drop]

/-- `_read_frame` consumes a part of the first frame. -/
theorem takesFrame_readFrame
    {stream : Bytes} (nonempty : stream ≠ []) :
    TakesFrame stream (readFrame stream).2 := by
  rcases readHeader_cases [] stream (Nat.zero_le _) with
    ⟨read, short⟩ | ⟨stop, read, empty, short⟩ | ⟨read, long⟩
  · rw [readFrame, read]
    exact takesFrame_readBody nonempty short
  · have nothing : (readFrame stream).2 = [] := by
      rw [readFrame, read]
      cases stop <;> rfl
    have body : (frameAt (0, stream)).body = [] := by
      simp [frameAt, empty]
    refine takesFrame_whole stream.length nonempty short (.inr body)
      ?_ ?_
    · have whole := congrArg List.length (headerBlock_append [] stream)
      rw [empty, List.append_nil, List.nil_append] at whole
      rw [frameSize_eq, body, whole]
      rfl
    · rw [nothing, List.drop_length]
  · rw [readFrame, read]
    refine ⟨maxFrameBytes + 1, rfl, Nat.succ_pos _, ?_, ?_⟩
    · rw [frameSize_eq]
      exact le_trans long.le (Nat.le_add_right _ _)
    · have desyncs : Desyncs (frameAt (0, stream)) := .inl long
      have differs : maxFrameBytes + 1 ≠ frameSize stream := by
        rw [frameSize_eq]
        omega
      simp [desyncs, differs]

/-- The bytes that `_read_frame` consumes. -/
def takenSize (stream : Bytes) : Nat :=
  stream.length - (readFrame stream).2.length

theorem takenSize_spec
    {stream : Bytes} (nonempty : stream ≠ []) :
    (readFrame stream).2 = stream.drop (takenSize stream) ∧
      0 < takenSize stream ∧ takenSize stream ≤ frameSize stream ∧
      (takenSize stream = frameSize stream ↔
        ¬ Desyncs (frameAt (0, stream))) := by
  obtain ⟨size, remains, taken⟩ := takesFrame_readFrame nonempty
  have within := frameSize_le stream
  have isSize : takenSize stream = size := by
    rw [takenSize, remains, List.length_drop]
    omega
  rw [isSize]
  exact ⟨remains, taken⟩

theorem loadsBytes_of_parseBody
    {body : Bytes} {members : List (Text × Json)}
    (dispatched : (parseBody body).dispatched = some members) :
    loadsBytes body = .ok (.obj members) := by
  rw [parseBody] at dispatched
  split at dispatched
  · cases dispatched
  · cases dispatched
  · next decoded read =>
      cases dispatched
      exact read
  · cases dispatched

/-- A dispatched message is the decoded body of the first frame. -/
theorem loadsBytes_of_dispatched
    {position : Nat} {stream : Bytes} {members : List (Text × Json)}
    (dispatched :
      (readFrame stream).1.dispatched = some members) :
    loadsBytes (frameAt (position, stream)).body = .ok (.obj members) := by
  rcases readHeader_cases [] stream (Nat.zero_le _) with
    ⟨read, short⟩ | ⟨stop, read, empty, short⟩ | ⟨read, long⟩
  · rw [readFrame, read] at dispatched
    simp only [readBody] at dispatched
    cases parsed : parseContentLength
        (asciiReplace (headerBlock [] stream).1) with
    | error error =>
        rw [parsed] at dispatched
        cases dispatched
    | ok length =>
        simp only [parsed] at dispatched
        split_ifs at dispatched with large closed
        · cases dispatched
        · cases dispatched
        · rw [frameAt, declaredLength_of_parse parsed]
          exact loadsBytes_of_parseBody dispatched
  · rw [readFrame, read] at dispatched
    cases stop <;> cases dispatched
  · rw [readFrame, read] at dispatched
    cases dispatched

/-! ## The loop -/

section

variable (dispatch : List (Text × Json) → Option Json)

/-- The header block that the server reads at a position. -/
def attemptAt (unit : Nat × Bytes) : Attempt where
  start := unit.1
  message := (readFrame unit.2).1.dispatched

/-- The server reads where a reader of `takenSize` bytes at a time does. -/
theorem attempts_serveFrom
    (fuel position : Nat) (stream : Bytes) :
    (serveFrom dispatch fuel position stream).attempts =
      (visited takenSize (goesOn dispatch) fuel position stream).map
        attemptAt := by
  induction fuel generalizing position stream with
  | zero => rfl
  | succ fuel induction =>
      cases stream with
      | nil => rfl
      | cons byte following =>
          have remains :=
            (takenSize_spec (List.cons_ne_nil byte following)).1
          rw [serveFrom, visited, goesOn]
          cases answered : respond dispatch
              (readFrame (byte :: following)).1 with
          | error error =>
              simp [answered, attemptAt, Except.toBool]
          | ok written =>
              simp only [answered, Except.toBool, if_true,
                List.map_cons, induction, ← remains]
              rfl

/-- In step with the frames exactly when each is taken whole. -/
theorem forall_resumedFrames_iff (stream : Bytes) :
    (∀ frame ∈ resumedFrames dispatch stream, ¬ Desyncs frame) ↔
      ∀ unit ∈ visited frameSize (goesOn dispatch)
          (stream.length + 1) 0 stream,
        goesOn dispatch unit.2 = true →
          takenSize unit.2 = frameSize unit.2 := by
  have perUnit : ∀ unit ∈ visited frameSize (goesOn dispatch)
        (stream.length + 1) 0 stream,
      (takenSize unit.2 = frameSize unit.2 ↔
        ¬ Desyncs (frameAt unit)) := fun unit member =>
    (takenSize_spec (ne_nil_of_mem_visited member)).2.2.2
  simp only [resumedFrames, List.forall_mem_map, List.mem_filter, and_imp]
  constructor
  · intro inStep unit member goes
    exact (perUnit unit member).mpr (inStep unit member goes)
  · intro whole unit member goes
    exact (perUnit unit member).mp (whole unit member goes)

/--
No request is smuggled exactly when no frame after which the server goes on
leaves the reader inside it.
-/
theorem noSmuggling_iff (stream : Bytes) :
    NoSmuggling dispatch stream ↔
      ∀ frame ∈ resumedFrames dispatch stream, ¬ Desyncs frame := by
  rw [forall_resumedFrames_iff]
  constructor
  · intro inStep
    refine whole_of_visited
      (fun _ nonempty => (takenSize_spec nonempty).2.1)
      (fun _ nonempty => (takenSize_spec nonempty).2.2.1)
      (fun other _ => frameSize_le other) (Nat.lt_succ_self _) ?_
    intro unit member
    obtain ⟨frame, isFrame, sameStart, -⟩ := inStep (attemptAt unit) (by
      rw [serve, attempts_serveFrom]
      exact List.mem_map_of_mem member)
    obtain ⟨start, isStart, rfl⟩ := List.mem_map.mp isFrame
    exact ⟨start, isStart, sameStart⟩
  · intro whole attempt member
    rw [serve, attempts_serveFrom, visited_eq_of_whole whole] at member
    obtain ⟨unit, isUnit, rfl⟩ := List.mem_map.mp member
    refine ⟨frameAt unit, List.mem_map_of_mem
      (visited_subset_units _ _ _ isUnit), rfl, ?_⟩
    intro members dispatched
    exact loadsBytes_of_dispatched dispatched

end

/-! ## A smuggled request -/

/-- A refused header whose declared body starts with a whole frame. -/
def smugglingStream : Bytes :=
  asciiBytes (text "Content-Length: 1048577\r\n\r\n" ++
    text "Content-Length: 46\r\n\r\n" ++
    text "\x7b\"id\":1,\"jsonrpc\":\"2.0\",\"method\":\"tools/list\"\x7d")

/-- The outcome is a frame error with an answer that can be written. -/
def answersError : FrameOutcome → Bool
  | .frameError error =>
      (encodeFrame (frameErrorResponse error)).toBool
  | _ => false

theorem goesOn_of_answersError
    {dispatch : List (Text × Json) → Option Json} {stream : Bytes}
    (answers : answersError (readFrame stream).1 = true) :
    goesOn dispatch stream = true := by
  rw [goesOn]
  cases read : (readFrame stream).1 with
  | frameError error =>
      rw [read, answersError] at answers
      rw [respond]
      cases encoded : encodeFrame (frameErrorResponse error) with
      | error _ =>
          rw [encoded] at answers
          cases answers
      | ok _ => rfl
  | endOfFile | message _ | raised _ =>
      rw [read] at answers
      cases answers

/--
The server reads a header inside the declared body of the refused frame, and
dispatches the request there, whatever the dispatcher does.
-/
theorem refused_frame_smuggles_request :
    ¬ ∃ dispatch, NoSmuggling dispatch smugglingStream := by
  rintro ⟨dispatch, inStep⟩
  have goes : goesOn dispatch smugglingStream = true :=
    goesOn_of_answersError (by decide +kernel)
  have taken : takenSize smugglingStream = 27 := by decide +kernel
  have starts : (units frameSize (smugglingStream.length + 1) 0
      smugglingStream).map (·.1) = [0] := by decide +kernel
  have read : attemptAt (27, smugglingStream.drop 27) ∈
      (serve dispatch smugglingStream).attempts := by
    rw [serve, attempts_serveFrom]
    refine List.mem_map_of_mem ?_
    have next : (0 + takenSize smugglingStream,
          smugglingStream.drop (takenSize smugglingStream)) ∈
        visited takenSize (goesOn dispatch)
          (smugglingStream.length + 1) 0 smugglingStream :=
      next_mem_visited goes (by decide +kernel) (by decide +kernel)
    rw [taken] at next
    exact next
  obtain ⟨frame, isFrame, sameStart, -⟩ := inStep _ read
  obtain ⟨unit, isUnit, rfl⟩ := List.mem_map.mp isFrame
  have first : unit.1 = 0 := by
    have member := List.mem_map_of_mem (f := Prod.fst) isUnit
    rw [starts] at member
    exact List.mem_singleton.mp member
  rw [frameAt, attemptAt, first] at sameStart
  cases sameStart

end ScientificResourceLab.Mcp
