import ScientificResourceLab.Contracts.AsciiJson
import ScientificResourceLab.Mcp.Framing
import ScientificResourceLab.Mcp.Sizes
import ScientificResourceLab.Mcp.Smuggling

/-!
# Answers to every stream

`serve` reads a stream frame by frame to its end.  Only two steps of the loop
lie outside of its handlers: the decoding of a body, which raises a plain
`ValueError` on an overlong integer, and the encoding of an answer.  An answer
can be encoded when the identifier that it repeats can be, the texts that a
tool raised are well formed, and what it repeats leaves room in a frame.
-/

namespace ScientificResourceLab.Mcp

open Python Contracts Steps

/-! ## The loop -/

/-- What `_read_frame` returns or raises, frame by frame, on a stream. -/
def outcomes (stream : Bytes) : List FrameOutcome :=
  (units takenSize (stream.length + 1) 0 stream).map fun unit =>
    (readFrame unit.2).1

section

variable (answer : Fields → Option Json)

theorem length_readFrame_lt
    {byte : UInt8} {following : Bytes} :
    (readFrame (byte :: following)).2.length <
      (byte :: following).length := by
  obtain ⟨remains, positive, _⟩ :=
    takenSize_spec (List.cons_ne_nil byte following)
  rw [remains, List.length_drop]
  have pos : 0 < (byte :: following).length := Nat.succ_pos _
  omega

/-- More fuel than the stream has bytes makes no difference. -/
theorem serveFrom_fuel
    {first second : Nat} {stream : Bytes} (position : Nat)
    (firstEnough : stream.length < first)
    (secondEnough : stream.length < second) :
    serveFrom answer first position stream =
      serveFrom answer second position stream := by
  induction first generalizing second position stream with
  | zero => omega
  | succ first induction =>
      cases second with
      | zero => omega
      | succ second =>
          cases stream with
          | nil => rfl
          | cons byte following =>
              have shorter := @length_readFrame_lt byte following
              have later := induction
                (position + ((byte :: following).length -
                  (readFrame (byte :: following)).2.length))
                (lt_of_lt_of_le shorter (Nat.le_of_lt_succ firstEnough))
                (lt_of_lt_of_le shorter (Nat.le_of_lt_succ secondEnough))
              rw [serveFrom, serveFrom]
              simp only [later]

/-- A run that returns has answered every frame. -/
theorem serveFrom_returns_iff
    {fuel position : Nat} {stream : Bytes} (enough : stream.length < fuel) :
    (serveFrom answer fuel position stream).result = .ok 0 ↔
      ∀ unit ∈ units takenSize fuel position stream,
        goesOn answer unit.2 = true := by
  induction fuel generalizing position stream with
  | zero => omega
  | succ fuel induction =>
      cases stream with
      | nil => exact ⟨fun _ => nofun, fun _ => rfl⟩
      | cons byte following =>
          have shorter := @length_readFrame_lt byte following
          have remains :=
            (takenSize_spec (List.cons_ne_nil byte following)).1
          have later := @induction
            (position + takenSize (byte :: following))
            ((byte :: following).drop (takenSize (byte :: following)))
            (by
              rw [← remains]
              exact lt_of_lt_of_le shorter (Nat.le_of_lt_succ enough))
          rw [units, visited, if_pos rfl, List.forall_mem_cons, goesOn,
            serveFrom]
          cases answered : respond answer
              (readFrame (byte :: following)).1 with
          | error error => simp [answered, Except.toBool]
          | ok written =>
              simp only [answered, Except.toBool, true_and]
              rw [← units, ← later, ← remains]
              rfl

/--
The frame written for a header block: `encode_frame` accepts it, and a request
that carries an identifier gets the one that holds its response.
-/
structure Answers (attempt : Attempt) (frame : Option Bytes) : Prop where
  accepted : ∀ bytes ∈ frame, ∃ response, encodeFrame response = .ok bytes
  answered : ∀ members, attempt.message = some members →
    ∀ response, answer members = some response →
      ∃ bytes, encodeFrame response = .ok bytes ∧ frame = some bytes

theorem respond_answers
    {position : Nat} {outcome : FrameOutcome} {written : Bytes}
    (responded : respond answer outcome = .ok written) :
    ∃ frame, Answers answer ⟨position, outcome.dispatched⟩ frame ∧
      written = frame.getD [] := by
  cases outcome with
  | endOfFile =>
      cases responded
      refine ⟨none, ⟨?_, ?_⟩, rfl⟩
      · rintro _ ⟨⟩
      · rintro _ ⟨⟩
  | raised error => cases responded
  | frameError error =>
      rw [respond] at responded
      cases encoded : encodeFrame (frameErrorResponse error) with
      | error _ =>
          rw [encoded] at responded
          cases responded
      | ok bytes =>
          rw [encoded] at responded
          refine ⟨some bytes, ⟨?_, ?_⟩, (Except.ok.inj responded).symm⟩
          · rintro _ ⟨⟩
            exact ⟨_, encoded⟩
          · rintro _ ⟨⟩
  | message members =>
      rw [respond] at responded
      cases answered : answer members with
      | none =>
          rw [answered] at responded
          cases responded
          refine ⟨none, ⟨?_, ?_⟩, rfl⟩
          · rintro _ ⟨⟩
          · rintro _ ⟨⟩ response isAnswer
            rw [answered] at isAnswer
            cases isAnswer
      | some response =>
          rw [answered] at responded
          cases encoded : encodeFrame response with
          | error _ =>
              simp only [encoded] at responded
              cases responded
          | ok bytes =>
              simp only [encoded] at responded
              refine ⟨some bytes, ⟨?_, ?_⟩,
                (Except.ok.inj responded).symm⟩
              · rintro _ ⟨⟩
                exact ⟨_, encoded⟩
              · rintro _ ⟨⟩ other isAnswer
                cases answered.symm.trans isAnswer
                exact ⟨bytes, encoded, rfl⟩

/-- The output of a run that returns is made of the frames of its answers. -/
theorem serveFrom_answers
    {fuel position : Nat} {stream : Bytes}
    (goes : ∀ unit ∈ units takenSize fuel position stream,
      goesOn answer unit.2 = true) :
    ∃ frames : List (Option Bytes),
      List.Forall₂ (Answers answer)
        (serveFrom answer fuel position stream).attempts frames ∧
      (serveFrom answer fuel position stream).output =
        frames.flatMap fun frame => frame.getD [] := by
  induction fuel generalizing position stream with
  | zero => exact ⟨[], .nil, rfl⟩
  | succ fuel induction =>
      cases stream with
      | nil => exact ⟨[], .nil, rfl⟩
      | cons byte following =>
          have remains :=
            (takenSize_spec (List.cons_ne_nil byte following)).1
          rw [units, visited, if_pos rfl, List.forall_mem_cons, goesOn]
            at goes
          obtain ⟨here, others⟩ := goes
          obtain ⟨frames, paired, written⟩ := induction others
          rw [← remains] at paired written
          cases responded : respond answer
              (readFrame (byte :: following)).1 with
          | error error =>
              rw [responded] at here
              cases here
          | ok bytes =>
              obtain ⟨frame, answers, isFrame⟩ :=
                @respond_answers answer position _ _ responded
              rw [serveFrom]
              simp only [responded]
              refine ⟨frame :: frames, .cons answers paired, ?_⟩
              rw [List.flatMap_cons, ← isFrame]
              exact congrArg (bytes ++ ·) written

end

/-! ## Answers that can be encoded -/

/-- An answer is encoded when it is writable and fits into a frame. -/
theorem encodeFrame_returns_iff
    {response : Json} {size : Nat} (sized : HasSize response size) :
    (encodeFrame response).toBool = true ↔
      Writable response ∧ size ≤ maxFrameBytes := by
  obtain ⟨⟨members, rfl⟩, rfl⟩ := sized
  have bytes {data : Bytes} (dumped : dumps (.obj members) = .ok data) :
      (rstripNewlines data).length = jsonSize (.obj members) := by
    obtain ⟨written, -, -, isWritten, isBody, -⟩ := dumps_obj_body dumped
    rw [length_utf8Encode isBody, textSize_dumpText _ isWritten]
  constructor
  · intro returns
    cases encoded : encodeFrame (.obj members) with
    | error error =>
        rw [encoded] at returns
        cases returns
    | ok frame =>
        obtain ⟨data, dumped, fits, _⟩ := encodeFrame_eq_ok.mp encoded
        rw [bytes dumped] at fits
        exact ⟨writable_of_dumps dumped, fits⟩
  · rintro ⟨writable, fits⟩
    obtain ⟨data, dumped⟩ := dumps_of_writable writable
    rw [← bytes dumped] at fits
    rw [encodeFrame_eq_ok.mpr ⟨data, dumped, fits, rfl⟩]
    rfl

theorem scalars_intercalate
    {separator : Text} {parts : List Text} (isScalars : Scalars separator)
    (each : ∀ part ∈ parts, Scalars part) :
    Scalars (separator.intercalate parts) := by
  induction parts with
  | nil => exact scalars_nil
  | cons first rest induction =>
      obtain ⟨here, others⟩ := List.forall_mem_cons.mp each
      cases rest with
      | nil =>
          rw [List.intercalate_singleton]
          exact here
      | cons second later =>
          rw [List.intercalate_cons_cons, scalars_append, scalars_append]
          exact ⟨⟨here, isScalars⟩, induction others⟩

theorem scalars_typeName (value : Json) : Scalars (typeName value) := by
  cases value <;> exact scalars_text _

/-! ### Frame errors -/

theorem scalars_contentLengths
    {lines : List Text} {error : FrameError}
    (failed : contentLengths lines = .error error) :
    Scalars error.message := by
  induction lines with
  | nil => cases failed
  | cons line rest induction =>
      rw [contentLengths] at failed
      split_ifs at failed with empty colon
      · exact induction failed
      · generalize partitionColon line = parts at failed
        obtain ⟨name, rawValue⟩ := parts
        dsimp only at failed
        split_ifs at failed with isOther
        · exact induction failed
        · split at failed
          · cases failed
            simp only [scalars_append, scalars_text, scalars_quoted,
              and_self]
          · split_ifs at failed with negative
            · cases failed
              simp only [scalars_append, scalars_text, scalars_intText,
                and_self]
            · cases found : contentLengths rest with
              | error inner =>
                  rw [found] at failed
                  cases failed
                  exact induction found
              | ok others =>
                  rw [found] at failed
                  cases failed
      · cases failed
        simp only [scalars_append, scalars_text, scalars_quoted, and_self]

theorem scalars_parseContentLength
    {headerBlock : Text} {error : FrameError}
    (failed : parseContentLength headerBlock = .error error) :
    Scalars error.message := by
  rw [parseContentLength] at failed
  cases found : contentLengths (splitCrlf headerBlock) with
  | error inner =>
      rw [found] at failed
      cases failed
      exact scalars_contentLengths found
  | ok lengths =>
      rw [found] at failed
      have numbers : ∀ part ∈ lengths.map decimalText, Scalars part := by
        intro part isPart
        obtain ⟨length, _, rfl⟩ := List.mem_map.mp isPart
        exact scalars_decimalText length
      cases lengths with
      | nil =>
          cases failed
          exact scalars_text _
      | cons first rest =>
          cases rest with
          | nil => cases failed
          | cons second later =>
              cases failed
              simp only [scalars_append, scalars_text, and_true, true_and]
              exact scalars_intercalate (scalars_text _) numbers

theorem scalars_parseBody
    {body : Bytes} {error : FrameError}
    (failed : parseBody body = .frameError error) :
    Scalars error.message := by
  rw [parseBody.eq_def] at failed
  split at failed
  · cases failed
  · cases failed
    exact scalars_text _
  · cases failed
  · cases failed
    simp only [scalars_append, scalars_text, scalars_typeName, and_self]

/-- The message of a frame error is well-formed Unicode. -/
theorem scalars_readFrame
    {stream : Bytes} {error : FrameError}
    (failed : (readFrame stream).1 = .frameError error) :
    Scalars error.message := by
  rw [readFrame] at failed
  split at failed
  · cases failed
  · cases failed
    exact scalars_text _
  · cases failed
    simp only [scalars_append, scalars_text, and_self]
  · next header rest _ =>
      rw [readBody] at failed
      split at failed
      · next inner parsed =>
          cases failed
          exact scalars_parseContentLength parsed
      · split_ifs at failed
        · cases failed
          simp only [scalars_append, scalars_text, scalars_decimalText,
            and_self]
        · cases failed
          simp only [scalars_append, scalars_text, scalars_decimalText,
            and_self]
        · exact scalars_parseBody failed

/-! ### Responses -/

/-- Codes of errors are short. -/
def ShortCode (code : Int) : Prop :=
  (decimalText code.natAbs).length ≤ intMaxStrDigits

theorem writable_errorResponse
    {code : Int} (short : ShortCode code) (msgId : Json) (message : Text)
    (data : Json) :
    Writable (errorResponse msgId code message data) ↔
      Writable msgId ∧ Scalars message ∧ Writable data := by
  simp only [errorResponse, Writable, WritableMembers, scalars_text,
    and_true, true_and]
  constructor
  · rintro ⟨id, _, rest⟩
    exact ⟨id, rest⟩
  · rintro ⟨id, rest⟩
    exact ⟨id, short, rest⟩

theorem writable_resultResponse (msgId result : Json) :
    Writable (resultResponse msgId result) ↔
      Writable msgId ∧ Writable result := by
  simp only [resultResponse, Writable, WritableMembers, scalars_text,
    and_true, true_and]

theorem writable_typedErrorData (failReason note status : Text) :
    Writable (typedErrorData failReason note status) ↔
      Scalars failReason ∧ Scalars note ∧ Scalars status := by
  have optional (key : String) (value : Text) :
      WritableMembers (if value = [] then []
        else [(text key, Json.str value)]) ↔ Scalars value := by
    split_ifs with empty
    · rw [empty]
      exact ⟨fun _ => scalars_nil, fun _ => trivial⟩
    · simp only [WritableMembers, Writable, scalars_text, and_true,
        true_and]
  rw [typedErrorData, Writable, writableMembers_append,
    writableMembers_append, optional, optional]
  simp only [WritableMembers, Writable, scalars_text, and_true, true_and,
    and_assoc]

theorem writable_frameErrorResponse
    {error : FrameError} (isScalars : Scalars error.message) :
    Writable (frameErrorResponse error) := by
  have reason : Scalars error.failReason.value := by
    cases error.failReason <;> exact scalars_text _
  have short : ShortCode
      (if error.failReason = .tooLarge then -32600 else -32700) := by
    split_ifs <;> (rw [ShortCode]; decide)
  simp only [frameErrorResponse, Writable, WritableMembers, scalars_text,
    scalars_append, isScalars, reason, and_true, true_and]
  exact short

theorem writable_mutationRejection
    (msgId : Json) {what : Text} (isScalars : Scalars what) :
    Writable (mutationRejection msgId what) ↔ Writable msgId := by
  rw [mutationRejection, writable_errorResponse
    (by rw [ShortCode]; decide), writable_typedErrorData]
  simp only [scalars_append, scalars_text, isScalars, and_true]

theorem writable_unknownMethodRejection (msgId : Json) (method : Text) :
    Writable (unknownMethodRejection msgId method) ↔ Writable msgId := by
  rw [unknownMethodRejection, writable_errorResponse
    (by rw [ShortCode]; decide), writable_typedErrorData]
  simp only [scalars_append, scalars_text, scalars_quoted, and_true]

theorem writable_invalidRequest (msgId : Json) (note : String) :
    Writable (invalidRequest msgId (text note)) ↔ Writable msgId := by
  rw [invalidRequest, writable_errorResponse
    (by rw [ShortCode]; decide), writable_typedErrorData]
  simp only [scalars_text, and_true]

theorem writable_invalidParams (msgId : Json) (note : String) :
    Writable (invalidParams msgId (text note)) ↔ Writable msgId := by
  rw [invalidParams, writable_errorResponse
    (by rw [ShortCode]; decide), writable_typedErrorData]
  simp only [scalars_text, and_true]

/-- The descriptors of the tools are fixed texts. -/
theorem writable_toolsList : Writable toolsList := by
  simp [toolsList, toolDescriptor, inputSchema, Writable, WritableItems,
    WritableMembers, scalars_text]

theorem writable_initializeResult : Writable initializeResult := by
  simp [initializeResult, Writable, WritableMembers, scalars_text]

/-- The reply of a route repeats nothing but the identifier unescaped. -/
def Route.Repeats (msgId : Json) : Route → Prop
  | .reply response => Writable response ↔ Writable msgId
  | _ => True

section

variable (lower : Text → Text)

theorem repeats_routeToolsCall (msgId : Json) (params : Fields) :
    (routeToolsCall lower msgId params).Repeats msgId := by
  rw [routeToolsCall]
  split
  · exact writable_invalidParams _ _
  · next name _ =>
      split_ifs with mutation isTool
      · exact writable_mutationRejection _
          (scalars_append.mpr ⟨scalars_text _, scalars_quoted _⟩)
      · split
        · exact writable_invalidParams _ _
        · trivial
      · exact writable_unknownMethodRejection _ _

theorem repeats_dispatchMethod
    (msgId : Json) (method : Text) (members : Fields) :
    (dispatchMethod lower msgId method members).Repeats msgId := by
  rw [dispatchMethod]
  split_ifs with mutation
  · exact writable_mutationRejection _
      (scalars_append.mpr ⟨scalars_text _, scalars_quoted _⟩)
  · split
    · exact writable_invalidParams _ _
    · next params _ =>
        rw [dispatchMeta]
        split_ifs
        · exact (writable_resultResponse _ _).trans
            (and_iff_left writable_initializeResult)
        · exact (writable_resultResponse _ _).trans
            (and_iff_left writable_toolsList)
        · exact repeats_routeToolsCall lower msgId params
        · exact writable_unknownMethodRejection _ _

theorem dispatchMethod_ne_silent
    (msgId : Json) (method : Text) (members : Fields) :
    dispatchMethod lower msgId method members ≠ .silent := by
  rw [dispatchMethod]
  split_ifs
  · rintro ⟨⟩
  · split
    · rintro ⟨⟩
    · rw [dispatchMeta, routeToolsCall]
      split_ifs
      · rintro ⟨⟩
      · rintro ⟨⟩
      · split
        · rintro ⟨⟩
        · split_ifs
          · rintro ⟨⟩
          · split <;> rintro ⟨⟩
          · rintro ⟨⟩
      · rintro ⟨⟩

theorem repeats_route (members : Fields) :
    (route lower members).Repeats (messageId members) := by
  rw [route]
  by_cases version : isJsonRpc members = false
  · rw [if_pos version]
    exact writable_invalidRequest _ _
  · rw [if_neg version]
    cases nonEmptyString (getOrNone (text "method") members) with
    | none => exact writable_invalidRequest _ _
    | some method =>
        dsimp only
        split_ifs
        · exact repeats_dispatchMethod lower _ _ members
        · trivial

end

/-! ### Tools -/

theorem scalars_joinCommaBlank
    {texts : List Text} (each : ∀ item ∈ texts, Scalars item) :
    Scalars (joinCommaBlank texts) := by
  induction texts with
  | nil => exact scalars_nil
  | cons item rest induction =>
      obtain ⟨here, others⟩ := List.forall_mem_cons.mp each
      cases rest with
      | nil => exact here
      | cons next later =>
          rw [joinCommaBlank.eq_def, scalars_append, scalars_append]
          exact ⟨⟨here, scalars_text _⟩, induction others⟩

theorem scalar_defaultLayout : Layout.Scalar defaultLayout where
  escape := scalars_asciiPoint
  join := scalars_joinCommaBlank
  colon := scalars_text ": "
  float := by
    rintro value written ⟨⟩
    rw [jsonFloat]
    split_ifs
    · exact scalars_repr value
    · exact scalars_text _
    · exact scalars_text _
    · exact scalars_text _

/-- What `json.dumps` writes is ASCII. -/
theorem scalars_asciiDumps
    (value : Json) {written : Text}
    (dumped : asciiDumps value = some written) : Scalars written :=
  scalars_writeText scalar_defaultLayout value dumped

/-- The texts of a tool that raised. -/
def errorTexts : Except ToolError Fields → List Text
  | .error (.method message failReason status) =>
      [message, failReason, status]
  | .error (.other typeName message) => [typeName, message]
  | .ok _ => []

theorem writable_internalError
    (msgId : Json) {error : PyError} (isScalars : Scalars error.message) :
    Writable (internalError msgId error) ↔ Writable msgId := by
  rw [internalError, writable_errorResponse
    (by rw [ShortCode]; decide), writable_typedErrorData]
  simp only [scalars_append, scalars_text, isScalars, and_true]

/-- The answer to a call repeats the identifier and the texts it raised. -/
theorem writable_toolAnswer
    {msgId : Json} {name : Text} {outcome : Except ToolError Fields}
    {response : Json} (answered : toolAnswer msgId name outcome = .ok response) :
    Writable response ↔
      Writable msgId ∧ ∀ part ∈ errorTexts outcome, Scalars part := by
  cases outcome with
  | error error =>
      cases error with
      | method message failReason status =>
          have default : Scalars
              (if status = [] then text "INVALID" else status) ↔
              Scalars status := by
            split_ifs with empty
            · rw [empty]
              exact ⟨fun _ => scalars_nil, fun _ => scalars_text _⟩
            · rfl
          cases answered
          rw [writable_errorResponse (by rw [ShortCode]; decide),
            writable_typedErrorData, default]
          simp only [errorTexts, List.forall_mem_cons, List.not_mem_nil,
            false_imp_iff, implies_true, and_true]
          tauto
      | other typeName message =>
          cases answered
          rw [writable_errorResponse (by rw [ShortCode]; decide),
            writable_typedErrorData]
          simp only [errorTexts, List.forall_mem_cons, List.not_mem_nil,
            false_imp_iff, implies_true, and_true, true_and,
            scalars_append, scalars_text, scalars_quoted]
  | ok outcome =>
      rw [toolAnswer] at answered
      cases dumped : asciiDumps (.obj outcome) with
      | none =>
          rw [dumped] at answered
          cases answered
      | some rendered =>
          rw [dumped] at answered
          cases answered
          have isScalars := scalars_asciiDumps _ dumped
          rw [writable_resultResponse]
          simp only [Writable, WritableItems, WritableMembers, scalars_text,
            isScalars, errorTexts, List.not_mem_nil, false_imp_iff,
            implies_true, and_true]

/-- A call fails only on an integer that `json.dumps` refuses. -/
theorem scalars_toolAnswer
    {msgId : Json} {name : Text} {outcome : Except ToolError Fields}
    {error : PyError} (failed : toolAnswer msgId name outcome = .error error) :
    Scalars error.message ∧ errorTexts outcome = [] := by
  cases outcome with
  | error inner => cases inner <;> cases failed
  | ok outcome =>
      rw [toolAnswer] at failed
      cases dumped : asciiDumps (.obj outcome) with
      | none =>
          rw [dumped] at failed
          cases failed
          exact ⟨scalars_text _, rfl⟩
      | some rendered =>
          rw [dumped] at failed
          cases failed

section

variable (lower : Text → Text)
variable (callTool : Text → Fields → Except ToolError Fields)

/-- The texts that the tool called by a message raised. -/
def raisedTexts (members : Fields) : List Text :=
  match route lower members with
  | .call name args => errorTexts (callTool name args)
  | _ => []

/-- An answer repeats the identifier, and the texts that a tool raised. -/
theorem writable_answer
    {members : Fields} {response : Json}
    (answered : answer lower callTool members = some response) :
    Writable response ↔ Writable (messageId members) ∧
      ∀ part ∈ raisedTexts lower callTool members, Scalars part := by
  have repeated := repeats_route lower members
  rw [answer, dispatch] at answered
  rw [raisedTexts]
  cases routed : route lower members with
  | silent =>
      rw [routed] at answered
      cases answered
  | reply reply =>
      rw [routed] at answered repeated
      cases answered
      exact repeated.trans (and_iff_left (List.forall_mem_nil _)).symm
  | call name args =>
      rw [routed] at answered
      cases called : toolAnswer (messageId members) name
          (callTool name args) with
      | error error =>
          obtain ⟨isScalars, none⟩ := scalars_toolAnswer called
          simp only [called, Except.map] at answered
          cases answered
          simp only [none]
          exact (writable_internalError _ isScalars).trans
            (and_iff_left (List.forall_mem_nil _)).symm
      | ok response =>
          simp only [called, Except.map] at answered
          cases answered
          exact writable_toolAnswer called

/-- A message with a method name and without an identifier. -/
def isNotification (members : Fields) : Bool :=
  isJsonRpc members && !carriesId members &&
    (nonEmptyString (getOrNone (text "method") members)).isSome

theorem route_eq_silent_iff {members : Fields} :
    route lower members = .silent ↔ isNotification members = true := by
  rw [route, isNotification]
  cases isJsonRpc members with
  | false =>
      constructor
      · rintro ⟨⟩
      · rintro ⟨⟩
  | true =>
      rw [if_neg (by decide)]
      cases nonEmptyString (getOrNone (text "method") members) with
      | none => simp
      | some method =>
          dsimp only
          cases carriesId members with
          | true => simpa using dispatchMethod_ne_silent lower _ method members
          | false => simp

/-- Every message has a response, unless it is a notification. -/
theorem answer_eq_none_iff {members : Fields} :
    answer lower callTool members = none ↔
      isNotification members = true := by
  rw [← route_eq_silent_iff lower, answer, dispatch]
  cases routed : route lower members with
  | silent => exact iff_of_true rfl rfl
  | reply reply =>
      constructor
      · rintro ⟨⟩
      · rintro ⟨⟩
  | call name args =>
      cases called : toolAnswer (messageId members) name
          (callTool name args) with
      | error error =>
          simp only [called, Except.map]
          constructor
          · rintro ⟨⟩
          · rintro ⟨⟩
      | ok response =>
          simp only [called, Except.map]
          constructor
          · rintro ⟨⟩
          · rintro ⟨⟩

/-- Every request that carries an identifier has a response. -/
theorem answer_of_carriesId
    {members : Fields} (carries : carriesId members = true) :
    ∃ response, answer lower callTool members = some response := by
  rw [← Option.ne_none_iff_exists', ne_eq, answer_eq_none_iff]
  simp [isNotification, carries]

end

/-! ## Total service -/

section

variable (lower : Text → Text)
variable (callTool : Text → Fields → Except ToolError Fields)

/--
Reading a frame gave something that can be answered: no overlong integer, an
identifier and texts of the tool that canonical JSON can write, and room in a
frame for the identifier, the names and what the tool returned or raised.
-/
def Answerable : FrameOutcome → Prop
  | .endOfFile => True
  | .message members =>
      isNotification members = false →
        Writable (messageId members) ∧
          (∀ part ∈ raisedTexts lower callTool members, Scalars part) ∧
          jsonSize (messageId members) +
            answerSize lower callTool members ≤ maxFrameBytes
  | .frameError error => frameErrorSize error ≤ maxFrameBytes
  | .raised _ => False

theorem toBool_mapError
    {error escaped value : Type} (f : error → escaped)
    (outcome : Except error value) :
    (outcome.mapError f).toBool = outcome.toBool := by
  cases outcome <;> rfl

/-- The server goes on after a frame when the frame can be answered. -/
theorem goesOn_iff (stream : Bytes) :
    goesOn (answer lower callTool) stream = true ↔
      Answerable lower callTool (readFrame stream).1 := by
  rw [goesOn]
  cases read : (readFrame stream).1 with
  | endOfFile => exact ⟨fun _ => trivial, fun _ => rfl⟩
  | raised error =>
      constructor
      · rintro ⟨⟩
      · rintro ⟨⟩
  | frameError error =>
      rw [respond, toBool_mapError,
        encodeFrame_returns_iff (hasSize_frameErrorResponse error)]
      exact and_iff_right (writable_frameErrorResponse
        (scalars_readFrame read))
  | message members =>
      rw [respond, Answerable]
      cases answered : answer lower callTool members with
      | none =>
          rw [(answer_eq_none_iff lower callTool).mp answered]
          exact iff_of_true rfl fun loud => Bool.noConfusion loud
      | some response =>
          have noisy : isNotification members = false := by
            rw [← Bool.not_eq_true, ← answer_eq_none_iff lower callTool,
              answered]
            exact Option.some_ne_none response
          dsimp only
          rw [toBool_mapError,
            encodeFrame_returns_iff (hasSize_answer answered),
            writable_answer lower callTool answered, and_assoc]
          exact ⟨fun holds _ => holds, fun holds => holds noisy⟩

/-- What a server owes to every finite stream. -/
structure Total (stream : Bytes) : Prop where
  /-- The loop ends by itself, not for want of fuel. -/
  ends : ∀ fuel, stream.length < fuel →
    serveFrom (answer lower callTool) fuel 0 stream =
      serve (answer lower callTool) stream
  returns : (serve (answer lower callTool) stream).result = .ok 0
  /-- What was written is one accepted frame for each answer. -/
  responds : ∃ frames : List (Option Bytes),
    List.Forall₂ (Answers (answer lower callTool))
      (serve (answer lower callTool) stream).attempts frames ∧
    (serve (answer lower callTool) stream).output =
      frames.flatMap fun frame => frame.getD []
  /-- Requests with an identifier have an answer. -/
  identified : ∀ attempt ∈
      (serve (answer lower callTool) stream).attempts,
    ∀ members, attempt.message = some members →
      carriesId members = true →
        ∃ response, answer lower callTool members = some response

/--
The server is total on exactly the streams whose frames can all be answered.
-/
theorem total_iff_answerable (stream : Bytes) :
    Total lower callTool stream ↔
      ∀ outcome ∈ outcomes stream, Answerable lower callTool outcome := by
  have enough : stream.length < stream.length + 1 := Nat.lt_succ_self _
  have answerable :
      (∀ outcome ∈ outcomes stream, Answerable lower callTool outcome) ↔
        ∀ unit ∈ units takenSize (stream.length + 1) 0 stream,
          goesOn (answer lower callTool) unit.2 = true := by
    simp only [outcomes, List.forall_mem_map, goesOn_iff]
  rw [answerable]
  constructor
  · intro total
    exact (serveFrom_returns_iff _ enough).mp total.returns
  · intro goes
    exact
      { ends := fun fuel isEnough =>
          serveFrom_fuel _ 0 isEnough enough
        returns := (serveFrom_returns_iff _ enough).mpr goes
        responds := serveFrom_answers _ goes
        identified := fun _ _ members _ carries =>
          answer_of_carriesId lower callTool carries }

end

/-- A request whose identifier is `NaN`, as `json.loads` reads it. -/
def notANumberStream : Bytes :=
  asciiBytes (text "Content-Length: 48\r\n\r\n" ++
    text "\x7b\"jsonrpc\":\"2.0\",\"id\":NaN," ++
    text "\"method\":\"tools/list\"\x7d")

theorem serve_notANumberStream :
    (serve (answer id fun _ _ => .ok []) notANumberStream).result.toBool =
      false := by
  decide +kernel

/--
The answer to a request with the identifier `NaN` is not canonical JSON, so
encoding it ends the server.
-/
theorem notANumber_not_total :
    ¬ Total id (fun _ _ => .ok []) notANumberStream := by
  intro total
  have returned := serve_notANumberStream
  rw [total.returns] at returned
  cases returned

end ScientificResourceLab.Mcp
