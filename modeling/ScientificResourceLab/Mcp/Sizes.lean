import ScientificResourceLab.Contracts.Sizes
import ScientificResourceLab.Mcp.Dispatch

/-!
# How long an answer is

An answer repeats the identifier of its request, and beside it at most the
name of a method or a tool, or what a tool returned or raised.  `answerSize`
adds these up from the request, before any answer is built
(`jsonSize_answer`).
-/

namespace ScientificResourceLab.Mcp

open Python Contracts

/-! ## Errors -/

/-- The bytes of a member with a text, which an empty text leaves out. -/
def optionalSize (key : String) (value : Text) : Nat :=
  if value = [] then 0
  else literalSize (text key) + literalSize value + 2

/-- The bytes of an error answer without its identifier. -/
def errorSize (message failReason note status : Text) : Nat :=
  130 + literalSize message + literalSize failReason +
    optionalSize "note" note + optionalSize "status" status

theorem membersSize_optional (key : String) (value : Text) :
    membersSize (if value = [] then [] else [(text key, Json.str value)]) =
      optionalSize key value := by
  rw [optionalSize]
  split_ifs
  · rfl
  · simp only [membersSize, jsonSize]
    omega

/-- The codes of errors are six characters long. -/
def SixCharacters (code : Int) : Prop :=
  textSize (intText code) = 6

theorem jsonSize_errorResponse
    {code : Int} (six : SixCharacters code) (msgId : Json)
    (message failReason note status : Text) :
    jsonSize (errorResponse msgId code message
        (typedErrorData failReason note status)) =
      jsonSize msgId + errorSize message failReason note status := by
  have data : jsonSize (typedErrorData failReason note status) =
      64 + literalSize failReason + optionalSize "note" note +
        optionalSize "status" status := by
    rw [typedErrorData, jsonSize, membersSize_append, membersSize_append,
      membersSize_optional, membersSize_optional]
    simp only [membersSize, jsonSize]
    have keys : literalSize (text "schema_version") = 16 ∧
        literalSize (text "McpError/v1") = 13 ∧
        literalSize (text "fail_reason") = 13 ∧
        literalSize (text "read_only") = 11 := by
      decide
    omega
  simp only [errorResponse, jsonSize, membersSize, data, errorSize]
  have keys : literalSize (text "jsonrpc") = 9 ∧
      literalSize (text "2.0") = 5 ∧ literalSize (text "id") = 4 ∧
      literalSize (text "error") = 7 ∧ literalSize (text "code") = 6 ∧
      literalSize (text "message") = 9 ∧
      literalSize (text "data") = 6 := by
    decide
  rw [SixCharacters] at six
  omega

theorem jsonSize_resultResponse (msgId result : Json) :
    jsonSize (resultResponse msgId result) =
      jsonSize msgId + (33 + jsonSize result) := by
  simp only [resultResponse, jsonSize, membersSize]
  have keys : literalSize (text "jsonrpc") = 9 ∧
      literalSize (text "2.0") = 5 ∧ literalSize (text "id") = 4 ∧
      literalSize (text "result") = 8 := by
    decide
  omega

/-! ## Refusals -/

/-- A fixed error that says its note twice. -/
def noteSize (note reason : String) : Nat :=
  errorSize (text note) (text reason) (text note) (text reason)

/-- The refusal of a method or a tool that would change something. -/
def mutationSize (method : Text) : Nat :=
  errorSize
    (text "method " ++ quoted method ++
      text " is not available (read-only server)")
    (text "METHOD_NOT_FOUND")
    (text "this MCP server is read-only; run/execute/mutate methods " ++
      text "are refused (JSON-RPC -32601)")
    (text "METHOD_NOT_FOUND")

/-- The refusal of a method or a tool that is not known. -/
def unknownSize (method : Text) : Nat :=
  errorSize (text "unknown method " ++ quoted method)
    (text "METHOD_NOT_FOUND") (text "unknown method " ++ quoted method)
    (text "METHOD_NOT_FOUND")

theorem jsonSize_mutationRejection (msgId : Json) (method : Text) :
    jsonSize (mutationRejection msgId (text "method " ++ quoted method)) =
      jsonSize msgId + mutationSize method :=
  jsonSize_errorResponse (by rw [SixCharacters]; decide) _ _ _ _ _

theorem jsonSize_unknownMethodRejection (msgId : Json) (method : Text) :
    jsonSize (unknownMethodRejection msgId method) =
      jsonSize msgId + unknownSize method :=
  jsonSize_errorResponse (by rw [SixCharacters]; decide) _ _ _ _ _

theorem jsonSize_invalidRequest (msgId : Json) (note : String) :
    jsonSize (invalidRequest msgId (text note)) =
      jsonSize msgId + noteSize note "INVALID_REQUEST" :=
  jsonSize_errorResponse (by rw [SixCharacters]; decide) _ _ _ _ _

theorem jsonSize_invalidParams (msgId : Json) (note : String) :
    jsonSize (invalidParams msgId (text note)) =
      jsonSize msgId + noteSize note "INVALID_PARAMS" :=
  jsonSize_errorResponse (by rw [SixCharacters]; decide) _ _ _ _ _

/-! ## Requests -/

/-- What `json.dumps` says of an overlong integer. -/
def overlongSize : Nat :=
  let message := text
    "Exceeds the limit (4300 digits) for integer string conversion"
  errorSize (text "internal error: " ++ message) (text "INTERNAL")
    (text "ValueError: " ++ message) (text "INTERNAL")

/-- What a tool returned or raised. -/
def toolSize (name : Text) : Except ToolError Fields → Nat
  | .error (.method message failReason status) =>
      errorSize message failReason message
        (if status = [] then text "INVALID" else status)
  | .error (.other typeName message) =>
      errorSize (text "tool " ++ quoted name ++
          text " raised an internal error") (text "INTERNAL")
        (typeName ++ text ": " ++ message) (text "INTERNAL")
  | .ok outcome =>
      match asciiDumps (.obj outcome) with
      | none => overlongSize
      | some rendered =>
          (if toolAnswer.isSuccess outcome then 86 else 85) +
            literalSize rendered

section

variable (lower : Text → Text)
variable (callTool : Text → Fields → Except ToolError Fields)

/-- A request for a tool. -/
def callSize (params : Fields) : Nat :=
  match nonEmptyString (getOrNone (text "name") params) with
  | none => noteSize "tools/call requires a 'name' string" "INVALID_PARAMS"
  | some name =>
      if isMutation lower name then mutationSize name
      else if name ∉ p0Tools then unknownSize name
      else
        match dictOrEmpty "arguments" params with
        | none => noteSize "tools/call 'arguments' must be an object"
            "INVALID_PARAMS"
        | some args => toolSize name (callTool name args)

/-- A request with the name of a method. -/
def methodSize (method : Text) (members : Fields) : Nat :=
  if isMutation lower method then mutationSize method
  else
    match dictOrEmpty "params" members with
    | none => noteSize "'params' must be an object" "INVALID_PARAMS"
    | some params =>
        if method = text "initialize" then 33 + jsonSize initializeResult
        else if method = text "tools/list" then 33 + jsonSize toolsList
        else if method = text "tools/call" then
          callSize lower callTool params
        else unknownSize method

/-- The bytes of the answer to a request without its identifier. -/
def answerSize (members : Fields) : Nat :=
  if isJsonRpc members = false then
    noteSize "not a JSON-RPC 2.0 message" "INVALID_REQUEST"
  else
    match nonEmptyString (getOrNone (text "method") members) with
    | none => noteSize "missing or non-string 'method'" "INVALID_REQUEST"
    | some method => methodSize lower callTool method members

/-- A response is an object of a size. -/
structure HasSize (response : Json) (size : Nat) : Prop where
  object : ∃ members, response = .obj members
  bytes : jsonSize response = size

def Route.HasSize (msgId : Json) (size : Nat) : Route → Prop
  | .silent => True
  | .reply response => Mcp.HasSize response (jsonSize msgId + size)
  | .call name args => toolSize name (callTool name args) = size

variable {lower callTool}

theorem hasSize_routeToolsCall (msgId : Json) (params : Fields) :
    (routeToolsCall lower msgId params).HasSize callTool msgId
      (callSize lower callTool params) := by
  rw [routeToolsCall, callSize]
  cases nonEmptyString (getOrNone (text "name") params) with
  | none => exact ⟨⟨_, rfl⟩, jsonSize_invalidParams _ _⟩
  | some name =>
      dsimp only
      by_cases mutation : isMutation lower name = true
      · rw [if_pos mutation, if_pos mutation]
        exact ⟨⟨_, rfl⟩, jsonSize_mutationRejection _ _⟩
      · rw [if_neg mutation, if_neg mutation]
        by_cases notTool : name ∉ p0Tools
        · rw [if_pos notTool, if_pos notTool]
          exact ⟨⟨_, rfl⟩, jsonSize_unknownMethodRejection _ _⟩
        · rw [if_neg notTool, if_neg notTool]
          cases dictOrEmpty "arguments" params with
          | none => exact ⟨⟨_, rfl⟩, jsonSize_invalidParams _ _⟩
          | some args => exact rfl

theorem hasSize_dispatchMeta
    (msgId : Json) (method : Text) (params : Fields) :
    (dispatchMeta lower method params msgId).HasSize callTool msgId
      (if method = text "initialize" then 33 + jsonSize initializeResult
       else if method = text "tools/list" then 33 + jsonSize toolsList
       else if method = text "tools/call" then
         callSize lower callTool params
       else unknownSize method) := by
  rw [dispatchMeta]
  split_ifs
  · exact ⟨⟨_, rfl⟩, jsonSize_resultResponse _ _⟩
  · exact ⟨⟨_, rfl⟩, jsonSize_resultResponse _ _⟩
  · exact hasSize_routeToolsCall msgId params
  · exact ⟨⟨_, rfl⟩, jsonSize_unknownMethodRejection _ _⟩

theorem hasSize_dispatchMethod
    (msgId : Json) (method : Text) (members : Fields) :
    (dispatchMethod lower msgId method members).HasSize callTool msgId
      (methodSize lower callTool method members) := by
  rw [dispatchMethod, methodSize]
  by_cases mutation : isMutation lower method = true
  · rw [if_pos mutation, if_pos mutation]
    exact ⟨⟨_, rfl⟩, jsonSize_mutationRejection _ _⟩
  · rw [if_neg mutation, if_neg mutation]
    cases dictOrEmpty "params" members with
    | none => exact ⟨⟨_, rfl⟩, jsonSize_invalidParams _ _⟩
    | some params => exact hasSize_dispatchMeta msgId method params

theorem hasSize_route (members : Fields) :
    (route lower members).HasSize callTool (messageId members)
      (answerSize lower callTool members) := by
  rw [route, answerSize]
  by_cases version : isJsonRpc members = false
  · rw [if_pos version, if_pos version]
    exact ⟨⟨_, rfl⟩, jsonSize_invalidRequest _ _⟩
  · rw [if_neg version, if_neg version]
    cases nonEmptyString (getOrNone (text "method") members) with
    | none => exact ⟨⟨_, rfl⟩, jsonSize_invalidRequest _ _⟩
    | some method =>
        dsimp only
        cases carriesId members with
        | false => exact trivial
        | true => exact hasSize_dispatchMethod _ _ _

theorem hasSize_toolAnswer
    (msgId : Json) (name : Text) (outcome : Except ToolError Fields) :
    match toolAnswer msgId name outcome with
    | .ok response =>
        HasSize response (jsonSize msgId + toolSize name outcome)
    | .error error =>
        HasSize (internalError msgId error)
          (jsonSize msgId + toolSize name outcome) := by
  have six : SixCharacters (-32601) ∧ SixCharacters (-32603) := by
    constructor <;> (rw [SixCharacters]; decide)
  cases outcome with
  | error error =>
      cases error with
      | method message failReason status =>
          exact ⟨⟨_, rfl⟩, jsonSize_errorResponse six.1 _ _ _ _ _⟩
      | other typeName message =>
          exact ⟨⟨_, rfl⟩, jsonSize_errorResponse six.2 _ _ _ _ _⟩
  | ok outcome =>
      rw [toolAnswer, toolSize]
      cases asciiDumps (.obj outcome) with
      | none => exact ⟨⟨_, rfl⟩, jsonSize_errorResponse six.2 _ _ _ _ _⟩
      | some rendered =>
          refine ⟨⟨_, rfl⟩, ?_⟩
          rw [jsonSize_resultResponse]
          have keys : literalSize (text "content") = 9 ∧
              literalSize (text "type") = 6 ∧
              literalSize (text "text") = 6 ∧
              literalSize (text "isError") = 9 := by
            decide
          cases toolAnswer.isSuccess outcome <;>
            (simp only [jsonSize, membersSize, itemsSize, Bool.not_true,
              Bool.not_false, if_true, Bool.false_eq_true, if_false]
             omega)

theorem hasSize_answer
    {members : Fields} {response : Json}
    (answered : answer lower callTool members = some response) :
    HasSize response (jsonSize (messageId members) +
      answerSize lower callTool members) := by
  have sized := @hasSize_route lower callTool members
  rw [answer, dispatch] at answered
  cases routed : route lower members with
  | silent =>
      rw [routed] at answered
      cases answered
  | reply reply =>
      rw [routed] at answered sized
      cases answered
      exact sized
  | call name args =>
      rw [routed] at answered sized
      have tool := hasSize_toolAnswer (messageId members) name
        (callTool name args)
      rw [show toolSize name (callTool name args) = _ from sized] at tool
      cases called : toolAnswer (messageId members) name
          (callTool name args) with
      | error error =>
          rw [called] at tool
          simp only [called, Except.map] at answered
          cases answered
          exact tool
      | ok response =>
          rw [called] at tool
          simp only [called, Except.map] at answered
          cases answered
          exact tool

end

/-! ## Frame errors -/

/-- The bytes of the answer to a frame error. -/
def frameErrorSize (error : FrameError) : Nat :=
  165 + 2 * literalSize error.message +
    2 * literalSize error.failReason.value

theorem hasSize_frameErrorResponse (error : FrameError) :
    HasSize (frameErrorResponse error) (frameErrorSize error) := by
  refine ⟨⟨_, rfl⟩, ?_⟩
  have prefixed : literalSize (text "frame error: " ++ error.message) =
      13 + literalSize error.message := by
    have both := literalSize_append (text "frame error: ") error.message
    have front : literalSize (text "frame error: ") = 15 := by
      decide
    omega
  have code : textSize (intText
      (if error.failReason = .tooLarge then -32600 else -32700)) = 6 := by
    split_ifs <;> rfl
  have keys : literalSize (text "jsonrpc") = 9 ∧
      literalSize (text "2.0") = 5 ∧ literalSize (text "id") = 4 ∧
      literalSize (text "error") = 7 ∧ literalSize (text "code") = 6 ∧
      literalSize (text "message") = 9 ∧ literalSize (text "data") = 6 ∧
      literalSize (text "schema_version") = 16 ∧
      literalSize (text "McpError/v1") = 13 ∧
      literalSize (text "fail_reason") = 13 ∧
      literalSize (text "read_only") = 11 ∧
      literalSize (text "note") = 6 ∧
      literalSize (text "status") = 8 := by
    decide
  simp only [frameErrorResponse, jsonSize, membersSize, prefixed, code,
    frameErrorSize]
  omega

end ScientificResourceLab.Mcp
