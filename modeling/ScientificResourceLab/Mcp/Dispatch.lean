import ScientificResourceLab.Mcp.Server
import ScientificResourceLab.Python.Patterns
import ScientificResourceLab.Python.Printing

/-!
# The dispatcher of `srl.mcp`

`McpServer.dispatch`: the three meta-methods, the refusal of methods that
would run or change something, and the answers that carry errors.  What the
seven tools do is a parameter, and so is `str.lower`.
-/

namespace ScientificResourceLab.Mcp

open Python Contracts

/-- The members of a dict. -/
abbrev Fields := List (Text × Json)

/-! ## `json.dumps` -/

/-- The default separators, with `ensure_ascii` and the constants. -/
def defaultLayout : Layout where
  escape := asciiPoint
  join := joinCommaBlank
  colon := text ": "
  float value := some (jsonFloat value)

/-- `json.dumps(value, sort_keys=True)`; `none` is its `ValueError`. -/
def asciiDumps (value : Json) : Option Text :=
  writeText defaultLayout value

/-! ## Responses -/

/-- `_result_response`. -/
def resultResponse (msgId result : Json) : Json :=
  .obj [(text "jsonrpc", .str (text "2.0")), (text "id", msgId),
    (text "result", result)]

/-- `_typed_error_data`, without `extra`. -/
def typedErrorData (failReason note status : Text) : Json :=
  .obj ([(text "schema_version", .str (text "McpError/v1")),
    (text "fail_reason", .str failReason),
    (text "read_only", .bool true)] ++
    (if note = [] then [] else [(text "note", .str note)]) ++
    (if status = [] then [] else [(text "status", .str status)]))

/-- `_error_response` with data. -/
def errorResponse (msgId : Json) (code : Int) (message : Text)
    (data : Json) : Json :=
  .obj [(text "jsonrpc", .str (text "2.0")), (text "id", msgId),
    (text "error", .obj [(text "code", .int code),
      (text "message", .str message), (text "data", data)])]

/-- `P0_TOOLS`. -/
def p0Tools : List Text :=
  [text "list_capabilities", text "inspect_capability",
    text "validate_claim", text "build_plan", text "inspect_run",
    text "search_knowledge", text "build_export_packet"]

/-- `_MUTATION_TOKENS`. -/
def mutationTokens : List Text :=
  [text "run", text "execute", text "exec", text "mutate",
    text "mutation", text "write", text "create", text "delete",
    text "destroy", text "update", text "patch", text "post", text "put",
    text "materialize", text "stage", text "seal", text "commit",
    text "submit", text "schedule", text "spawn", text "launch",
    text "install", text "deploy"]

/-- The names of the meta-methods. -/
def metaMethods : List Text :=
  [text "initialize", text "tools/list", text "tools/call"]

/-- `_is_mutation`. -/
def isMutation (lower : Text → Text) (name : Text) : Bool :=
  let lowered := lower name
  if lowered ∈ metaMethods then false
  else if lowered ∈ p0Tools then false
  else
    (words (lowered.map fun point =>
      if isSeparator point then codePoint ' ' else point)).any
      fun part => part ∈ mutationTokens
where
  /-- The code points that `_is_mutation` replaces by a blank. -/
  isSeparator (point : CodePoint) : Bool :=
    point = codePoint '/' || point = codePoint '.' ||
      point = codePoint '_'

/-- `_mutation_rejection`. -/
def mutationRejection (msgId : Json) (what : Text) : Json :=
  errorResponse msgId (-32601)
    (what ++ text " is not available (read-only server)")
    (typedErrorData (text "METHOD_NOT_FOUND")
      (text "this MCP server is read-only; run/execute/mutate methods " ++
        text "are refused (JSON-RPC -32601)")
      (text "METHOD_NOT_FOUND"))

/-- `_unknown_method_rejection`. -/
def unknownMethodRejection (msgId : Json) (method : Text) : Json :=
  errorResponse msgId (-32601) (text "unknown method " ++ quoted method)
    (typedErrorData (text "METHOD_NOT_FOUND")
      (text "unknown method " ++ quoted method) (text "METHOD_NOT_FOUND"))

/-- `_invalid_request`. -/
def invalidRequest (msgId : Json) (note : Text) : Json :=
  errorResponse msgId (-32600) note
    (typedErrorData (text "INVALID_REQUEST") note (text "INVALID_REQUEST"))

/-- `_invalid_params`. -/
def invalidParams (msgId : Json) (note : Text) : Json :=
  errorResponse msgId (-32602) note
    (typedErrorData (text "INVALID_PARAMS") note (text "INVALID_PARAMS"))

/-! ## Meta-methods -/

/-- `_handle_initialize`. -/
def initializeResult : Json :=
  .obj [(text "protocolVersion", .str (text "2025-06-18")),
    (text "capabilities", .obj [(text "tools", .obj [])]),
    (text "serverInfo", .obj [(text "name", .str (text "srl-mcp")),
      (text "version", .str (text "1.0.1"))])]

/-- A member of `_TOOL_INPUT_SCHEMAS`. -/
def inputSchema (properties : List (String × String))
    (required : List String) : Json :=
  .obj ([(text "type", .str (text "object")),
    (text "properties", .obj (properties.map fun property =>
      (text property.1, .obj [(text "type", .str (text property.2))])))] ++
    (if required = [] then []
      else [(text "required", .arr (required.map fun name =>
        .str (text name)))]) ++
    [(text "additionalProperties", .bool false)])

/-- A tool as `tools/list` shows it. -/
def toolDescriptor (name description : String) (schema : Json) : Json :=
  .obj [(text "name", .str (text name)),
    (text "description", .str (text description)),
    (text "inputSchema", schema)]

/-- `_handle_tools_list`. -/
def toolsList : Json :=
  .obj [(text "tools", .arr
    [toolDescriptor "list_capabilities"
      "List the shipped capability catalog entries (read-only)."
      (inputSchema [] []),
    toolDescriptor "inspect_capability"
      "Inspect one catalog entry by profile (read-only)."
      (inputSchema [("profile", "string")] ["profile"]),
    toolDescriptor "validate_claim"
      "Validate a ScientificClaim/v1 (schema + invariants, read-only)."
      (inputSchema [("claim", "object")] ["claim"]),
    toolDescriptor "build_plan"
      "Build a ScienceLabPlan/v1 from a request + claim (read-only)."
      (inputSchema [("request", "object"), ("claim", "object")]
        ["request", "claim"]),
    toolDescriptor "inspect_run"
      "Inspect a RunReceipt/v1 (read-only; never executes)."
      (inputSchema [("receipt", "object"), ("receipt_path", "string")] []),
    toolDescriptor "search_knowledge"
      ("Search a declared knowledge endpoint (read-only; offline by " ++
        "default).")
      (inputSchema [("endpoint_id", "string"), ("path", "string"),
        ("params", "object")] ["endpoint_id"]),
    toolDescriptor "build_export_packet"
      ("Build an export packet (stubbed: typed WAIT_CAPABILITY; exporter " ++
        "lands in WP-I80).")
      (inputSchema [("plan_id", "string")] [])])]

/-- What a tool raises. -/
inductive ToolError where
  /-- `McpMethodError`. -/
  | method (message failReason status : Text)
  | other (typeName message : Text)

/-- The answer to a tool that was called. -/
def toolAnswer (msgId : Json) (name : Text) :
    Except ToolError Fields → Except PyError Json
  | .error (.method message failReason status) =>
      .ok (errorResponse msgId (-32601) message
        (typedErrorData failReason message
          (if status = [] then text "INVALID" else status)))
  | .error (.other typeName message) =>
      .ok (errorResponse msgId (-32603)
        (text "tool " ++ quoted name ++ text " raised an internal error")
        (typedErrorData (text "INTERNAL")
          (typeName ++ text ": " ++ message) (text "INTERNAL")))
  | .ok outcome =>
      match asciiDumps (.obj outcome) with
      | none => .error (raised .valueError
          "Exceeds the limit (4300 digits) for integer string conversion")
      | some rendered =>
          .ok (resultResponse msgId (.obj
            [(text "content", .arr [.obj
              [(text "type", .str (text "text")),
                (text "text", .str rendered)]]),
              (text "isError", .bool (!isSuccess outcome))]))
where
  /-- `outcome.get("status") == "SUCCESS"`. -/
  isSuccess (outcome : Fields) : Bool :=
    match Json.lookup (text "status") outcome with
    | some (.str status) => status = text "SUCCESS"
    | _ => false

/-- The dict at a key, where an absent key and `None` stand for `{}`. -/
def dictOrEmpty (key : String) (members : Fields) : Option Fields :=
  match getOrNone (text key) members with
  | .null => some []
  | .obj inner => some inner
  | _ => none

def nonEmptyString : Json → Option Text
  | .str [] => none
  | .str value => some value
  | _ => none

/-! ## Routing -/

section

variable (lower : Text → Text)
variable (callTool : Text → Fields → Except ToolError Fields)

/-- What the dispatcher decides before a tool runs. -/
inductive Route where
  /-- A notification, which gets no response. -/
  | silent
  | reply (response : Json)
  /-- The call of a tool. -/
  | call (name : Text) (args : Fields)

/-- `_handle_tools_call`, up to the call of the tool. -/
def routeToolsCall (msgId : Json) (params : Fields) : Route :=
  match nonEmptyString (getOrNone (text "name") params) with
  | none => .reply (invalidParams msgId
      (text "tools/call requires a 'name' string"))
  | some name =>
      if isMutation lower name then
        .reply (mutationRejection msgId (text "method " ++ quoted name))
      else if name ∉ p0Tools then
        .reply (unknownMethodRejection msgId name)
      else
        match dictOrEmpty "arguments" params with
        | none => .reply (invalidParams msgId
            (text "tools/call 'arguments' must be an object"))
        | some args => .call name args

/-- `_dispatch_meta` on a request. -/
def dispatchMeta (method : Text) (params : Fields) (msgId : Json) :
    Route :=
  if method = text "initialize" then
    .reply (resultResponse msgId initializeResult)
  else if method = text "tools/list" then
    .reply (resultResponse msgId toolsList)
  else if method = text "tools/call" then
    routeToolsCall lower msgId params
  else .reply (unknownMethodRejection msgId method)

/-- A request with a method name, from the refusal of mutations on. -/
def dispatchMethod (msgId : Json) (method : Text) (members : Fields) :
    Route :=
  if isMutation lower method then
    .reply (mutationRejection msgId (text "method " ++ quoted method))
  else
    match dictOrEmpty "params" members with
    | none => .reply (invalidParams msgId
        (text "'params' must be an object"))
    | some params => dispatchMeta lower method params msgId

/-- `"id" in message`. -/
def carriesId (members : Fields) : Bool :=
  (Json.lookup (text "id") members).isSome

/-- `message.get("id")`. -/
def messageId (members : Fields) : Json :=
  getOrNone (text "id") members

/-- `message.get("jsonrpc") == "2.0"`. -/
def isJsonRpc (members : Fields) : Bool :=
  match Json.lookup (text "jsonrpc") members with
  | some (.str version) => version = text "2.0"
  | _ => false

/-- `McpServer.dispatch`, up to the call of a tool. -/
def route (members : Fields) : Route :=
  if isJsonRpc members = false then
    .reply (invalidRequest (messageId members)
      (text "not a JSON-RPC 2.0 message"))
  else
    match nonEmptyString (getOrNone (text "method") members) with
    | none => .reply (invalidRequest (messageId members)
        (text "missing or non-string 'method'"))
    | some method =>
        if carriesId members then
          dispatchMethod lower (messageId members) method members
        else .silent

/-- `McpServer.dispatch`. -/
def dispatch (members : Fields) : Except PyError (Option Json) :=
  match route lower members with
  | .silent => .ok none
  | .reply response => .ok (some response)
  | .call name args =>
      (toolAnswer (messageId members) name (callTool name args)).map some

/-- The answer to an exception of the dispatcher. -/
def internalError (msgId : Json) (error : PyError) : Json :=
  errorResponse msgId (-32603) (text "internal error: " ++ error.message)
    (typedErrorData (text "INTERNAL")
      (text "ValueError: " ++ error.message) (text "INTERNAL"))

/-- The answer that `serve` gives to a message. -/
def answer (members : Fields) : Option Json :=
  match dispatch lower callTool members with
  | .ok response => response
  | .error error => some (internalError (messageId members) error)

end

end ScientificResourceLab.Mcp
