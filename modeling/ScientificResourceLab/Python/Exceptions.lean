import ScientificResourceLab.Python.Json
import ScientificResourceLab.Python.Printable

/-!
# Raised exceptions

An exception is its class and its message.  The classes are those that the
modelled code raises or lets through; the handlers of the source select by
class, so the subclass relation that matters to them is given by
`ErrorKind.isContractError`, `ErrorKind.isValueError` and
`ErrorKind.isOsError`.
-/

namespace ScientificResourceLab.Python

/-- The class of an exception. -/
inductive ErrorKind where
  | contractError
  | artifactRefError
  | numericContractError
  | localCacheError
  | snapshotMismatchError
  | catalogError
  | snapshotError
  | storeIntegrityError
  | canonicalJsonError
  | selfHashError
  | identityError
  | timestampError
  | contractValidationError
  | spoolError
  | transportRefusalError
  | descriptorError
  | quotaExceededError
  | casIntegrityError
  | storeError
  | storeWaitError
  | schedulerError
  | materializationError
  | sealerError
  | packIntegrityError
  | planError
  | resourceAdmissionError
  | futureProfileRegistryError
  | resourceEstimateError
  | mcpMethodError
  | laneError
  | pathOwnershipError
  | scopeViolation
  | receiptError
  | admissionError
  | evidenceAxisError
  | sharedContractError
  | sanitizerRefusalError
  | exporterError
  | oversizePacketError
  | decimalPolicyError
  | unitError
  | smtError
  | packManifestError
  | licenseError
  | environmentFactoryError
  | unsupportedOperatorError
  | irResourceLimitError
  | profileInvariantError
  | transformationInvariantError
  | unsupportedFeatureError
  | remoteRoutingError
  | leanFormalError
  | marketBridgeError
  | orphanDetectedError
  | networkPolicyError
  | resourceLimitError
  | retrievalTimeoutError
  | rateLimitedError
  | frameError
  | jsonDecodeError
  | valueError
  | typeError
  | keyError
  | indexError
  | attributeError
  | unicodeEncodeError
  | unicodeDecodeError
  | overflowError
  | recursionError
  | runtimeError
  | invalidOperation
  | decimalOverflow
  | fileNotFoundError
  | fileExistsError
  | permissionError
  | osError
  | external
  deriving DecidableEq, Repr

/-- A raised exception. -/
structure PyError where
  kind : ErrorKind
  message : Text
  deriving DecidableEq

/-- An exception with a literal message. -/
def raised (kind : ErrorKind) (message : String) : PyError :=
  ⟨kind, text message⟩

/-- `ContractError` and its subclasses. -/
def ErrorKind.isContractError : ErrorKind → Bool
  | .contractError | .artifactRefError | .numericContractError
  | .localCacheError | .snapshotMismatchError | .catalogError
  | .snapshotError | .storeIntegrityError
  | .canonicalJsonError | .selfHashError | .identityError
  | .timestampError | .contractValidationError | .spoolError
  | .transportRefusalError | .descriptorError | .quotaExceededError
  | .casIntegrityError | .storeError | .storeWaitError
  | .schedulerError | .materializationError | .sealerError
  | .packIntegrityError | .planError | .resourceAdmissionError
  | .futureProfileRegistryError
  | .receiptError | .admissionError | .evidenceAxisError
  | .sharedContractError | .sanitizerRefusalError | .exporterError
  | .oversizePacketError | .decimalPolicyError | .unitError
  | .smtError | .packManifestError | .licenseError
  | .environmentFactoryError | .unsupportedOperatorError
  | .irResourceLimitError | .profileInvariantError
  | .transformationInvariantError | .unsupportedFeatureError
  | .remoteRoutingError | .leanFormalError | .marketBridgeError => true
  | _ => false

/-- A `ContractError`. -/
def ContractFailure (error : PyError) : Prop :=
  error.kind.isContractError = true

/-- Subclasses of `ValueError`, of which `ContractError` is one. -/
def ErrorKind.isValueError (kind : ErrorKind) : Bool :=
  kind.isContractError || kind = .valueError || kind = .jsonDecodeError ||
    kind = .unicodeEncodeError || kind = .unicodeDecodeError ||
    kind = .laneError || kind = .pathOwnershipError ||
    kind = .scopeViolation || kind = .networkPolicyError ||
    kind = .resourceLimitError || kind = .retrievalTimeoutError ||
    kind = .rateLimitedError || kind = .resourceEstimateError ||
    kind = .orphanDetectedError

/-- Subclasses of `OSError`. -/
def ErrorKind.isOsError : ErrorKind → Bool
  | .fileNotFoundError | .fileExistsError | .permissionError
  | .osError => true
  | _ => false

/-- The lowest hexadecimal digits of a number. -/
def hexDigits (count value : Nat) : Text :=
  (List.range count).map fun index =>
    hexPoint (value >>> (4 * (count - 1 - index)) % 16)

/-- One code point inside the `repr` of a string. -/
def reprPoint (quote point : CodePoint) : Text :=
  if point = quote ∨ point = codePoint '\\' then [codePoint '\\', point]
  else if point = codePoint '\t' then text "\\t"
  else if point = codePoint '\n' then text "\\n"
  else if point = codePoint '\r' then text "\\r"
  else if CodePoint.isPrintable point then [point]
  else if point.val < 0x100 then text "\\x" ++ hexDigits 2 point.val
  else if point.val < 0x10000 then text "\\u" ++ hexDigits 4 point.val
  else text "\\U" ++ hexDigits 8 point.val

/-- `repr` of a string as it stands in a message. -/
def quoted (value : Text) : Text :=
  let quote :=
    if codePoint '\'' ∈ value ∧ codePoint '"' ∉ value then codePoint '"'
    else codePoint '\''
  quote :: (value.flatMap (reprPoint quote) ++ [quote])

/-! ## Subscripts -/

/-- The members of a value that is subscripted with a string. -/
def subscripted : Json → Except PyError (List (Text × Json))
  | .obj members => .ok members
  | .arr _ => .error (raised .typeError
      "list indices must be integers or slices, not str")
  | .str _ => .error (raised .typeError
      "string indices must be integers, not 'str'")
  | other => .error ⟨.typeError,
      text "'" ++ typeName other ++ text "' object is not subscriptable"⟩

/-- `members[key]`. -/
def getItem (key : String) (members : List (Text × Json)) :
    Except PyError Json :=
  match Json.lookup (text key) members with
  | some value => .ok value
  | none => .error ⟨.keyError, quoted (text key)⟩

end ScientificResourceLab.Python
