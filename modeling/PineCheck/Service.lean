import PineCheck.Report
import PineCheck.Manifest.Basic
import PineCheck.Settings.Resolve
import PineCheck.Schema.Render
/-!
# The request service

The service answers requests, each a mapping with a `request_id` text, an `action` text
and a `payload` mapping. Two actions are known: `lint` lints the text under
`payload.code`, and `validate_manifest` checks the manifest under `payload.manifest`.

Every answer is an envelope that names the request and says whether it succeeded: a
success carries data, an error carries a code and a message. A request that is not a
mapping of the right shape gets an `INTERNAL_ERROR` whose message is the validation text,
under the request's `request_id` if it has one.

The service reads the project's settings file once, before its first lint or manifest
request, and lints with those settings, with any `payload.config` overrides laid over them.
When the settings cannot be resolved at all, every such request fails with
`INTERNAL_ERROR` and the reason.
-/

namespace PineCheck

/-- A well-formed request. -/
structure Request where
  id : String
  action : String
  payload : List (Value × Value)

/-- A required text field of a raw request. -/
def requestText (raw : List (Value × Value)) (key : String) : Except SchemaError String :=
  match Value.find? raw key with
  | none => .error ⟨[.key key], .missing, .object raw⟩
  | some (.str s) => .ok s
  | some v => .error ⟨[.key key], .stringType, v⟩

/-- The payload field of a raw request. -/
def requestPayload (raw : List (Value × Value)) : Except SchemaError (List (Value × Value)) :=
  match Value.find? raw "payload" with
  | none => .error ⟨[.key "payload"], .missing, .object raw⟩
  | some (.object es) => .ok es
  | some v => .error ⟨[.key "payload"], .dictType, v⟩

/-- The errors of a failed check, in field order. -/
def failures : Except SchemaError α → List SchemaError
  | .error e => [e]
  | .ok _ => []

/-- Check the fields of a raw request, reporting every failing field in order. -/
def checkRequest (raw : List (Value × Value)) : Except (List SchemaError) Request :=
  match requestText raw "request_id", requestText raw "action", requestPayload raw with
  | .ok id, .ok action, .ok payload => .ok ⟨id, action, payload⟩
  | i, a, p => .error (failures i ++ failures a ++ failures p)

/-- A successful answer. -/
def successEnvelope (id : Value) (data : Value) : Value :=
  .object [(.str "request_id", id), (.str "type", .str "success"), (.str "data", data)]

/-- A failed answer with its code and message. -/
def errorEnvelope (id : Value) (code message : String) : Value :=
  .object [(.str "request_id", id), (.str "type", .str "error"), (.str "data", .null),
    (.str "error", .object [(.str "code", .str code), (.str "message", .str message)])]

/-- The answer to a lint request, with the service's settings. -/
def lintRequest (base : Settings) (req : Request) : Value :=
  let id := Value.str req.id
  match Value.find? req.payload "code" with
  | some (.str code) =>
    let path := match Value.find? req.payload "path" with
      | some v => if v.isFalsy then "<request>" else v.toText
      | none => "<request>"
    let overrides := match Value.find? req.payload "config" with
      | some v => if v.isFalsy then some [] else
          match v with
          | .object es => some es
          | _ => none
      | none => some []
    match overrides with
    | none => errorEnvelope id "INVALID_CONFIG" "payload.config must be an object"
    | some es =>
      let settings := if es.isEmpty then .ok base else base.merge es
      match settings with
      | .error errs => errorEnvelope id "INVALID_CONFIG" (validationText "LintConfig" errs)
      | .ok s =>
        match Report.ofText s path code with
        | .error u => errorEnvelope id "INTERNAL_ERROR" u.message
        | .ok report =>
          successEnvelope id (.object [(.str "path", .str path), (.str "passed", .bool report.passed),
            (.str "diagnostics", .list (report.diagnostics.map Diagnostic.toValue))])
  | _ => errorEnvelope id "MISSING_CODE" "payload.code must be a string"

/-- The answer to a manifest request. -/
def manifestRequest (req : Request) : Value :=
  let id := Value.str req.id
  match Value.find? req.payload "manifest" with
  | none | some .null => errorEnvelope id "MISSING_MANIFEST" "payload.manifest is required"
  | some m =>
    let problems := manifestProblems m
    successEnvelope id (.object [(.str "valid", .bool problems.isEmpty),
      (.str "errors", .list (problems.map Value.str))])

/-- The answer to one raw request, given the service's settings (or why they could not be
resolved). -/
def answerRequest (settings : Except Uncaught Settings) (raw : Value) : Value :=
  match raw with
  | .object entries =>
    let rawId := (Value.find? entries "request_id").getD (.str "unknown")
    match checkRequest entries with
    | .error errs => errorEnvelope rawId "INTERNAL_ERROR" (validationText "MCPRequest" errs)
    | .ok req =>
      if req.action == "lint" || req.action == "validate_manifest" then
        match settings with
        | .error u => errorEnvelope (.str req.id) "INTERNAL_ERROR" u.message
        | .ok s => if req.action == "lint" then lintRequest s req else manifestRequest req
      else errorEnvelope (.str req.id) "UNKNOWN_ACTION" s!"Unsupported action: {req.action}"
  | other =>
    let kind := other.kindName
    errorEnvelope (.str "unknown") "INTERNAL_ERROR"
      s!"pinelint.models.MCPRequest() argument after ** must be a mapping, not {kind}"

/-- The settings the service works with in a project directory. -/
def serviceSettings (w : Workspace) : Except Uncaught Settings :=
  (resolveSettings w [] none none).map (·.settings)

/-- The answers to a sequence of requests, in order. -/
def answerRequests (w : Workspace) (raws : List Value) : List Value :=
  let settings := serviceSettings w
  raws.map (answerRequest settings)

end PineCheck
