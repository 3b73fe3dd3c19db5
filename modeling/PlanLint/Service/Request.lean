import PlanLint.Service.Options
import PlanLint.Validation

/-! Requests to the service and its answers to them. -/

namespace PlanLint

/-- The body of a request. -/
structure RequestBody where
  contentType : String
  text : List Char

/-- A request to the service. -/
structure Request where
  method : String
  path : String
  body : Option RequestBody

/-- An answer to a request. -/
structure Response where
  status : Nat
  body : Json

/-- Why a request is left without an answer. -/
inductive RequestFault where
  | interrupted (cause : Interruption)
  /-- The answer would have to repeat a number that JSON cannot express. -/
  | inexpressible

/-- What a request body holds. -/
inductive BodyContent where
  | absent
  | value (j : Json)
  /-- A text that is not to be read as JSON. -/
  | plain (text : List Char)

/-- The type of a body without its parameters, in small letters; one without a single slash is plain
text. -/
def mediaType (contentType : String) : List Char × List Char :=
  let type := (trim (contentType.toList.takeWhile (· != ';'))).map Char.toLower
  let main := type.takeWhile (· != '/')
  if type.count '/' == 1 then (main, type.drop (main.length + 1)) else ("text".toList, "plain".toList)

/-- Whether a body of a type is read as JSON. -/
def isJsonType (contentType : String) : Bool :=
  let (main, sub) := mediaType contentType
  main == "application".toList && (sub == "json".toList || "+json".toList.isSuffixOf sub)

/-- The content of a body; a mark of the byte order in front of JSON does not count. -/
def RequestBody.content (body : RequestBody) : Except JsonError BodyContent :=
  if body.text.isEmpty then .ok .absent
  else if isJsonType body.contentType then
    -- Unlike in a file, the mark is no fault here.
    let text := match body.text with
      | '\ufeff' :: rest => rest
      | text => text
    (Json.parse (some longestNumber) text).map .value
  else .ok (.plain body.text)

/-- A place in a request: names of parts and positions. -/
abbrev Location := List Json

/-- A fault of a request, as it is reported. -/
def requestFault (kind : String) (location : Location) (message : String) (input : Json)
    (context : List (String × Json)) : Json :=
  .obj ([("type", .str kind), ("loc", .arr location), ("msg", .str message), ("input", input)] ++
    if context.isEmpty then [] else [("ctx", .obj context)])

/-- An answer that explains itself. -/
def detailed (status : Nat) (detail : Json) : Response := ⟨status, .obj [("detail", detail)]⟩

/-- An answer that refuses a request for one fault, if it can be expressed. -/
def refused (fault : Json) : Except RequestFault Response :=
  -- The input is repeated in the answer, where JSON has no word for what is not finite.
  if fault.isFinite then .ok (detailed 422 (.arr [fault])) else .error .inexpressible

/-- The text to validate in the content of a body, or the fault of the body. -/
def contentText (content : BodyContent) : Except Json (List Char) :=
  let body := Json.str "body"
  let notObject (input : Json) := requestFault "model_attributes_type" [body]
    "Input should be a valid dictionary or object to extract fields from" input []
  match content with
  | .absent => .error (requestFault "missing" [body] "Field required" .null [])
  | .plain text => .error (notObject (.str (String.ofList text)))
  | .value (.obj members) =>
    match (Json.obj members).get? "content" with
    | some (.str text) => .ok text.toList
    | some other =>
      .error (requestFault "string_type" [body, .str "content"] "Input should be a valid string" other [])
    | none =>
      .error (requestFault "missing" [body, .str "content"] "Field required" (.obj members) [])
  | .value other => .error (notObject other)

/-- The number of bytes of a text in UTF-8. -/
def byteCount (text : List Char) : Nat := text.foldl (fun count c => count + c.utf8Size) 0

/-- A position as it is reported. -/
def Position.json (p : Position) : Json := .obj [("line", .int p.line), ("character", .int p.character)]

/-- The word for a severity. -/
def Severity.text : Severity → String
  | .error => "error"
  | .warning => "warning"

/-- A finding as it is reported. -/
def Diagnostic.json (d : Diagnostic) : Json :=
  .obj [("range", .obj [("start", d.range.start.json), ("end", d.range.stop.json)]),
    ("message", .str d.message), ("severity", .str d.severity.text), ("source", .str d.source)]

/-- A result as it is reported. -/
def ValidationResult.json (r : ValidationResult) : Json :=
  .obj [("valid", .bool r.valid), ("diagnostics", .arr (r.diagnostics.map Diagnostic.json)),
    ("error_count", .int r.errors.length), ("warning_count", .int r.warnings.length)]

/-- The answer to a text: it is refused if it has too many bytes, and validated otherwise. -/
def answerText (options : ServiceOptions) (text : List Char) : Except RequestFault Response :=
  -- The size is checked before anything is read.
  if byteCount text > options.sizeLimit then
    .ok (detailed 413 (.str ("Document exceeds " ++ decimalText options.sizeLimit ++ " bytes")))
  else match validate text options.allowsRepeated with
    | .error cause => .error (.interrupted cause)
    | .ok result => .ok ⟨200, result.json⟩

/-- The answer to the body of a request for validation. -/
def answerBody (options : ServiceOptions) (body : Option RequestBody) : Except RequestFault Response :=
  match (body.map RequestBody.content).getD (.ok .absent) with
  -- Too long a number is refused by the reader as a whole, without a place.
  | .error ⟨.tooManyDigits _, _⟩ => .ok (detailed 400 (.str "There was an error parsing the body"))
  | .error e =>
    refused (requestFault "json_invalid" [.str "body", .int e.position] "JSON decode error" (.obj [])
      [("error", .str e.fault.message)])
  | .ok content =>
    match contentText content with
    | .error fault => refused fault
    | .ok text => answerText options text

/-- Some texts as a JSON array. -/
def jsonStrings (texts : List String) : Json := .arr (texts.map .str)

/-- The keys and the fixed choices, as they are published. -/
def schemaJson : Json :=
  .obj [("source", .str diagnosticSource), ("top_level_keys", jsonStrings topLevelKeys),
    ("lifecycle_hooks", jsonStrings lifecycleHooks), ("monitor_types", jsonStrings monitorTypes),
    ("http_methods", jsonStrings httpMethods),
    ("pending_release_strategies", jsonStrings pendingReleaseStrategies),
    ("deletion_propagations", jsonStrings deletionPropagations), ("version_pattern", .str versionPattern)]

/-- The answer to a request. -/
def respond (options : ServiceOptions) (request : Request) : Except RequestFault Response :=
  -- The path decides before the method does.
  let allow (method : String) (answer : Except RequestFault Response) : Except RequestFault Response :=
    if request.method == method then answer else .ok (detailed 405 (.str "Method Not Allowed"))
  match request.path with
  | "/api/validate" => allow "POST" (answerBody options request.body)
  | "/api/schema" => allow "GET" (.ok ⟨200, schemaJson⟩)
  | "/api/health" => allow "GET" (.ok ⟨200, .obj [("status", .str "ok")]⟩)
  | _ => .ok (detailed 404 (.str "Not Found"))

end PlanLint
