import Dataflow.Execution.Error
import Dataflow.Journal.Traced
import Dataflow.Json.Bytes
import Dataflow.Remote.Config
import Dataflow.Text.Base64
import Dataflow.Url.Reader

set_option autoImplicit false

/-! # Clients of a remote runtime

A client posts execution inputs to a remote runtime and reads its results. Credentials are
obtained anew for every request. A request that cannot be made, is not answered, or is
answered with the status of an error is a fault of the connection; an answer that is no result,
or that of another job, is a fault of the result. What a result says is taken as it is.
-/

namespace Dataflow

/-- The body of an answer, which may be no text. -/
structure Response.Body where
  bytes : ByteArray

/-- A text is sent as its bytes. -/
instance : Coe String Response.Body where
  coe s := ⟨s.toUTF8⟩

/-- The answer to a request. -/
structure Response where
  status : Nat
  body : Response.Body

namespace Response

/-- Whether a status is one that ends an exchange. -/
def isFinal (status : Nat) : Bool := status = 101 || (200 ≤ status && status < 1000)

/-- Whether a status is that of an error. -/
def isFailure (status : Nat) : Bool := 400 ≤ status && status < 600

/-- Whether answers with a status have no body. -/
def hasNoBody (status : Nat) : Bool := status = 101 || status = 204 || status = 304

/-- The body of an answer that reports no error. -/
def content? (r : Response) : Option Body :=
  if !isFinal r.status || isFailure r.status then none
  else some (if hasNoBody r.status then ⟨.empty⟩ else r.body)

end Response

/-- Whether a text can be the value of a header: it has no control characters but tabs. -/
def isHeaderValue (s : String) : Bool :=
  s.toList.all fun c => (c.toNat ≥ 0x20 && c.toNat ≠ 0x7f) || c = '\t'

/-- A client of a remote runtime. -/
structure RemoteClient where
  config : RemoteConfig
  /-- Where the runtime is; its path ends in a slash. -/
  baseUrl : Url
  credentials : Credentials
  /-- Sends a request and yields the answer, if there is one. -/
  transport : Request → Option Response

namespace RemoteClient

/-- A fault of the connection. -/
def disconnect {α : Type} (fault : ConnectionFault) : Traced ExecutionError α :=
  Traced.fail (.runtimeConnection fault)

/-- Makes a client. What the program calls itself must be fit for a header. -/
def create (config : RemoteConfig) (credentials : Credentials)
    (transport : Request → Option Response) : Traced ExecutionError RemoteClient :=
  match config.url with
  | none => disconnect .noUrl
  | some text =>
      match Url.parse text with
      | .error fault => disconnect (.invalidUrl fault)
      | .ok url => do
          let baseUrl := url.inDirectory
          Traced.log (.clientRequested (toString baseUrl) (1000 * config.effectiveTimeout))
          if isHeaderValue config.effectiveUserAgent then
            Traced.log (.clientCreated (toString baseUrl))
            return { config, baseUrl, credentials, transport }
          else disconnect .http

/-- The URL of one of the services of the runtime. -/
def endpoint (c : RemoteClient) (name : String) : Traced ExecutionError Url :=
  match c.baseUrl.sibling? name with
  | .ok url => return url
  | .error fault => disconnect (.invalidUrl fault)

/-- The header that carries the credentials. -/
def authorization (c : RemoteClient) : Except ConnectionFault (Option String) :=
  match c.credentials.obtain with
  | .error cause => .error (.noToken cause)
  | .ok none => .ok none
  | .ok (some t) =>
      let value := "Bearer " ++ t
      if isHeaderValue value then .ok (some value) else .error .http

/-- The header for the user name and password of a URL. -/
def basicAuthorization? (url : Url) : Option String :=
  url.credentials?.map fun (name, password) =>
    "Basic " ++ Text.Base64.encodeText (String.ofList (name ++ ':' :: password))

/-- Sends a request and yields the body of the answer. User name and password of the URL go before
other credentials. -/
def exchange (c : RemoteClient) (method : String) (url : Url) (body : Option Json) :
    Traced ExecutionError Response.Body :=
  match c.authorization with
  | .error fault => disconnect fault
  | .ok authorization =>
      if !url.takesRequests then disconnect .http
      else
        let request : Request :=
          { method, url := url.withoutUser
            authorization := (basicAuthorization? url).or authorization
            userAgent := c.config.effectiveUserAgent
            contentType := body.map fun _ => "application/json"
            body := body.map Json.render }
        match c.transport request with
        | none => disconnect .unreachable
        | some response => do
            Traced.leave (.requested request)
            match response.content? with
            | some body => return body
            | none => disconnect .http

/-- What an answer holds; only what the outline names is looked at. -/
def decode {α : Type} (o : Json.Outline) (read : Json → Option α) (body : Response.Body) :
    Except ExecutionError α :=
  match (Json.parseBytes? o body.bytes).bind read with
  | some a => .ok a
  | none => .error (.resultValidation .invalidResponse)

/-- Runs an input on the remote runtime. -/
def run (c : RemoteClient) (x : ExecutionInput) : Traced ExecutionError ExecutionResult := do
  let url ← c.endpoint "runtime"
  Traced.log (.inputPosted (toString url) x.jobId)
  let body ← c.exchange "POST" url (some x.toJson)
  let result ← Traced.ofExcept
    (decode (.record ExecutionResult.parts) ExecutionResult.ofJson? body)
  if result.jobId = x.jobId then return result
  else Traced.fail (.resultValidation (.otherJob result.jobId x.jobId))

/-- Asks the remote runtime what it says about itself. -/
def info (c : RemoteClient) : Traced ExecutionError RuntimeInfo := do
  let url ← c.endpoint "info"
  let body ← c.exchange "GET" url none
  Traced.ofExcept (decode (.ofNames RuntimeInfo.fieldNames) RuntimeInfo.ofJson? body)

end RemoteClient

end Dataflow
