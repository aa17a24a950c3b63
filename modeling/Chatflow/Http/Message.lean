import Chatflow.Metrics
import Chatflow.Schema.Check
import Chatflow.Text.Blank
import Chatflow.Text.Encoding
import Chatflow.Value.Reader
import Chatflow.Value.Writable

/-! Requests and responses. The names of headers are the same in capital and in small letters. -/

namespace Chatflow.Http

structure Request where
  method : String
  /-- The path, in which percent signs stand before the codes of bytes. -/
  path : String
  query : List (String × String) := []
  headers : List (String × String) := []
  body : String := ""
  peer : Option String := none
deriving Repr

inductive Content where
  | document (v : Value)
  | plain (s : String)
  | metrics (families : List MetricFamily)
deriving Repr

structure Response where
  status : Nat
  content : Content
  /-- The id of the request, told back. -/
  requestId : Option String := none
deriving Repr

/-- Why the body of a request holds no document. -/
inductive BodyError where
  /-- The bytes are no text in the encoding they seem to have. -/
  | noText
  | noDocument (error : JsonError)
deriving Repr, DecidableEq

namespace Request

def header? (r : Request) (name : String) : Option String :=
  (r.headers.find? fun header => header.1.toLower == name).map (·.2)

/-- The last value of a query. -/
def query? (r : Request) (name : String) : Option String :=
  (r.query.reverse.find? fun entry => entry.1 == name).map (·.2)

def isJsonType (contentType : String) : Bool :=
  let plain := (Text.trim ((Text.split ';' contentType).headD "")).toLower
  match Text.split '/' plain with
  | ["application", kind] => kind == "json" || kind.endsWith "+json"
  | _ => false

def document (r : Request) : Except BodyError Value :=
  match Text.decodeDocument? (Text.utf8 r.body) with
  | none => .error .noText
  | some text => (Value.ofJson text).mapError .noDocument

/-- What the body of a request holds. The body of a request that does not say that it is a document is a mere
text; an empty body holds nothing. -/
def content? (r : Request) : Except BodyError (Option Value) :=
  if r.body = "" then .ok none
  else if ((r.header? "content-type").map isJsonType).getD false then r.document.map some
  else .ok (some (.str r.body))

end Request

namespace Response

def ofDocument (v : Value) (status : Nat := 200) : Response := ⟨status, .document v, none⟩

def ofText (s : String) (status : Nat := 200) : Response := ⟨status, .plain s, none⟩

/-- A response that says what is the matter. -/
def detail (status : Nat) (v : Value) : Response := .ofDocument (.obj [("detail", v)]) status

/-- A response that says in a sentence what is the matter. -/
def refusal (status : Nat) (reason : String) : Response := .detail status (.str reason)

/-- A response that lists the issues of a request. -/
def unprocessable (issues : List Schema.Issue) : Response :=
  .detail 422 (.list (issues.map Schema.Issue.toValue))

def isWritable (response : Response) : Bool :=
  match response.content with
  | .document v => v.isWritable
  | .plain s => !Text.holdsHalf s
  | .metrics _ => true

def answering (response : Response) (r : Request) : Response :=
  { response with requestId := (r.header? "x-request-id").filter (· != "") }

end Response

end Chatflow.Http
