import LoginGate.Failure
import LoginGate.Http.Fields
import LoginGate.Http.Host
import LoginGate.Http.Parameters
import LoginGate.Json.Encoded

/-!
# Http/Message — requests and responses
-/

namespace LoginGate.Http

/-- A request as it has been received: the path is decoded and starts with one slash. -/
structure Request where
  method : String
  path : String
  fields : Fields
  peer : String
  body : List UInt8

namespace Request

/-- The type of the body: what precedes the parameters, in lower case. -/
def mediaType (r : Request) : String :=
  let value := (r.fields.getText "Content-Type").toList.takeWhile (· ≠ ';')
  String.ofList (Text.lower (Text.trim value))

/-- Whether the body is said to be JSON. -/
def isJson (r : Request) : Bool :=
  let type := r.mediaType.toList
  r.mediaType == "application/json" ||
    ("application/".toList.isPrefixOf type && "+json".toList.isSuffixOf type)

/-- Whether the body comes in chunks; its length is unknown then. -/
def isChunked (r : Request) : Bool :=
  let codings := Text.splitAll ',' (r.fields.getText "Transfer-Encoding").toList
  codings.any fun coding => Text.lower (Text.trim coding) == "chunked".toList

/-- The bytes of the body that are read: none of a body of unknown length. -/
def content (r : Request) : List UInt8 := if r.isChunked then [] else r.body

/-- The mark between the parts of a body; empty if there is none. -/
def boundary (r : Request) : List Char :=
  let parameters := Parameters.ofText (r.fields.getText "Content-Type").toList
  ((parameters.reverse.find? (·.1 == "boundary".toList)).map (·.2)).getD []

/-- Whether the body is a form of fields, which is taken apart on arrival. A form in parts is, if it
says in ASCII what stands between them. -/
def isForm (r : Request) : Bool :=
  r.mediaType == "application/x-www-form-urlencoded" ||
    (r.mediaType == "multipart/form-data" && !r.boundary.isEmpty &&
      r.boundary.all (·.toNat < 0x80))

/-- How many bytes of the body are left after arrival. -/
def remaining (r : Request) : Nat := if r.isForm then 0 else r.content.length

/-- **The document in the body**: an empty one unless there is one that counts as something. -/
def document (r : Request) : Except Failure Json :=
  match if r.isJson then Json.ofBytes r.content else .ok .null with
  | .ok doc => .ok (if doc.isTruthy then doc else .object [])
  | .error .tooDeep => .error .tooDeep
  | .error _ => .ok (.object [])

/-- Whether the host that is asked, apart from its port, can be one. -/
def hasGoodHost (r : Request) : Bool :=
  let host := Text.lower (r.fields.getText "Host").toList
  (Host.domain? (host.takeWhile (· ≠ ':'))).isSome

/-- Whether the connection is to be handed over to a socket, which no endpoint has. -/
def asksForSocket (r : Request) : Bool :=
  let wishes := Text.splitAll ',' (Text.lower (r.fields.getText "Connection").toList)
  wishes.any (fun wish => Text.trim wish == "upgrade".toList) &&
    Text.lower (r.fields.getText "Upgrade").toList == "websocket".toList

/-- What the log calls a request. -/
def line (r : Request) : String := r.method ++ " " ++ r.path

/-- Where a request comes from. -/
def clientAddress (r : Request) : String := r.fields.clientAddress r.peer

end Request

/-- The body of a response. -/
inductive Body where
  | empty
  | json (doc : Json)
  /-- A page for people to read. -/
  | page
  deriving Repr

/-- A response. -/
structure Response where
  status : Int
  fields : Fields
  body : Body
  deriving Repr

namespace Response

/-- A response with a document. -/
def json (status : Int) (doc : Json) : Response :=
  ⟨status, [("Content-Type", "application/json")], .json doc⟩

/-- The type of pages. -/
def pageType : String × String := ("Content-Type", "text/html; charset=utf-8")

/-- A response without content. -/
def empty (status : Int) (fields : Fields) : Response := ⟨status, pageType :: fields, .empty⟩

/-- A response with a page. -/
def page (status : Int) (fields : Fields) : Response := ⟨status, pageType :: fields, .page⟩

/-- The response with more fields. -/
def adding (r : Response) (fields : Fields) : Response := { r with fields := r.fields ++ fields }

/-- The response without its body. -/
def bare (r : Response) : Response := { r with body := .empty }

end Response
end LoginGate.Http
