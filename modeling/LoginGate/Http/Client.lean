import LoginGate.Http.Message
import LoginGate.Http.Target

/-!
# Http/Client — what a client sends

A client names a method and a target, gives header fields, and may send a body. The request begins
with the host and with what describes the body; the other fields follow in the order given.
-/

namespace LoginGate.Http

/-- Why a request cannot be sent. -/
inductive ClientFault where
  | badTarget (fault : Target.Fault)
  /-- The value of a field has more than one line. -/
  | brokenField
  deriving DecidableEq, Repr

/-- What a client asks for. -/
structure Order where
  method : String
  target : String
  fields : Fields
  /-- The type of the body; it goes before a type among the fields. -/
  contentType : Option String
  peer : String
  body : List UInt8

namespace Order

/-- The fields given under one name. -/
def named (o : Order) (name : String) : Fields :=
  o.fields.filter fun f => Fields.key f.1 == Fields.key name

/-- The type of the body, if one is stated. -/
def bodyType (o : Order) : Fields :=
  let given := (o.fields.find? fun f => Text.lower f.1.toList == "content-type".toList).map (·.2)
  match o.contentType.or given with
  | some type => if type = "" then [] else [("Content-Type", type)]
  | none => []

/-- The length of the body, if there is one. -/
def bodyLength (o : Order) : Fields :=
  if o.body.isEmpty then [] else [("Content-Length", toString o.body.length)]

/-- The fields that are sent to a host. -/
def sentFields (o : Order) (host : String) : Fields :=
  let reserved := ["Host", "Content-Type", "Content-Length"].map Fields.key
  (match o.named "Host" with
   | [] => [("Host", host)]
   | given => given) ++
    o.bodyType ++ o.bodyLength ++ o.fields.filter fun f => !reserved.contains (Fields.key f.1)

/-- Whether a value has more than one line. -/
def isBroken (value : String) : Bool := value.toList.any fun c => c == '\n' || c == '\r'

/-- **The request of a client.** -/
def request (o : Order) : Except ClientFault Request :=
  match Target.read o.target with
  | .error fault => .error (.badTarget fault)
  | .ok (host, path) =>
    if o.fields.any (fun f => isBroken f.2) || o.contentType.any isBroken then .error .brokenField
    else
      .ok { method := String.ofList (Text.upper o.method.toList), path, fields := o.sentFields host
            peer := o.peer, body := o.body }

end Order
end LoginGate.Http
