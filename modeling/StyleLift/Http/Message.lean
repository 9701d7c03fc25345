import StyleLift.Text.Utf8

/-! # Requests and responses

What a client and a server exchange. The origin of a request is the scheme and the host of the
server that it goes to.
-/
namespace StyleLift.Http

structure Request where
  method : Text
  origin : Text
  target : Text
  contentType : Text
  body : List UInt8
deriving DecidableEq

structure Response where
  status : Nat
  headers : List (Text × Text)
  body : List UInt8
deriving DecidableEq

/-- Whether a header can hold a text: it has no line end. -/
def isHeaderValue (s : Text) : Bool := !s.contains (.char '\n') && !s.contains (.char '\r')

def contentTypeHeader : Text := "Content-Type"

def jsonType : Text := "application/json"

def htmlType : Text := "text/html; charset=utf-8"

end StyleLift.Http
