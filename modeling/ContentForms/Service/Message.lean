import ContentForms.Json.Value
import ContentForms.Text.Utf8

namespace ContentForms.Service

structure Request where
  method : String
  -- The path and what follows it, as it is sent.
  target : String
  headers : List (String × String)
  body : List UInt8

structure Response where
  status : Nat
  contentType : String
  body : String

namespace Request

-- Names of headers count in any case.
def header? (request : Request) (name : String) : Option String :=
  let lowered (text : String) : String := String.ofList (text.toList.map Char.toLower)
  (request.headers.find? fun header => lowered header.1 == name).map Prod.snd

-- Methods whose requests say how long they are, even without a body.
def tellsLength (method : String) : Bool := ["POST", "PUT", "PATCH"].contains method

def toldLength? (request : Request) : Option String := request.header? "content-length"

-- The request as a client sends it. A length that is not told yet is added, if there is a body or
-- the method asks for it.
def sent (request : Request) : Request :=
  if request.toldLength?.isSome || (request.body.isEmpty && !tellsLength request.method) then
    request
  else
    { request with
      headers := request.headers ++ [("content-length", toString request.body.length)] }

def hexValue? (c : Char) : Option Nat :=
  if c.isDigit then some (c.toNat - '0'.toNat)
  else if 'a' ≤ c.toLower ∧ c.toLower ≤ 'f' then some (c.toLower.toNat - 'a'.toNat + 10)
  else none

-- The bytes that a path stands for; a percent sign and two digits are one.
def pathBytes : List Char → List UInt8
  | '%' :: a :: b :: rest =>
      match hexValue? a, hexValue? b with
      | some high, some low => UInt8.ofNat (high * 16 + low) :: pathBytes rest
      | _, _ => 37 :: pathBytes (a :: b :: rest)
  | c :: rest => Text.Utf8.encode (String.singleton c) ++ pathBytes rest
  | [] => []

-- The path alone. The empty one is the root.
def path (request : Request) : String :=
  let cs := request.target.toList.takeWhile fun c => c != '?' && c != '#'
  let text := Text.Utf8.decodeLossy (pathBytes cs)
  if text.isEmpty then "/" else text

end Request

def Response.text (status : Nat) (body : String) : Response :=
  ⟨status, "text/plain; charset=utf-8", body⟩

end ContentForms.Service
