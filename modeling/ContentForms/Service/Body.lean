import ContentForms.Json.Reader
import ContentForms.Service.Message
import ContentForms.Text.Basic

namespace ContentForms.Service

inductive BodyFault where
  | missing
  | missingSource (input : Json)
  | notText (input : Json)
  | notObject (input : Json)
  | notJson (position : Nat) (cause : Json.Cause)

namespace BodyFault

-- Kind, place, message and the offending value, with more where there is more to say.
def toJson (fault : BodyFault) : Json :=
  let entry (kind : String) (place : List Json) (message : String) (input : Json)
      (more : List (String × Json)) : Json :=
    .object ([("type", .string kind), ("loc", .array (.string "body" :: place)),
      ("msg", .string message), ("input", input)] ++ more)
  match fault with
  | missing => entry "missing" [] "Field required" .null []
  | missingSource input => entry "missing" [.string "source"] "Field required" input []
  | notText input =>
      entry "string_type" [.string "source"] "Input should be a valid string" input []
  | notObject input =>
      entry "model_attributes_type" []
        "Input should be a valid dictionary or object to extract fields from" input []
  | notJson position cause =>
      entry "json_invalid" [Json.ofNat position] "JSON decode error" (.object [])
        [("ctx", .object [("error", .string cause.message)])]

end BodyFault

-- The type of a body without its parameters, in lower case.
def mediaType (header : String) : List Char :=
  (Text.trim (header.toList.takeWhile (· != ';'))).map Char.toLower

-- What stands behind the slash of a type of applications, if there is one slash.
def applicationType? (header : String) : Option (List Char) :=
  let subtype := (mediaType header).drop "application/".length
  if "application/".toList.isPrefixOf (mediaType header) && !subtype.contains '/' then some subtype
  else none

def isJsonType (header : String) : Bool :=
  match applicationType? header with
  | some subtype => subtype == "json".toList || "+json".toList.isSuffixOf subtype
  | none => false

-- A mark of the byte order in front is no part of the text.
def withoutMark (cs : List Char) : List Char :=
  match cs with
  | c :: rest => if c.toNat = 0xFEFF then rest else cs
  | [] => []

-- The value of a body. One that does not say it is JSON is a text.
def bodyValue (request : Request) : Except BodyFault Json :=
  let text := Text.Utf8.decodeLossy request.body
  if isJsonType ((request.header? "content-type").getD "") then
    let cs := withoutMark text.toList
    match Json.read cs with
    | .ok value => .ok value
    | .error fault => .error (.notJson (cs.length - fault.left) fault.cause)
  else .ok (.string text)

def source (request : Request) : Except BodyFault String :=
  if request.body.isEmpty then .error .missing
  else do
    let value ← bodyValue request
    match value with
    | .null => .error .missing
    | .object _ =>
        match value.member? "source" with
        | none => .error (.missingSource value)
        | some (.string text) => .ok text
        | some other => .error (.notText other)
    | other => .error (.notObject other)

end ContentForms.Service
