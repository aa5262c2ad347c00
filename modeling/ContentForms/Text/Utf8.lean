namespace ContentForms.Text.Utf8

inductive Cause where
  | start | continuation | ended
  deriving DecidableEq, Repr

namespace Cause

def message : Cause → String
  | start => "invalid start byte"
  | continuation => "invalid continuation byte"
  | ended => "unexpected end of data"

end Cause

-- A character, or the longest beginning of one that something else cuts short.
inductive Piece where
  | scalar (c : Char) (length : Nat)
  | fault (length : Nat) (cause : Cause)
  deriving DecidableEq, Repr

namespace Piece

def length : Piece → Nat
  | scalar _ length => length
  | fault length _ => length

end Piece

-- How many bytes follow a first byte, and the bounds of the second one.
def continuations? (first : Nat) : Option (Nat × Nat × Nat) :=
  if first < 0xC2 then none
  else if first ≤ 0xDF then some (1, 0x80, 0xBF)
  else if first = 0xE0 then some (2, 0xA0, 0xBF)
  else if first = 0xED then some (2, 0x80, 0x9F)
  else if first ≤ 0xEF then some (2, 0x80, 0xBF)
  else if first = 0xF0 then some (3, 0x90, 0xBF)
  else if first ≤ 0xF3 then some (3, 0x80, 0xBF)
  else if first = 0xF4 then some (3, 0x80, 0x8F)
  else none

-- The continuation bytes at the front, at most so many. Only the first has bounds of its own.
def continued : Nat → Nat → Nat → List UInt8 → List Nat
  | 0, _, _, _ => []
  | _ + 1, _, _, [] => []
  | count + 1, low, high, b :: rest =>
      if low ≤ b.toNat ∧ b.toNat ≤ high then b.toNat :: continued count 0x80 0xBF rest else []

def leadingBits (first count : Nat) : Nat :=
  match count with
  | 1 => first % 32
  | 2 => first % 16
  | _ => first % 8

def firstPiece (b : UInt8) (rest : List UInt8) : Piece :=
  let first := b.toNat
  if first < 0x80 then .scalar (Char.ofNat first) 1
  else match continuations? first with
    | none => .fault 1 .start
    | some (count, low, high) =>
        let found := continued count low high rest
        if found.length = count then
          .scalar (Char.ofNat (found.foldl (fun code byte => code * 64 + byte % 64)
            (leadingBits first count))) (count + 1)
        else if found.length = rest.length then .fault (found.length + 1) .ended
        else .fault (found.length + 1) .continuation

def pieces : List UInt8 → List Piece
  | [] => []
  | b :: rest =>
      let piece := firstPiece b rest
      piece :: pieces (rest.drop (piece.length - 1))
  termination_by bytes => bytes.length
  decreasing_by simp only [List.length_cons, List.length_drop]; omega

-- The first fault of a text: where it is, how long it is and the byte it begins with.
structure Fault where
  position : Nat
  length : Nat
  first : Nat
  cause : Cause
  deriving DecidableEq, Repr

def hexDigit (n : Nat) : Char := (Nat.toDigits 16 n).headD '0'

def Fault.message (fault : Fault) : String :=
  let place :=
    if fault.length = 1 then
      "byte 0x" ++ String.ofList [hexDigit (fault.first / 16), hexDigit (fault.first % 16)]
        ++ " in position " ++ toString fault.position
    else
      "bytes in position " ++ toString fault.position ++ "-"
        ++ toString (fault.position + fault.length - 1)
  "'utf-8' codec can't decode " ++ place ++ ": " ++ fault.cause.message

def charsFrom (bytes : List UInt8) (position : Nat) : List Piece → Except Fault (List Char)
  | [] => .ok []
  | .scalar c length :: rest => do return c :: (← charsFrom bytes (position + length) rest)
  | .fault length cause :: _ =>
      .error ⟨position, length, ((bytes.drop position).headD 0).toNat, cause⟩

def decode (bytes : List UInt8) : Except Fault String :=
  (charsFrom bytes 0 (pieces bytes)).map String.ofList

-- The text of any bytes, with a replacement character for each fault.
def decodeLossy (bytes : List UInt8) : String :=
  String.ofList ((pieces bytes).map fun piece =>
    match piece with
    | .scalar c _ => c
    | .fault .. => '�')

def encode (text : String) : List UInt8 := text.toUTF8.toList

end ContentForms.Text.Utf8
