import ContentForms.TypeScript.Cursor

namespace ContentForms.TypeScript

open Syntax

def isBlank (c : Char) : Bool :=
  let n := c.toNat
  (9 ≤ n && n ≤ 13) || n == 0x20 || n == 0x85 || n == 0xA0 || n == 0x1680 ||
    (0x2000 ≤ n && n ≤ 0x200B) || n == 0x2028 || n == 0x2029 || n == 0x202F || n == 0x205F ||
    n == 0x2060 || n == 0x3000 || n == 0xFEFF

def isLineEnd (c : Char) : Bool :=
  c == '\n' || c == '\r' || c.toNat == 0x2028 || c.toNat == 0x2029

-- The ASCII characters that no name holds.
def separators : List Char :=
  [':', ';', '\x60', '"', '\'', '@', '#', '.', ',', '|', '^', '&', '<', '=', '>', '+', '-', '*',
    '/', '\\', '%', '?', '!', '~', '(', ')', '[', ']', '\x7b', '\x7d']

def isWordPart (c : Char) : Bool :=
  0x20 < c.toNat && !isBlank c && !separators.contains c

def isWordStart (c : Char) : Bool := isWordPart c && !c.isDigit

def isHexDigit (c : Char) : Bool :=
  c.isDigit || ('a' ≤ c && c ≤ 'f') || ('A' ≤ c && c ≤ 'F')

-- The length of a code escape in a name: four digits, or any number of them in braces.
def codeEscapeLength? (cs : List Char) : Option Nat :=
  match cs with
  | '\\' :: 'u' :: '\x7b' :: rest =>
      let digits := rest.takeWhile isHexDigit
      if digits.isEmpty then none
      else match rest.drop digits.length with
        | '\x7d' :: _ => some (digits.length + 4)
        | _ => none
  | '\\' :: 'u' :: a :: b :: c :: d :: _ =>
      if [a, b, c, d].all isHexDigit then some 6 else none
  | _ => none

def wordRestLength : Nat → List Char → Nat
  | 0, _ => 0
  | _ + 1, [] => 0
  | steps + 1, c :: rest =>
      if isWordPart c then wordRestLength steps rest + 1
      else match codeEscapeLength? (c :: rest) with
        | some length => wordRestLength steps ((c :: rest).drop length) + length
        | none => 0

def wordLength (cs : List Char) : Nat :=
  match cs with
  | [] => 0
  | c :: rest =>
      if isWordStart c then wordRestLength rest.length rest + 1
      else match codeEscapeLength? cs with
        | some length => wordRestLength cs.length (cs.drop length) + length
        | none => 0

def lineCommentLength (cs : List Char) : Nat :=
  (cs.takeWhile fun c => !isLineEnd c && c.toNat != 0).length

-- The length of a text up to and with the mark that closes a comment.
def blockCommentLength? : List Char → Option Nat
  | [] => none
  | '*' :: '/' :: _ => some 2
  | _ :: rest => (blockCommentLength? rest).map (· + 1)

def commentLength? (cs : List Char) : Option Nat :=
  match cs with
  | '/' :: '/' :: rest => some (lineCommentLength rest + 2)
  | '/' :: '*' :: rest => (blockCommentLength? rest).map (· + 2)
  | _ => none

-- Blanks and comments from a cursor on, and the cursor after them.
def triviaFrom : Nat → Cursor → Siblings × Cursor
  | 0, cursor => ([], cursor)
  | steps + 1, cursor =>
      match cursor.rest with
      | [] => ([], cursor)
      | c :: rest =>
          if isBlank c then triviaFrom steps (cursor.past c rest)
          else match commentLength? cursor.rest with
            | some length =>
                let stop := cursor.skip length
                let (after, last) := triviaFrom steps stop
                (cursor.nodeTo stop "comment" true [] :: after, last)
            | none => ([], cursor)

-- Passes blanks and comments, and gives the comments.
def trivia : Reader Siblings := fun cursor => some (triviaFrom (cursor.left + 1) cursor)

-- Whether a line ends between here and the next token.
def lineEndsBefore (cursor : Cursor) : Bool :=
  let (_, next) := triviaFrom (cursor.left + 1) cursor
  next.row != cursor.row

-- What is left of the text at the next token.
def upcoming : Reader (List Char) := fun cursor =>
  some ((triviaFrom (cursor.left + 1) cursor).2.rest, cursor)

def fail : Reader α := fun _ => none

def guardThat (condition : Bool) : Reader Unit := if condition then pure () else fail

def take (kind : String) (named : Bool) (length : Nat) : Reader Siblings := fun cursor =>
  let stop := cursor.skip length
  some ([cursor.nodeTo stop kind named []], stop)

-- A token of a computed length after comments; length zero means that there is none.
def token (kind : String) (named : Bool) (length : List Char → Nat) : Reader Siblings := do
  let comments ← trivia
  let here ← get
  let count := length here.rest
  guardThat (count != 0)
  return comments ++ (← take kind named count)

-- The marks of the language, longer ones before their beginnings.
def marks : List (List Char) :=
  [">>>=", "...", "===", "!==", "**=", "<<=", ">>=", ">>>", "&&=", "||=", "??=", "=>", "==", "!=",
    "<=", ">=", "&&", "||", "??", "?.", "++", "--", "+=", "-=", "*=", "/=", "%=", "&=", "|=", "^=",
    "<<", ">>", "**"].map String.toList

def startsWith (cs beginning : List Char) : Bool := beginning.isPrefixOf cs

-- The mark at the front of a text. `?.` before a digit is a question mark and a fraction.
def markAt (cs : List Char) : List Char :=
  match cs with
  | '?' :: '.' :: c :: _ => if c.isDigit then ['?'] else ['?', '.']
  | _ => (marks.find? (startsWith cs)).getD (cs.take 1)

-- A mark that is not the beginning of a longer one.
def mark (text : String) : Reader Siblings :=
  token text false fun cs => if markAt cs = text.toList then text.length else 0

-- The characters of a mark, whatever follows them.
def exactly (text : String) : Reader Siblings :=
  token text false fun cs => if startsWith cs text.toList then text.length else 0

-- The words of the language are read as words; the rule that asks decides whether one is a name.
def word (text : String) : Reader Siblings :=
  token text false fun cs =>
    if startsWith cs text.toList ∧ wordLength cs = text.length then text.length else 0

def wordAt (cs : List Char) : String := String.ofList (cs.take (wordLength cs))

-- Words that begin a value. A word that can begin nothing where it stands is a name there.
def valueWords : List String :=
  ["class", "delete", "false", "function", "import", "new", "null", "super", "this", "true",
    "typeof", "void"]

-- Words that begin a statement, and so no expression that is one.
def statementWords : List String :=
  ["break", "const", "continue", "debugger", "do", "enum", "export", "for", "if", "return",
    "switch", "throw", "try", "var", "while", "with"]

def nameAs (kind : String) : Reader Siblings :=
  token kind true fun cs => if valueWords.contains (wordAt cs) then 0 else wordLength cs

def identifier : Reader Siblings := nameAs "identifier"

def anyWordAs (kind : String) : Reader Siblings := token kind true wordLength

-- A name that only its class can use.
def privateName : Reader Siblings :=
  token "private_property_identifier" true fun cs =>
    match cs with
    | '#' :: rest => if wordLength rest = 0 then 0 else wordLength rest + 1
    | _ => 0

def countWhile (test : Char → Bool) (cs : List Char) : Nat := (cs.takeWhile test).length

def isDigitOrBreak (c : Char) : Bool := c.isDigit || c == '_'

def exponentLength (cs : List Char) : Nat :=
  match cs with
  | mark :: rest =>
      if mark = 'e' ∨ mark = 'E' then
        let sign := match rest with
          | '+' :: _ => 1
          | '-' :: _ => 1
          | _ => 0
        let digits := countWhile isDigitOrBreak (rest.drop sign)
        if digits = 0 then 0 else digits + sign + 1
      else 0
  | [] => 0

-- The length of a decimal number: digits, a fraction, an exponent, the mark of a big integer.
def decimalLength (cs : List Char) : Nat :=
  let whole := countWhile isDigitOrBreak cs
  match cs.drop whole with
  | '.' :: rest =>
      let part := countWhile isDigitOrBreak rest
      if whole = 0 ∧ part = 0 then 0
      else whole + 1 + part + exponentLength (rest.drop part)
  | 'n' :: _ => if whole = 0 then 0 else whole + 1
  | rest => if whole = 0 then 0 else whole + exponentLength rest

def numberLength (cs : List Char) : Nat :=
  let based (rest : List Char) : Nat :=
    let digits := countWhile (fun c => isHexDigit c || c == '_') rest
    2 + digits + (match rest.drop digits with
      | 'n' :: _ => 1
      | _ => 0)
  match cs with
  | '0' :: c :: rest =>
      if "xXoObB".toList.contains c then based rest else decimalLength cs
  | c :: _ => if c.isDigit || c == '.' then decimalLength cs else 0
  | [] => 0

def number : Reader Siblings := token "number" true numberLength

def escapeLength (cs : List Char) : Nat :=
  match cs with
  | '\\' :: 'x' :: _ => 4
  | '\\' :: 'u' :: '\x7b' :: rest => countWhile isHexDigit rest + 4
  | '\\' :: 'u' :: _ => 6
  | '\\' :: '\r' :: '\n' :: _ => 3
  | '\\' :: c :: rest =>
      if '0' ≤ c ∧ c ≤ '7' then
        1 + ((c :: rest).take 3 |> countWhile fun d => '0' ≤ d && d ≤ '7')
      else 2
  | _ => 0

def stringPieces (quote : Char) : Nat → Reader Siblings
  | 0 => fail
  | steps + 1 => do
      let here ← get
      match here.rest with
      | [] => fail
      | c :: _ =>
          if c = quote then take (String.singleton quote) false 1
          else if c = '\\' then
            let escape ← take "escape_sequence" true (escapeLength here.rest)
            return escape ++ (← stringPieces quote steps)
          else
            let length := countWhile
              (fun d => d != quote && d != '\\' && d != '\n' && d != '\r' && d.toNat != 0) here.rest
            guardThat (length != 0)
            let fragment ← take "string_fragment" true length
            return fragment ++ (← stringPieces quote steps)

-- The length of the pattern of a regular expression; a slash inside a class does not close it.
def patternLength? : Bool → List Char → Option Nat
  | _, [] => none
  | inClass, '\\' :: c :: rest =>
      if isLineEnd c then none else (patternLength? inClass rest).map (· + 2)
  | inClass, c :: rest =>
      if isLineEnd c then none
      else if inClass then (patternLength? (c != ']') rest).map (· + 1)
      else if c = '/' then some 0
      else (patternLength? (c == '[') rest).map (· + 1)

end ContentForms.TypeScript
