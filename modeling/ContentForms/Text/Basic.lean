namespace ContentForms.Text

def joined (separator : String) : List String → String
  | [] => ""
  | [text] => text
  | text :: rest => text ++ separator ++ joined separator rest

-- The characters with a spacing property, and the four separators among the control characters.
def isBlank (c : Char) : Bool :=
  let n := c.toNat
  (9 ≤ n && n ≤ 13) || (28 ≤ n && n ≤ 32) || n == 0x85 || n == 0xA0 || n == 0x1680 ||
    (0x2000 ≤ n && n ≤ 0x200A) || n == 0x2028 || n == 0x2029 || n == 0x202F || n == 0x205F ||
    n == 0x3000

-- A blank character that does not end a line.
def isInlineBlank (c : Char) : Bool := isBlank c && c != '\n' && c != '\r'

-- The characters with a spacing property alone.
def isSpacing (c : Char) : Bool := isBlank c && !(28 ≤ c.toNat && c.toNat ≤ 31)

def dropRightWhile (test : Char → Bool) (cs : List Char) : List Char :=
  (cs.reverse.dropWhile test).reverse

def trimWith (test : Char → Bool) (cs : List Char) : List Char :=
  dropRightWhile test (cs.dropWhile test)

def trim (cs : List Char) : List Char := trimWith isBlank cs

-- The decimal zeros of all scripts. Each script has its ten digits in a row.
def digitZeros : List Nat := [
  0x30, 0x660, 0x6f0, 0x7c0, 0x966, 0x9e6, 0xa66, 0xae6, 0xb66, 0xbe6, 0xc66, 0xce6, 0xd66, 0xde6,
  0xe50, 0xed0, 0xf20, 0x1040, 0x1090, 0x17e0, 0x1810, 0x1946, 0x19d0, 0x1a80, 0x1a90, 0x1b50,
  0x1bb0, 0x1c40, 0x1c50, 0xa620, 0xa8d0, 0xa900, 0xa9d0, 0xa9f0, 0xaa50, 0xabf0, 0xff10, 0x104a0,
  0x10d30, 0x11066, 0x110f0, 0x11136, 0x111d0, 0x112f0, 0x11450, 0x114d0, 0x11650, 0x116c0,
  0x11730, 0x118e0, 0x11950, 0x11c50, 0x11d50, 0x11da0, 0x16a60, 0x16ac0, 0x16b50, 0x1d7ce,
  0x1d7d8, 0x1d7e2, 0x1d7ec, 0x1d7f6, 0x1e140, 0x1e2f0, 0x1e950, 0x1fbf0]

def digitValue? (c : Char) : Option Nat :=
  (digitZeros.find? fun first => first ≤ c.toNat && c.toNat < first + 10).map (c.toNat - ·)

-- Digits with single breaks between them; `afterDigit` tells whether one may end here.
def magnitude? : List Char → Nat → Bool → Option Nat
  | [], value, afterDigit => if afterDigit then some value else none
  | c :: rest, value, afterDigit =>
      match digitValue? c with
      | some digit => magnitude? rest (value * 10 + digit) true
      | none => if c = '_' ∧ afterDigit then magnitude? rest value false else none

-- A number of more digits than this is not read.
def maxDigits : Nat := 4300

def digits? (cs : List Char) : Option Nat :=
  if (cs.filter (· != '_')).length ≤ maxDigits then magnitude? cs 0 false else none

-- Blanks and a sign may stand before the digits, which are those of any script.
def integer? (text : String) : Option Int :=
  match trim text.toList with
  | '-' :: rest => (digits? rest).map fun n => -(Int.ofNat n)
  | '+' :: rest => (digits? rest).map Int.ofNat
  | cs => (digits? cs).map Int.ofNat

end ContentForms.Text
