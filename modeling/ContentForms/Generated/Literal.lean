namespace ContentForms.Generated

-- Puts a text in the place of every occurrence of a character.
def replaced (mark : Char) (replacement text : List Char) : List Char :=
  text.flatMap fun c => if c = mark then replacement else [c]

-- The backslashes of the text are doubled before its quotes get theirs; the other way round, those
-- of the quotes would be doubled too.
def escape (text : List Char) : List Char :=
  replaced '\'' ['\\', '\''] (replaced '\\' ['\\', '\\'] text)

-- Seen from one character to the next, the two replacements put one backslash before each quote and
-- each backslash.
theorem escape_cons (c : Char) (rest : List Char) :
    escape (c :: rest) =
      if c = '\\' ∨ c = '\'' then '\\' :: c :: escape rest else c :: escape rest := by
  by_cases hb : c = '\\'
  · simp [escape, replaced, hb]
  · by_cases hq : c = '\''
    · simp [escape, replaced, hq]
    · simp [escape, replaced, hb, hq]

-- In the other order a quote has two backslashes before it, which leave it free to close a literal.
example : replaced '\\' ['\\', '\\'] (replaced '\'' ['\\', '\''] ['\'']) = ['\\', '\\', '\''] := by
  decide

def quoteChars (text : List Char) : List Char := '\'' :: escape text ++ ['\'']

def quote (text : String) : String := String.ofList (quoteChars text.toList)

-- Reads up to the quote that closes a literal, and gives the text and what follows.
def readRest? : List Char → Option (List Char × List Char)
  | [] => none
  | '\'' :: rest => some ([], rest)
  | '\\' :: c :: rest => (readRest? rest).map fun (text, after) => (c :: text, after)
  | c :: rest =>
      if c = '\\' then none
      else (readRest? rest).map fun (text, after) => (c :: text, after)

def readQuoted? : List Char → Option (List Char × List Char)
  | '\'' :: rest => readRest? rest
  | _ => none

end ContentForms.Generated
