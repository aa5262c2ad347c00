import ContentForms.Text.Basic
import ContentForms.Text.Quoted

namespace ContentForms.CommandLine

open Text (joined quoted)

inductive Action where
  | help
  | flag
  -- Takes a value of the named type.
  | value (type : String) (accepts : String → Bool)

structure OptionRule where
  names : List String
  action : Action

namespace OptionRule

def title (rule : OptionRule) : String := joined "/" rule.names

-- The name under which it is found: its longest.
def key (rule : OptionRule) : String := rule.names.getLast?.getD ""

end OptionRule

-- What may stand besides options.
inductive Operand where
  | none
  | one (name : String)
  -- One of some words, with all arguments after it.
  | command (name : String) (choices : List String)

structure Grammar where
  program : String
  usage : String
  help : String
  options : List OptionRule
  operand : Operand

inductive Stop where
  | help
  | fault (message : String)
  deriving DecidableEq, Repr

-- What an argument that looks like an option is.
structure Match where
  rule : Option OptionRule
  -- The name that was found for it.
  name : String
  -- The value that stands in the same argument.
  explicit : Option String

inductive Mark where
  | operand
  -- Two dashes: all that follows are operands.
  | dashes
  | option (found : Match)

structure Item where
  text : String
  mark : Mark

namespace Item

def isOption (item : Item) : Bool :=
  match item.mark with
  | .option _ => true
  | _ => false

def isOperand (item : Item) : Bool :=
  match item.mark with
  | .operand => true
  | _ => false

def isDashes (item : Item) : Bool :=
  match item.mark with
  | .dashes => true
  | _ => false

end Item

namespace Grammar

def rule? (grammar : Grammar) (name : String) : Option OptionRule :=
  grammar.options.find? fun rule => rule.names.contains name

def names (grammar : Grammar) : List String := grammar.options.flatMap OptionRule.names

def splitAtEquals (text : String) : String × Option String :=
  let cs := text.toList
  let front := cs.takeWhile (· != '=')
  match cs.drop front.length with
  | [] => (text, none)
  | _ :: rest => (String.ofList front, some (String.ofList rest))

def isLong (name : String) : Bool :=
  match name.toList with
  | '-' :: '-' :: _ => true
  | _ => false

-- An option may be shortened as long as it is clear which one is meant.
def candidates (grammar : Grammar) (text : String) : List Match :=
  let found (name : String) (explicit : Option String) : Match :=
    ⟨grammar.rule? name, name, explicit⟩
  if isLong text then
    let (front, explicit) := splitAtEquals text
    (grammar.names.filter fun name => front.toList.isPrefixOf name.toList).map (found · explicit)
  else
    grammar.names.filterMap fun name =>
      if name.toList = text.toList.take 2 then
        some (found name (some (String.ofList (text.toList.drop 2))))
      else if text.toList.isPrefixOf name.toList then some (found name none)
      else none

def isNegativeNumber (text : String) : Bool :=
  let isDigit (c : Char) : Bool := (Text.digitValue? c).isSome
  match text.toList with
  | '-' :: rest =>
      let whole := rest.takeWhile isDigit
      match rest.drop whole.length with
      | [] => !whole.isEmpty
      | '.' :: fraction => !fraction.isEmpty && fraction.all isDigit
      | _ => false
  | _ => false

-- Whether an argument is an option, and which.
def classifyDashed (grammar : Grammar) (text : String) : Except Stop Mark :=
  let (front, explicit) := splitAtEquals text
  match grammar.rule? text, explicit.bind fun _ => grammar.rule? front with
  | some rule, _ => .ok (.option ⟨some rule, text, none⟩)
  | none, some rule => .ok (.option ⟨some rule, front, explicit⟩)
  | none, none =>
      match grammar.candidates text with
      | [found] => .ok (.option found)
      | [] =>
          if isNegativeNumber text ∨ text.toList.contains ' ' then .ok .operand
          else .ok (.option ⟨none, text, none⟩)
      | many =>
          .error (.fault ("ambiguous option: " ++ text ++ " could match "
            ++ joined ", " (many.map Match.name)))

def classify (grammar : Grammar) (text : String) : Except Stop Mark :=
  match text.toList with
  | '-' :: _ :: _ => grammar.classifyDashed text
  | _ => .ok .operand

-- All arguments are looked at before any is used.
def items (grammar : Grammar) : List String → Except Stop (List Item)
  | [] => .ok []
  | "--" :: rest => .ok (⟨"--", .dashes⟩ :: rest.map (⟨·, .operand⟩))
  | text :: rest => do
      let mark ← grammar.classify text
      return ⟨text, mark⟩ :: (← grammar.items rest)

end Grammar

structure Findings where
  -- The options with their values, by their keys.
  options : List (String × String) := []
  operand : Option (List String) := none
  extras : List String := []

namespace Findings

def last? (findings : Findings) (key : String) : Option String :=
  ((findings.options.filter fun found => found.1 == key).getLast?).map Prod.snd

def has (findings : Findings) (key : String) : Bool := (findings.last? key).isSome

end Findings

namespace Grammar

def refuse (rule : OptionRule) (message : String) : Except Stop α :=
  .error (.fault ("argument " ++ rule.title ++ ": " ++ message))

def operandCount (operand : Operand) (items : List Item) : Nat :=
  let dashes := items.takeWhile Item.isDashes
  match items.drop dashes.length with
  | [] => 0
  | item :: rest =>
      if item.isOperand then
        match operand with
        | .none => 0
        | .one _ => dashes.length + 1 + (rest.takeWhile Item.isDashes).length
        | .command .. => items.length
      else 0

-- The values of an operand. Two dashes are not one, unless a command was wanted there.
def takeOperand (operand : Operand) (texts : List String) : Except Stop (List String) :=
  match operand with
  | .command name choices =>
      let given := texts.headD ""
      if choices.contains given then .ok texts
      else .error (.fault ("argument " ++ name ++ ": invalid choice: " ++ quoted given
        ++ " (choose from " ++ joined ", " (choices.map quoted) ++ ")"))
  | _ => .ok (texts.erase "--")

def recordValue (rule : OptionRule) (type : String) (accepts : String → Bool) (value : String)
    (findings : Findings) : Except Stop Findings :=
  if accepts value then
    .ok { findings with options := findings.options ++ [(rule.key, value)] }
  else refuse rule ("invalid " ++ type ++ " value: " ++ quoted value)

-- Letters after a short option are short options too.
def checkCluster (grammar : Grammar) (rule : OptionRule) : List Char → Except Stop Unit
  | [] => .ok ()
  | c :: rest =>
      match grammar.rule? (String.ofList ['-', c]) with
      | some next => grammar.checkCluster next rest
      | none => refuse rule ("ignored explicit argument " ++ quoted (String.ofList (c :: rest)))

def perform (rule : OptionRule) (findings : Findings) : Except Stop Findings :=
  match rule.action with
  | .help => .error .help
  | _ => .ok { findings with options := findings.options ++ [(rule.key, "")] }

def takeOption (grammar : Grammar) (found : Match) (text : String) (rest : List Item)
    (findings : Findings) : Except Stop (Findings × List Item) :=
  match found.rule with
  | none => .ok ({ findings with extras := findings.extras ++ [text] }, rest)
  | some rule =>
      match rule.action, found.explicit with
      | .value type accepts, some value => do
          return (← recordValue rule type accepts value findings, rest)
      | .value type accepts, none =>
          match rest with
          | [] => refuse rule "expected one argument"
          | item :: after =>
              if item.isOperand then do
                return (← recordValue rule type accepts item.text findings, after)
              else refuse rule "expected one argument"
      | _, none => do return (← perform rule findings, rest)
      | _, some value =>
          if isLong found.name ∨ value.isEmpty then
            refuse rule ("ignored explicit argument " ++ quoted value)
          else do
            grammar.checkCluster rule value.toList
            return (← perform rule findings, rest)

-- The operand at the front of the items, if it is still wanted.
def takeFront (grammar : Grammar) (items : List Item) (findings : Findings) :
    Except Stop (Findings × List Item) :=
  let count := if findings.operand.isNone then operandCount grammar.operand items else 0
  if count = 0 then .ok (findings, items)
  else do
    let taken ← takeOperand grammar.operand ((items.take count).map Item.text)
    return ({ findings with operand := some taken }, items.drop count)

-- Operands and options by turns, as long as there are options. Each round takes an item.
def consume (grammar : Grammar) : Nat → List Item → Findings → Except Stop Findings
  | 0, _, findings => .ok findings
  | rounds + 1, items, findings =>
      let before := items.takeWhile (!·.isOption)
      match items.drop before.length with
      | [] => do
          let (findings, left) ← grammar.takeFront items findings
          return { findings with extras := findings.extras ++ left.map Item.text }
      | item :: rest => do
          let (taken, left) ← grammar.takeFront items findings
          if left.length < items.length then grammar.consume rounds left taken
          else
            let passed := { findings with extras := findings.extras ++ before.map Item.text }
            match item.mark with
            | .option found =>
                let (next, after) ← grammar.takeOption found item.text rest passed
                grammar.consume rounds after next
            | _ => .ok passed

-- Reads arguments. An operand that is wanted has to be there in the end.
def read (grammar : Grammar) (arguments : List String) : Except Stop Findings := do
  let items ← grammar.items arguments
  let findings ← grammar.consume (items.length + 1) items {}
  match grammar.operand, findings.operand with
  | .one name, none | .command name _, none =>
      .error (.fault ("the following arguments are required: " ++ name))
  | _, _ => return findings

end Grammar

end ContentForms.CommandLine
