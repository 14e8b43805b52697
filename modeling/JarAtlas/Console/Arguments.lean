/-
Command lines.

A command line names a command, its operands and options.  An option is given
by a long name or by one letter; letters of options without a value can be
joined.  A value follows its option as the next word, after an equals sign, or
directly after a letter.  After a bare pair of hyphens every word is an
operand.  Each option is given at most once before the command and once after
it, and the one after the command counts.  Of two faults, or of a fault and a
call for help, the first to be met decides.
-/
import JarAtlas.Model.Part
import JarAtlas.Text.Split

namespace JarAtlas
namespace Console

structure OptionRule where
  name : String
  letter : Option Char
  takesValue : Bool
  deriving DecidableEq, Repr

structure GivenOption where
  name : String
  value : String
  deriving DecidableEq, Repr

inductive Refusal where
  | usage
  | help
  deriving DecidableEq, Repr

structure Words where
  options : List GivenOption
  operands : List String
  deriving DecidableEq, Repr

namespace Words

def empty : Words := ⟨[], []⟩

def addOption (words : Words) (name value : String) : Except Refusal Words :=
  if words.options.any (·.name = name) then .error .usage
  else .ok { words with options := words.options ++ [⟨name, value⟩] }

def addOperand (words : Words) (operand : String) : Words :=
  { words with operands := words.operands ++ [operand] }

def value? (words : Words) (name : String) : Option String :=
  (words.options.find? (·.name = name)).map (·.value)

def has (words : Words) (name : String) : Bool :=
  (words.value? name).isSome

end Words

/-- An option whose value is still to come, and the start of the value when it
is attached to the option. -/
structure Waiting where
  name : String
  attached : Option (List Char)
  deriving DecidableEq, Repr

inductive Reading where
  | separator
  | operand
  | options (words : Words) (waiting : Option Waiting)
  deriving DecidableEq, Repr

def readLetters (rules : List OptionRule) (words : Words) :
    List Char → Except Refusal Reading
  | [] => .ok (.options words none)
  | letter :: rest =>
    match rules.find? (·.letter = some letter) with
    | none => .error .usage
    | some rule =>
      if rule.name = "help" then .error .help
      else if rule.takesValue then
        match rest with
        | [] => .ok (.options words (some ⟨rule.name, none⟩))
        | '=' :: value => .ok (.options words (some ⟨rule.name, some value⟩))
        | value => .ok (.options words (some ⟨rule.name, some value⟩))
      else
        match words.addOption rule.name "" with
        | .ok more => readLetters rules more rest
        | .error refusal => .error refusal

def readLong (rules : List OptionRule) (words : Words) (name : List Char)
    (attached : Option (List Char)) : Except Refusal Reading :=
  match rules.find? (·.name.toList = name) with
  | none => .error .usage
  | some rule =>
    if rule.takesValue then .ok (.options words (some ⟨rule.name, attached⟩))
    else if attached.isSome then .error .usage
    else if rule.name = "help" then .error .help
    else (words.addOption rule.name "").map fun more => .options more none

def readWord (rules : List OptionRule) (words : Words) (word : String) :
    Except Refusal Reading :=
  match word.toList with
  | ['-', '-'] => .ok .separator
  | '-' :: '-' :: long =>
    match cutAtFirst? '=' long with
    | some (name, value) => readLong rules words name (some value)
    | none => readLong rules words long none
  | ['-'] => .ok .operand
  | '-' :: letters => readLetters rules words letters
  | _ => .ok .operand

def canFollow (word : String) : Bool :=
  match word.toList with
  | ['-'] => true
  | '-' :: _ => false
  | _ => true

/-- How the words of a line are to be read: the options there are, the values
an option can have, and whether a word can be the next operand. -/
structure LineRules where
  options : List OptionRule
  isValue : String → String → Bool
  isOperand : Words → String → Bool

/-- Reads words up to the end, or up to and with the first operand when
`onlyFirst` holds; the words after it are left.  Faults and calls for help are
met in the order of the words. -/
def readWords (rules : LineRules) (onlyFirst : Bool) (words : Words) :
    List String → Except Refusal (Words × List String)
  | [] => .ok (words, [])
  | word :: rest =>
    match readWord rules.options words word with
    | .error refusal => .error refusal
    | .ok .separator =>
      if onlyFirst then .error .usage
      else (readOperands rules words rest).map fun more => (more, [])
    | .ok .operand =>
      if rules.isOperand words word then
        if onlyFirst then .ok (words.addOperand word, rest)
        else readWords rules onlyFirst (words.addOperand word) rest
      else .error .usage
    | .ok (.options words none) => readWords rules onlyFirst words rest
    | .ok (.options words (some ⟨name, some value⟩)) =>
      if rules.isValue name (String.ofList value) then
        match words.addOption name (String.ofList value) with
        | .ok more => readWords rules onlyFirst more rest
        | .error refusal => .error refusal
      else .error .usage
    | .ok (.options words (some ⟨name, none⟩)) =>
      match rest with
      | [] => .error .usage
      | value :: after =>
        if canFollow value && rules.isValue name value then
          match words.addOption name value with
          | .ok more => readWords rules onlyFirst more after
          | .error refusal => .error refusal
        else .error .usage
where
  readOperands (rules : LineRules) (words : Words) : List String → Except Refusal Words
    | [] => .ok words
    | word :: rest =>
      if rules.isOperand words word then readOperands rules (words.addOperand word) rest
      else .error .usage

/-! ### Commands -/

inductive OutputFormat where
  | json
  | text
  deriving DecidableEq, Repr

def OutputFormat.ofName? : String → Option OutputFormat
  | "json" => some json
  | "text" => some text
  | _ => none

structure AnalyzeOrder where
  archive : String
  namespaceText : Option String
  save : Bool
  format : OutputFormat
  output : Option String
  deriving DecidableEq, Repr

inductive Command where
  | analyze (order : AnalyzeOrder)
  | display (projectId : String) (part : ModelPart)
  | list
  | stats
  | clear
  deriving DecidableEq, Repr

structure Invocation where
  command : Command
  store : Option String
  deriving DecidableEq, Repr

def globalRules : List OptionRule :=
  [⟨"db", none, true⟩, ⟨"verbose", some 'v', false⟩, ⟨"help", some 'h', false⟩]

def analyzeRules : List OptionRule :=
  [⟨"namespace", some 'n', true⟩, ⟨"save", none, false⟩, ⟨"format", some 'f', true⟩,
   ⟨"output", some 'o', true⟩]

def showRules : List OptionRule :=
  [⟨"part", none, true⟩]

def isValue (option value : String) : Bool :=
  match option with
  | "db" => value ≠ ""
  | "output" => value ≠ ""
  | "format" => (OutputFormat.ofName? value).isSome
  | "part" => (ModelPart.ofName? value).isSome
  | _ => true

def isOnlyOperand (words : Words) (_ : String) : Bool :=
  words.operands.isEmpty

def isArchiveOperand (words : Words) (word : String) : Bool :=
  words.operands.isEmpty && word ≠ ""

def isNoOperand (_ : Words) (_ : String) : Bool :=
  false

def analyzeOf (words : Words) : Except Refusal Command :=
  match words.operands with
  | [archive] =>
    .ok (.analyze
      { archive
        namespaceText := words.value? "namespace"
        save := words.has "save"
        format := ((words.value? "format").bind OutputFormat.ofName?).getD .json
        output := words.value? "output" })
  | _ => .error .usage

def showOf (words : Words) : Except Refusal Command :=
  match words.operands with
  | [projectId] =>
    .ok (.display projectId (((words.value? "part").bind ModelPart.ofName?).getD .all))
  | _ => .error .usage

structure CommandRules where
  line : LineRules
  commandOf : Words → Except Refusal Command

def CommandRules.make (options : List OptionRule) (isOperand : Words → String → Bool)
    (commandOf : Words → Except Refusal Command) : CommandRules :=
  ⟨⟨globalRules ++ options, isValue, isOperand⟩, commandOf⟩

def commandNamed? : String → Option CommandRules
  | "analyze" => some (.make analyzeRules isArchiveOperand analyzeOf)
  | "show" => some (.make showRules isOnlyOperand showOf)
  | "list" => some (.make [] isNoOperand fun _ => .ok .list)
  | "stats" => some (.make [] isNoOperand fun _ => .ok .stats)
  | "clear" => some (.make [] isNoOperand fun _ => .ok .clear)
  | _ => none

/-- What `help` answers with the words after it: help on the whole or on one
command, itself included. -/
def helpOn : List String → Refusal
  | [] => .help
  | [topic] => if topic = "help" || (commandNamed? topic).isSome then .help else .usage
  | _ => .usage

def outerRules : LineRules :=
  ⟨globalRules, isValue, isOnlyOperand⟩

def Invocation.ofArguments (arguments : List String) : Except Refusal Invocation := do
  let (before, rest) ← readWords outerRules true .empty arguments
  match before.operands with
  | ["help"] => .error (helpOn rest)
  | [name] =>
    match commandNamed? name with
    | none => .error .usage
    | some rules =>
      let (after, _) ← readWords rules.line false .empty rest
      let command ← rules.commandOf after
      return ⟨command, (after.value? "db").or (before.value? "db")⟩
  | _ => .error .usage

end Console
end JarAtlas
