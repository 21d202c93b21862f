import TreeTypes.CommandLine.Options
import TreeTypes.Text.Split

/-!
# Scanning arguments

The arguments up to the first word that is no value are scanned for options. An option is written
behind two dashes or as a letter behind one; letters may be put together, and a value may be joined
to its option. Scanning stops at the first argument that is wrong or that asks for help or for the
version, so that of two such arguments the first decides.
-/

namespace TreeTypes.CommandLine

/-- An option as it was given. An option without a value has the empty one. -/
structure Occurrence where
  option : OptionName
  value : String
  deriving DecidableEq, Repr

/-- Why scanning stopped early. -/
inductive Stop where
  | usage (error : UsageError)
  | help
  | version
  deriving DecidableEq, Repr

/-- An argument by itself. -/
inductive Token where
  | long (name : String) (value : Option String)
  | letters (letters : List Char)
  /-- Two dashes, behind which there are no options. -/
  | divider
  | word (text : String)
  deriving DecidableEq, Repr

/-- The token that an argument is. -/
def Token.ofArgument (argument : String) : Token :=
  match argument.toList with
  | ['-', '-'] => .divider
  | '-' :: '-' :: cs =>
    match Text.splitOnce '=' cs with
    | some (name, value) => .long (String.ofList name) (some (String.ofList value))
    | none => .long (String.ofList cs) none
  | '-' :: c :: cs => .letters (c :: cs)
  | _ => .word argument

/-- What has been scanned: the options so far, and the one whose value comes next. -/
structure Progress where
  found : List Occurrence := []
  pending : Option OptionName := none
  deriving DecidableEq, Repr

/-- What the arguments of a command say: its options, and what follows them. -/
structure Scanned where
  found : List Occurrence
  rest : List String
  deriving DecidableEq, Repr

namespace Progress

/-- Add an occurrence of an option. -/
def record (found : List Occurrence) (option : OptionName) (value : String) :
    Except Stop Progress :=
  match option with
  | .help => .error .help
  | .version => .error .version
  | option =>
    if !option.accepts value then .error (.usage (.invalidValue option value))
    else if !option.isRepeatable && found.any (·.option == option) then
      .error (.usage (.repeatedOption option))
    else .ok { found := found ++ [⟨option, value⟩] }

/-- The options so far, provided that none waits for its value. -/
def settled (progress : Progress) : Except Stop (List Occurrence) :=
  match progress.pending with
  | some option => .error (.usage (.missingValue option))
  | none => .ok progress.found

/-- Scan an option behind two dashes. -/
def long (options : List OptionName) (found : List Occurrence) (name : String)
    (value : Option String) : Except Stop Progress :=
  match options.find? (·.long == name), value with
  | none, _ => .error (.usage (.unknownOption ("--" ++ name)))
  | some option, none =>
    if option.takesValue then .ok { found, pending := some option } else record found option ""
  | some option, some value =>
    if option.takesValue then record found option value
    else .error (.usage (.unexpectedValue option))

/-- Scan letters behind one dash. What follows the letter of an option with a value is the value. -/
def letters (options : List OptionName) (found : List Occurrence) :
    List Char → Except Stop Progress
  | [] => .ok { found }
  | c :: cs =>
    match options.find? (·.letter? == some c) with
    | none => .error (.usage (.unknownOption (String.ofList ['-', c])))
    | some option =>
      if option.takesValue then
        match cs with
        | [] => .ok { found, pending := some option }
        | '=' :: value => record found option (String.ofList value)
        | value => record found option (String.ofList value)
      else do
        let progress ← record found option ""
        letters options progress.found cs

/-- Scan arguments. Behind a divider every argument is a word that no command takes. -/
def scan (options : List OptionName) (progress : Progress) :
    List String → Except Stop Scanned
  | [] => do return ⟨← progress.settled, []⟩
  | argument :: rest =>
    match Token.ofArgument argument, progress.pending with
    | .word value, some option => do
      let next ← record progress.found option value
      scan options next rest
    | .word _, none => .ok ⟨progress.found, argument :: rest⟩
    | .divider, _ => do
      let found ← progress.settled
      match rest with
      | [] => return ⟨found, []⟩
      | word :: _ => throw (.usage (.unexpectedWord word))
    | .long name value, _ => do
      let next ← long options (← progress.settled) name value
      scan options next rest
    | .letters cs, _ => do
      let next ← letters options (← progress.settled) cs
      scan options next rest

end Progress

/-- Scan the arguments of a command that has these options. -/
def scan (options : List OptionName) (arguments : List String) : Except Stop Scanned :=
  Progress.scan options {} arguments

/-- The values of an option, in order. -/
def valuesOf (found : List Occurrence) (option : OptionName) : List String :=
  (found.filter (·.option == option)).map (·.value)

/-- The value of an option that is given once. -/
def valueOf? (found : List Occurrence) (option : OptionName) : Option String :=
  (valuesOf found option).head?

/-- Whether an option is given. -/
def isGiven (found : List Occurrence) (option : OptionName) : Bool :=
  found.any (·.option == option)

end TreeTypes.CommandLine
