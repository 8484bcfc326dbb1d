/-!
Reading a command line. A level of it, the program itself or one of its commands, knows its options
and what to do with operands. Arguments are taken from the left, and the first that cannot be used,
or that asks for help or the version, ends the reading. An option has its value behind an equals
sign or as the next argument; after `--` there are only operands.
-/

namespace CallWire

inductive UsageError
  | unknownOption (option : String)
  | missingValue (option : String)
  | unexpectedValue (option : String)
  | invalidValue (option value : String)
  | repeated (option : String)
  | unexpectedOperand (operand : String)
  | missingArgument (name : String)
  | missingCommand
  deriving DecidableEq, Repr

inductive Ending
  | misuse (error : UsageError)
  | help
  | version
  deriving DecidableEq, Repr

structure Level (σ : Type) where
  valued? : String → Option (String → σ → Except UsageError σ)
  flag? : String → Option (σ → Except UsageError σ)
  operand : String → σ → Except UsageError σ
  showsVersion : Bool := false
  /-- A command takes over all arguments behind it. -/
  isCommand : String → Bool := fun _ => false

namespace Level

variable {σ : Type}

/-- A dash alone is an ordinary argument. -/
def looksLikeOption (argument : String) : Bool :=
  match argument.toList with
  | '-' :: _ :: _ => true
  | _ => false

def splitValue (text : List Char) : String × Option String :=
  let name := String.ofList (text.takeWhile (· ≠ '='))
  match text.dropWhile (· ≠ '=') with
  | [] => (name, none)
  | _ :: value => (name, some (String.ofList value))

/-- What an option that stands for itself means at a level. -/
inductive Meaning (σ : Type)
  | awaits (option : String)
  | goesOn (next : σ)
  | ends (ending : Ending)

def misuse (error : UsageError) : Meaning σ := .ends (.misuse error)

def applied : Except UsageError σ → Meaning σ
  | .ok next => .goesOn next
  | .error error => misuse error

def longMeaning (level : Level σ) (text : List Char) (state : σ) : Meaning σ :=
  let (name, value) := splitValue text
  match level.valued? name, level.flag? name, value with
  | some apply, _, some value => applied (apply value state)
  | some _, _, none => .awaits name
  | none, some apply, none => applied (apply state)
  | none, some _, some _ => misuse (.unexpectedValue name)
  | none, none, value =>
    if name = "help" ∨ (name = "version" ∧ level.showsVersion) then
      if value.isSome then misuse (.unexpectedValue name)
      else .ends (if name = "help" then .help else .version)
    else
      misuse (.unknownOption name)

/-- Of short options there are only those for help and the version. -/
def shortMeaning (level : Level σ) : List Char → Meaning σ
  | 'h' :: _ => .ends .help
  | 'V' :: rest =>
    if level.showsVersion then .ends .version
    else misuse (.unknownOption (String.ofList ('V' :: rest)))
  | text => misuse (.unknownOption (String.ofList text))

def meaning (level : Level σ) (argument : String) (state : σ) : Meaning σ :=
  match argument.toList with
  | '-' :: '-' :: text => level.longMeaning text state
  | '-' :: text => level.shortMeaning text
  | _ => misuse (.unexpectedOperand argument)

def operands (level : Level σ) : List String → σ → Except UsageError σ
  | [], state => .ok state
  | argument :: rest, state => (level.operand argument state).bind (level.operands rest)

/-- Read arguments up to a command, if one comes; `awaiting` is an option that still needs its
value. -/
def read (level : Level σ) :
    Option String → List String → σ → Except Ending (σ × Option (String × List String))
  | none, [], state => .ok (state, none)
  | some option, [], _ => .error (.misuse (.missingValue option))
  | some option, argument :: rest, state =>
    if looksLikeOption argument then
      .error (.misuse (.missingValue option))
    else
      match level.valued? option with
      | none => .error (.misuse (.unknownOption option))
      | some apply =>
        match apply argument state with
        | .ok state => level.read none rest state
        | .error error => .error (.misuse error)
  | none, argument :: rest, state =>
    if level.isCommand argument then
      .ok (state, some (argument, rest))
    else if argument = "--" then
      ((level.operands rest state).map fun state => (state, none)).mapError .misuse
    else if looksLikeOption argument then
      match level.meaning argument state with
      | .awaits option => level.read (some option) rest state
      | .goesOn state => level.read none rest state
      | .ends ending => .error ending
    else
      match level.operand argument state with
      | .ok state => level.read none rest state
      | .error error => .error (.misuse error)

end Level

/-- Give a field that is given once its value. -/
def setOnce {σ α : Type} (name : String) (field : σ → Option α) (set : σ → α → σ) (value : α)
    (state : σ) : Except UsageError σ :=
  if (field state).isSome then .error (.repeated name) else .ok (set state value)

end CallWire
