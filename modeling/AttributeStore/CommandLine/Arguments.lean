import AttributeStore.Text.Blank

/-! The arguments of the command line. Options may stand before the command and behind it; where one stands at both
places, the one behind counts. -/
namespace AttributeStore.CommandLine

inductive Parameter
  | verbose
  | apiUrl
  | apiKey
  | apiKeyId
  | orgId
  | repository
  | view
  | version
  | project
  | help
  | programVersion
  deriving DecidableEq

/-- Where an argument stands: before the command, or behind one. -/
inductive Level
  | top
  | init
  | generate
  | compile
  | inspect
  | testConnection
  deriving DecidableEq

/-- Why arguments give nothing to do. -/
inductive Stop
  | usage
  | help
  | version
  deriving DecidableEq

/-- Parameters that take no value. -/
def Parameter.isFlag : Parameter → Bool
  | verbose | help | programVersion => true
  | _ => false

namespace Level

def commands : List (String × Level) :=
  [("init", init), ("generate", generate), ("compile", compile), ("inspect", inspect),
    ("test-connection", testConnection)]

/-- The parameters of every level, by their long names. -/
def shared : List (String × Parameter) :=
  [("verbose", .verbose), ("api-url", .apiUrl), ("api-key", .apiKey), ("api-key-id", .apiKeyId), ("org-id", .orgId),
    ("repo", .repository), ("help", .help)]

def parameters : Level → List (String × Parameter)
  | top => ("version", .programVersion) :: shared
  | init => ("view", .view) :: ("version", .version) :: shared
  | generate => ("project", .project) :: shared
  | _ => shared

/-- The parameters that also have a letter. -/
def letters : Level → List (Char × Parameter)
  | top => [('v', .verbose), ('h', .help), ('V', .programVersion)]
  | _ => [('v', .verbose), ('h', .help)]

/-- The number of operands, all of which must be there. -/
def operands : Level → Nat
  | compile => 1
  | inspect => 2
  | _ => 0

end Level

/-- What has been read at one level. -/
structure Given where
  options : List (Parameter × String) := []
  operands : List String := []

/-- The number of a version, which has 32 bits and no sign. -/
def version? (s : String) : Option UInt32 := do
  let n ← Text.wholeNumber? s.toList
  if 0 ≤ n ∧ n < UInt32.size then some (UInt32.ofNat n.toNat) else none

/-- A path is not empty, and a version is a number. -/
def isValid (p : Parameter) (value : String) : Bool :=
  match p with
  | .repository => !value.isEmpty
  | .version => (version? value).isSome
  | _ => true

namespace Given

/-- No parameter is given twice at one level. -/
def addOption (p : Parameter) (value : String) (g : Given) : Except Stop Given :=
  if (g.options.lookup p).isSome || !isValid p value then .error .usage
  else .ok { g with options := (p, value) :: g.options }

def addFlag (p : Parameter) (g : Given) : Except Stop Given :=
  match p with
  | .help => .error .help
  | .programVersion => .error .version
  | p => g.addOption p ""

/-- The file to compile is a path, so it is not empty. -/
def addOperand (l : Level) (s : String) (g : Given) : Except Stop Given :=
  if g.operands.length < l.operands && (l != .compile || !s.isEmpty) then
    .ok { g with operands := g.operands ++ [s] }
  else .error .usage

/-- Letters behind one dash. -/
def addLetters (l : Level) : List Char → Given → Except Stop Given
  | [], g => .ok g
  | c :: rest, g =>
    match l.letters.lookup c with
    | some p => do
      let g ← g.addFlag p
      addLetters l rest g
    | none => .error .usage

end Given

/-- What the next argument is: anything, the value of an option, or, behind two dashes, an operand. -/
inductive Expected
  | anything
  | value (p : Parameter)
  | operand

/-- A long name, with a value joined to it by an equals sign or to come. -/
def readLong (l : Level) (s : List Char) (g : Given) : Except Stop (Given × Expected) :=
  let (name, value) := match Text.splitFirst '=' s with
    | some (name, value) => (name, some value)
    | none => (s, none)
  match l.parameters.lookup (String.ofList name), value with
  | none, _ => .error .usage
  | some p, none => if p.isFlag then (g.addFlag p).map (·, .anything) else .ok (g, .value p)
  | some p, some value =>
    if p.isFlag then .error .usage else (g.addOption p (String.ofList value)).map (·, .anything)

/-- Help on the program or on one command. -/
def readHelp : List String → Stop
  | [] => .help
  | [name] => if (Level.commands.lookup name).isSome || name = "help" then .help else .usage
  | _ => .usage

/-- The arguments of one level; before the command, these end with it, and the command has the rest. -/
def readLevel (l : Level) : Expected → Given → List String → Except Stop (Given × Option (Level × List String))
  | .value _, _, [] => .error .usage
  | _, g, [] => .ok (g, none)
  | .operand, g, s :: rest => do
    let g ← g.addOperand l s
    readLevel l .operand g rest
  | .value p, g, s :: rest => do
    if s.startsWith "-" && s != "-" then .error .usage
    let g ← g.addOption p s
    readLevel l .anything g rest
  | .anything, g, s :: rest =>
    match s.toList with
    | ['-', '-'] => readLevel l .operand g rest
    | '-' :: '-' :: name => do
      let (g, expected) ← readLong l name g
      readLevel l expected g rest
    | '-' :: c :: more => do
      let g ← g.addLetters l (c :: more)
      readLevel l .anything g rest
    | _ =>
      if l = .top then
        match Level.commands.lookup s with
        | some command => .ok (g, some (command, rest))
        | none => .error (if s = "help" then readHelp rest else .usage)
      else do
        let g ← g.addOperand l s
        readLevel l .anything g rest

inductive Command
  /-- Fetches one view, or all. -/
  | init (view : Option String) (version : Option UInt32)
  /-- Generates one project, or all. -/
  | generate (project : Option String)
  | compile (file : String)
  | inspect (project bucket : String)
  | testConnection

structure Invocation where
  verbose : Bool
  apiUrl : Option String
  apiKey : Option String
  apiKeyId : Option String
  orgId : Option String
  repository : String
  command : Command

/-- The command that a level's arguments give; a version is one of a view. -/
def commandOf (l : Level) (g : Given) : Except Stop Command :=
  match l, g.operands with
  | .init, [] =>
    let view := g.options.lookup .view
    match g.options.lookup .version with
    | some s => if view.isNone then .error .usage else .ok (.init view (version? s))
    | none => .ok (.init view none)
  | .generate, [] => .ok (.generate (g.options.lookup .project))
  | .compile, [file] => .ok (.compile file)
  | .inspect, [project, bucket] => .ok (.inspect project bucket)
  | .testConnection, [] => .ok .testConnection
  | _, _ => .error .usage

def readArguments (arguments : List String) : Except Stop Invocation := do
  let (before, command) ← readLevel .top .anything {} arguments
  let some (l, rest) := command | .error .usage
  let (behind, _) ← readLevel l .anything {} rest
  let command ← commandOf l behind
  let option (p : Parameter) := (behind.options.lookup p).or (before.options.lookup p)
  return {
    verbose := (option .verbose).isSome
    apiUrl := option .apiUrl
    apiKey := option .apiKey
    apiKeyId := option .apiKeyId
    orgId := option .orgId
    repository := (option .repository).getD "."
    command := command }

end AttributeStore.CommandLine
