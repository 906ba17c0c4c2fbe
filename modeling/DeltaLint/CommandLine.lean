/-
  DeltaLint.CommandLine — what the arguments ask for.

  Arguments are read from left to right. A file name, and the path after `--config`, is taken in only
  when the next option is met or the arguments end; so an unknown option later on is reported before a
  fault of theirs, and a known one after it. The environment may name a configuration where the
  arguments do not, and only a complete command line is asked whether its options go together.
-/

namespace DeltaLint

structure Options where
  files : List String := []
  force : Bool := false
  tracked : Bool := false
  lastCommit : Bool := false
  json : Bool := false
  pretty : Bool := false
  noColour : Bool := false
  verbose : Bool := false
  config : Option String := none
  deriving DecidableEq, Repr

/-- Why there is nothing to run. The last two are asked for. -/
inductive Usage where
  | unknownArgument
  /-- An option that needs another one. -/
  | missingRequiredArgument
  /-- An option given twice. -/
  | argumentConflict
  | invalidValue
  /-- A value for an option that takes none. -/
  | tooManyValues
  | displayHelp
  | displayVersion
  deriving DecidableEq, Repr

def Usage.exitCode : Usage → Nat
  | displayHelp | displayVersion => 0
  | _ => 2

namespace CommandLine

/-- An option without a value. -/
inductive Flag where
  | force
  | tracked
  | lastCommit
  | json
  | pretty
  | noColour
  | verbose
  | help
  | version
  deriving DecidableEq, Repr

def Flag.ofLong? : String → Option Flag
  | "force" => some .force
  | "tracked" => some .tracked
  | "last-commit" => some .lastCommit
  | "json" => some .json
  | "pretty" => some .pretty
  | "no-color" => some .noColour
  | "verbose" => some .verbose
  | "help" => some .help
  | "version" => some .version
  | _ => none

def Flag.ofShort? : Char → Option Flag
  | 'f' => some .force
  | 't' => some .tracked
  | 'v' => some .verbose
  | 'h' => some .help
  | 'V' => some .version
  | _ => none

/-- What was read and is not taken in yet. -/
inductive Pending where
  | nothing
  | config (value : Option String)
  | files (names : List String)
  deriving DecidableEq, Repr

structure Reading where
  options : Options
  pending : Pending
  deriving DecidableEq, Repr

namespace Reading

/-- Sets an option that must not have been set. -/
def setOnce (given : Bool) (o : Options) : Except Usage Options := if given then .error .argumentConflict else .ok o

/-- Takes in what is pending. -/
def settle (r : Reading) : Except Usage Reading :=
  match r.pending with
  | .nothing => .ok r
  | .config none => .error .invalidValue
  | .config (some path) =>
    if r.options.config.isSome then .error .argumentConflict
    else if path.isEmpty then .error .invalidValue
    else .ok ⟨{ r.options with config := some path }, .nothing⟩
  | .files names =>
    if names.any (·.isEmpty) then .error .invalidValue
    else .ok ⟨{ r.options with files := r.options.files ++ names }, .nothing⟩

def setFlag (r : Reading) (f : Flag) : Except Usage Reading := do
  let r ← r.settle
  let o := r.options
  let o ← match f with
    | .force => setOnce o.force { o with force := true }
    | .tracked => setOnce o.tracked { o with tracked := true }
    | .lastCommit => setOnce o.lastCommit { o with lastCommit := true }
    | .json => setOnce o.json { o with json := true }
    | .pretty => setOnce o.pretty { o with pretty := true }
    | .noColour => setOnce o.noColour { o with noColour := true }
    | .verbose => setOnce o.verbose { o with verbose := true }
    | .help => .error .displayHelp
    | .version => .error .displayVersion
  return { r with options := o }

/-- Reads an option after its two hyphens. -/
def long (r : Reading) (text : List Char) : Except Usage Reading :=
  let name := String.ofList (text.takeWhile (· != '='))
  let value := match text.dropWhile (· != '=') with
    | _ :: value => some (String.ofList value)
    | [] => none
  if name == "config" then do
    let r ← r.settle
    match value with
    | some _ => ({ r with pending := .config value } : Reading).settle
    | none => return { r with pending := .config none }
  else match Flag.ofLong? name with
    | none => .error .unknownArgument
    | some f => if value.isSome then .error .tooManyValues else r.setFlag f

/-- Reads the letters after one hyphen. -/
def short (r : Reading) (letters : List Char) : Except Usage Reading :=
  letters.foldlM (fun r c =>
    match Flag.ofShort? c with
    | some f => r.setFlag f
    | none => .error .unknownArgument) r

/-- Reads an argument that is no option. -/
def file (r : Reading) (name : String) : Except Usage Reading :=
  match r.pending with
  | .files names => .ok { r with pending := .files (names ++ [name]) }
  | _ => do
    let r ← r.settle
    return { r with pending := .files [name] }

/-- Reads an argument. -/
def argument (r : Reading) (text : String) : Except Usage Reading :=
  match text.toList with
  | '-' :: '-' :: rest => r.long rest
  | '-' :: c :: rest => r.short (c :: rest)
  | _ =>
    match r.pending with
    | .config none => .ok { r with pending := .config (some text) }
    | _ => r.file text

/-- Reads all arguments. After two hyphens alone every argument is the name of a file. -/
def arguments (r : Reading) : List String → Except Usage Reading
  | [] => r.settle
  | a :: rest => do
    if a == "--" then (← rest.foldlM file r).settle else arguments (← r.argument a) rest

/-- Takes the configuration that the environment names, where the arguments name none. -/
def environment (o : Options) (config : Option String) : Except Usage Options :=
  match o.config, config with
  | none, some path => if path.isEmpty then .error .invalidValue else .ok { o with config := some path }
  | _, _ => .ok o

end Reading

/-- What the arguments and the environment ask for. -/
def parse (arguments : List String) (config : Option String) : Except Usage Options := do
  let r ← (⟨{}, .nothing⟩ : Reading).arguments arguments
  let o ← Reading.environment r.options config
  if o.pretty && !o.json then throw .missingRequiredArgument
  return o

end CommandLine

end DeltaLint
