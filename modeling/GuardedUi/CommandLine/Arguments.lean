/-!
# `CommandLine/Arguments` — what a command line asks for

A command line is a verb with options: `--project` takes a path, and two of the verbs have a flag
of their own. Long options take a value behind an equals sign or as the next argument, short ones
can be written together, a value directly behind the last of them. Every option may be given once,
and nothing else may be given.

Arguments are read from left to right, so a request for help or for the version counts if no misuse
comes before it.
-/

set_option autoImplicit false

namespace GuardedUi.CommandLine

/-- What the program can do. -/
inductive Verb where
  | generate
  | check
  | clean
  deriving DecidableEq, Repr

def Verb.ofName? (name : String) : Option Verb :=
  if name = "generate" then some .generate
  else if name = "check" then some .check
  else if name = "clean" then some .clean
  else none

/-- The letter and the name of a verb's own flag. -/
def Verb.flag? : Verb → Option (Char × String)
  | .generate => some ('f', "force")
  | .check => none
  | .clean => some ('y', "yes")

/-- The options of a verb. -/
structure Options where
  /-- The path of the project, if one is given. -/
  project : Option String
  /-- Whether the verb's own flag is given. -/
  flag : Bool
  deriving DecidableEq, Repr

/-- The path that is meant if none is given: the current folder. -/
def standardProject : String :=
  "."

/-- What a command line asks for. -/
inductive Request where
  | run (verb : Verb) (project : String) (flag : Bool)
  | version
  | help
  | misuse
  deriving DecidableEq, Repr

/-- What one argument leads to. -/
inductive Step where
  | next (options : Options)
  /-- The next argument is the value of `--project`. -/
  | value (options : Options)
  | stop (request : Request)
  deriving DecidableEq, Repr

namespace Options

def none : Options :=
  ⟨.none, false⟩

/-- The options with a path, which must not be empty or given before. -/
def withProject (options : Options) (path : String) : Step :=
  if options.project.isSome || path.isEmpty then .stop .misuse
  else .next { options with project := some path }

/-- The options with a path that is still to come. -/
def awaitProject (options : Options) : Step :=
  if options.project.isSome then .stop .misuse else .value options

/-- The options with the flag, which must not be given before. -/
def withFlag (options : Options) : Step :=
  if options.flag then .stop .misuse else .next { options with flag := true }

end Options

def shortOptions (verb : Verb) (options : Options) : List Char → Step
  | [] => .next options
  | c :: rest =>
    if c = 'p' then
      match rest with
      | [] => options.awaitProject
      | '=' :: path => options.withProject (String.ofList path)
      | path => options.withProject (String.ofList path)
    else if c = 'h' then .stop .help
    else if verb.flag?.any fun flag => flag.1 == c then
      match options.withFlag with
      | .next options => shortOptions verb options rest
      | other => other
    else .stop .misuse

/-- A long option, by its name and the value behind an equals sign. -/
def longOption (verb : Verb) (options : Options) (name : List Char) (value : Option (List Char)) :
    Step :=
  if name = "project".toList then
    match value with
    | some path => options.withProject (String.ofList path)
    | none => options.awaitProject
  else if value.isSome then .stop .misuse
  else if name = "help".toList then .stop .help
  else if verb.flag?.any fun flag => flag.2.toList == name then options.withFlag
  else .stop .misuse

/-- The name of a long option and the value behind an equals sign. -/
def splitOption (text : List Char) : List Char × Option (List Char) :=
  match text.dropWhile (· != '=') with
  | [] => (text, none)
  | _ :: value => (text.takeWhile (· != '='), some value)

def argument (verb : Verb) (options : Options) (text : List Char) : Step :=
  match text with
  | '-' :: '-' :: rest =>
    let (name, value) := splitOption rest
    longOption verb options name value
  | '-' :: c :: rest => shortOptions verb options (c :: rest)
  | _ => .stop .misuse

/-- Whether an argument can only be an option, and no value of one. -/
def looksLikeOption (text : List Char) : Bool :=
  match text with
  | '-' :: _ :: _ => true
  | _ => false

/-- The arguments behind a verb. While `awaiting`, the next one is the value of `--project`. -/
def readOptions (verb : Verb) (options : Options) (awaiting : Bool) : List String → Request
  | [] =>
    if awaiting then .misuse
    else .run verb (options.project.getD standardProject) options.flag
  | text :: rest =>
    if awaiting then
      if looksLikeOption text.toList then .misuse
      else
        match options.withProject text with
        | .next options => readOptions verb options false rest
        | _ => .misuse
    else if text = "--" then
      if rest.isEmpty then .run verb (options.project.getD standardProject) options.flag
      else .misuse
    else
      match argument verb options text.toList with
      | .next options => readOptions verb options false rest
      | .value options => readOptions verb options true rest
      | .stop request => request

def Request.ofArguments : List String → Request
  | [] => .misuse
  | "help" :: rest =>
    match rest with
    | [] => .help
    | [name] => if name = "help" ∨ (Verb.ofName? name).isSome then .help else .misuse
    | _ => .misuse
  | "--version" :: _ => .version
  | "--help" :: _ => .help
  | first :: rest =>
    match Verb.ofName? first with
    | some verb => readOptions verb .none false rest
    | none =>
      match first.toList with
      | '-' :: 'V' :: _ => .version
      | '-' :: 'h' :: _ => .help
      | _ => .misuse

end GuardedUi.CommandLine
