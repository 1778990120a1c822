import Emend.Command.Option

/-!
# The command line

`Request.ofArguments` reads the words of a command line from left to right: options, then a verb,
then the options of the verb.

- Short options may stand together in one word, the last one with its value. A long option has its
  value after an equals sign or in the next word.
- An option that still waits for its value, or has just got it, is pending. It is taken when the
  next known option or the end is reached; a word that is not understood is reported before that.
- A request for help or for the version counts as soon as it is read.
-/

namespace Emend

/-- The options of `check` and `list`. -/
structure PlanOptions where
  root : Option String := none
  plan : Option String := none
  deriving DecidableEq, Repr, Inhabited

/-- The options of `apply`. -/
structure ApplyOptions extends PlanOptions where
  dryRun : Bool := false
  diff : Bool := false
  keepGoing : Bool := false
  deriving DecidableEq, Repr, Inhabited

/-- What is to be done with plans. -/
inductive Command where
  | apply (options : ApplyOptions)
  | check (options : PlanOptions)
  | list (options : PlanOptions)
  deriving DecidableEq, Repr, Inhabited

/-- The root and the plan that a command is for. -/
def Command.planOptions : Command → PlanOptions
  | apply options => options.toPlanOptions
  | check options | list options => options

/-- What the program is asked for. -/
inductive Request where
  | help (text : String)
  | version
  /-- A command, with the number of times that more of the log was asked for. -/
  | run (verbosity : Nat) (command : Command)
  deriving DecidableEq, Repr, Inhabited

/-- Why a command line is not understood. -/
inductive UsageFault where
  /-- There are no words. -/
  | nothing
  | noVerb
  | unknownVerb (word : String)
  | unexpected (word : String)
  | missingValue (option : Flag)
  | repeated (option : Flag)
  | needlessValue (value : String) (option : Flag)
  deriving DecidableEq, Repr, Inhabited

/-- What is said of it. -/
def UsageFault.message : UsageFault → String
  | nothing => Scope.program.help
  | noVerb => "error: '" ++ programName ++ "' requires a subcommand but one was not provided\n"
  | unknownVerb word => "error: unrecognized subcommand '" ++ word ++ "'\n"
  | unexpected word => "error: unexpected argument '" ++ word ++ "' found\n"
  | missingValue option =>
    "error: a value is required for '" ++ option.shown ++ "' but none was supplied\n"
  | repeated option =>
    "error: the argument '" ++ option.shown ++ "' cannot be used multiple times\n"
  | needlessValue value option =>
    "error: unexpected value '" ++ value ++ "' for '" ++ option.shown ++
      "' found; no more were expected\n"

/-! ### Words -/

/-- What a word of the command line looks like. -/
inductive Word where
  /-- Two dashes: what follows are no options. -/
  | escape
  | long (name : String) (value : Option String)
  | short (letters : List Char)
  | plain
  deriving DecidableEq, Repr, Inhabited

/-- Looks at a word. -/
def Word.ofString (word : String) : Word :=
  match word.toList with
  | ['-', '-'] => .escape
  | '-' :: '-' :: rest =>
    match rest.span (· != '=') with
    | (name, _ :: value) => .long (.ofList name) (some (.ofList value))
    | (name, []) => .long (.ofList name) none
  | '-' :: c :: rest => .short (c :: rest)
  | _ => .plain

/-! ### Options -/

/-- An option where it occurs, with its value. -/
structure Occurrence where
  flag : Flag
  value : Option String := none
  deriving DecidableEq, Repr, Inhabited

/-- Why reading ends before the end of the command line. -/
inductive Halt where
  | request (r : Request)
  | fault (f : UsageFault)
  deriving DecidableEq, Repr, Inhabited

/-- The options that have been given so far in a place of the command line. -/
structure GivenOptions where
  scope : Scope
  taken : List Occurrence := []
  pending : Option Occurrence := none
  deriving DecidableEq, Repr, Inhabited

namespace GivenOptions

/-- Takes an option in. Only the one for more of the log may occur again. -/
def take (r : GivenOptions) (o : Occurrence) : Except Halt GivenOptions :=
  let again := r.taken.any (·.flag == o.flag)
  let accepted : Except Halt GivenOptions := .ok { r with taken := r.taken ++ [o] }
  match o.flag with
  | .help => .error (.request (.help r.scope.help))
  | .version => .error (.request .version)
  | .verbose => accepted
  | .root | .plan =>
    match o.value with
    | none => .error (.fault (.missingValue o.flag))
    | some value =>
      if again then .error (.fault (.repeated o.flag))
      else if value.isEmpty then .error (.fault (.missingValue o.flag))
      else accepted
  | .dryRun | .diff | .keepGoing =>
    if again then .error (.fault (.repeated o.flag)) else accepted

/-- Takes the pending option in. -/
def settle (r : GivenOptions) : Except Halt GivenOptions :=
  match r.pending with
  | none => .ok r
  | some o => { r with pending := none }.take o

/-- Reads an option with a long name. -/
def long (r : GivenOptions) (name : String) (value : Option String) : Except Halt GivenOptions :=
  match r.scope.ofName? name with
  | none => .error (.fault (.unexpected ("--" ++ name)))
  | some flag =>
    match value with
    | some value =>
      if flag.takesValue then do (← r.settle).take ⟨flag, some value⟩
      else .error (.fault (.needlessValue value flag))
    | none =>
      if flag.takesValue then do return { (← r.settle) with pending := some ⟨flag, none⟩ }
      else do (← r.settle).take ⟨flag, none⟩

/-- Reads the options of a word of short names. -/
def short : GivenOptions → List Char → Except Halt GivenOptions
  | r, [] => .ok r
  | r, c :: rest =>
    match r.scope.ofLetter? c with
    | none => .error (.fault (.unexpected ("-" ++ c.toString)))
    | some flag =>
      if flag.takesValue then
        match rest with
        | [] => do return { (← r.settle) with pending := some ⟨flag, none⟩ }
        | '=' :: value => do (← r.settle).take ⟨flag, some (.ofList value)⟩
        | value => do (← r.settle).take ⟨flag, some (.ofList value)⟩
      else do ((← (← r.settle).take ⟨flag, none⟩).short rest)

/-- The value of an option. -/
def value? (r : GivenOptions) (flag : Flag) : Option String :=
  (r.taken.find? (·.flag == flag)).bind (·.value)

/-- How often an option occurs. -/
def count (r : GivenOptions) (flag : Flag) : Nat := r.taken.countP (·.flag == flag)

/-- Whether an option occurs. -/
def has (r : GivenOptions) (flag : Flag) : Bool := r.count flag != 0

/-- The options for plans. -/
def planOptions (r : GivenOptions) : PlanOptions := ⟨r.value? .root, r.value? .plan⟩

/-- The command of a verb with the options that have been read. -/
def command (r : GivenOptions) : Verb → Command
  | .apply => .apply ⟨r.planOptions, r.has .dryRun, r.has .diff, r.has .keepGoing⟩
  | .check => .check r.planOptions
  | .list => .list r.planOptions

/-- Reads the options of a verb. -/
def ofWords : GivenOptions → List String → Except Halt GivenOptions
  | r, [] => r.settle
  | r, word :: rest =>
    match Word.ofString word with
    | .escape =>
      match rest with
      | [] => r.settle
      | word :: _ => .error (.fault (.unexpected word))
    | .long name value => do (← r.long name value).ofWords rest
    | .short letters => do (← r.short letters).ofWords rest
    | .plain =>
      match r.pending with
      | some ⟨flag, none⟩ => ofWords { r with pending := some ⟨flag, some word⟩ } rest
      | _ => .error (.fault (.unexpected word))

end GivenOptions

/-! ### Requests -/

namespace Request

/-- What is asked for by the words after the one for help. -/
def ofHelp : List String → Except Halt Request
  | [] => .ok (.help Scope.program.help)
  | word :: rest =>
    let text? : Option String :=
      if word == helpWord then some Scope.helpOnHelp
      else (Verb.ofName? word).map fun v => (Scope.verb v).help
    match text?, rest with
    | none, _ => .error (.fault (.unknownVerb word))
    | some _, next :: _ => .error (.fault (.unknownVerb next))
    | some text, [] => .ok (.help text)

/-- What is wrong if there is no verb. -/
def withoutVerb (r : GivenOptions) : Except Halt Request :=
  .error (.fault (if r.taken.isEmpty then .nothing else .noVerb))

/-- Reads the words up to a verb and then those after it. If the verb has the option for more of the
log, this is what counts. -/
def ofWords : GivenOptions → List String → Except Halt Request
  | r, [] => withoutVerb r
  | r, word :: rest =>
    match Word.ofString word with
    | .escape =>
      match rest with
      | [] => withoutVerb r
      | word :: _ =>
        if word == helpWord || (Verb.ofName? word).isSome then .error (.fault (.unexpected word))
        else .error (.fault (.unknownVerb word))
    | .long name value => do ofWords (← r.long name value) rest
    | .short letters => do ofWords (← r.short letters) rest
    | .plain =>
      if word == helpWord then ofHelp rest
      else
        match Verb.ofName? word with
        | none => .error (.fault (.unknownVerb word))
        | some verb => do
          let inner ← GivenOptions.ofWords { scope := .verb verb } rest
          let verbosity :=
            if inner.has .verbose then inner.count .verbose else r.count .verbose
          return .run verbosity (inner.command verb)

/-- Reads a command line. -/
def ofArguments (words : List String) : Except UsageFault Request :=
  match ofWords { scope := .program } words with
  | .ok r | .error (.request r) => .ok r
  | .error (.fault f) => .error f

end Request

end Emend
