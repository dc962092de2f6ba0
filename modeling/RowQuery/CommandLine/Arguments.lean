import RowQuery.Config
import RowQuery.Text.Split

/-!
The arguments of the command line. Options stand before the subcommand, each with one value, which
follows as the next argument or behind an equals sign; two hyphens alone end the options. A usage
error is found as the arguments are read from left to right, except that a value is only looked at
when its option is complete, which is when the next option or the end of the arguments is reached.
-/

namespace RowQuery.CommandLine

/-- Why no command is run. Asking for help or for the version is one of the reasons. -/
inductive UsageError where
  | help
  | version
  /-- Nothing is given at all. -/
  | nothingGiven
  | missingOption
  | missingSubcommand
  | unknownSubcommand
  /-- A value is missing or none of those allowed. -/
  | invalidValue
  | unknownArgument
  /-- A value for an argument that takes none. -/
  | surplusValue
  /-- An argument that may stand once is repeated. -/
  | repeated
deriving DecidableEq, Repr

/-- The shape of the output. -/
inductive Format where
  | table
  | json
deriving DecidableEq, Repr

/-- The format of the given name. -/
def Format.named? (name : String) : Option Format :=
  if name = "table" then some .table else if name = "json" then some .json else none

/-- What to do with a dataset. -/
inductive Command where
  /-- Shows the rows that a query string asks for, behind an explanation of it if one is wanted. -/
  | query (query : String) (explain : Bool)
  /-- Describes the filters and the order, with those of a query string as active ones. -/
  | describe (query : String)
deriving DecidableEq, Repr

/-- An option that takes a value. -/
inductive Setting where
  | data
  | orderingParam
  | searchParam
  | fieldsParam
  | ignore
  | defaultOrdering
  | orderable
  | format
deriving DecidableEq, Repr

namespace Setting

/-- The name of an option, which stands behind two hyphens. -/
def name : Setting → String
  | data => "data"
  | orderingParam => "ordering-param"
  | searchParam => "search-param"
  | fieldsParam => "fields-param"
  | ignore => "ignore"
  | defaultOrdering => "default-ordering"
  | orderable => "orderable"
  | format => "format"

/-- Every option that takes a value. -/
def all : List Setting :=
  [data, orderingParam, searchParam, fieldsParam, ignore, defaultOrdering, orderable, format]

/-- The option of the given name. -/
def named? (name : String) : Option Setting := all.find? fun s => s.name == name

/-- Whether the next argument is the option's value even if it begins with a hyphen. -/
def takesHyphens (s : Setting) : Bool := s = defaultOrdering

end Setting

/-- The options that are complete so far. -/
structure Settings where
  data : Option String := none
  orderingParam : Option String := none
  searchParam : Option String := none
  fieldsParam : Option String := none
  ignored : List String := []
  defaultOrdering : List String := []
  orderable : List String := []
  format : Option Format := none
deriving DecidableEq

namespace Settings

/-- The values between commas. -/
def listed (value : String) : List String := (Text.splitOn ',' value.toList).map String.ofList

/-- The value of an option that may stand once. -/
def once {α : Type} (old : Option α) (new : α) : Except UsageError (Option α) :=
  if old.isSome then .error .repeated else .ok (some new)

/-- The options with one more of them complete. -/
def set (s : Settings) (setting : Setting) (value : String) : Except UsageError Settings :=
  match setting with
  | .data => do
    let data ← once s.data value
    if value.isEmpty then .error .invalidValue else return { s with data }
  | .orderingParam => return { s with orderingParam := ← once s.orderingParam value }
  | .searchParam => return { s with searchParam := ← once s.searchParam value }
  | .fieldsParam => return { s with fieldsParam := ← once s.fieldsParam value }
  | .ignore => return { s with ignored := s.ignored ++ [value] }
  | .defaultOrdering => return { s with defaultOrdering := s.defaultOrdering ++ listed value }
  | .orderable => return { s with orderable := s.orderable ++ listed value }
  | .format =>
    if s.format.isSome then .error .repeated
    else
      match Format.named? value with
      | some format => return { s with format := some format }
      | none => .error .invalidValue

end Settings

/-- What the last option still needs. -/
inductive Pending where
  | nothing
  /-- Its value is to come. -/
  | value (setting : Setting)
  /-- Its value has come but was not looked at yet. -/
  | check (setting : Setting) (value : String)
deriving DecidableEq

/-- The state of reading: what is complete, and what is not. -/
structure Progress where
  settings : Settings
  pending : Pending
deriving DecidableEq

namespace Progress

/-- Completes the last option. -/
def settle (p : Progress) : Except UsageError Settings :=
  match p.pending with
  | .nothing => .ok p.settings
  | .value _ => .error .invalidValue
  | .check setting value => p.settings.set setting value

/-- The option whose value is to come. -/
def awaited? (p : Progress) : Option Setting :=
  match p.pending with
  | .value setting => some setting
  | _ => none

/-- Begins an option. -/
def start (p : Progress) (setting : Setting) : Except UsageError Progress := do
  return ⟨← p.settle, .value setting⟩

/-- Takes an option with its value. -/
def attach (p : Progress) (setting : Setting) (value : String) : Except UsageError Progress := do
  return ⟨← (← p.settle).set setting value, .nothing⟩

/-- Ends with an answer that is no command, once the last option is complete. -/
def stop {α : Type} (p : Progress) (answer : UsageError) : Except UsageError α := do
  let _ ← p.settle
  .error answer

end Progress

/-- The form of an argument. -/
inductive Word where
  /-- Two hyphens and nothing else. -/
  | escape
  /-- Two hyphens, a name, and perhaps a value behind an equals sign. -/
  | long (name : String) (value : Option String)
  /-- A hyphen and letters. -/
  | short (letters : List Char)
  | plain

/-- The form of an argument. -/
def Word.of (argument : String) : Word :=
  match argument.toList with
  | ['-', '-'] => escape
  | '-' :: '-' :: cs =>
    match Text.cutAt? '=' cs with
    | some (name, value) => long (String.ofList name) (some (String.ofList value))
    | none => long (String.ofList cs) none
  | '-' :: c :: cs => short (c :: cs)
  | _ => plain

/-- Reads an option that is given by its name. -/
def Progress.long (p : Progress) (name : String) (value : Option String) :
    Except UsageError Progress :=
  match Setting.named? name with
  | some setting => value.elim (p.start setting) (p.attach setting)
  | none =>
    if name = "help" || name = "version" then
      if value.isSome then .error .surplusValue
      else p.stop (if name = "help" then .help else .version)
    else .error .unknownArgument

/-- Reads an option that is given by its letter; what stands behind the letter is its value. -/
def Progress.short (p : Progress) (letters : List Char) : Except UsageError Progress :=
  match letters with
  | ['d'] => p.start .data
  | 'd' :: '=' :: cs => p.attach .data (String.ofList cs)
  | 'd' :: cs => p.attach .data (String.ofList cs)
  | 'h' :: _ => p.stop .help
  | 'V' :: _ => p.stop .version
  | _ => .error .unknownArgument

/-- Whether the word names a subcommand. -/
def isSubcommand (word : String) : Bool := word = "query" || word = "describe" || word = "help"

/-- The help that the arguments behind the word `help` ask for: that on a subcommand, or all. -/
def readHelp : List String → UsageError
  | [] => .help
  | [topic] => if isSubcommand topic then .help else .unknownSubcommand
  | _ => .unknownSubcommand

/-- What a subcommand has been given. -/
structure Given where
  query : Option String := none
  explain : Bool := false

/-- Reads the arguments behind a subcommand. Only one of the two can explain. -/
def readGiven (explains : Bool) (g : Given) : List String → Except UsageError Given
  | [] => .ok g
  | argument :: rest =>
    match Word.of argument with
    | .escape =>
      match rest with
      | [] => .ok g
      | [query] =>
        if g.query.isSome then .error .unknownArgument else .ok { g with query := some query }
      | _ => .error .unknownArgument
    | .long name value =>
      if name = "help" || explains && name = "explain" then
        if value.isSome then .error .surplusValue
        else if name = "help" then .error .help
        else if g.explain then .error .repeated
        else readGiven explains { g with explain := true } rest
      else .error .unknownArgument
    | .short letters => .error (if letters.head? = some 'h' then .help else .unknownArgument)
    | .plain =>
      if g.query.isSome then .error .unknownArgument
      else readGiven explains { g with query := some argument } rest

/-- Reads a subcommand. -/
def readCommand (name : String) (rest : List String) : Except UsageError Command :=
  if name = "query" then
    (readGiven true {} rest).map fun g => .query (g.query.getD "") g.explain
  else if name = "describe" then
    (readGiven false {} rest).map fun g => .describe (g.query.getD "")
  else if name = "help" then .error (readHelp rest)
  else .error .unknownSubcommand

/-- Reads options and the subcommand. There may be no subcommand. -/
def readAll (p : Progress) : List String → Except UsageError (Progress × Option Command)
  | [] => .ok (p, none)
  | argument :: rest =>
    match p.awaited? with
    | some setting =>
      if setting.takesHyphens then readAll ⟨p.settings, .check setting argument⟩ rest
      else
        match Word.of argument with
        | .plain => readAll ⟨p.settings, .check setting argument⟩ rest
        | word => readWord word rest
    | none =>
      match Word.of argument with
      | .plain => (readCommand argument rest).map fun command => (p, some command)
      | word => readWord word rest
where
  /-- Reads an argument that is an option, and what follows it. -/
  readWord (word : Word) (rest : List String) : Except UsageError (Progress × Option Command) :=
    match word with
    | .long name value => do readAll (← p.long name value) rest
    | .short letters => do readAll (← p.short letters) rest
    | _ =>
      match rest with
      | [] => .ok (p, none)
      | next :: _ => .error (if isSubcommand next then .unknownArgument else .unknownSubcommand)

/-- The arguments of the command line. -/
structure Arguments where
  /-- The file that holds the dataset. -/
  data : String
  config : Config
  /-- The order of queries that ask for none; empty if it is not given. -/
  defaultOrdering : List String
  /-- The names to sort by; empty if they are not given. -/
  orderable : List String
  format : Format
  command : Command
deriving DecidableEq

namespace Arguments

/-- The configuration that the options ask for. -/
def configOf (s : Settings) : Config :=
  s.ignored.foldl Config.ignoring
    (.ofParams (s.orderingParam.getD Config.usualOrderingParam)
      (s.searchParam.getD Config.usualSearchParam) (s.fieldsParam.getD Config.usualFieldsParam))

/-- Reads the arguments. -/
def read (arguments : List String) : Except UsageError Arguments := do
  let (progress, command) ← readAll ⟨{}, .nothing⟩ arguments
  let settings ← progress.settle
  match command with
  | none => .error (if settings = {} then .nothingGiven else .missingSubcommand)
  | some command =>
    match settings.data with
    | none => .error .missingOption
    | some data =>
      return ⟨data, configOf settings, settings.defaultOrdering, settings.orderable,
        settings.format.getD .table, command⟩

end Arguments

end RowQuery.CommandLine
