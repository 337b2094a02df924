import GrammarAudit.Path

/-!
# Command-line options

What the arguments of the program ask for, and why they can be refused.  An
option's value may stand in an argument of its own or follow the option after an
equals sign, or, for a short option, at once.  An option whose value is still to
be looked at is noted first: mistakes in it come to light when the next option
is read, and give way to an argument that is unknown.

* `parse` reads the arguments.
-/

namespace GrammarAudit.CommandLine

/-- What the arguments ask for. -/
structure Options where
  /-- The config file to use. -/
  config : Option Path
  /-- The library to check instead of the configured grammars. -/
  library : Option Path
  /-- The names of the grammars to check. -/
  only : Option (List String)
  /-- More samples for every grammar. -/
  samples : List Path
  verbose : Bool
deriving DecidableEq, Repr, Inhabited

/-- No options. -/
def Options.unset : Options := ⟨none, none, none, [], false⟩

/-- Why arguments are not read as options: they are wrong, or ask for the help
or the version instead. -/
inductive Refusal
  | unknownArgument
  | invalidValue
  | argumentConflict
  | tooManyValues
  | help
  | version
deriving DecidableEq, Repr

/-- The options that take a value. -/
inductive Setting
  | config
  | library
  | only
  | sample
deriving DecidableEq, Repr

/-- The options that take none. -/
inductive Flag
  | verbose
  | help
  | version
deriving DecidableEq, Repr

/-- The options. -/
inductive Switch
  | setting (s : Setting)
  | flag (f : Flag)
deriving DecidableEq, Repr

/-- The options by their long names. -/
def longNames : List (String × Switch) :=
  [("config", .setting .config), ("library", .setting .library), ("only", .setting .only),
    ("sample", .setting .sample), ("verbose", .flag .verbose), ("help", .flag .help),
    ("version", .flag .version)]

/-- The options by their short names. -/
def shortNames : List (Char × Switch) :=
  [('c', .setting .config), ('l', .setting .library), ('s', .setting .sample),
    ('v', .flag .verbose), ('h', .flag .help), ('V', .flag .version)]

/-- A path as the value of an option; it must not be empty. -/
def pathValue (text : String) : Except Refusal Path :=
  if text.isEmpty then .error .invalidValue else .ok ⟨text⟩

/-- The parts of a text between commas. -/
def splitCommas (text : String) : List String :=
  (text.toList.splitOn ',').map String.ofList

namespace Options

/-- Takes the value of an option in; options for one path are given once. -/
def set (o : Options) (s : Setting) (value : String) : Except Refusal Options :=
  match s with
  | .config =>
    if o.config.isSome then .error .argumentConflict
    else (pathValue value).map fun path => { o with config := some path }
  | .library =>
    if o.library.isSome then .error .argumentConflict
    else (pathValue value).map fun path => { o with library := some path }
  | .only => .ok { o with only := some (o.only.getD [] ++ splitCommas value) }
  | .sample => (pathValue value).map fun path => { o with samples := o.samples ++ [path] }

end Options

/-- What has been read: the options taken in, and an option that is not taken in
yet, with its value if that has been read. -/
structure Progress where
  options : Options
  pending : Option (Setting × Option String)
deriving DecidableEq, Repr

namespace Progress

/-- Takes in the option that is noted; it needs a value. -/
def settle (p : Progress) : Except Refusal Options :=
  match p.pending with
  | none => .ok p.options
  | some (_, none) => .error .invalidValue
  | some (s, some value) => p.options.set s value

/-- Notes an option whose value stands in the next argument. -/
def await (p : Progress) (s : Setting) : Except Refusal Progress :=
  p.settle.map fun options => ⟨options, some (s, none)⟩

/-- Takes in an option with its value. -/
def take (p : Progress) (s : Setting) (value : String) : Except Refusal Progress :=
  p.settle.bind fun options => (options.set s value).map fun options => ⟨options, none⟩

/-- Takes in an option without a value. -/
def flag (p : Progress) (f : Flag) : Except Refusal Progress :=
  p.settle.bind fun options =>
    match f with
    | .verbose =>
      if options.verbose then .error .argumentConflict
      else .ok ⟨{ options with verbose := true }, none⟩
    | .help => .error .help
    | .version => .error .version

/-- Reads an argument that starts with two hyphens, without those: a long name
and, after an equals sign, a value. -/
def long (p : Progress) (text : List Char) : Except Refusal Progress :=
  let (name, rest) := text.span (· ≠ '=')
  match longNames.lookup (String.ofList name), rest with
  | none, _ => .error .unknownArgument
  | some (.setting s), '=' :: value => p.take s (String.ofList value)
  | some (.setting s), _ => p.await s
  | some (.flag _), '=' :: _ => .error .tooManyValues
  | some (.flag f), _ => p.flag f

/-- Reads an argument that starts with one hyphen, without that: short names,
the last of which may take the rest as its value. -/
def short (p : Progress) : List Char → Except Refusal Progress
  | [] => .ok p
  | c :: rest =>
    match shortNames.lookup c, rest with
    | none, _ => .error .unknownArgument
    | some (.setting s), [] => p.await s
    | some (.setting s), '=' :: value => p.take s (String.ofList value)
    | some (.setting s), value => p.take s (String.ofList value)
    | some (.flag f), rest => (p.flag f).bind fun p => p.short rest

/-- Reads an argument that is no option: the value of the option that waits for
one. -/
def value (p : Progress) (text : String) : Except Refusal Progress :=
  match p.pending with
  | some (s, none) => .ok ⟨p.options, some (s, some text)⟩
  | _ => .error .unknownArgument

/-- Reads the arguments; after two hyphens alone there are no options any
more. -/
def readAll (p : Progress) : List String → Except Refusal Progress
  | [] => .ok p
  | arg :: rest =>
    match arg.toList with
    | ['-', '-'] => if rest.isEmpty then .ok p else .error .unknownArgument
    | '-' :: '-' :: text => (p.long text).bind fun p => p.readAll rest
    | '-' :: c :: text => (p.short (c :: text)).bind fun p => p.readAll rest
    | _ => (p.value arg).bind fun p => p.readAll rest

end Progress

/-- Reads the arguments.  A config and a library exclude one another. -/
def parse (args : List String) : Except Refusal Options := do
  let options ← (← Progress.readAll ⟨.unset, none⟩ args).settle
  if options.config.isSome && options.library.isSome then .error .argumentConflict
  else return options

end GrammarAudit.CommandLine
