/-
The arguments of the command line.

Arguments are read from left to right.  Values are collected for an option or
for the free arguments until something else comes, and only then are they
checked, so that of two mistakes the one that is met first in this way counts.
-/
import BranchCoverage.Text.Numeral

namespace BranchCoverage.CommandLine

/-- What the options ask for. -/
structure Settings where
  prefixes : List String := []
  included : List String := []
  excluded : List String := []
  includeFiles : List String := []
  excludeFiles : List String := []
  useCallback : Bool := false
  alternateMode : Bool := false
  version : Option UInt16 := none
  print : Bool := false
  rejectMixedMode : Bool := false
  deriving DecidableEq

/-- What the command line asks for. -/
structure Arguments where
  path : String
  settings : Settings := {}
  deriving DecidableEq

/-- Why there is nothing to run. -/
inductive Usage where
  | unknownArgument
  /-- A value for an option that takes none. -/
  | tooManyValues
  /-- No value for an option that takes one, or an empty path. -/
  | invalidValue
  /-- A value that is no number of the range. -/
  | valueValidation
  /-- An option that may be given once, given again. -/
  | argumentConflict
  | missingRequiredArgument
  | displayHelp
  | displayHelpOnMissingArgument
  | displayVersion
  deriving DecidableEq

/-- The options that take no value. -/
inductive Flag where
  | useCallback | alternateMode | print | rejectMixedMode
  deriving DecidableEq

/-- What takes values: the free arguments and the other options. -/
inductive Slot where
  | path | prefixes | included | excluded | includeFile | excludeFile | version
  deriving DecidableEq

/-- What the name of an option stands for. -/
inductive Meaning where
  | flag (flag : Flag)
  | slot (slot : Slot)
  | help
  | version
  deriving DecidableEq

/-- The option with a name. -/
def meaning? : String → Option Meaning
  | "include" => some (.slot .included)
  | "exclude" => some (.slot .excluded)
  | "include-file" => some (.slot .includeFile)
  | "exclude-file" => some (.slot .excludeFile)
  | "use-callback" => some (.flag .useCallback)
  | "alternate-mode" => some (.flag .alternateMode)
  | "set-version" => some (.slot .version)
  | "print" => some (.flag .print)
  | "reject-mixed-mode" => some (.flag .rejectMixedMode)
  | "help" => some .help
  | "version" => some .version
  | _ => none

namespace Settings

/-- Whether a flag has been given. -/
def has (s : Settings) : Flag → Bool
  | .useCallback => s.useCallback
  | .alternateMode => s.alternateMode
  | .print => s.print
  | .rejectMixedMode => s.rejectMixedMode

/-- The settings with a flag given. -/
def give (s : Settings) : Flag → Settings
  | .useCallback => { s with useCallback := true }
  | .alternateMode => { s with alternateMode := true }
  | .print => { s with print := true }
  | .rejectMixedMode => { s with rejectMixedMode := true }

end Settings

/-- The parts of a text between commas. -/
def splitAtCommas (text : String) : List String :=
  split text.toList |>.map String.ofList
where
  split : List Char → List (List Char)
    | [] => [[]]
    | ',' :: rest => [] :: split rest
    | c :: rest =>
      match split rest with
      | [] => [[c]]
      | part :: more => (c :: part) :: more

/-- What has been read of the command line.  The values that are pending stand
with the last one first. -/
structure Progress where
  path : Option String := none
  settings : Settings := {}
  pending : Option (Slot × List String) := none
  /-- The next argument is the value of the pending option. -/
  expecting : Bool := false
  /-- All arguments from here on are free ones. -/
  trailing : Bool := false
  deriving DecidableEq

namespace Progress

/-- Checks the values for a slot and enters them. -/
def enter (p : Progress) (slot : Slot) (values : List String) : Except Usage Progress :=
  let s := p.settings
  if values = [] then .error .invalidValue
  else
    match slot with
    | .prefixes => .ok { p with settings.prefixes := s.prefixes ++ values }
    | .included =>
      .ok { p with settings.included := s.included ++ values.flatMap splitAtCommas }
    | .excluded =>
      .ok { p with settings.excluded := s.excluded ++ values.flatMap splitAtCommas }
    | .path =>
      if values.contains "" then .error .invalidValue else .ok { p with path := values.head? }
    | .includeFile =>
      if values.contains "" then .error .invalidValue
      else .ok { p with settings.includeFiles := s.includeFiles ++ values }
    | .excludeFile =>
      if values.contains "" then .error .invalidValue
      else .ok { p with settings.excludeFiles := s.excludeFiles ++ values }
    | .version =>
      if s.version.isSome then .error .argumentConflict
      else
        match values.head?.bind (Text.numeralWithin? 0 65535) with
        | some n => .ok { p with settings.version := some (UInt16.ofNat n.toNat) }
        | none => .error .valueValidation

/-- Enters what is pending. -/
def resolve (p : Progress) : Except Usage Progress :=
  match p.pending with
  | none => .ok p
  | some (slot, values) =>
    enter { p with pending := none, expecting := false } slot values.reverse

/-- Reads a free argument: the path comes first. -/
def free (p : Progress) (argument : String) : Except Usage Progress :=
  match p.pending with
  | some (.prefixes, values) => .ok { p with pending := some (.prefixes, argument :: values) }
  | pending => do
    let slot : Slot :=
      if p.path.isSome || pending.any (·.1 = .path) then .prefixes else .path
    let p ← p.resolve
    return { p with pending := some (slot, [argument]) }

/-- Reads an option by its name, with the value that an equals sign attaches to
it. -/
def option (p : Progress) (name : String) (value : Option String) : Except Usage Progress := do
  match meaning? name, value with
  | none, _ => throw .unknownArgument
  | some (.slot slot), some value => (← p.resolve).enter slot [value]
  | some (.slot slot), none =>
    return { ← p.resolve with pending := some (slot, []), expecting := true }
  | some _, some _ => throw .tooManyValues
  | some (.flag flag), none =>
    let p ← p.resolve
    if p.settings.has flag then throw .argumentConflict
    return { p with settings := p.settings.give flag }
  | some .help, none =>
    let _ ← p.resolve
    throw .displayHelp
  | some .version, none =>
    let _ ← p.resolve
    throw .displayVersion

/-- Reads an option of one letter. -/
def letter (p : Progress) : Char → Except Usage Progress
  | 'h' => p.option "help" none
  | 'V' => p.option "version" none
  | _ => .error .unknownArgument

/-- Reads a value or a free argument. -/
def plain (p : Progress) (argument : String) : Except Usage Progress :=
  match p.pending, p.expecting with
  | some (slot, values), true =>
    .ok { p with pending := some (slot, argument :: values), expecting := false }
  | _, _ => p.free argument

/-- Reads an argument. -/
def read (p : Progress) (argument : String) : Except Usage Progress :=
  if p.trailing then p.free argument
  else
    match argument.toList with
    | ['-', '-'] => .ok { p with trailing := true }
    | '-' :: '-' :: rest =>
      let (name, value) := rest.span (· ≠ '=')
      p.option (String.ofList name) (value.tail?.map String.ofList)
    | '-' :: c :: _ => p.letter c
    | _ => p.plain argument

end Progress

/-- Reads a command line. -/
def Arguments.parse (arguments : List String) : Except Usage Arguments := do
  let p ← arguments.foldlM Progress.read {}
  let p ← p.resolve
  match p.path with
  | some path => return ⟨path, p.settings⟩
  | none =>
    throw (if p.settings = {} then .displayHelpOnMissingArgument else .missingRequiredArgument)

end BranchCoverage.CommandLine
