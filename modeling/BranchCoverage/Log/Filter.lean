/-
Which lines get into a log.

A filter is written as rules between commas.  A rule is a level, which counts
for every line; a name, which lets all lines pass whose target begins with it;
or a name and a level, with an equals sign between them.  The rule with the
longest name that fits decides.  Behind a slash may stand a regular expression
that a part of each message has to match.
-/
import BranchCoverage.Log
import BranchCoverage.Pattern.Regular

namespace BranchCoverage

namespace Level

/-- The place of a level, the most important first. -/
def rank : Level → Nat
  | error => 1
  | warn => 2
  | info => 3
  | debug => 4
  | trace => 5

/-- The word for a level. -/
def name : Level → String
  | error => "error"
  | warn => "warn"
  | info => "info"
  | debug => "debug"
  | trace => "trace"

/-- The levels, the most important first. -/
def all : List Level :=
  [error, warn, info, debug, trace]

/-- The level with a name, in whatever case it is written. -/
def ofName? (name : String) : Option Level :=
  all.find? (·.name = name.toLower)

end Level

namespace Log

/-- How important lines have to be to pass. -/
inductive Threshold where
  | off
  | atLeast (level : Level)
  deriving DecidableEq

namespace Threshold

/-- Whether a line of a level passes. -/
def admits : Threshold → Level → Bool
  | off, _ => false
  | atLeast least, level => level.rank ≤ least.rank

/-- The threshold with a name, in whatever case it is written. -/
def ofName? (name : String) : Option Threshold :=
  if name.toLower = "off" then some off else (Level.ofName? name).map atLeast

end Threshold

/-- What holds for the lines whose target begins with a name, or for all. -/
structure Rule where
  name : Option String
  threshold : Threshold
  deriving DecidableEq

namespace Rule

/-- The length of the name. -/
def size (r : Rule) : Nat :=
  (r.name.map String.utf8ByteSize).getD 0

/-- Whether the rule is about a target. -/
def fits (r : Rule) (target : String) : Bool :=
  r.name.all fun name => name.toList.isPrefixOf target.toList

/-- A rule as it is written, or the part of it that is no level. -/
def parse (text : String) : Except String Rule :=
  match text.splitOn "=" with
  | [name] =>
    match Threshold.ofName? name with
    | some threshold => .ok ⟨none, threshold⟩
    | none => .ok ⟨some name, .atLeast .trace⟩
  | [name, level] =>
    let level := Text.trim level
    if level = "" then .ok ⟨some name, .atLeast .trace⟩
    else
      match Threshold.ofName? level with
      | some threshold => .ok ⟨some name, threshold⟩
      | none => .error level
  | _ => .error text

end Rule

/-- Rules, with those of longer names behind those of shorter ones, and the
pattern of what messages have to contain. -/
structure Filter where
  rules : List Rule
  pattern : Option Pattern := none
  deriving DecidableEq

namespace Filter

/-- What is wrong with a filter, for who runs the program. -/
def warning (flaw : String) : String :=
  s!"warning: {flaw}, ignoring it"

/-- What is wrong with a filter whose rules cannot be read. -/
def invalidRules (rules detail : String) : String :=
  warning s!"invalid logging spec '{rules}'{detail}"

/-- Adds a rule, in the place of the one with the same name. -/
def put (rule : Rule) : List Rule → List Rule
  | [] => [rule]
  | other :: rest => if other.name = rule.name then rule :: rest else other :: put rule rest

/-- Puts a rule before those of longer names. -/
def place (rule : Rule) : List Rule → List Rule
  | [] => [rule]
  | other :: rest =>
    if rule.size ≤ other.size then rule :: other :: rest else other :: place rule rest

/-- The filter with rules in the order in which they are written.  Without any,
only errors pass. -/
def ofRules (rules : List Rule) (pattern : Option Pattern) : Filter :=
  match rules.foldl (fun rules rule => put rule rules) [] with
  | [] => ⟨[⟨none, .atLeast .error⟩], pattern⟩
  | rules => ⟨rules.foldr place [], pattern⟩

/-- The rules of a filter as it is written, and the warnings about it. -/
def parseRules (text : String) : List Rule × List String :=
  let parsed := ((text.splitOn ",").map Text.trim).filter (· ≠ "") |>.map Rule.parse
  (parsed.filterMap fun
      | .ok rule => some rule
      | .error _ => none,
    parsed.filterMap fun
      | .ok _ => none
      | .error flaw => some (invalidRules flaw ""))

/-- A filter as it is written, and the warnings about it. -/
def parse (text : String) : Filter × List String :=
  match text.splitOn "/" with
  | [rules] =>
    let (rules, warnings) := parseRules rules
    (ofRules rules none, warnings)
  | [rules, wanted] =>
    let (rules, warnings) := parseRules rules
    match Pattern.ofText wanted with
    | .ok pattern => (ofRules rules (some pattern), warnings)
    | .error e =>
      (ofRules rules none, warnings ++ [warning s!"invalid regex filter - {e.message}"])
  | _ => (ofRules [] none, [invalidRules text " (too many '/'s)"])

/-- The filter where nothing else is asked for. -/
def standard : String := "info"

/-- Whether a line gets into the log. -/
def admits (f : Filter) (level : Level) (target message : String) : Bool :=
  ((f.rules.reverse.find? (·.fits target)).any (·.threshold.admits level)) &&
    f.pattern.all (·.occursIn message)

end Filter

end Log

end BranchCoverage
