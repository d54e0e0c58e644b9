/-!
# Log lines

A log is a list of lines, each with a level.  Levels are ordered from `error`, which is
nearly always wanted, to `trace`, which nearly never is; a threshold admits a level and
everything more important, and no threshold admits nothing.
-/

namespace CoverageLink
namespace Log

/-- How important a line is. -/
inductive Level
  | error | warn | info | debug | trace
  deriving DecidableEq, Repr, Inhabited

namespace Level

/-- The place of a level, the most important one first. -/
def rank : Level → Nat
  | error => 1
  | warn => 2
  | info => 3
  | debug => 4
  | trace => 5

/-- The full name of a level. -/
def name : Level → String
  | error => "ERROR"
  | warn => "WARN"
  | info => "INFO"
  | debug => "DEBUG"
  | trace => "TRACE"

/-- The name of a level in three letters, as log files have it. -/
def abbreviation : Level → String
  | error => "ERR"
  | warn => "WRN"
  | info => "INF"
  | debug => "DBG"
  | trace => "TRC"

/-- The name of a level in small letters, as settings have it. -/
def keyword : Level → String
  | error => "error"
  | warn => "warn"
  | info => "info"
  | debug => "debug"
  | trace => "trace"

/-- All levels, the most important one first. -/
def all : List Level := [error, warn, info, debug, trace]

/-- The level of a name in small letters. -/
def ofKeyword? (keyword : String) : Option Level :=
  all.find? fun level => level.keyword = keyword

@[simp] theorem ofKeyword?_keyword (level : Level) : ofKeyword? level.keyword = some level := by
  cases level <;> decide

end Level

/-- The least important level that is logged; `none` if nothing is. -/
abbrev Threshold := Option Level

/-- Whether a threshold admits a level. -/
def admits : Threshold → Level → Bool
  | none, _ => false
  | some least, level => level.rank ≤ least.rank

/-- A line of a log. -/
structure Line where
  level : Level
  text : String
  deriving DecidableEq, Repr, Inhabited

/-- An error. -/
def error (text : String) : Line := ⟨.error, text⟩
/-- A warning. -/
def warn (text : String) : Line := ⟨.warn, text⟩
/-- A note. -/
def info (text : String) : Line := ⟨.info, text⟩
/-- A detail. -/
def debug (text : String) : Line := ⟨.debug, text⟩
/-- A detail of a detail. -/
def trace (text : String) : Line := ⟨.trace, text⟩

end Log
end CoverageLink
