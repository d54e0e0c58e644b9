import CoverageLink.Log
import CoverageLink.Text.Numeral

/-!
# Where an agent logs

Three variables of the environment decide what is logged and where.  A level is named in
small letters; any other name, and no name, means silence.  The size from which on the
log file is set aside may be surrounded by white space; what is no number is no limit.
-/

namespace CoverageLink
namespace Log

/-- What is logged, and where. -/
structure Settings where
  threshold : Threshold
  /-- The log file; standard error if there is none. -/
  path : Option String
  /-- The size from which on the file is set aside. -/
  rotateAt : Option Nat
  deriving DecidableEq, Repr, Inhabited

namespace Settings

/-- The settings that the variables of an environment ask for. -/
def ofVariables (environment : String → Option String) : Settings where
  threshold := (environment "COVSTREAM_LOG").bind Level.ofKeyword?
  path := (environment "COVSTREAM_LOGFILE").filter fun value => !value.isEmpty
  rotateAt := (environment "COVSTREAM_LOGFILE_ROTATE_WHEN_BIGGER_THAN").bind fun value =>
    Text.parseTrimmedBelow UInt64.size value

end Settings
end Log
end CoverageLink
