import QueryLoom.Json.Settings
import QueryLoom.Text.Numeral

/-!
# Settings of a session

* `Settings` : what can be set; `Settings.parse` : reads it from JSON text.
-/

namespace QueryLoom

/-- What can be set for a session. -/
structure Settings where
  /-- The number of drafts that may wait to be used again. -/
  maxIdle : UInt64 := 64
  /-- Whether logs may show the arguments of statements. -/
  logArguments : Bool := false
  deriving DecidableEq, Repr

namespace Settings

/-- The names of what can be set. -/
def names : List (Json.Setting Settings) :=
  [.of "max_idle" (Json.readInt .uint64) fun n s => { s with maxIdle := UInt64.ofNat n.toNat },
    .of "log_arguments" Json.readBool fun b s => { s with logArguments := b }]

/-- Reads settings from JSON text; what it does not set stays as it is without settings. -/
def parse (s : String) : Except Json.Fault Settings :=
  Json.readWhole (Json.readSettings names {} some) s.toList

end Settings

end QueryLoom
