/-! # Settings

What an analysis may be told: above all which callees log and which consume a value safely.
-/

namespace Conformance
set_option autoImplicit false

structure Settings where
  strict : Bool := true
  declaration : Bool := false
  target : String := "ES2020"
  defaultLanguage : String := "typescript"
  /-- Outline modules with syntax errors as far as they can be read. -/
  recoverSyntaxErrors : Bool := false
  logSinks : List String :=
    ["console", "logger", "logging", "log", "print", "println", "eprint", "eprintln", "dbg",
      "tracing", "structlog", "sys.stdout", "sys.stderr", "process.stdout", "process.stderr"]
  safeCalls : List String :=
    ["compare", "compareSync", "compare_digest", "checkpw", "hashpw", "hash", "hashSync", "verify",
      "timingSafeEqual", "sha256", "digest"]
  /-- The file the settings came from. -/
  source : Option String := none
  deriving DecidableEq

end Conformance
