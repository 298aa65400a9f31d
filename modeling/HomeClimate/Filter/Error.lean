import HomeClimate.Time.Span

/-!
# Errors of filters

Why a filter cannot be set up as asked.
-/

namespace HomeClimate

/-- Why a filter cannot be set up as asked. -/
inductive FilterError where
  /-- A median over no signal at all. -/
  | noDepth
  /-- A chain of no source at all. -/
  | emptyChain
  /-- A source that is in the chain already. -/
  | duplicateSource (source : String)
  /-- A timeout below a millisecond. -/
  | timeoutTooShort (timeout : Span)
  /-- A median over more signals than there can be room for. -/
  | noRoom
  deriving Repr, DecidableEq

/-- An error as a text. -/
def FilterError.message : FilterError → String
  | .noDepth => "Invalid argument: median depth must be at least 1"
  | .emptyChain => "Fallback chain is empty"
  | .duplicateSource source => "Duplicate source in fallback chain: " ++ source
  | .timeoutTooShort span => "Unreasonably short timeout of " ++ Span.describe span
  | .noRoom => "No room for so many signals"

end HomeClimate
