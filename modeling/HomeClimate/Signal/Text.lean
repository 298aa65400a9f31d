import HomeClimate.Signal.Basic
import HomeClimate.Text.Quoted
import HomeClimate.Time.Text

/-!
# Texts of signals

A signal in a message shows its instant, its value, its source if it has one, its
status, and its error if it has one.
-/

namespace HomeClimate

/-- The name of a kind of health. -/
def SignalStatus.name : SignalStatus → String
  | .ok => "Ok"
  | .partialFailure => "FailurePartial"
  | .totalFailure => "FailureTotal"

/-- A signal as a text, where `shown` writes its value. -/
def Signal.text {α : Type} (shown : α → String) (s : Signal α) : String :=
  let source := match s.source with
    | some p => ", payload=" ++ Text.quote p
    | none => ""
  let error := match s.error? with
    | some e => ", error=" ++ e.message
    | none => ""
  "\x7b@" ++ s.time.text ++ ", value=" ++ Text.showOption shown s.value? ++ source ++ ", status=" ++
    s.status.name ++ error ++ "\x7d"

end HomeClimate
