import CallChart.Text.Quoted

namespace CallChart

inductive Failure where
  | analysisUnavailable (entry reason : String)
  | focusNotFound (focus : String)
  | invalidOption (key value reason : String)
  | engineUnavailable (reason : String)
  | engineFailed (reason : String)
  | taskFailed (reason : String)
  | fileFault (path reason : String)
  deriving DecidableEq, Repr

namespace Failure

def message : Failure → String
  | .analysisUnavailable entry reason => "analysis unavailable for " ++ entry ++ ": " ++ reason
  | .focusNotFound focus => "focus target not found: " ++ focus
  | .invalidOption key value reason =>
    "invalid value " ++ Text.quoted value ++ " for option " ++ key ++ ": " ++ reason
  | .engineUnavailable reason => "layout engine unavailable: " ++ reason
  | .engineFailed reason => "layout engine failed: " ++ reason
  | .taskFailed reason => "pipeline task failed: " ++ reason
  | .fileFault path reason => "I/O error on " ++ path ++ ": " ++ reason

def isRecoverable : Failure → Bool
  | .focusNotFound _ => true
  | .invalidOption .. => true
  | _ => false

end Failure
end CallChart
