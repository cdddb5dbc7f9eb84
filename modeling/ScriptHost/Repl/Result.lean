import ScriptHost.Text.Quoted

/-!
# Results of lines and loops

What became of an evaluation, of a line, and of a whole loop. Reports show such a value in the form
of a term: the name of its case with its parts, texts in quotes.
-/
namespace ScriptHost

/-- Result of evaluating one line of inline code.
mirrors `meta_sapi::lifecycle::EvalOutcome` -/
structure Evaluation where
  /-- The evaluation call itself reported success. -/
  succeeded : Bool
  /-- The runtime's name for the type of the result, when there is one. -/
  typeName : Option String
  /-- A dump of the result was asked for. -/
  dumped : Bool
  deriving DecidableEq, Repr

/-- Result of one handled line.
mirrors `meta_repl::driver::LineOutcome` -/
inductive LineResult where
  | script (completed : Bool)
  | inline (result : Evaluation)
  /-- The runtime refused to open the request; nothing ran. -/
  | refused
  deriving DecidableEq, Repr

/-- Why the loop stopped.
mirrors `meta_repl::driver::Termination` -/
inductive StopReason where
  | endOfInput
  | keyword (word : String)
  | interrupted
  | readFailed (reason : String)
  deriving DecidableEq, Repr

def Evaluation.shown (r : Evaluation) : String :=
  let name := match r.typeName with
    | some name => "Some(" ++ Text.quote name ++ ")"
    | none => "None"
  "EvalOutcome \x7b succeeded: " ++ toString r.succeeded ++ ", type_name: " ++ name ++
    ", dumped: " ++ toString r.dumped ++ " \x7d"

def LineResult.shown : LineResult → String
  | .script completed => "Script \x7b completed: " ++ toString completed ++ " \x7d"
  | .inline result => "Inline(" ++ result.shown ++ ")"
  | .refused => "RequestFailed"

def StopReason.shown : StopReason → String
  | .endOfInput => "EndOfInput"
  | .keyword word => "Keyword(" ++ Text.quote word ++ ")"
  | .interrupted => "Interrupted"
  | .readFailed reason => "ReadFailed(" ++ Text.quote reason ++ ")"

end ScriptHost
