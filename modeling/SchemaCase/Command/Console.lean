import SchemaCase.Event
import SchemaCase.Text.Utf8

/-! What a run does, one thing after the other, as far as its console lets it. -/

namespace SchemaCase.Command

inductive Stream
  | stdout
  | stderr
  deriving DecidableEq, Repr

inductive Action
  | print (stream : Stream) (text : Text)
  | log (event : Event)
  /-- The other program is given the schema. -/
  | pass (bytes : Bytes)
  /-- The contents of the schema file are replaced. -/
  | write (bytes : Bytes)
  deriving DecidableEq, Repr

/-- A console may refuse a text, since it is closed or has no codes for some character. What was
done before may count. -/
structure Console where
  takes : List Action → Stream → Text → Bool

namespace Console

def unlimited : Console :=
  { takes := fun _ _ _ => true }

/-- A log that cannot be shown is lost, and nothing else comes of it. -/
def allows (console : Console) (done : List Action) : Action → Bool
  | .print stream text => console.takes done stream text
  | .log _ | .pass _ | .write _ => true

end Console

structure Outcome where
  exitCode : Nat
  actions : List Action

def Action.written? : Action → Option Bytes
  | .write bytes => some bytes
  | .print .. | .log _ | .pass _ => none

namespace Outcome

def printed (outcome : Outcome) (stream : Stream) : Text :=
  outcome.actions.flatMap fun
    | .print other text => if other = stream then text else []
    | _ => []

def events (outcome : Outcome) : List Event :=
  outcome.actions.filterMap fun
    | .log event => some event
    | _ => none

def received (outcome : Outcome) : Option Bytes :=
  outcome.actions.findSome? fun
    | .pass bytes => some bytes
    | _ => none

def written (outcome : Outcome) : Option Bytes :=
  outcome.actions.findSome? Action.written?

end Outcome

/-- Does one thing after the other. A print that is refused ends the run, with exit code 1. -/
def Console.perform (console : Console) (exitCode : Nat) :
    (done rest : List Action) → Outcome
  | done, [] => { exitCode, actions := done }
  | done, action :: rest =>
      if console.allows done action then console.perform exitCode (done ++ [action]) rest
      else { exitCode := 1, actions := done }

/-- What comes of an outcome if it is up to a console. -/
def Outcome.on (outcome : Outcome) (console : Console) : Outcome :=
  console.perform outcome.exitCode [] outcome.actions

end SchemaCase.Command
