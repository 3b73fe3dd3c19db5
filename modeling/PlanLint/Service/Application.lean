import PlanLint.Service.Request

/-! The service while it runs: startups and shutdowns set the options that requests meet. -/

namespace PlanLint

/-- The state of the service: the options of a startup, until a shutdown. -/
structure Application where
  options : Option ServiceOptions

/-- The service before any startup. -/
def Application.initial : Application := ⟨none⟩

/-- The options in force. -/
def Application.currentOptions (app : Application) : ServiceOptions := app.options.getD defaultOptions

/-- What happens to the service. -/
inductive Event where
  | startup (env : Environment) (file : Option (List Char))
  | shutdown
  | request (r : Request)

/-- How the service answers an event. -/
inductive Answer where
  /-- The options that are then in force. -/
  | options (o : ServiceOptions)
  | startupFailed (failure : OptionsFailure)
  | response (r : Except RequestFault Response)

/-- The service after an event, and its answer. A startup that fails changes nothing. -/
def Application.handle (app : Application) : Event → Application × Answer
  | .startup env file =>
    match loadOptions env file with
    | .ok options => (⟨some options⟩, .options options)
    | .error failure => (app, .startupFailed failure)
  | .shutdown => (.initial, .options defaultOptions)
  | .request r => (app, .response (respond app.currentOptions r))

/-- The answers to events, one after the other. -/
def Application.run (app : Application) : List Event → List Answer
  | [] => []
  | event :: events =>
    let (next, answer) := app.handle event
    answer :: next.run events

end PlanLint
