import IndexOptions.Http.Answer

/-!
# Sessions

A session is a list of steps taken with a service, one after the other. Each step gives a reply and leaves the service
in the state in which the next step finds it.
-/

namespace IndexOptions.Session

inductive Step where
  /-- Set environment variables, or take them away. -/
  | setVariables (changes : List (Text × Option Text))
  | clearSettings
  | dropDirectories
  | readSettings
  | obtainDirectories
  | start
  | stop
  /-- Resolve options with the shared directories. -/
  | resolve (options : OptionMap) (table : Given Table) (index : Given Index)
  /-- Resolve the options stored with an index. -/
  | resolveStored (table : Given Table) (index : Index)
  | request (request : Http.Request)

inductive Reply where
  | done
  | variables (result : Except VariableFault Unit)
  | settings (result : Checked Settings)
  | directories (result : Checked SharedDirectories)
  | started (result : Except Service.StartError Unit)
  | config (result : Except ResolveError (Config Schema))
  | response (response : Http.Response)

open Service (Outcome)

/-- An outcome without records. -/
def quiet (reply : Reply) (s : Service) : Outcome Reply := ⟨reply, [], s⟩

/-- An outcome with its result as a reply. -/
def replyWith {α : Type} (reply : α → Reply) (o : Outcome α) : Outcome Reply := ⟨reply o.result, o.records, o.service⟩

def Step.run (s : Service) : Step → Outcome Reply
  | setVariables changes =>
    let (result, s) := s.setVariables changes
    quiet (.variables result) s
  | clearSettings => quiet .done s.clearSettings
  | dropDirectories => quiet .done s.dropDirectories
  | readSettings =>
    let (settings, s) := s.obtainSettings
    quiet (.settings settings) s
  | obtainDirectories => replyWith .directories s.obtainDirectories
  | start => replyWith .started s.start
  | stop => replyWith (fun _ => .done) s.stop
  | .resolve options table index =>
    replyWith .config (s.resolve .shared (Schema.builder s.depth) options table index)
  | .resolveStored table index => replyWith .config (s.resolveStored table index)
  | .request r => replyWith .response (Http.answer s r)

/-- The replies of the steps of a session, and the service after them. -/
def run : Service → List Step → List Reply × Service
  | s, [] => ([], s)
  | s, step :: steps =>
    let o := step.run s
    let (replies, s) := run o.service steps
    (o.result :: replies, s)

end IndexOptions.Session
