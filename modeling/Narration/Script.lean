import Narration.Context.Change
import Narration.Engine
import Narration.Expr.Printer
import Narration.ObjectTree
/-! Fields that follow a script: they say texts, change the fallbacks, break down, and call the engine
and other fields. -/
namespace Narration

/-- The call of a scripted field. -/
structure ScriptCall where
  name : String
  target : Target
  deriving DecidableEq, Repr

def ScriptCall.display (call : ScriptCall) : String :=
  call.name ++ "@" ++ toString call.target.toNat

/-- A tree of objects with the calls of scripted fields in the order in which they started. -/
structure Stage where
  tree : ObjectTree
  calls : List ScriptCall
  deriving Repr

namespace Script

/-- A part of its invocation that a field says. -/
inductive Shown where
  | category
  | mode
  | formatType
  | key
  | expression
  | formatExpression
  | descriptionUsed
  | target
  | context
  deriving DecidableEq, Repr

/-- A missing target is that of the field itself. With `caught`, a field says the error of the field
that it calls instead of passing it on. -/
inductive Step where
  | emit (fragments : List Fragment)
  | say (text : String)
  | sayCount
  | fail (error : FieldError)
  | breakDown (message : String)
  | setFallback (fallback : Fallback) (value : Bool)
  | resetFallbacks
  | sayFallback (fallback : Fallback)
  | sayPart (what : Shown)
  | shouldPresent (target : Option Target) (value : UInt32)
  | numberAndCount (target : Option Target)
  | record (target : Option Target) (value : Option UInt32) (timestamp : Option UInt64)
  | kill (target : Option Target)
  | resolve (target : Option Target) (context : List ContextChange)
  | resolveDetailed (target : Option Target) (context : List ContextChange)
  | resolveAfresh (target : Option Target) (context : List ContextChange)
  | call (name : String) (target : Option Target) (caught : Bool)
  | callOn (name : String) (target : Option Target) (caught : Bool)
  | callWith (name : String) (target : Option Target) (context : List ContextChange) (caught : Bool)
  deriving Repr

def spoken (text : String) : List Fragment := [.text text]

def showBool (value : Bool) : String := if value then "true" else "false"

def showContext (context : Context) : String :=
  let orDash (value : Option String) : String := value.getD "-"
  "|".intercalate
    [orDash (context.role.map Category.name),
     orDash (context.mode.map Mode.name),
     orDash (context.formatType.map FormatType.name),
     showBool context.alreadyFocused,
     showBool context.includeContext,
     showBool context.recursing,
     showBool context.isProgressUpdate,
     orDash (context.startOffset.map fun offset => toString offset.toNat),
     orDash (context.endOffset.map fun offset => toString offset.toNat),
     orDash context.string]

def shown (target : Target) (invocation : Invocation Stage) : Shown → Action (State Stage) String
  | .category => return invocation.category.name
  | .mode => return invocation.key.mode.name
  | .formatType => return invocation.key.formatType.name
  | .key => return invocation.key.display
  | .expression => return invocation.expression.display
  | .formatExpression => return (invocation.formatExpression.map Expr.display).getD "none"
  | .descriptionUsed => return showBool (← getFallbacks).descriptionUsed
  | .target => return toString target.toNat
  | .context => return showContext invocation.context

/-- What a called field says, or its error if errors are caught. -/
def catching (caught : Bool) (action : Action (State Stage) (List Fragment)) :
    Action (State Stage) (List Fragment) := fun state =>
  match action state with
  | .error (.field error) next =>
    if caught then .ok (spoken ("caught: " ++ error.message)) next else .error (.field error) next
  | result => result

def step (name : String) (target : Target) (invocation : Invocation Stage) :
    Step → Action (State Stage) (List Fragment)
  | .emit fragments => return fragments
  | .say text => return spoken text
  | .sayCount => do
    let calls := (← get).world.calls
    return spoken (toString (calls.countP fun call => call.name = name))
  | .fail error => throw (.field error)
  | .breakDown message => throw (.fault message)
  | .setFallback fallback value => do
    Narration.setFallback fallback value
    return []
  | .resetFallbacks => do
    setFallbacks .none
    return []
  | .sayFallback fallback =>
    return spoken (if (← getFallbacks).get fallback then "set" else "unset")
  | .sayPart what => return spoken (← shown target invocation what)
  | .shouldPresent other value =>
    return spoken (showBool (← invocation.objects.shouldPresent (other.getD target) value))
  | .numberAndCount other => do
    let (number, count) ← invocation.objects.numberAndCount (other.getD target)
    return spoken (toString number ++ "/" ++ toString count)
  | .record other value timestamp => do
    invocation.objects.recordProgress (other.getD target) value timestamp
    return []
  | .kill other => do
    modify fun state =>
      { state with world.tree := state.world.tree.kill (other.getD target) }
    return []
  | .resolve other changes => do
    let context := ContextChange.applyAll invocation.context changes
    return (← invocation.host.resolve (other.getD target) context).fragments
  | .resolveDetailed other changes => do
    let context := ContextChange.applyAll invocation.context changes
    let resolution ← invocation.host.resolve (other.getD target) context
    return spoken (resolution.outcome.display ++ ":" ++ toString resolution.bindings.size) ++
      resolution.fragments
  | .resolveAfresh other changes => do
    let context := ContextChange.applyAll invocation.context changes
    return (← invocation.host.resolveAfresh (other.getD target) context).fragments
  | .call called other caught => catching caught (invocation.call called (other.getD target))
  | .callOn called other caught => catching caught (invocation.callOn called (other.getD target))
  | .callWith called other changes caught =>
    catching caught (invocation.callWith called (other.getD target)
      (ContextChange.applyAll invocation.context changes))

def run (name : String) (target : Target) (invocation : Invocation Stage) :
    List Step → Action (State Stage) (List Fragment)
  | [] => return []
  | first :: rest => do
    let fragments ← step name target invocation first
    return fragments ++ (← run name target invocation rest)

/-- The field that notes its call and follows `steps` up to the first one that fails. -/
def provider (name : String) (steps : List Step) : Provider Stage := fun target invocation => do
  modify fun state =>
    { state with world.calls := state.world.calls ++ [⟨name, target⟩] }
  run name target invocation steps

end Script
end Narration
