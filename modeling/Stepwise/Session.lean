/-
Module: Stepwise.Session
Purpose: A workflow, two policies and their call log, changed by requests.
Main exports: Policies, Calls, Session, Session.Request, Session.Reply, Session.perform
-/
import Stepwise.Form.Step
import Stepwise.Plan
import Stepwise.Policy.Rule
import Stepwise.Reachability

namespace Stepwise

/-!
A session holds the current workflow and one evaluator whose policies are
given by rules.  The call log belongs to the policies and not to the workflow:
it goes on from run to run, and replacing a policy starts the log of that
policy afresh and leaves the other one alone.  A request that fails leaves the
workflow as it was.
-/

/-- The policies of an evaluator, given by rules. -/
structure Policies where
  condition : ConditionRule
  executor : ExecutorRule
  ceilingFactor : Nat
deriving Repr, Inhabited

/-- The calls that recorded policies have received.  Policies that do not
record have none to show. -/
structure Calls where
  asked : Option (List String)
  executed : Option (List String)
deriving Repr, Inhabited, DecidableEq

namespace Policies

/-- The reference policies. -/
def reference : Policies :=
  { condition := .always
    executor := .typeBonus
    ceilingFactor := defaultCeilingFactor }

/-- The evaluator that the rules describe. -/
def evaluator (policies : Policies) : Evaluator CallLog :=
  { executor := policies.executor.executor
    condition := policies.condition.condition
    ceilingFactor := policies.ceilingFactor }

/-- What a log holds of the calls of recorded policies. -/
def calls (policies : Policies) (log : CallLog) : Calls :=
  { asked := if policies.condition.isRecorded then some log.asked.toList else none
    executed := if policies.executor.isRecorded then some log.executed.toList else none }

end Policies

/-- A workflow with an evaluator and the calls its policies have received. -/
structure Session where
  workflow : Workflow
  policies : Policies
  log : CallLog
deriving Repr, Inhabited

namespace Session

/-- What a session can be asked to do. -/
inductive Request where
  /-- Replace the workflow. -/
  | load (workflow : Workflow)
  /-- Replace the workflow by one read from JSON text. -/
  | parse (text : String)
  /-- Put a step behind the workflow. -/
  | push (step : Step)
  /-- Show the workflow. -/
  | dump
  /-- Look up a step by its index. -/
  | get (index : Nat)
  /-- Look up the entry. -/
  | first
  /-- Follow a reference held by a step of the given name. -/
  | resolve (holder : String) (reference : String)
  /-- Validate the workflow. -/
  | validate
  /-- Write the workflow as pseudocode. -/
  | render
  /-- Evaluate the workflow under the reference policies. -/
  | reward (context : Context)
  /-- Evaluate the workflow under the policies of the session. -/
  | run (context : Context)
  /-- Replace the condition. -/
  | setCondition (rule : ConditionRule)
  /-- Replace the executor. -/
  | setExecutor (rule : ExecutorRule)
deriving Repr, Inhabited

/-- What a session answers. -/
inductive Reply where
  | loaded (length : Nat)
  | unreadable (fault : Json.Fault)
  | pushed (length : Nat) (same : Bool)
  | dumped (workflow : Workflow)
  | found (step : Option Step)
  | entry (step : Option Step)
  | resolved (outcome : Except WorkflowFault (Nat × Step))
  | validated (outcome : Except WorkflowFault (List String))
  | rendered (text : String)
  | rewarded (outcome : Except WorkflowFault Float)
  | ran (outcome : Except WorkflowFault Report) (calls : Calls)
  | configured (ceilingFactor : Nat) (calls : Calls)

/-- A session with an empty workflow and no calls yet. -/
def start (policies : Policies) : Session :=
  { workflow := .empty
    policies := policies
    log := .empty }

/-- The calls recorded in a session. -/
def calls (session : Session) : Calls :=
  session.policies.calls session.log

/-- Answers that the policies have been changed. -/
def configured (session : Session) : Reply × Session :=
  (.configured session.policies.ceilingFactor session.calls, session)

/-- Runs the evaluator of a session on its workflow. -/
def run (session : Session) (context : Context) : Except WorkflowFault Report × Session :=
  let (outcome, log) := session.policies.evaluator.run session.workflow context session.log
  (outcome, { session with log := log })

/-- The index and the step that a reference leads to. -/
def lookUp (w : Workflow) (holder reference : String) : Except WorkflowFault (Nat × Step) :=
  (w.resolve holder reference).map fun index => (index.val, w.get index)

/-- Carries out a request. -/
def perform (session : Session) : Request → Reply × Session
  | .load workflow => (.loaded workflow.length, { session with workflow := workflow })
  | .parse text =>
      match Workflow.decoder.read text with
      | .error fault => (.unreadable fault, session)
      | .ok workflow => (.loaded workflow.length, { session with workflow := workflow })
  | .push step =>
      let longer := session.workflow.append [step]
      (.pushed longer.length (longer = session.workflow), { session with workflow := longer })
  | .dump => (.dumped session.workflow, session)
  | .get index => (.found (session.workflow.get? index), session)
  | .first => (.entry session.workflow.first?, session)
  | .resolve holder reference =>
      (.resolved (lookUp session.workflow holder reference), session)
  | .validate => (.validated session.workflow.validate, session)
  | .render => (.rendered (Pseudocode.render session.workflow), session)
  | .reward context => (.rewarded (session.workflow.reward context), session)
  | .run context =>
      let (outcome, session) := session.run context
      (.ran outcome session.calls, session)
  | .setCondition rule =>
      configured
        { session with
          policies := { session.policies with condition := rule }
          log := { session.log with asked := #[] } }
  | .setExecutor rule =>
      configured
        { session with
          policies := { session.policies with executor := rule }
          log := { session.log with executed := #[] } }

/-- Carries out requests one after the other. -/
def performAll : Session → List Request → List Reply × Session
  | session, [] => ([], session)
  | session, request :: requests =>
      let (reply, session) := session.perform request
      let (replies, session) := session.performAll requests
      (reply :: replies, session)

end Session

end Stepwise
