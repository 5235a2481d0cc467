/-!
# Kinds of entities

What a view lists or shows.  Definitions do not change on their own, executions do.
-/

namespace QuerySync

/-- The kind of entity a view is about. -/
inductive EntityKind where
  /-- Task definitions. -/
  | task
  /-- Workflow definitions. -/
  | workflow
  /-- Launch plans of workflows. -/
  | launchPlan
  /-- Executions of workflows or tasks. -/
  | execution
  /-- Executions of the nodes of a workflow execution. -/
  | nodeExecution
deriving DecidableEq, Repr

namespace EntityKind

/-- Every kind. -/
def all : List EntityKind := [task, workflow, launchPlan, execution, nodeExecution]

/-- The name of a kind in configurations. -/
def name : EntityKind → String
  | task => "task"
  | workflow => "workflow"
  | launchPlan => "launch_plan"
  | execution => "execution"
  | nodeExecution => "node_execution"

/-- The kind with a name. -/
def ofName? (text : String) : Option EntityKind := all.find? (·.name = text)

/-- Whether entities of a kind have a phase, and so change on their own. -/
def hasPhase : EntityKind → Bool
  | execution | nodeExecution => true
  | task | workflow | launchPlan => false

end EntityKind

end QuerySync
