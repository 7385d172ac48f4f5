import OddiyaOps.Python.Str

/-!
# OddiyaOps.Scheduler.Model

**The resource scheduler (`modules/scheduling/scheduler.py`)**: a Lambda that starts or stops a
fixed set of EC2 instances, RDS instances and clusters, and Auto Scaling groups.

The scheduler keeps no state of its own between invocations; what it remembers, it writes into
the account. So the model's state is the part of the account it changes: the Auto Scaling
groups, by name, as `describe_auto_scaling_groups` returns them (`MinSize`, `DesiredCapacity`,
`MaxSize`, `Tags`), and the log of the calls made. `create_or_update_tags` and
`update_auto_scaling_group` change a group as the API documents. The service keeps
`0 ≤ MinSize ≤ DesiredCapacity ≤ MaxSize` for every group, so a `Group` carries that bound,
and it rejects an update that would break it with a `ValidationError` (`Group.Admits`): the
group is left as it was, and the scheduler's `except` turns the error into an entry of its
result. EC2
and RDS are only called, never read back, and answer through `Services`, which may raise on any
call.

The effect of one pass of `handle_auto_scaling_groups` on an existing group is the function
`Group.step`; `OddiyaOps.Scheduler.Restore` proves that the monadic code performs exactly it.

Printing and the `timestamp` field of the result are not modelled.
-/

namespace OddiyaOps.Scheduler

open OddiyaOps.Python

/-! ### The account -/

/-- An entry of a group's `Tags`. -/
structure Tag where
  key : String
  value : String
  deriving DecidableEq, Repr

/-- An Auto Scaling group, as `describe_auto_scaling_groups` returns it, within the bounds the
service keeps. -/
structure Group where
  minSize : Int
  desiredCapacity : Int
  maxSize : Int
  tags : List Tag
  bounded : 0 ≤ minSize ∧ minSize ≤ desiredCapacity ∧ desiredCapacity ≤ maxSize
  deriving DecidableEq, Repr

/-- The tag key the scheduler saves the capacity under. -/
def capacityTag : String := "ScheduledDesiredCapacity"

/-- `create_or_update_tags` with one tag: the tag of that key takes the new value, or is added
when the group has none. -/
def Group.setTag (g : Group) (key value : String) : Group :=
  if g.tags.any (·.key == key) then
    { g with tags := g.tags.map fun t => if t.key = key then ⟨key, value⟩ else t }
  else { g with tags := g.tags ++ [⟨key, value⟩] }

@[simp] theorem Group.setTag_maxSize (g : Group) (key value : String) :
    (g.setTag key value).maxSize = g.maxSize := by
  unfold Group.setTag
  split <;> rfl

/-- Whether Auto Scaling accepts `update_auto_scaling_group(MinSize=m, DesiredCapacity=d)` on the
group: the new capacity lies between the new `MinSize` and the group's `MaxSize`. -/
def Group.Admits (g : Group) (minSize desiredCapacity : Int) : Prop :=
  0 ≤ minSize ∧ minSize ≤ desiredCapacity ∧ desiredCapacity ≤ g.maxSize

instance (g : Group) (m d : Int) : Decidable (g.Admits m d) :=
  inferInstanceAs (Decidable (_ ∧ _ ∧ _))

/-- Scaling to `0` is always admitted: the bound gives `0 ≤ MaxSize`. -/
theorem Group.admits_zero (g : Group) : g.Admits 0 0 :=
  ⟨le_rfl, le_rfl, g.bounded.1.trans (g.bounded.2.1.trans g.bounded.2.2)⟩

/-- An update the service admits. -/
def Group.resize (g : Group) (minSize desiredCapacity : Int)
    (h : g.Admits minSize desiredCapacity) : Group :=
  { g with minSize := minSize, desiredCapacity := desiredCapacity, bounded := h }

/-- `update_auto_scaling_group(MinSize=..., DesiredCapacity=...)` on the group: the new sizes
when the service admits them, the group as it was when it rejects them. -/
def Group.update (g : Group) (minSize desiredCapacity : Int) : Group :=
  if h : g.Admits minSize desiredCapacity then g.resize minSize desiredCapacity h else g

@[simp] theorem Group.update_tags (g : Group) (m d : Int) : (g.update m d).tags = g.tags := by
  unfold Group.update
  split <;> rfl

@[simp] theorem Group.update_maxSize (g : Group) (m d : Int) :
    (g.update m d).maxSize = g.maxSize := by
  unfold Group.update
  split <;> rfl

theorem Group.update_of_admits {g : Group} {m d : Int} (h : g.Admits m d) :
    (g.update m d).minSize = m ∧ (g.update m d).desiredCapacity = d := by
  simp only [Group.update, dif_pos h, Group.resize, and_self]

theorem Group.update_of_not_admits {g : Group} {m d : Int} (h : ¬g.Admits m d) :
    g.update m d = g :=
  dif_neg h

/-- An update that was made, or rejected, is made or rejected again with the same result. -/
theorem Group.update_update (g : Group) (m d : Int) : (g.update m d).update m d = g.update m d := by
  by_cases h : g.Admits m d
  · have h' : (g.resize m d h).Admits m d := h
    simp only [Group.update, dif_pos h, dif_pos h']
    rfl
  · rw [Group.update_of_not_admits h, Group.update_of_not_admits h]

/-- The calls the scheduler makes. -/
inductive Call
  | startInstances (instanceIds : List String)
  | stopInstances (instanceIds : List String)
  | describeDbClusters (dbClusterIdentifier : String)
  | startDbCluster (dbClusterIdentifier : String)
  | stopDbCluster (dbClusterIdentifier : String)
  | startDbInstance (dbInstanceIdentifier : String)
  | stopDbInstance (dbInstanceIdentifier : String)
  | describeAutoScalingGroups (name : String)
  | createOrUpdateTags (name key value : String)
  | updateAutoScalingGroup (name : String) (minSize desiredCapacity : Int)
  deriving DecidableEq, Repr

/-- An entry of `StartingInstances` or `StoppingInstances`. -/
structure InstanceChange where
  instanceId : String
  previousState : String
  currentState : String
  deriving DecidableEq, Repr

/-- What `describe_db_clusters(DBClusterIdentifier=...)` does: return, raise
`DBClusterNotFoundFault`, or raise anything else. -/
inductive ClusterAnswer
  | cluster
  | notFound
  | error (e : String)
  deriving DecidableEq, Repr

/-- The answers of EC2 and RDS; an `.error e` is a raised exception whose `str` is `e`.
`validationError` is the `str` of the `ValidationError` with which Auto Scaling rejects an update
of a group to a `MinSize` and a `DesiredCapacity`. -/
structure Services where
  startInstances : List String → Except String (List InstanceChange)
  stopInstances : List String → Except String (List InstanceChange)
  describeDbClusters : String → ClusterAnswer
  startDbCluster : String → Except String Unit
  stopDbCluster : String → Except String Unit
  startDbInstance : String → Except String Unit
  stopDbInstance : String → Except String Unit
  validationError : String → Int → Int → String

/-- The account as the scheduler changes it, and the calls made so far. -/
structure Cloud where
  groups : String → Option Group
  calls : List Call

/-- The group `name` replaced by `g`. -/
def Cloud.setGroup (c : Cloud) (name : String) (g : Group) : Cloud :=
  { c with groups := fun n => if n = name then some g else c.groups n }

/-- The call `call` appended to the log. -/
def Cloud.issue (c : Cloud) (call : Call) : Cloud := { c with calls := c.calls ++ [call] }

@[simp] theorem Cloud.issue_groups (c : Cloud) (call : Call) : (c.issue call).groups = c.groups :=
  rfl

@[simp] theorem Cloud.setGroup_calls (c : Cloud) (name : String) (g : Group) :
    (c.setGroup name g).calls = c.calls := rfl

theorem Cloud.setGroup_groups (c : Cloud) (name n : String) (g : Group) :
    (c.setGroup name g).groups n = if n = name then some g else c.groups n := rfl

/-! ### The invocation's input and result -/

/-- The three lists `json.loads(os.environ.get(..., '[]'))` reads. -/
structure Env where
  ec2Instances : List String
  rdsInstances : List String
  asgNames : List String

/-- An entry of `results['results']['ec2']`. -/
inductive Ec2Entry
  | changed (change : InstanceChange)
  | failed (error : String) (instances : List String)
  deriving DecidableEq, Repr

/-- An entry of `results['results']['rds']`. -/
inductive RdsEntry
  | dbCluster (id status : String)
  | dbInstance (id status : String)
  | failed (error : String) (dbIdentifier : String)
  deriving DecidableEq, Repr

/-- An entry of `results['results']['asg']`. -/
inductive AsgEntry
  | notFound (asgName : String)
  | started (asgName : String) (desiredCapacity : Int)
  | stopped (asgName : String) (previousCapacity : Int)
  | failed (error : String) (asgName : String)
  deriving DecidableEq, Repr

/-- The dictionary `handler` returns, without its `timestamp`. -/
structure Results where
  action : String
  ec2 : List Ec2Entry
  rds : List RdsEntry
  asg : List AsgEntry
  deriving DecidableEq, Repr

/-! ### The handlers -/

/-- The scheduler runs against the account. -/
abbrev Sched := StateM Cloud

/-- Log a call. -/
def issue (call : Call) : Sched Unit := modify (·.issue call)

variable (S : Services)

/-- `handle_ec2_instances(instance_ids, action)`: one call for all the instances; anything but
`start` stops them. -/
def handleEc2Instances (instanceIds : List String) (action : String) : Sched (List Ec2Entry) :=
  if instanceIds.isEmpty then pure [] else
  if action = "start" then do
    issue (.startInstances instanceIds)
    match S.startInstances instanceIds with
    | .ok changes => pure (changes.map .changed)
    | .error e => pure [.failed e instanceIds]
  else do
    issue (.stopInstances instanceIds)
    match S.stopInstances instanceIds with
    | .ok changes => pure (changes.map .changed)
    | .error e => pure [.failed e instanceIds]

/-- A start or stop call of RDS and the entry it adds. -/
def rdsCall (call : Call) (answer : Except String Unit) (entry : RdsEntry) (dbId : String) :
    Sched RdsEntry := do
  issue call
  match answer with
  | .ok () => pure entry
  | .error e => pure (.failed e dbId)

/-- The loop body of `handle_rds_instances`: a cluster when `describe_db_clusters` returns, an
instance when it raises `DBClusterNotFoundFault`. -/
def rdsInstance (action dbId : String) : Sched RdsEntry := do
  issue (.describeDbClusters dbId)
  match S.describeDbClusters dbId with
  | .error e => pure (.failed e dbId)
  | answer =>
    if answer = .cluster then
      if action = "start" then
        rdsCall (.startDbCluster dbId) (S.startDbCluster dbId) (.dbCluster dbId "starting") dbId
      else rdsCall (.stopDbCluster dbId) (S.stopDbCluster dbId) (.dbCluster dbId "stopping") dbId
    else
      if action = "start" then
        rdsCall (.startDbInstance dbId) (S.startDbInstance dbId) (.dbInstance dbId "starting") dbId
      else rdsCall (.stopDbInstance dbId) (S.stopDbInstance dbId) (.dbInstance dbId "stopping") dbId

/-- `handle_rds_instances(db_identifiers, action)`. -/
def handleRdsInstances (dbIdentifiers : List String) (action : String) : Sched (List RdsEntry) :=
  dbIdentifiers.mapM (rdsInstance S action)

/-- The text of the `ValueError` of `int(value)`. -/
def invalidLiteral (value : String) : String :=
  "invalid literal for int() with base 10: \x27" ++ value ++ "\x27"

/-- `int(tag['Value'])`. -/
def capacityOf (value : String) : Except String Int :=
  match pyInt value with
  | some n => .ok n
  | none => .error (invalidLiteral value)

/-- The capacity a start restores: `int` of the first `ScheduledDesiredCapacity` tag, or `2`. -/
def scheduledDesired : List Tag → Except String Int
  | [] => .ok 2
  | t :: ts => if t.key = capacityTag then capacityOf t.value else scheduledDesired ts

/-- What one pass of the loop of `handle_auto_scaling_groups` does to an existing group:
a start updates it to `MinSize=1` and the saved capacity (unless `int` raised), anything else
saves `DesiredCapacity` in the tag and updates it to `0`. -/
def Group.step (start : Bool) (g : Group) : Group :=
  if start then
    match scheduledDesired g.tags with
    | .ok desired => g.update 1 desired
    | .error _ => g
  else (g.setTag capacityTag (toString g.desiredCapacity)).update 0 0

/-- `autoscaling.update_auto_scaling_group(...)` on the group `g` named `asgName`: the call, and the
update when the service admits it; a rejection raises the `ValidationError`. -/
def updateAutoScalingGroup (asgName : String) (g : Group) (minSize desiredCapacity : Int) :
    Sched (Except String Unit) := do
  issue (.updateAutoScalingGroup asgName minSize desiredCapacity)
  if h : g.Admits minSize desiredCapacity then
    modify (·.setGroup asgName (g.resize minSize desiredCapacity h))
    pure (.ok ())
  else pure (.error (S.validationError asgName minSize desiredCapacity))

/-- The loop body of `handle_auto_scaling_groups`. -/
def asgGroup (action asgName : String) : Sched AsgEntry := do
  issue (.describeAutoScalingGroups asgName)
  match (← get).groups asgName with
  | none => pure (.notFound asgName)
  | some asg =>
    if action = "start" then
      match scheduledDesired asg.tags with
      | .error e => pure (.failed e asgName)
      | .ok desired =>
        match ← updateAutoScalingGroup S asgName asg 1 desired with
        | .error e => pure (.failed e asgName)
        | .ok () => pure (.started asgName desired)
    else
      let currentDesired := asg.desiredCapacity
      issue (.createOrUpdateTags asgName capacityTag (toString currentDesired))
      let tagged := asg.setTag capacityTag (toString currentDesired)
      modify (·.setGroup asgName tagged)
      match ← updateAutoScalingGroup S asgName tagged 0 0 with
      | .error e => pure (.failed e asgName)
      | .ok () => pure (.stopped asgName currentDesired)

/-- `handle_auto_scaling_groups(asg_names, action)`. -/
def handleAutoScalingGroups (asgNames : List String) (action : String) : Sched (List AsgEntry) :=
  asgNames.mapM (asgGroup S action)

/-- `if resources: results['results'][...] = handle(resources, action)`. -/
def whenAny {ε : Type} (resources : List String) (handle : Sched (List ε)) : Sched (List ε) :=
  if resources.isEmpty then pure [] else handle

/-- `handler(event, context)`: `event.get('action', 'stop').lower()`, then each non-empty list
of resources. -/
def handler (action? : Option String) (env : Env) : Sched Results := do
  let action := pyLower (action?.getD "stop")
  let ec2 ← whenAny env.ec2Instances (handleEc2Instances S env.ec2Instances action)
  let rds ← whenAny env.rdsInstances (handleRdsInstances S env.rdsInstances action)
  let asg ← whenAny env.asgNames (handleAutoScalingGroups S env.asgNames action)
  pure ⟨action, ec2, rds, asg⟩

/-- One invocation: the event's `action` (if any) and the environment. -/
structure Invocation where
  action? : Option String
  env : Env

/-- The account after an invocation. -/
def invoke (inv : Invocation) (c : Cloud) : Cloud := ((handler S inv.action? inv.env).run c).2

/-- The account after a sequence of invocations. -/
def invokeAll (invs : List Invocation) (c : Cloud) : Cloud := invs.foldl (fun c inv => invoke S inv c) c

end OddiyaOps.Scheduler
