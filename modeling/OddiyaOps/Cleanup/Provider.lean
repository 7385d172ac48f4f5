import OddiyaOps.Cleanup.Resources

/-!
# OddiyaOps.Cleanup.Provider

**The provider calls of the cleanup Lambda and the monad its handlers run in.**

* `Call` is every boto3 call `cleanup.py` makes, with the arguments it passes; `Call.Resp` is the
  part of the response the code reads.
* `Provider` answers each call, with a response or a raised exception (its `str`). The answer is
  a function of the call alone: a sweep sees one state of the account, and a set of failing calls
  is any set of calls. `Provider.answer` is the single place a call meets its answer.
* `Sweep` is what the run changes: the calls issued, in order, and the summary's
  `resources_found`, `resources_deleted` and `errors`.
* `Py := EStateM String Sweep` runs the handlers. An exception keeps the state it was raised in,
  which is Python's semantics: the calls already made and the errors already appended stay.

The weakest precondition `Py.wp` turns a handler's `do` block into a formula by `simp`, one
equation per construct (`wp_bind`, `wp_tryCatch`, `wp_call`, ...).
-/

namespace OddiyaOps.Cleanup

/-! ### Calls and their answers -/

/-- The boto3 calls `cleanup.py` issues. -/
inductive Call
  | describeVolumes
  | deleteVolume (volumeId : String)
  | describeSnapshots
  | deleteSnapshot (snapshotId : String)
  | describeAddresses
  /-- `release_address(AllocationId=...)`. -/
  | releaseAddressByAllocationId (allocationId : String)
  /-- `release_address(PublicIp=...)`; the value may be `None`. -/
  | releaseAddressByPublicIp (publicIp : Option String)
  | describeLoadBalancers
  | describeTargetGroups (loadBalancerArn : String)
  | describeTargetHealth (targetGroupArn : String)
  | deleteLoadBalancer (loadBalancerArn : String)
  | describeNatGateways
  | deleteNatGateway (natGatewayId : String)
  | describeDbSnapshots
  | deleteDbSnapshot (dbSnapshotIdentifier : String)
  | describeDbClusterSnapshots
  | deleteDbClusterSnapshot (dbClusterSnapshotIdentifier : String)
  | describeImages
  | deregisterImage (imageId : String)
  | describeRepositories
  | listImages (repositoryName : String)
  | batchDeleteImage (repositoryName : String) (imageIds : List ImageId)
  | describeLogGroups
  | describeLogStreams (logGroupName : String)
  | deleteLogGroup (logGroupName : String)
  | listBuckets
  | listObjectsV2 (bucket : String)
  | deleteBucket (bucket : String)
  | describeSecurityGroups
  | describeNetworkInterfaces
  | deleteSecurityGroup (groupId : String)
  | listFunctions
  | listVersionsByFunction (functionName : String)
  | deleteFunction (functionName : String) (qualifier : String)
  /-- `sns.publish(TopicArn=..., Subject=..., Message=...)`; the message is not modelled. -/
  | publish (topicArn : String) (subject : String)
  deriving DecidableEq, Repr

/-- The part of each response the code reads. Listings are the list under the response's key
(`Volumes`, `Snapshots`, ...); `describe_target_health` is its `TargetHealthDescriptions`,
`describe_log_streams` its `logStreams`, `describe_repositories` the `repositoryName`s,
`list_functions` the `FunctionName`s, `describe_network_interfaces` each interface's
`GroupId`s, and `list_objects_v2` whether `'Contents'` is in the response. -/
def Call.Resp : Call → Type
  | .describeVolumes => List Volume
  | .describeSnapshots => List Snapshot
  | .describeAddresses => List Address
  | .describeLoadBalancers => List LoadBalancer
  | .describeTargetGroups _ => List String
  | .describeTargetHealth _ => List String
  | .describeNatGateways => List NatGateway
  | .describeDbSnapshots => List DbSnapshot
  | .describeDbClusterSnapshots => List DbClusterSnapshot
  | .describeImages => List Image
  | .describeRepositories => List String
  | .listImages _ => List ImageId
  | .describeLogGroups => List LogGroup
  | .describeLogStreams _ => List String
  | .listBuckets => List Bucket
  | .listObjectsV2 _ => Bool
  | .describeSecurityGroups => List SecurityGroup
  | .describeNetworkInterfaces => List (List String)
  | .listFunctions => List String
  | .listVersionsByFunction _ => List Version
  | _ => Unit

/-- The calls that change the account: C1's list of deletes, releases and deregistrations. -/
def Call.mutating : Call → Bool
  | .deleteVolume _ | .deleteSnapshot _ | .releaseAddressByAllocationId _
  | .releaseAddressByPublicIp _ | .deleteLoadBalancer _ | .deleteNatGateway _
  | .deleteDbSnapshot _ | .deleteDbClusterSnapshot _ | .deregisterImage _
  | .batchDeleteImage _ _ | .deleteLogGroup _ | .deleteBucket _ | .deleteSecurityGroup _
  | .deleteFunction _ _ => true
  | _ => false

/-- The account as the sweep sees it: an answer to every call, a response or the `str` of the
exception the call raises. `describe_target_groups` answers with the `TargetGroupArn`s. -/
structure Provider where
  describeVolumes : Except String (List Volume)
  deleteVolume : String → Except String Unit
  describeSnapshots : Except String (List Snapshot)
  deleteSnapshot : String → Except String Unit
  describeAddresses : Except String (List Address)
  releaseAddressByAllocationId : String → Except String Unit
  releaseAddressByPublicIp : Option String → Except String Unit
  describeLoadBalancers : Except String (List LoadBalancer)
  describeTargetGroups : String → Except String (List String)
  describeTargetHealth : String → Except String (List String)
  deleteLoadBalancer : String → Except String Unit
  describeNatGateways : Except String (List NatGateway)
  deleteNatGateway : String → Except String Unit
  describeDbSnapshots : Except String (List DbSnapshot)
  deleteDbSnapshot : String → Except String Unit
  describeDbClusterSnapshots : Except String (List DbClusterSnapshot)
  deleteDbClusterSnapshot : String → Except String Unit
  describeImages : Except String (List Image)
  deregisterImage : String → Except String Unit
  describeRepositories : Except String (List String)
  listImages : String → Except String (List ImageId)
  batchDeleteImage : String → List ImageId → Except String Unit
  describeLogGroups : Except String (List LogGroup)
  describeLogStreams : String → Except String (List String)
  deleteLogGroup : String → Except String Unit
  listBuckets : Except String (List Bucket)
  listObjectsV2 : String → Except String Bool
  deleteBucket : String → Except String Unit
  describeSecurityGroups : Except String (List SecurityGroup)
  describeNetworkInterfaces : Except String (List (List String))
  deleteSecurityGroup : String → Except String Unit
  listFunctions : Except String (List String)
  listVersionsByFunction : String → Except String (List Version)
  deleteFunction : String → String → Except String Unit
  publish : String → String → Except String Unit

/-- An account with nothing in it, where every call succeeds. -/
def Provider.quiet : Provider where
  describeVolumes := .ok []
  deleteVolume _ := .ok ()
  describeSnapshots := .ok []
  deleteSnapshot _ := .ok ()
  describeAddresses := .ok []
  releaseAddressByAllocationId _ := .ok ()
  releaseAddressByPublicIp _ := .ok ()
  describeLoadBalancers := .ok []
  describeTargetGroups _ := .ok []
  describeTargetHealth _ := .ok []
  deleteLoadBalancer _ := .ok ()
  describeNatGateways := .ok []
  deleteNatGateway _ := .ok ()
  describeDbSnapshots := .ok []
  deleteDbSnapshot _ := .ok ()
  describeDbClusterSnapshots := .ok []
  deleteDbClusterSnapshot _ := .ok ()
  describeImages := .ok []
  deregisterImage _ := .ok ()
  describeRepositories := .ok []
  listImages _ := .ok []
  batchDeleteImage _ _ := .ok ()
  describeLogGroups := .ok []
  describeLogStreams _ := .ok []
  deleteLogGroup _ := .ok ()
  listBuckets := .ok []
  listObjectsV2 _ := .ok false
  deleteBucket _ := .ok ()
  describeSecurityGroups := .ok []
  describeNetworkInterfaces := .ok []
  deleteSecurityGroup _ := .ok ()
  listFunctions := .ok []
  listVersionsByFunction _ := .ok []
  deleteFunction _ _ := .ok ()
  publish _ _ := .ok ()

/-- The provider's answer to a call. -/
def Provider.answer (P : Provider) : (c : Call) → Except String c.Resp
  | .describeVolumes => P.describeVolumes
  | .deleteVolume v => P.deleteVolume v
  | .describeSnapshots => P.describeSnapshots
  | .deleteSnapshot s => P.deleteSnapshot s
  | .describeAddresses => P.describeAddresses
  | .releaseAddressByAllocationId a => P.releaseAddressByAllocationId a
  | .releaseAddressByPublicIp ip => P.releaseAddressByPublicIp ip
  | .describeLoadBalancers => P.describeLoadBalancers
  | .describeTargetGroups a => P.describeTargetGroups a
  | .describeTargetHealth a => P.describeTargetHealth a
  | .deleteLoadBalancer a => P.deleteLoadBalancer a
  | .describeNatGateways => P.describeNatGateways
  | .deleteNatGateway n => P.deleteNatGateway n
  | .describeDbSnapshots => P.describeDbSnapshots
  | .deleteDbSnapshot s => P.deleteDbSnapshot s
  | .describeDbClusterSnapshots => P.describeDbClusterSnapshots
  | .deleteDbClusterSnapshot s => P.deleteDbClusterSnapshot s
  | .describeImages => P.describeImages
  | .deregisterImage i => P.deregisterImage i
  | .describeRepositories => P.describeRepositories
  | .listImages r => P.listImages r
  | .batchDeleteImage r ids => P.batchDeleteImage r ids
  | .describeLogGroups => P.describeLogGroups
  | .describeLogStreams g => P.describeLogStreams g
  | .deleteLogGroup g => P.deleteLogGroup g
  | .listBuckets => P.listBuckets
  | .listObjectsV2 b => P.listObjectsV2 b
  | .deleteBucket b => P.deleteBucket b
  | .describeSecurityGroups => P.describeSecurityGroups
  | .describeNetworkInterfaces => P.describeNetworkInterfaces
  | .deleteSecurityGroup g => P.deleteSecurityGroup g
  | .listFunctions => P.listFunctions
  | .listVersionsByFunction f => P.listVersionsByFunction f
  | .deleteFunction f q => P.deleteFunction f q
  | .publish t s => P.publish t s

/-! ### The sweep state and the monad -/

/-- What a run of the Lambda changes: the calls issued so far, in order, and the summary. -/
structure Sweep where
  calls : List Call
  found : Kind → Option Nat
  deleted : Kind → Option Nat
  errors : List String

/-- The state `handler` starts from: no call made, `cleanup_summary` freshly built. -/
def Sweep.empty : Sweep := ⟨[], fun _ => none, fun _ => none, []⟩

/-- `s` after issuing one more call. -/
def Sweep.issue (s : Sweep) (c : Call) : Sweep := { s with calls := s.calls ++ [c] }

/-- `s` after `summary['errors'].append(e)`. -/
def Sweep.addError (s : Sweep) (e : String) : Sweep := { s with errors := s.errors ++ [e] }

/-- `s` after a handler's two closing writes:
`resources_found[k] = n` and `resources_deleted[k] = n if not DRY_RUN else 0`. -/
def Sweep.record (s : Sweep) (dryRun : Bool) (k : Kind) (n : Nat) : Sweep :=
  { s with
    found := fun k' => if k' = k then some n else s.found k'
    deleted := fun k' => if k' = k then some (if !dryRun then n else 0) else s.deleted k' }

@[simp] theorem Sweep.issue_calls (s : Sweep) (c : Call) : (s.issue c).calls = s.calls ++ [c] := rfl
@[simp] theorem Sweep.issue_found (s : Sweep) (c : Call) : (s.issue c).found = s.found := rfl
@[simp] theorem Sweep.issue_deleted (s : Sweep) (c : Call) : (s.issue c).deleted = s.deleted := rfl
@[simp] theorem Sweep.issue_errors (s : Sweep) (c : Call) : (s.issue c).errors = s.errors := rfl
@[simp] theorem Sweep.addError_calls (s : Sweep) (e : String) : (s.addError e).calls = s.calls := rfl
@[simp] theorem Sweep.addError_found (s : Sweep) (e : String) : (s.addError e).found = s.found := rfl
@[simp] theorem Sweep.addError_deleted (s : Sweep) (e : String) :
    (s.addError e).deleted = s.deleted := rfl
@[simp] theorem Sweep.addError_errors (s : Sweep) (e : String) :
    (s.addError e).errors = s.errors ++ [e] := rfl
@[simp] theorem Sweep.record_calls (s : Sweep) (d : Bool) (k : Kind) (n : Nat) :
    (s.record d k n).calls = s.calls := rfl
@[simp] theorem Sweep.record_errors (s : Sweep) (d : Bool) (k : Kind) (n : Nat) :
    (s.record d k n).errors = s.errors := rfl

/-- A run of Python code of `cleanup.py`: state passing with exceptions that keep the state. -/
abbrev Py := EStateM String Sweep

variable (P : Provider)

/-- Issue a call: it is logged whether it returns or raises. -/
def call (c : Call) : Py c.Resp := fun s =>
  match P.answer c with
  | .ok r => .ok r (s.issue c)
  | .error e => .error e (s.issue c)

/-- `summary['errors'].append(e)`. -/
def appendError (e : String) : Py Unit := modify (·.addError e)

/-- The closing writes of a handler (`Sweep.record`). -/
def recordCounts (dryRun : Bool) (k : Kind) (n : Nat) : Py Unit := modify (·.record dryRun k n)

/-- The text of `str(KeyError(key))`. -/
def keyError (key : String) : String := "\x27" ++ key ++ "\x27"

/-- `record[key]` for a datetime field: a missing key raises `KeyError`. -/
def Stamp.item (key : String) : Stamp → Py (Option Int)
  | .absent => throw (keyError key)
  | .null => pure none
  | .at t => pure (some t)

/-- `record[key]` for a field that may be missing: a missing key raises `KeyError`. -/
def keyItem {α : Type} (key : String) : Option α → Py α
  | none => throw (keyError key)
  | some a => pure a

/-! ### Weakest preconditions -/

namespace Py

/-- What running `m` from `s` establishes: `Q` of the value and the final state when it returns,
`E` of the exception and the final state when it raises. -/
def wp {α : Type} (m : Py α) (Q : α → Sweep → Prop) (E : String → Sweep → Prop) (s : Sweep) :
    Prop :=
  match m s with
  | .ok a s' => Q a s'
  | .error e s' => E e s'

/-- The state `m` ends in from `s`, returning or raising. -/
def final {α : Type} (m : Py α) (s : Sweep) : Sweep :=
  match m s with
  | .ok _ s' => s'
  | .error _ s' => s'

variable {α β : Type} {Q : β → Sweep → Prop} {E : String → Sweep → Prop} {s : Sweep}

@[simp] theorem wp_pure (a : β) : wp (pure a) Q E s = Q a s := rfl

@[simp] theorem wp_bind (m : Py α) (f : α → Py β) :
    wp (m >>= f) Q E s = wp m (fun a s' => wp (f a) Q E s') E s := by
  simp only [wp, bind, EStateM.bind]
  cases m s <;> rfl

@[simp] theorem wp_throw (e : String) : wp (throw e : Py β) Q E s = E e s := rfl

theorem tryCatch_apply (m : Py β) (h : String → Py β) :
    (tryCatch m h : Py β) s = match m s with
      | .ok a s' => .ok a s'
      | .error e s' => h e s' := by
  show EStateM.tryCatch m h s = _
  simp only [EStateM.tryCatch]
  cases m s <;> rfl

@[simp] theorem wp_tryCatch (m : Py β) (h : String → Py β) :
    wp (tryCatch m h) Q E s = wp m Q (fun e s' => wp (h e) Q E s') s := by
  simp only [wp, tryCatch_apply]
  cases m s <;> rfl

@[simp] theorem wp_ite (c : Prop) [Decidable c] (a b : Py β) :
    wp (if c then a else b) Q E s = if c then wp a Q E s else wp b Q E s := by
  split <;> rfl

@[simp] theorem wp_call {Q : Call.Resp c → Sweep → Prop} :
    wp (call P c) Q E s = match P.answer c with
      | .ok r => Q r (s.issue c)
      | .error e => E e (s.issue c) := by
  simp only [wp, call]
  cases P.answer c <;> rfl

@[simp] theorem wp_appendError {Q : Unit → Sweep → Prop} (e : String) :
    wp (appendError e) Q E s = Q () (s.addError e) := rfl

@[simp] theorem wp_recordCounts {Q : Unit → Sweep → Prop} (d : Bool) (k : Kind) (n : Nat) :
    wp (recordCounts d k n) Q E s = Q () (s.record d k n) := rfl

@[simp] theorem wp_item {Q : Option Int → Sweep → Prop} (key : String) (st : Stamp) :
    wp (st.item key) Q E s = match st with
      | .absent => E (keyError key) s
      | .null => Q none s
      | .at t => Q (some t) s := by
  cases st <;> rfl

@[simp] theorem wp_keyItem {Q : β → Sweep → Prop} (key : String) (o : Option β) :
    wp (keyItem key o) Q E s = match o with
      | none => E (keyError key) s
      | some a => Q a s := by
  cases o <;> rfl

theorem wp_mono {m : Py β} {Q' : β → Sweep → Prop} {E' : String → Sweep → Prop}
    (hQ : ∀ a s', Q a s' → Q' a s') (hE : ∀ e s', E e s' → E' e s') (h : wp m Q E s) :
    wp m Q' E' s := by
  unfold wp at *
  split at h <;> simp_all

/-- A property of the final state follows from one the run establishes on both exits. -/
theorem final_of_wp {m : Py β} {I : Sweep → Prop} (h : wp m (fun _ => I) (fun _ => I) s) :
    I (final m s) := by
  unfold wp at h
  unfold final
  split at h <;> simp_all

end Py

end OddiyaOps.Cleanup
