import OddiyaOps.Cleanup.Handlers

/-!
# OddiyaOps.Cleanup.Policy

**What the sweep decides, stated without the monad.** For each handler, the records it selects
(`volumeSelected`, ..., `securityGroupSelected`), the count it reports (`expectedFound`), and for
each mutating call the listed record that justifies it (`Justified`). Together they are the
abstract model of the sweep: `SweepInv` says a state agrees with it, and
`OddiyaOps.Cleanup.Invariant` proves that every run of `handler` ends in a state that does.

A selection predicate is read off its loop body: the checks in order, a `continue` a `false`.
It decides what the body does when the body returns; a body that raises aborts its handler,
which then reports no count, so what the predicate says of such a record never matters. The
answers of the per-record calls a body makes (`describe_target_groups`, `describe_log_streams`,
`list_objects_v2`, ...) are part of the decision and come from the provider.
-/

namespace OddiyaOps.Cleanup

open OddiyaOps.Python

variable (cfg : Config) (P : Provider)

/-- The records a listing answered with; a listing that raised lists nothing. -/
def listed {α : Type} : Except String (List α) → List α
  | .ok rs => rs
  | .error _ => []

@[simp] theorem listed_ok {α : Type} (rs : List α) : listed (.ok rs) = rs := rfl

/-! ### The records each handler selects -/

/-- `cleanup_ebs_volumes` deletes a listed volume that is not whitelisted and is old enough. -/
def volumeSelected (v : Volume) : Bool :=
  !isWhitelisted cfg v.volumeId v.tags && isOldEnough cfg v.createTime.value?

/-- `cleanup_ebs_snapshots` skips snapshots made by `CreateImage`. -/
def snapshotSelected (sn : Snapshot) : Bool :=
  !startsWith (sn.description.getD "") "Created by CreateImage" &&
    !isWhitelisted cfg sn.snapshotId sn.tags && isOldEnough cfg sn.startTime.value?

/-- What `is_whitelisted` answers for a name that may be `None`, when it does not raise. -/
def optWhitelisted (name : Option String) (tags : List Tag) : Bool :=
  match name with
  | some n => isWhitelisted cfg n tags
  | none => tagWhitelisted cfg tags

/-- `cleanup_elastic_ips` releases an unassociated address whose `public_ip or allocation_id`
is not whitelisted. -/
def addressSelected (eip : Address) : Bool :=
  !(eip.instanceId.isSome || eip.networkInterfaceId.isSome) &&
    !optWhitelisted cfg (pyOr eip.publicIp eip.allocationId) eip.tags

/-- What `hasTargets` decides: a target group with a registered target, or a failing
`describe_target_health`, makes the load balancer skipped. -/
def targetsFound : List String → Bool
  | [] => false
  | tg :: tgs =>
    match P.describeTargetHealth tg with
    | .ok health => !health.isEmpty || targetsFound tgs
    | .error _ => true

/-- The load balancer is skipped by the target check (or by its bare `except`). -/
def loadBalancerBusy (lb : LoadBalancer) : Bool :=
  match P.describeTargetGroups lb.loadBalancerArn with
  | .ok tgs => targetsFound P tgs
  | .error _ => true

/-- `cleanup_load_balancers` deletes a load balancer that is not whitelisted, has no registered
target, and is old enough. -/
def loadBalancerSelected (lb : LoadBalancer) : Bool :=
  !isWhitelisted cfg lb.loadBalancerName [] && !loadBalancerBusy P lb &&
    isOldEnough cfg lb.createdTime.value?

/-- `cleanup_nat_gateways` deletes a listed gateway that is not whitelisted and is old enough. -/
def natGatewaySelected (nat : NatGateway) : Bool :=
  !isWhitelisted cfg nat.natGatewayId nat.tags && isOldEnough cfg nat.createTime.value?

/-- The first loop of `cleanup_rds_snapshots`. -/
def dbSnapshotSelected (sn : DbSnapshot) : Bool :=
  !isWhitelisted cfg sn.dbSnapshotIdentifier [] && isOldEnough cfg sn.snapshotCreateTime.value?

/-- The second loop of `cleanup_rds_snapshots`. -/
def dbClusterSnapshotSelected (sn : DbClusterSnapshot) : Bool :=
  !isWhitelisted cfg sn.dbClusterSnapshotIdentifier [] &&
    isOldEnough cfg sn.snapshotCreateTime.value?

/-- `cleanup_ami_images` deregisters an image whose name is not whitelisted and that is old
enough. -/
def imageSelected (im : Image) : Bool :=
  !isWhitelisted cfg (im.name.getD "") im.tags && isOldEnough cfg im.creationDate.value?

/-- The last-event check of `cleanup_cloudwatch_logs`, made only when the key is present. -/
def lastEventOld : Stamp → Bool
  | .at t => isOldEnough cfg (some t)
  | _ => true

/-- `describe_log_streams` answered with no stream. -/
def noStreams (name : String) : Bool :=
  match P.describeLogStreams name with
  | .ok [] => true
  | _ => false

/-- `cleanup_cloudwatch_logs` deletes a group that is not whitelisted, has no recent last event,
and has no log stream. -/
def logGroupSelected (lg : LogGroup) : Bool :=
  !isWhitelisted cfg lg.logGroupName [] && lastEventOld cfg lg.lastEventTimestamp &&
    noStreams P lg.logGroupName

/-- `list_objects_v2` answered without `Contents`. -/
def bucketEmpty (name : String) : Bool :=
  match P.listObjectsV2 name with
  | .ok false => true
  | _ => false

/-- The age check of `cleanup_empty_s3_buckets`; a missing `CreationDate` raises inside the
`try`, whose `except: continue` skips the bucket. -/
def bucketOld : Stamp → Bool
  | .absent => false
  | st => isOldEnough cfg st.value?

@[simp] theorem bucketOld_absent : bucketOld cfg .absent = false := rfl

theorem bucketOld_of_ne_absent {st : Stamp} (h : st ≠ .absent) :
    bucketOld cfg st = isOldEnough cfg st.value? := by
  cases st <;> simp_all [bucketOld]

/-- `cleanup_empty_s3_buckets` deletes an empty bucket that is not whitelisted and is old
enough. -/
def bucketSelected (b : Bucket) : Bool :=
  !isWhitelisted cfg b.name [] && bucketEmpty P b.name && bucketOld cfg b.creationDate

/-- The groups some network interface uses (`used_sgs`). -/
def usedSecurityGroups : List String := (listed P.describeNetworkInterfaces).flatten

/-- `cleanup_security_groups` deletes a group that is not `default`, not used by an interface,
and not whitelisted by its name or tags. -/
def securityGroupSelected (used : List String) (sg : SecurityGroup) : Bool :=
  sg.groupName ≠ "default" && sg.groupId ∉ used && !isWhitelisted cfg sg.groupName sg.tags

/-- The entries `cleanup_ecr_images` deletes from a repository's listing: all but the last ten
candidates, when there are more than ten. -/
def ecrSelection (images : List ImageId) : List ImageId :=
  let candidates := images.filter ecrCandidate
  if candidates.length > 10 then candidates.take (candidates.length - 10) else []

/-- What a repository adds to `total_images_deleted`: its selection, unless the
`batch_delete_image` of a real run raised. -/
def repositoryCount (repo : String) : Nat :=
  if isWhitelisted cfg repo [] then 0 else
  match P.listImages repo with
  | .error _ => 0
  | .ok images =>
    let selection := ecrSelection images
    if !cfg.dryRun && !selection.isEmpty && !(P.batchDeleteImage repo selection).toBool then 0
    else selection.length

/-- What a function adds to `total_versions_deleted`: every version to delete in a dry run,
the deletes that returned otherwise. -/
def functionCount (f : String) : Nat :=
  if isWhitelisted cfg f [] then 0 else
  match P.listVersionsByFunction f with
  | .error _ => 0
  | .ok versions =>
    if cfg.dryRun then (versionsToDelete versions).length
    else ((versionsToDelete versions).filter fun v => (P.deleteFunction f v).toBool).length

/-- The count each handler writes to `resources_found`, when it writes one. -/
def expectedFound : Kind → Nat
  | .ebsVolumes => ((listed P.describeVolumes).filter (volumeSelected cfg)).length
  | .ebsSnapshots => ((listed P.describeSnapshots).filter (snapshotSelected cfg)).length
  | .elasticIps => ((listed P.describeAddresses).filter (addressSelected cfg)).length
  | .loadBalancers =>
    ((listed P.describeLoadBalancers).filter (loadBalancerSelected cfg P)).length
  | .natGateways => ((listed P.describeNatGateways).filter (natGatewaySelected cfg)).length
  | .rdsSnapshots =>
    ((listed P.describeDbSnapshots).filter (dbSnapshotSelected cfg)).length +
      ((listed P.describeDbClusterSnapshots).filter (dbClusterSnapshotSelected cfg)).length
  | .amiImages => ((listed P.describeImages).filter (imageSelected cfg)).length
  | .ecrImages => ((listed P.describeRepositories).map (repositoryCount cfg P)).sum
  | .cloudwatchLogs => ((listed P.describeLogGroups).filter (logGroupSelected cfg P)).length
  | .s3Buckets => ((listed P.listBuckets).filter (bucketSelected cfg P)).length
  | .securityGroups =>
    ((listed P.describeSecurityGroups).filter
      (securityGroupSelected cfg (usedSecurityGroups P))).length
  | .lambdaVersions => ((listed P.listFunctions).map (functionCount cfg P)).sum

/-! ### Why each mutating call is made -/

/-- The reason the sweep issues a call: for a mutating call, a real run and a listed record its
handler selected (for a backing snapshot, a selected image whose deregistration returned). Every
other call needs no reason. -/
def Justified : Call → Prop
  | .deleteVolume id => cfg.dryRun = false ∧
    ∃ v ∈ listed P.describeVolumes, v.volumeId = id ∧ volumeSelected cfg v = true
  | .deleteSnapshot id => cfg.dryRun = false ∧
    ((∃ sn ∈ listed P.describeSnapshots, sn.snapshotId = id ∧ snapshotSelected cfg sn = true) ∨
      ∃ im ∈ listed P.describeImages, imageSelected cfg im = true ∧
        P.deregisterImage im.imageId = .ok () ∧ ⟨some id⟩ ∈ im.blockDeviceMappings)
  | .releaseAddressByAllocationId a => cfg.dryRun = false ∧
    ∃ eip ∈ listed P.describeAddresses, releaseCall eip = .releaseAddressByAllocationId a ∧
      addressSelected cfg eip = true
  | .releaseAddressByPublicIp ip => cfg.dryRun = false ∧
    ∃ eip ∈ listed P.describeAddresses, releaseCall eip = .releaseAddressByPublicIp ip ∧
      addressSelected cfg eip = true
  | .deleteLoadBalancer arn => cfg.dryRun = false ∧
    ∃ lb ∈ listed P.describeLoadBalancers, lb.loadBalancerArn = arn ∧
      loadBalancerSelected cfg P lb = true
  | .deleteNatGateway id => cfg.dryRun = false ∧
    ∃ nat ∈ listed P.describeNatGateways, nat.natGatewayId = id ∧ natGatewaySelected cfg nat = true
  | .deleteDbSnapshot id => cfg.dryRun = false ∧
    ∃ sn ∈ listed P.describeDbSnapshots, sn.dbSnapshotIdentifier = id ∧
      dbSnapshotSelected cfg sn = true
  | .deleteDbClusterSnapshot id => cfg.dryRun = false ∧
    ∃ sn ∈ listed P.describeDbClusterSnapshots, sn.dbClusterSnapshotIdentifier = id ∧
      dbClusterSnapshotSelected cfg sn = true
  | .deregisterImage id => cfg.dryRun = false ∧
    ∃ im ∈ listed P.describeImages, im.imageId = id ∧ imageSelected cfg im = true
  | .batchDeleteImage repo ids => cfg.dryRun = false ∧ repo ∈ listed P.describeRepositories ∧
    isWhitelisted cfg repo [] = false ∧
      ∃ images, P.listImages repo = .ok images ∧ ids = ecrSelection images ∧ ids ≠ []
  | .deleteLogGroup name => cfg.dryRun = false ∧
    ∃ lg ∈ listed P.describeLogGroups, lg.logGroupName = name ∧ logGroupSelected cfg P lg = true
  | .deleteBucket name => cfg.dryRun = false ∧
    ∃ b ∈ listed P.listBuckets, b.name = name ∧ bucketSelected cfg P b = true
  | .deleteSecurityGroup id => cfg.dryRun = false ∧
    ∃ interfaces, P.describeNetworkInterfaces = .ok interfaces ∧
      ∃ sg ∈ listed P.describeSecurityGroups, sg.groupId = id ∧
        securityGroupSelected cfg interfaces.flatten sg = true
  | .deleteFunction f v => cfg.dryRun = false ∧ f ∈ listed P.listFunctions ∧
    isWhitelisted cfg f [] = false ∧
      ∃ versions, P.listVersionsByFunction f = .ok versions ∧ v ∈ versionsToDelete versions
  | _ => True

/-- A justified mutating call is made in a real run only. -/
theorem Justified.dryRun_eq_false {c : Call} (h : Justified cfg P c) (hm : c.mutating = true) :
    cfg.dryRun = false := by
  cases c <;> simp_all [Call.mutating, Justified]

/-! ### The sweep invariant -/

/-- A state agrees with the abstract model: every call made is justified, and every count
written is the one `expectedFound` predicts. -/
structure SweepInv (s : Sweep) : Prop where
  justified : ∀ c ∈ s.calls, Justified cfg P c
  found : ∀ k n, s.found k = some n → n = expectedFound cfg P k
  deleted : ∀ k n, s.deleted k = some n → n = if cfg.dryRun then 0 else expectedFound cfg P k

variable {cfg P}

theorem SweepInv.empty : SweepInv cfg P Sweep.empty :=
  ⟨by simp [Sweep.empty], by simp [Sweep.empty], by simp [Sweep.empty]⟩

theorem SweepInv.issue {s : Sweep} {c : Call} (h : SweepInv cfg P s) (hc : Justified cfg P c) :
    SweepInv cfg P (s.issue c) :=
  ⟨by simpa [or_imp, forall_and] using ⟨h.justified, hc⟩, by simpa using h.found,
    by simpa using h.deleted⟩

theorem SweepInv.addError {s : Sweep} (h : SweepInv cfg P s) (e : String) :
    SweepInv cfg P (s.addError e) :=
  ⟨by simpa using h.justified, by simpa using h.found, by simpa using h.deleted⟩

theorem SweepInv.record {s : Sweep} {k : Kind} {n : Nat} (h : SweepInv cfg P s)
    (hn : n = expectedFound cfg P k) : SweepInv cfg P (s.record cfg.dryRun k n) := by
  refine ⟨by simpa using h.justified, fun k' m hm => ?_, fun k' m hm => ?_⟩
  · simp only [Sweep.record] at hm
    split at hm
    · subst_vars; simp_all
    · exact h.found k' m hm
  · simp only [Sweep.record] at hm
    split at hm
    · subst_vars; cases hd : cfg.dryRun <;> simp_all
    · exact h.deleted k' m hm

end OddiyaOps.Cleanup
