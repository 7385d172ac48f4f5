import OddiyaOps.Cleanup.Provider

/-!
# OddiyaOps.Cleanup.Handlers

**The twelve handlers of `cleanup.py` and the Lambda `handler` that runs them.**

Most handlers have one frame (`sweepKind`): list the records, run a loop body on each
(`collect`, the `for` loop with its `*_to_delete.append`), then record the counts; an exception
escaping any of it becomes one error string. What differs is the body, so every handler keeps
its own body, written as the source writes it: the checks in the source's order, each
`continue` a `return none`, the guarded delete (`attempt`) and the appended entry.
`cleanup_rds_snapshots` (two listings), `cleanup_security_groups` (a second listing before the
loop), `cleanup_ecr_images` and `cleanup_old_lambda_versions` (a nested loop per repository or
function) keep their own frames.

Printing is not modelled, nor the floating-point savings estimate. Of the sizes the estimate
adds up, only the `KeyError` that `volume['Size']` raises for a volume without `Size` is kept;
the snapshot's `.get('VolumeSize', 0)` cannot raise.
-/

namespace OddiyaOps.Cleanup

open OddiyaOps.Python

variable (cfg : Config) (P : Provider)

/-! ### The shared pieces -/

/-- `if not DRY_RUN: try: <c> except Exception as e: summary['errors'].append(<failure e>)`. -/
def attempt (c : Call) (failure : String → String) : Py Unit :=
  if !cfg.dryRun then
    tryCatch (do let _ ← call P c) fun e => appendError (failure e)
  else pure ()

/-- A handler's `for` loop: the body returns the entry it appends to `*_to_delete`, if any. -/
def collect {ρ : Type} (body : ρ → Py (Option String)) : List ρ → List String → Py (List String)
  | [], acc => pure acc
  | r :: rs, acc => do
    match ← body r with
    | none => collect body rs acc
    | some k => collect body rs (acc ++ [k])

/-- The frame `try: <list>; <loop>; <record counts> except Exception as e: errors.append(...)`,
with `label` the text before `: {e}`. -/
def sweepKind {ρ : Type} (kind : Kind) (label : String) (listing : Py (List ρ))
    (body : ρ → Py (Option String)) : Py Unit :=
  tryCatch (do
      let records ← listing
      let toDelete ← collect body records []
      recordCounts cfg.dryRun kind toDelete.length)
    fun e => appendError (label ++ ": " ++ e)

/-! ### Block storage and addresses -/

/-- The loop body of `cleanup_ebs_volumes`. -/
def volumeBody (volume : Volume) : Py (Option String) := do
  let volumeId := volume.volumeId
  if isWhitelisted cfg volumeId volume.tags then return none
  if !isOldEnough cfg (← volume.createTime.item "CreateTime") then return none
  let _ ← keyItem "Size" volume.size
  attempt cfg P (.deleteVolume volumeId) fun e =>
    "Failed to delete volume " ++ volumeId ++ ": " ++ e
  return some volumeId

/-- `cleanup_ebs_volumes`: unattached volumes (the listing filters `status=available`). -/
def cleanupEbsVolumes : Py Unit :=
  sweepKind cfg .ebsVolumes "EBS volume cleanup error" (call P .describeVolumes) (volumeBody cfg P)

/-- The loop body of `cleanup_ebs_snapshots`. -/
def snapshotBody (snapshot : Snapshot) : Py (Option String) := do
  let snapshotId := snapshot.snapshotId
  if startsWith (snapshot.description.getD "") "Created by CreateImage" then return none
  if isWhitelisted cfg snapshotId snapshot.tags then return none
  if !isOldEnough cfg (← snapshot.startTime.item "StartTime") then return none
  attempt cfg P (.deleteSnapshot snapshotId) fun e =>
    "Failed to delete snapshot " ++ snapshotId ++ ": " ++ e
  return some snapshotId

/-- `cleanup_ebs_snapshots`. -/
def cleanupEbsSnapshots : Py Unit :=
  sweepKind cfg .ebsSnapshots "EBS snapshot cleanup error" (call P .describeSnapshots)
    (snapshotBody cfg P)

/-- The text of the `AttributeError` a `None` name raises in `is_whitelisted`. -/
def noneStartswith : String := "\x27NoneType\x27 object has no attribute \x27startswith\x27"

/-- `is_whitelisted(name, tags)` for a name that may be `None`: a `None` name raises at the
first non-empty prefix, and is tested on its tags only when there is none. -/
def isWhitelistedOpt (name : Option String) (tags : List Tag) : Py Bool :=
  match name with
  | some n => pure (isWhitelisted cfg n tags)
  | none =>
    if cfg.whitelistPrefixes.any (· ≠ "") then throw noneStartswith
    else pure (tagWhitelisted cfg tags)

/-- `release_address(AllocationId=...) if allocation_id else release_address(PublicIp=...)`. -/
def releaseCall (eip : Address) : Call :=
  match eip.allocationId with
  | some a => if a ≠ "" then .releaseAddressByAllocationId a else .releaseAddressByPublicIp eip.publicIp
  | none => .releaseAddressByPublicIp eip.publicIp

/-- The loop body of `cleanup_elastic_ips`. -/
def addressBody (eip : Address) : Py (Option String) := do
  if eip.instanceId.isSome || eip.networkInterfaceId.isSome then return none
  let allocationId := eip.allocationId
  let publicIp := eip.publicIp
  if ← isWhitelistedOpt cfg (pyOr publicIp allocationId) eip.tags then return none
  attempt cfg P (releaseCall eip) fun e => "Failed to release EIP " ++ pyStr publicIp ++ ": " ++ e
  return some (pyStr (pyOr allocationId publicIp))

/-- `cleanup_elastic_ips`. -/
def cleanupElasticIps : Py Unit :=
  sweepKind cfg .elasticIps "Elastic IP cleanup error" (call P .describeAddresses)
    (addressBody cfg P)

/-! ### Load balancers and NAT gateways -/

/-- The inner loop of `cleanup_load_balancers`: does some target group have a registered
target? -/
def hasTargets : List String → Py Bool
  | [] => pure false
  | tg :: tgs => do
    let health ← call P (.describeTargetHealth tg)
    if !health.isEmpty then return true
    hasTargets tgs

/-- The loop body of `cleanup_load_balancers`. The bare `except: continue` around the target
check skips the record exactly as `if has_targets: continue` does. -/
def loadBalancerBody (lb : LoadBalancer) : Py (Option String) := do
  let lbArn := lb.loadBalancerArn
  let lbName := lb.loadBalancerName
  if isWhitelisted cfg lbName [] then return none
  let skip ← tryCatch (do hasTargets P (← call P (.describeTargetGroups lbArn)))
    fun _ => pure true
  if skip then return none
  if !isOldEnough cfg (← lb.createdTime.item "CreatedTime") then return none
  attempt cfg P (.deleteLoadBalancer lbArn) fun e =>
    "Failed to delete LB " ++ lbName ++ ": " ++ e
  return some lbArn

/-- `cleanup_load_balancers`. -/
def cleanupLoadBalancers : Py Unit :=
  sweepKind cfg .loadBalancers "Load balancer cleanup error" (call P .describeLoadBalancers)
    (loadBalancerBody cfg P)

/-- The loop body of `cleanup_nat_gateways`. -/
def natGatewayBody (nat : NatGateway) : Py (Option String) := do
  let natId := nat.natGatewayId
  if isWhitelisted cfg natId nat.tags then return none
  if !isOldEnough cfg (← nat.createTime.item "CreateTime") then return none
  attempt cfg P (.deleteNatGateway natId) fun e => "Failed to delete NAT " ++ natId ++ ": " ++ e
  return some natId

/-- `cleanup_nat_gateways`: available gateways (the listing filters `state=available`). -/
def cleanupNatGateways : Py Unit :=
  sweepKind cfg .natGateways "NAT gateway cleanup error" (call P .describeNatGateways)
    (natGatewayBody cfg P)

/-! ### Database snapshots and machine images -/

/-- The first loop body of `cleanup_rds_snapshots`. -/
def dbSnapshotBody (snapshot : DbSnapshot) : Py (Option String) := do
  let snapshotId := snapshot.dbSnapshotIdentifier
  if isWhitelisted cfg snapshotId [] then return none
  if !isOldEnough cfg (← snapshot.snapshotCreateTime.item "SnapshotCreateTime") then return none
  attempt cfg P (.deleteDbSnapshot snapshotId) fun e =>
    "Failed to delete RDS snapshot " ++ snapshotId ++ ": " ++ e
  return some snapshotId

/-- The second loop body of `cleanup_rds_snapshots`. -/
def dbClusterSnapshotBody (snapshot : DbClusterSnapshot) : Py (Option String) := do
  let snapshotId := snapshot.dbClusterSnapshotIdentifier
  if isWhitelisted cfg snapshotId [] then return none
  if !isOldEnough cfg (← snapshot.snapshotCreateTime.item "SnapshotCreateTime") then return none
  attempt cfg P (.deleteDbClusterSnapshot snapshotId) fun e =>
    "Failed to delete cluster snapshot " ++ snapshotId ++ ": " ++ e
  return some snapshotId

/-- `cleanup_rds_snapshots`: both listings feed one `snapshots_to_delete`, counted at the end. -/
def cleanupRdsSnapshots : Py Unit :=
  tryCatch (do
      let dbSnapshots ← call P .describeDbSnapshots
      let toDelete ← collect (dbSnapshotBody cfg P) dbSnapshots []
      let clusterSnapshots ← call P .describeDbClusterSnapshots
      let toDelete ← collect (dbClusterSnapshotBody cfg P) clusterSnapshots toDelete
      recordCounts cfg.dryRun .rdsSnapshots toDelete.length)
    fun e => appendError ("RDS snapshot cleanup error: " ++ e)

/-- The text of the `AttributeError` of `None.replace(...)`. -/
def noneReplace : String := "\x27NoneType\x27 object has no attribute \x27replace\x27"

/-- `datetime.fromisoformat(image['CreationDate'].replace('Z', '+00:00'))`. -/
def Stamp.isoItem (key : String) : Stamp → Py Int
  | .absent => throw (keyError key)
  | .null => throw noneReplace
  | .at t => pure t

/-- The best-effort deletes of an image's backing snapshots: `try: ... except: pass`. -/
def deleteBackingSnapshots : List BlockDevice → Py Unit
  | [] => pure ()
  | device :: devices => do
    match device.ebsSnapshotId with
    | some snapshotId => tryCatch (do let _ ← call P (.deleteSnapshot snapshotId)) fun _ => pure ()
    | none => pure ()
    deleteBackingSnapshots devices

/-- The loop body of `cleanup_ami_images`; its delete also deletes the backing snapshots. -/
def imageBody (image : Image) : Py (Option String) := do
  let amiId := image.imageId
  let amiName := image.name.getD ""
  if isWhitelisted cfg amiName image.tags then return none
  if !isOldEnough cfg (some (← image.creationDate.isoItem "CreationDate")) then return none
  if !cfg.dryRun then
    tryCatch (do
        let _ ← call P (.deregisterImage amiId)
        deleteBackingSnapshots P image.blockDeviceMappings)
      fun e => appendError ("Failed to deregister AMI " ++ amiId ++ ": " ++ e)
  return some amiId

/-- `cleanup_ami_images`. -/
def cleanupAmiImages : Py Unit :=
  sweepKind cfg .amiImages "AMI cleanup error" (call P .describeImages) (imageBody cfg P)

/-! ### Container images -/

/-- The tags `cleanup_ecr_images` never deletes. -/
def protectedTags : List String := ["latest", "prod", "production", "stable"]

/-- The inner loop of `cleanup_ecr_images`: an entry is a candidate when it has an `imageTag`
and the tag is not protected. -/
def ecrCandidate (image : ImageId) : Bool :=
  match image.imageTag with
  | some tag => tag ∉ protectedTags
  | none => false

/-- The `try` block for one repository: the number it adds to `total_images_deleted`. -/
def repositoryBody (repoName : String) : Py Nat := do
  let images ← call P (.listImages repoName)
  let imagesToDelete := images.filter ecrCandidate
  if imagesToDelete.length > 10 then
    -- `images_to_delete[:-10]`
    let imagesToDelete := imagesToDelete.take (imagesToDelete.length - 10)
    if !cfg.dryRun && !imagesToDelete.isEmpty then
      let _ ← call P (.batchDeleteImage repoName imagesToDelete)
    return imagesToDelete.length
  return 0

/-- The loop over repositories, carrying `total_images_deleted`. -/
def ecrRepositories : List String → Nat → Py Nat
  | [], total => pure total
  | repoName :: repos, total => do
    if isWhitelisted cfg repoName [] then return ← ecrRepositories repos total
    let added ← tryCatch (repositoryBody cfg P repoName) fun e => do
      appendError ("Failed to clean ECR repo " ++ repoName ++ ": " ++ e)
      pure 0
    ecrRepositories repos (total + added)

/-- `cleanup_ecr_images`. -/
def cleanupEcrImages : Py Unit :=
  tryCatch (do
      let repositories ← call P .describeRepositories
      let total ← ecrRepositories cfg P repositories 0
      recordCounts cfg.dryRun .ecrImages total)
    fun e => appendError ("ECR cleanup error: " ++ e)

/-! ### Logs, buckets, security groups and function versions -/

/-- The text of the `TypeError` of `None / 1000`. -/
def noneDiv : String := "unsupported operand type(s) for /: \x27NoneType\x27 and \x27int\x27"

/-- `if 'lastEventTimestamp' in log_group:` the age check on the last event, which is made only
when the key is present. The value is whether the group is recent (`continue`). -/
def lastEventRecent : Stamp → Py Bool
  | .absent => pure false
  | .null => throw noneDiv
  | .at t => pure (!isOldEnough cfg (some t))

/-- The loop body of `cleanup_cloudwatch_logs`. `describe_log_streams` has no `try` of its own. -/
def logGroupBody (logGroup : LogGroup) : Py (Option String) := do
  let lgName := logGroup.logGroupName
  if isWhitelisted cfg lgName [] then return none
  if ← lastEventRecent cfg logGroup.lastEventTimestamp then return none
  let streams ← call P (.describeLogStreams lgName)
  if !streams.isEmpty then return none
  attempt cfg P (.deleteLogGroup lgName) fun e =>
    "Failed to delete log group " ++ lgName ++ ": " ++ e
  return some lgName

/-- `cleanup_cloudwatch_logs`. -/
def cleanupCloudwatchLogs : Py Unit :=
  sweepKind cfg .cloudwatchLogs "CloudWatch logs cleanup error" (call P .describeLogGroups)
    (logGroupBody cfg P)

/-- The loop body of `cleanup_empty_s3_buckets`: everything after the whitelist check is in a
`try` whose `except Exception: continue` skips the bucket. -/
def bucketBody (bucket : Bucket) : Py (Option String) := do
  let bucketName := bucket.name
  if isWhitelisted cfg bucketName [] then return none
  tryCatch (do
      let hasContents : Bool ← call P (.listObjectsV2 bucketName)
      if hasContents then return none
      if !isOldEnough cfg (← bucket.creationDate.item "CreationDate") then return none
      attempt cfg P (.deleteBucket bucketName) fun e =>
        "Failed to delete bucket " ++ bucketName ++ ": " ++ e
      return some bucketName)
    fun _ => pure none

/-- `cleanup_empty_s3_buckets`. -/
def cleanupEmptyS3Buckets : Py Unit :=
  sweepKind cfg .s3Buckets "S3 cleanup error" (call P .listBuckets) (bucketBody cfg P)

/-- The loop body of `cleanup_security_groups`, given the groups some interface uses. -/
def securityGroupBody (usedSgs : List String) (sg : SecurityGroup) : Py (Option String) := do
  let sgId := sg.groupId
  let sgName := sg.groupName
  if sgName = "default" then return none
  if sgId ∈ usedSgs then return none
  if isWhitelisted cfg sgName sg.tags then return none
  attempt cfg P (.deleteSecurityGroup sgId) fun e => "Failed to delete SG " ++ sgId ++ ": " ++ e
  return some sgId

/-- `cleanup_security_groups`: the network interfaces are listed before the loop. -/
def cleanupSecurityGroups : Py Unit :=
  tryCatch (do
      let securityGroups ← call P .describeSecurityGroups
      let interfaces ← call P .describeNetworkInterfaces
      let usedSgs := interfaces.flatten
      let toDelete ← collect (securityGroupBody cfg P usedSgs) securityGroups []
      recordCounts cfg.dryRun .securityGroups toDelete.length)
    fun e => appendError ("Security group cleanup error: " ++ e)

/-- `versions['Versions'][:-3]` without `$LATEST`: the versions `cleanup_old_lambda_versions`
deletes. -/
def versionsToDelete (versions : List Version) : List String :=
  ((versions.take (versions.length - 3)).map (·.version)).filter (· ≠ "$LATEST")

/-- The delete loop of one function, carrying `total_versions_deleted`: a dry run counts every
version, a real run only the deletes that returned. -/
def deleteVersions (functionName : String) : List String → Nat → Py Nat
  | [], total => pure total
  | version :: versions, total => do
    if !cfg.dryRun then
      let total ← tryCatch (do
          let _ ← call P (.deleteFunction functionName version)
          pure (total + 1))
        fun e => do
          appendError ("Failed to delete Lambda version " ++ functionName ++ ":" ++ version ++
            ": " ++ e)
          pure total
      deleteVersions functionName versions total
    else deleteVersions functionName versions (total + 1)

/-- The loop over functions. The per-function `except Exception: continue` can only catch
`list_versions_by_function`: the deletes have their own `try`, so no count is lost to it. -/
def lambdaFunctions : List String → Nat → Py Nat
  | [], total => pure total
  | functionName :: functions, total => do
    if isWhitelisted cfg functionName [] then return ← lambdaFunctions functions total
    let total ← tryCatch (do
        let versions ← call P (.listVersionsByFunction functionName)
        deleteVersions cfg P functionName (versionsToDelete versions) total)
      fun _ => pure total
    lambdaFunctions functions total

/-- `cleanup_old_lambda_versions`. -/
def cleanupOldLambdaVersions : Py Unit :=
  tryCatch (do
      let functions ← call P .listFunctions
      let total ← lambdaFunctions cfg P functions 0
      recordCounts cfg.dryRun .lambdaVersions total)
    fun e => appendError ("Lambda cleanup error: " ++ e)

/-! ### The Lambda entry point -/

/-- `send_notification(summary)`: nothing without a topic; a failed publish is only printed. -/
def sendNotification : Py Unit :=
  match cfg.snsTopicArn with
  | some topic =>
    if topic ≠ "" then
      let subject := "AWS Cleanup Report - " ++ if cfg.dryRun then "DRY RUN" else "COMPLETED"
      tryCatch (do let _ ← call P (.publish topic subject)) fun _ => pure ()
    else pure ()
  | none => pure ()

/-- `handler(event, context)`: each enabled handler in the source's order (`if CLEAN_X:
cleanup_x(summary)`), then the report. -/
def handler : Py Unit := do
  tryCatch (do
      (if cfg.enabled .ebsVolumes then cleanupEbsVolumes cfg P else pure ())
      (if cfg.enabled .ebsSnapshots then cleanupEbsSnapshots cfg P else pure ())
      (if cfg.enabled .elasticIps then cleanupElasticIps cfg P else pure ())
      (if cfg.enabled .loadBalancers then cleanupLoadBalancers cfg P else pure ())
      (if cfg.enabled .natGateways then cleanupNatGateways cfg P else pure ())
      (if cfg.enabled .rdsSnapshots then cleanupRdsSnapshots cfg P else pure ())
      (if cfg.enabled .amiImages then cleanupAmiImages cfg P else pure ())
      (if cfg.enabled .ecrImages then cleanupEcrImages cfg P else pure ())
      (if cfg.enabled .cloudwatchLogs then cleanupCloudwatchLogs cfg P else pure ())
      (if cfg.enabled .s3Buckets then cleanupEmptyS3Buckets cfg P else pure ())
      (if cfg.enabled .securityGroups then cleanupSecurityGroups cfg P else pure ())
      (if cfg.enabled .lambdaVersions then cleanupOldLambdaVersions cfg P else pure ()))
    fun e => appendError e
  sendNotification cfg P

/-- The summary a run of `handler` returns (with the calls it issued). -/
def run : Sweep := (handler cfg P).final Sweep.empty

end OddiyaOps.Cleanup
