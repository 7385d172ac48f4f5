import OddiyaOps.Python.Str

/-!
# OddiyaOps.Cleanup.Resources

**What the cleanup Lambda (`terraform/aws-cleanup/cleanup.py`) reads**: the records its listing
calls return, its configuration, and the two shared predicates `is_whitelisted` and
`is_old_enough`.

A record keeps the fields the handlers read, under the response's own key names. A field the
code reads with `record['Key']` raises `KeyError` when the key is missing, one read with
`.get` falls back to a default. So a field that may be missing is an `Option`, and a timestamp,
which may also be present with the value `None`, is a `Stamp` that says which of the three it
is. A few fields no handler reads are kept because the listing returns them and a property of
the sweep is stated about them (`DbSnapshot.tagList`, `LogGroup.creationTime`,
`Version.lastModified`).

Times are integers in milliseconds since the epoch. `timedelta.days` is a floor, and Lean's
`Int` division by a positive number floors too, so `isOldEnough` computes Python's age in days.
-/

namespace OddiyaOps.Cleanup

open OddiyaOps.Python

/-! ### Records of the listing calls -/

/-- An entry of a `Tags` (or `TagList`) list: `{'Key': ..., 'Value': ...}`. -/
structure Tag where
  key : String
  value : String
  deriving DecidableEq, Repr

/-- A timestamp field of a listed record. -/
inductive Stamp
  /-- The key is missing from the record. -/
  | absent
  /-- The key is present with the value `None`. -/
  | null
  /-- A datetime, in milliseconds since the epoch. -/
  | at (t : Int)
  deriving DecidableEq, Repr

/-- The value a present key holds, `None` for a missing key as well. -/
def Stamp.value? : Stamp → Option Int
  | .at t => some t
  | _ => none

/-- An entry of `describe_volumes(...)['Volumes']`; `size` is `none` when `Size` is missing. -/
structure Volume where
  volumeId : String
  tags : List Tag
  createTime : Stamp
  size : Option Nat
  deriving DecidableEq, Repr

/-- An entry of `describe_snapshots(...)['Snapshots']`; `description` is `none` when the key is
missing (`.get('Description', '')`). -/
structure Snapshot where
  snapshotId : String
  description : Option String
  tags : List Tag
  startTime : Stamp
  deriving DecidableEq, Repr

/-- An entry of `describe_addresses()['Addresses']`. `instanceId` and `networkInterfaceId` are
`some` exactly when the key is present, i.e. when the address is associated. -/
structure Address where
  allocationId : Option String
  publicIp : Option String
  instanceId : Option String
  networkInterfaceId : Option String
  tags : List Tag
  deriving DecidableEq, Repr

/-- An entry of `describe_load_balancers()['LoadBalancers']`. The listing carries no tags. -/
structure LoadBalancer where
  loadBalancerArn : String
  loadBalancerName : String
  createdTime : Stamp
  deriving DecidableEq, Repr

/-- An entry of `describe_nat_gateways(...)['NatGateways']`. -/
structure NatGateway where
  natGatewayId : String
  tags : List Tag
  createTime : Stamp
  deriving DecidableEq, Repr

/-- An entry of `describe_db_snapshots(...)['DBSnapshots']`. The handler never reads `TagList`. -/
structure DbSnapshot where
  dbSnapshotIdentifier : String
  snapshotCreateTime : Stamp
  tagList : List Tag
  deriving DecidableEq, Repr

/-- An entry of `describe_db_cluster_snapshots(...)['DBClusterSnapshots']`. -/
structure DbClusterSnapshot where
  dbClusterSnapshotIdentifier : String
  snapshotCreateTime : Stamp
  tagList : List Tag
  deriving DecidableEq, Repr

/-- An entry of an image's `BlockDeviceMappings`: `ebsSnapshotId` is `some` exactly when
`'Ebs' in device and 'SnapshotId' in device['Ebs']`. -/
structure BlockDevice where
  ebsSnapshotId : Option String
  deriving DecidableEq, Repr

/-- An entry of `describe_images(...)['Images']`; `name` is `none` when `Name` is missing.
`CreationDate` is an ISO string the handler parses itself; a present one is kept parsed. -/
structure Image where
  imageId : String
  name : Option String
  tags : List Tag
  creationDate : Stamp
  blockDeviceMappings : List BlockDevice
  deriving DecidableEq, Repr

/-- An entry of `list_images(...)['imageIds']`. -/
structure ImageId where
  imageDigest : String
  imageTag : Option String
  deriving DecidableEq, Repr

/-- An entry of `describe_log_groups()['logGroups']`. The handler never reads `creationTime`. -/
structure LogGroup where
  logGroupName : String
  lastEventTimestamp : Stamp
  creationTime : Int
  deriving DecidableEq, Repr

/-- An entry of `list_buckets()['Buckets']`. -/
structure Bucket where
  name : String
  creationDate : Stamp
  deriving DecidableEq, Repr

/-- An entry of `describe_security_groups()['SecurityGroups']`. -/
structure SecurityGroup where
  groupId : String
  groupName : String
  tags : List Tag
  deriving DecidableEq, Repr

/-- An entry of `list_versions_by_function(...)['Versions']`. The handler never reads
`LastModified`. -/
structure Version where
  version : String
  lastModified : Stamp
  deriving DecidableEq, Repr

/-! ### The summary's resource kinds and the configuration -/

/-- The keys the handlers write into `resources_found` and `resources_deleted`. -/
inductive Kind
  | ebsVolumes | ebsSnapshots | elasticIps | loadBalancers | natGateways | rdsSnapshots
  | amiImages | ecrImages | cloudwatchLogs | s3Buckets | securityGroups | lambdaVersions
  deriving DecidableEq, Repr

/-- The dictionary key of a kind, as the source spells it. -/
def Kind.key : Kind → String
  | .ebsVolumes => "ebs_volumes"
  | .ebsSnapshots => "ebs_snapshots"
  | .elasticIps => "elastic_ips"
  | .loadBalancers => "load_balancers"
  | .natGateways => "nat_gateways"
  | .rdsSnapshots => "rds_snapshots"
  | .amiImages => "ami_images"
  | .ecrImages => "ecr_images"
  | .cloudwatchLogs => "cloudwatch_logs"
  | .s3Buckets => "s3_buckets"
  | .securityGroups => "security_groups"
  | .lambdaVersions => "lambda_versions"

/-- The module-level settings of `cleanup.py`, read from the environment at import. `enabled`
holds the twelve `CLEAN_*` flags, by the kind their handler writes. `now` is the clock reading
`is_old_enough` takes; a sweep takes seconds, so one reading serves the whole run. -/
structure Config where
  dryRun : Bool
  ageThresholdDays : Int
  enabled : Kind → Bool
  whitelistTags : List String
  whitelistPrefixes : List String
  snsTopicArn : Option String
  now : Int

/-! ### The shared predicates -/

variable (cfg : Config)

/-- The prefix half of `is_whitelisted`: some non-empty `WHITELIST_PREFIXES` entry starts the
name. -/
def prefixWhitelisted (resourceName : String) : Bool :=
  cfg.whitelistPrefixes.any fun pre => pre ≠ "" && startsWith resourceName pre

/-- The tag half of `is_whitelisted`: `if tags:` some non-empty `WHITELIST_TAGS` entry is a key
of the tag dictionary. -/
def tagWhitelisted (tags : List Tag) : Bool :=
  !tags.isEmpty && cfg.whitelistTags.any fun tagKey => tagKey ≠ "" && tags.any (·.key == tagKey)

/-- `is_whitelisted(resource_name, tags)`. Handlers that pass no tags pass `[]`. -/
def isWhitelisted (resourceName : String) (tags : List Tag) : Bool :=
  prefixWhitelisted cfg resourceName || tagWhitelisted cfg tags

/-- Milliseconds in a day. -/
def msPerDay : Int := 86400000

/-- `is_old_enough(create_time)`: a falsy time (`None`) is old enough; otherwise the age in
whole days must reach `AGE_THRESHOLD_DAYS`. -/
def isOldEnough : Option Int → Bool
  | none => true
  | some t => decide (cfg.ageThresholdDays ≤ (cfg.now - t) / msPerDay)

@[simp] theorem isOldEnough_none : isOldEnough cfg none = true := rfl

/-- A time with `now - t` short of the threshold is not old enough. -/
theorem isOldEnough_of_recent {t : Int} (h : cfg.now - t < cfg.ageThresholdDays * msPerDay) :
    isOldEnough cfg (some t) = false := by
  simp only [isOldEnough, decide_eq_false_iff_not, not_le, msPerDay] at h ⊢
  omega

theorem isWhitelisted_of_prefix {name pre : String} (tags : List Tag)
    (hmem : pre ∈ cfg.whitelistPrefixes) (hne : pre ≠ "") (hpre : startsWith name pre = true) :
    isWhitelisted cfg name tags = true := by
  simp only [isWhitelisted, prefixWhitelisted, Bool.or_eq_true, List.any_eq_true]
  exact .inl ⟨pre, hmem, by simp [hne, hpre]⟩

theorem isWhitelisted_of_tag {name tagKey : String} {tags : List Tag}
    (hmem : tagKey ∈ cfg.whitelistTags) (hne : tagKey ≠ "") (htag : ∃ t ∈ tags, t.key = tagKey) :
    isWhitelisted cfg name tags = true := by
  obtain ⟨t, ht, rfl⟩ := htag
  simp only [isWhitelisted, tagWhitelisted, Bool.or_eq_true, Bool.and_eq_true, List.any_eq_true]
  refine .inr ⟨?_, t.key, hmem, by simpa using ⟨hne, t, ht, rfl⟩⟩
  cases tags with
  | nil => simp at ht
  | cons _ _ => rfl

end OddiyaOps.Cleanup
