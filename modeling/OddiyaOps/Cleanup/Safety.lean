import OddiyaOps.Cleanup.Invariant

/-!
# OddiyaOps.Cleanup.Safety

**What a sweep leaves alone**: everything in a dry run; in a real run, every record whose
handler finds it whitelisted or too young, judged on the fields that handler reads.

All three results are readings of `run_sweepInv`. A mutating call in the log is `Justified`:
it names a listed record its handler selected, and each selection predicate of
`OddiyaOps.Cleanup.Policy` starts with the handler's whitelist check and contains its age
check. What the results make explicit is *which* field each handler checks, since the handlers
do not agree: `cleanup_security_groups` checks `GroupName` and never `GroupId`,
`cleanup_rds_snapshots` never reads `TagList`, `cleanup_ami_images` deletes an image's backing
snapshots on the strength of the image alone, `cleanup_old_lambda_versions` keeps the last three
versions instead of reading `LastModified`, and `cleanup_cloudwatch_logs` reads
`lastEventTimestamp` but never `creationTime`. The runs after each theorem show these gaps on
concrete accounts.
-/

namespace OddiyaOps.Cleanup

open OddiyaOps.Python

/-! ### Dry runs -/

/-- **A dry run mutates nothing.** Whichever handlers are enabled, whatever the listings hold
and whichever calls raise, a run with `DRY_RUN` set issues no mutating call and writes `0` for
every deleted count it writes. -/
theorem dryRun_run_mutates_nothing (cfg : Config) (P : Provider) (hdry : cfg.dryRun = true) :
    (∀ c ∈ (run cfg P).calls, c.mutating = false) ∧
      ∀ k n, (run cfg P).deleted k = some n → n = 0 := by
  have hinv := run_sweepInv cfg P
  refine ⟨fun c hc => ?_, fun k n h => by simpa [hdry] using hinv.deleted k n h⟩
  cases hm : c.mutating
  · rfl
  · simpa [hdry] using Justified.dryRun_eq_false _ _ (hinv.justified c hc) hm

/-- A configuration for the runs below: every handler on, a 30-day threshold, no whitelisted
tag, the clock at day 100. -/
def sampleConfig (dryRun : Bool) (prefixes : List String) : Config :=
  ⟨dryRun, 30, fun _ => true, [], prefixes, none, 100 * msPerDay⟩

/-- An account holding one unattached 8 GiB volume created at day 0. -/
def oldVolumeProvider : Provider :=
  { Provider.quiet with describeVolumes := .ok [⟨"vol-1", [], .at 0, some 8⟩] }

theorem dryRun_run_mutates_nothing_oldVolume :
    (sampleConfig true []).dryRun = true ∧
      ((∀ c ∈ (run (sampleConfig true []) oldVolumeProvider).calls, c.mutating = false) ∧
        ∀ k n, (run (sampleConfig true []) oldVolumeProvider).deleted k = some n → n = 0) :=
  ⟨rfl, dryRun_run_mutates_nothing _ _ rfl⟩

/-! ### The whitelist -/

section
variable (cfg : Config) (P : Provider)

/-- The whitelist check made on the record a mutating call names: the record is listed and
`is_whitelisted` answers `False` on the field and tags its handler passes. A backing snapshot is
checked only through its image; a repository's image deletes and a function's version deletes
through the repository and the function. -/
def WhitelistChecked : Call → Prop
  | .deleteVolume id =>
    ∃ v ∈ listed P.describeVolumes, v.volumeId = id ∧ isWhitelisted cfg v.volumeId v.tags = false
  | .deleteSnapshot id =>
    (∃ sn ∈ listed P.describeSnapshots, sn.snapshotId = id ∧
      isWhitelisted cfg sn.snapshotId sn.tags = false) ∨
    ∃ im ∈ listed P.describeImages, isWhitelisted cfg (im.name.getD "") im.tags = false ∧
      ⟨some id⟩ ∈ im.blockDeviceMappings
  | .releaseAddressByAllocationId a =>
    ∃ eip ∈ listed P.describeAddresses, releaseCall eip = .releaseAddressByAllocationId a ∧
      optWhitelisted cfg (pyOr eip.publicIp eip.allocationId) eip.tags = false
  | .releaseAddressByPublicIp ip =>
    ∃ eip ∈ listed P.describeAddresses, releaseCall eip = .releaseAddressByPublicIp ip ∧
      optWhitelisted cfg (pyOr eip.publicIp eip.allocationId) eip.tags = false
  | .deleteLoadBalancer arn =>
    ∃ lb ∈ listed P.describeLoadBalancers, lb.loadBalancerArn = arn ∧
      isWhitelisted cfg lb.loadBalancerName [] = false
  | .deleteNatGateway id =>
    ∃ nat ∈ listed P.describeNatGateways, nat.natGatewayId = id ∧
      isWhitelisted cfg nat.natGatewayId nat.tags = false
  | .deleteDbSnapshot id =>
    ∃ sn ∈ listed P.describeDbSnapshots, sn.dbSnapshotIdentifier = id ∧
      isWhitelisted cfg sn.dbSnapshotIdentifier [] = false
  | .deleteDbClusterSnapshot id =>
    ∃ sn ∈ listed P.describeDbClusterSnapshots, sn.dbClusterSnapshotIdentifier = id ∧
      isWhitelisted cfg sn.dbClusterSnapshotIdentifier [] = false
  | .deregisterImage id =>
    ∃ im ∈ listed P.describeImages, im.imageId = id ∧
      isWhitelisted cfg (im.name.getD "") im.tags = false
  | .batchDeleteImage repo _ =>
    repo ∈ listed P.describeRepositories ∧ isWhitelisted cfg repo [] = false
  | .deleteLogGroup name =>
    ∃ lg ∈ listed P.describeLogGroups, lg.logGroupName = name ∧
      isWhitelisted cfg lg.logGroupName [] = false
  | .deleteBucket name =>
    ∃ b ∈ listed P.listBuckets, b.name = name ∧ isWhitelisted cfg b.name [] = false
  | .deleteSecurityGroup id =>
    ∃ sg ∈ listed P.describeSecurityGroups, sg.groupId = id ∧
      isWhitelisted cfg sg.groupName sg.tags = false
  | .deleteFunction f _ => f ∈ listed P.listFunctions ∧ isWhitelisted cfg f [] = false
  | _ => True

variable {cfg P}

/-- Every selection starts with the whitelist check. -/
theorem Justified.whitelistChecked {c : Call} (h : Justified cfg P c) :
    WhitelistChecked cfg P c := by
  cases c <;> simp only [Justified, WhitelistChecked] at h ⊢
  case deleteSnapshot =>
    obtain ⟨-, ⟨sn, hsn, hid, hs⟩ | ⟨im, him, hs, -, hb⟩⟩ := h
    · exact .inl ⟨sn, hsn, hid, by simp_all [snapshotSelected]⟩
    · exact .inr ⟨im, him, by simp_all [imageSelected], hb⟩
  case batchDeleteImage => exact ⟨h.2.1, h.2.2.1⟩
  case deleteFunction => exact ⟨h.2.1, h.2.2.1⟩
  case deleteSecurityGroup =>
    obtain ⟨-, _, -, sg, hsg, hid, hs⟩ := h
    exact ⟨sg, hsg, hid, by simp_all [securityGroupSelected]⟩
  all_goals first
    | trivial
    | obtain ⟨-, r, hr, hid, hs⟩ := h
      exact ⟨r, hr, hid, by simp_all [volumeSelected, natGatewaySelected, dbSnapshotSelected,
        dbClusterSnapshotSelected, imageSelected, loadBalancerSelected, logGroupSelected,
        bucketSelected, addressSelected]⟩

end

/-- **The whitelist, handler by handler.** Every mutating call of a run names a listed record
that passed its own handler's whitelist check, and every count written is the number of listed
records the handler selects (a selection that includes that check). -/
theorem run_mutations_pass_whitelist (cfg : Config) (P : Provider) :
    (∀ c ∈ (run cfg P).calls, WhitelistChecked cfg P c) ∧
      ∀ k n, (run cfg P).found k = some n → n = expectedFound cfg P k :=
  ⟨fun c hc => ((run_sweepInv cfg P).justified c hc).whitelistChecked, (run_sweepInv cfg P).found⟩

/-- A security group whose id, not its name, carries the whitelisted prefix `sg-keep`. -/
def keptIdProvider : Provider :=
  { Provider.quiet with describeSecurityGroups := .ok [⟨"sg-keep1", "web", []⟩] }

/-- `cleanup_security_groups` passes `GroupName` to `is_whitelisted`, so a group whose
`GroupId` starts with a whitelist prefix is counted and deleted. -/
theorem whitelisted_group_id_deleted :
    "sg-keep" ∈ (sampleConfig false ["sg-keep"]).whitelistPrefixes ∧
      startsWith "sg-keep1" "sg-keep" = true ∧
      Call.deleteSecurityGroup "sg-keep1" ∈
        (run (sampleConfig false ["sg-keep"]) keptIdProvider).calls ∧
      (run (sampleConfig false ["sg-keep"]) keptIdProvider).found .securityGroups = some 1 := by
  decide

/-! ### The age threshold -/

section
variable (cfg : Config)

/-- A timestamp field that, when it holds a time `t`, has `now - t` at least the threshold. -/
def OldStamp (st : Stamp) : Prop :=
  ∀ t, st = .at t → cfg.ageThresholdDays * msPerDay ≤ cfg.now - t

variable (P : Provider)

/-- The age check made on the record a mutating call names, on the field its handler reads.
A backing snapshot is checked through its image's `CreationDate`; addresses, container images,
security groups and function versions carry no checked timestamp. -/
def AgeChecked : Call → Prop
  | .deleteVolume id =>
    ∃ v ∈ listed P.describeVolumes, v.volumeId = id ∧ OldStamp cfg v.createTime
  | .deleteSnapshot id =>
    (∃ sn ∈ listed P.describeSnapshots, sn.snapshotId = id ∧ OldStamp cfg sn.startTime) ∨
    ∃ im ∈ listed P.describeImages, OldStamp cfg im.creationDate ∧
      ⟨some id⟩ ∈ im.blockDeviceMappings
  | .deleteLoadBalancer arn =>
    ∃ lb ∈ listed P.describeLoadBalancers, lb.loadBalancerArn = arn ∧ OldStamp cfg lb.createdTime
  | .deleteNatGateway id =>
    ∃ nat ∈ listed P.describeNatGateways, nat.natGatewayId = id ∧ OldStamp cfg nat.createTime
  | .deleteDbSnapshot id =>
    ∃ sn ∈ listed P.describeDbSnapshots, sn.dbSnapshotIdentifier = id ∧
      OldStamp cfg sn.snapshotCreateTime
  | .deleteDbClusterSnapshot id =>
    ∃ sn ∈ listed P.describeDbClusterSnapshots, sn.dbClusterSnapshotIdentifier = id ∧
      OldStamp cfg sn.snapshotCreateTime
  | .deregisterImage id =>
    ∃ im ∈ listed P.describeImages, im.imageId = id ∧ OldStamp cfg im.creationDate
  | .deleteLogGroup name =>
    ∃ lg ∈ listed P.describeLogGroups, lg.logGroupName = name ∧
      OldStamp cfg lg.lastEventTimestamp
  | .deleteBucket name => ∃ b ∈ listed P.listBuckets, b.name = name ∧ OldStamp cfg b.creationDate
  | _ => True

variable {cfg P}

/-- `is_old_enough` is the threshold on `now - t`: floor division by a day loses nothing. -/
theorem oldStamp_of_isOldEnough {st : Stamp} (h : isOldEnough cfg st.value? = true) :
    OldStamp cfg st := by
  rintro t rfl
  simp only [Stamp.value?, isOldEnough, decide_eq_true_eq, msPerDay] at h ⊢
  omega

theorem oldStamp_of_lastEventOld {st : Stamp} (h : lastEventOld cfg st = true) :
    OldStamp cfg st := by
  rcases st with _ | _ | t
  · rintro t ⟨⟩
  · rintro t ⟨⟩
  · exact oldStamp_of_isOldEnough h

theorem oldStamp_of_bucketOld {st : Stamp} (h : bucketOld cfg st = true) : OldStamp cfg st := by
  cases st with
  | absent => simp at h
  | _ => exact oldStamp_of_isOldEnough h

/-- Every selection that reads a timestamp contains the age check on it. -/
theorem Justified.ageChecked {c : Call} (h : Justified cfg P c) : AgeChecked cfg P c := by
  cases c <;> simp only [Justified, AgeChecked] at h ⊢
  case deleteSnapshot =>
    obtain ⟨-, ⟨sn, hsn, hid, hs⟩ | ⟨im, him, hs, -, hb⟩⟩ := h
    · simp only [snapshotSelected, Bool.and_eq_true] at hs
      exact .inl ⟨sn, hsn, hid, oldStamp_of_isOldEnough hs.2⟩
    · simp only [imageSelected, Bool.and_eq_true] at hs
      exact .inr ⟨im, him, oldStamp_of_isOldEnough hs.2, hb⟩
  case deleteLogGroup =>
    obtain ⟨-, lg, hlg, hid, hs⟩ := h
    simp only [logGroupSelected, Bool.and_eq_true] at hs
    exact ⟨lg, hlg, hid, oldStamp_of_lastEventOld hs.1.2⟩
  case deleteBucket =>
    obtain ⟨-, b, hb, hid, hs⟩ := h
    simp only [bucketSelected, Bool.and_eq_true] at hs
    exact ⟨b, hb, hid, oldStamp_of_bucketOld hs.2⟩
  all_goals first
    | trivial
    | obtain ⟨-, r, hr, hid, hs⟩ := h
      simp only [volumeSelected, natGatewaySelected, dbSnapshotSelected, dbClusterSnapshotSelected,
        imageSelected, loadBalancerSelected, Bool.and_eq_true] at hs
      exact ⟨r, hr, hid, oldStamp_of_isOldEnough hs.2⟩

end

/-- **The age threshold, handler by handler.** Every mutating call of a run names a listed
record whose checked timestamp, when present, is at least `AGE_THRESHOLD_DAYS` old, and every
count written is the number of listed records the handler selects (a selection that includes
that check). -/
theorem run_mutations_pass_age (cfg : Config) (P : Provider) :
    (∀ c ∈ (run cfg P).calls, AgeChecked cfg P c) ∧
      ∀ k n, (run cfg P).found k = some n → n = expectedFound cfg P k :=
  ⟨fun c hc => ((run_sweepInv cfg P).justified c hc).ageChecked, (run_sweepInv cfg P).found⟩

/-- A function with four published versions; version `1` was modified at day 100, now. -/
def freshVersionProvider : Provider :=
  { Provider.quiet with
    listFunctions := .ok ["api"]
    listVersionsByFunction := fun _ =>
      .ok [⟨"$LATEST", .at 0⟩, ⟨"1", .at (100 * msPerDay)⟩, ⟨"2", .at 0⟩, ⟨"3", .at 0⟩,
        ⟨"4", .at 0⟩] }

/-- `cleanup_old_lambda_versions` never reads `LastModified`: a version modified this instant
is deleted and counted. -/
theorem fresh_lambda_version_deleted :
    (sampleConfig false []).now - 100 * msPerDay <
        (sampleConfig false []).ageThresholdDays * msPerDay ∧
      Call.deleteFunction "api" "1" ∈ (run (sampleConfig false []) freshVersionProvider).calls ∧
      (run (sampleConfig false []) freshVersionProvider).found .lambdaVersions = some 1 := by
  decide

end OddiyaOps.Cleanup
