import OddiyaOps.Cleanup.Safety
import Mathlib.Data.List.Nodup

/-!
# OddiyaOps.Cleanup.Occupancy

**What a sweep never deletes while it is in use**, for the uses the handlers look at.

Use is a fact about the account, not about one listing, so it lives in a `World`: which volumes
are attached, which addresses associated, which targets registered behind a load balancer, which
NAT gateways routed through, which images registered on which snapshots, which log streams,
objects, interface attachments, published versions and aliases exist. `Reports W P` says what a
provider that answers truthfully about `W` tells the handlers: no more than each call returns
(a listing filtered on `available` lists no attached volume; `describe_target_health` answers
`[]` only for a group without targets; `list_versions_by_function` lists `$LATEST` and then the
published versions in order).

## Proof shape

`Justified` already says which record each mutating call names and why its handler selected
it; `Justified.unoccupied` turns each selection into the world fact through `Reports`. Three
uses have no such check in the code and are left out of `Unoccupied`: routes through a NAT
gateway and aliases of a function version, which no handler looks up
(`routed_nat_and_alias_target_deleted`), and a snapshot's use by a registered image: the
snapshot handler means to skip such snapshots (`# Skip if AMI snapshot`) but tests only for a
description starting with `Created by CreateImage`, and `backing_snapshot_deleted` runs a case
where that is not enough.
-/

namespace OddiyaOps.Cleanup

open OddiyaOps.Python

/-! ### The account behind the listings -/

/-- The usage relations of an account. Published versions are in publication order (their
numbering), and a world is well formed when each function's list names each version once and
never `$LATEST`. -/
structure World where
  attachedVolumes : List String
  /-- Public IPs of addresses associated with an instance or a network interface. -/
  associatedIps : List String
  /-- The target groups of a load balancer, by its ARN. -/
  targetGroups : String → List String
  /-- The registered targets of a target group, by its ARN. -/
  registeredTargets : String → List String
  /-- NAT gateways some route table routes through. -/
  routedNatGateways : List String
  /-- The registered images. -/
  images : List Image
  logStreams : String → List String
  bucketObjects : String → List String
  /-- Security groups attached to some network interface. -/
  attachedGroups : List String
  /-- A function's published versions, oldest first. -/
  published : String → List String
  /-- The versions some alias of a function points at. -/
  aliasTargets : String → List String
  published_nodup : ∀ f, (published f).Nodup
  latest_unpublished : ∀ f, "$LATEST" ∉ published f

/-- The answers of a provider that reports `W` truthfully, as far as the handlers read them. -/
structure Reports (W : World) (P : Provider) : Prop where
  volumes : ∀ v ∈ listed P.describeVolumes, v.volumeId ∉ W.attachedVolumes
  addresses : ∀ eip ∈ listed P.describeAddresses, ∀ ip, eip.publicIp = some ip →
    ip ∈ W.associatedIps → (eip.instanceId.isSome || eip.networkInterfaceId.isSome) = true
  targetGroups : ∀ arn tgs, P.describeTargetGroups arn = .ok tgs → ∀ tg ∈ W.targetGroups arn,
    tg ∈ tgs
  targetHealth : ∀ tg, P.describeTargetHealth tg = .ok [] → W.registeredTargets tg = []
  logStreams : ∀ name, P.describeLogStreams name = .ok [] → W.logStreams name = []
  objects : ∀ name, P.listObjectsV2 name = .ok false → W.bucketObjects name = []
  interfaces : ∀ ifs, P.describeNetworkInterfaces = .ok ifs → ∀ g ∈ W.attachedGroups,
    g ∈ ifs.flatten
  versions : ∀ f versions, P.listVersionsByFunction f = .ok versions →
    versions.map (·.version) = "$LATEST" :: W.published f

/-- The world fact behind a mutating call: what it deletes or releases is not in use, for the
uses its handler checks. -/
def Unoccupied (W : World) (P : Provider) : Call → Prop
  | .deleteVolume id => id ∉ W.attachedVolumes
  | .releaseAddressByAllocationId a =>
    ∃ eip ∈ listed P.describeAddresses, releaseCall eip = .releaseAddressByAllocationId a ∧
      ∀ ip, eip.publicIp = some ip → ip ∉ W.associatedIps
  | .releaseAddressByPublicIp ip' =>
    ∃ eip ∈ listed P.describeAddresses, releaseCall eip = .releaseAddressByPublicIp ip' ∧
      ∀ ip, eip.publicIp = some ip → ip ∉ W.associatedIps
  | .deleteLoadBalancer arn => ∀ tg ∈ W.targetGroups arn, W.registeredTargets tg = []
  | .deleteLogGroup name => W.logStreams name = []
  | .deleteBucket name => W.bucketObjects name = []
  | .deleteSecurityGroup id =>
    id ∉ W.attachedGroups ∧
      ∃ sg ∈ listed P.describeSecurityGroups, sg.groupId = id ∧ sg.groupName ≠ "default"
  | .deleteFunction f v =>
    v ≠ "$LATEST" ∧ v ∉ (W.published f).drop ((W.published f).length - 3)
  | _ => True

/-! ### From selections to world facts -/

variable {W : World} {P : Provider}

/-- Target groups that `hasTargets` found empty: each answered `describe_target_health`
with `[]`. -/
theorem targetHealth_empty_of_targetsFound :
    ∀ {tgs : List String}, targetsFound P tgs = false →
      ∀ tg ∈ tgs, P.describeTargetHealth tg = .ok []
  | [], _, _, h => by simp at h
  | tg :: tgs, h, tg', htg' => by
    simp only [targetsFound] at h
    split at h
    · rename_i health hh
      simp only [Bool.or_eq_false_iff, Bool.not_eq_false', List.isEmpty_iff] at h
      rcases List.mem_cons.1 htg' with rfl | htg'
      · rw [hh, h.1]
      · exact targetHealth_empty_of_targetsFound h.2 tg' htg'
    · cases h

/-- On a listing of `$LATEST` and then the published versions, `[:-3]` without `$LATEST`
is every published version but the last three. -/
theorem versionsToDelete_of_published {versions : List Version} {pub : List String}
    (h : versions.map (·.version) = "$LATEST" :: pub) (hl : "$LATEST" ∉ pub) :
    versionsToDelete versions = pub.take (pub.length - 3) := by
  have hlen : versions.length = pub.length + 1 := by
    simpa using congrArg List.length h
  rw [versionsToDelete, List.map_take, h, hlen]
  rcases Nat.lt_or_ge pub.length 3 with hs | hs
  · rw [Nat.sub_eq_zero_of_le (by omega : pub.length + 1 ≤ 3),
      Nat.sub_eq_zero_of_le (by omega : pub.length ≤ 3)]
    rfl
  · rw [show pub.length + 1 - 3 = pub.length - 3 + 1 by omega, List.take_succ_cons,
      List.filter_cons_of_neg (by simp), List.filter_eq_self.2]
    intro v hv
    simpa using fun (hv' : v = "$LATEST") => hl (hv' ▸ List.mem_of_mem_take hv)

/-- A version `cleanup_old_lambda_versions` deletes is neither `$LATEST` nor one of the three
last published. -/
theorem version_unoccupied {f v : String} {versions : List Version} (hW : Reports W P)
    (hv : P.listVersionsByFunction f = .ok versions) (hd : v ∈ versionsToDelete versions) :
    v ≠ "$LATEST" ∧ v ∉ (W.published f).drop ((W.published f).length - 3) := by
  rw [versionsToDelete_of_published (hW.versions f versions hv) (W.latest_unpublished f)] at hd
  exact ⟨fun h => W.latest_unpublished f (h ▸ List.mem_of_mem_take hd),
    List.disjoint_take_drop (W.published_nodup f) le_rfl hd⟩

/-- Every selection that checks a use checks it against a truthful answer. -/
theorem Justified.unoccupied {cfg : Config} {c : Call} (hW : Reports W P)
    (h : Justified cfg P c) : Unoccupied W P c := by
  cases c <;> simp only [Justified, Unoccupied] at h ⊢
  case deleteVolume => obtain ⟨-, v, hv, rfl, -⟩ := h; exact hW.volumes v hv
  case releaseAddressByAllocationId | releaseAddressByPublicIp =>
    obtain ⟨-, eip, he, hc, hs⟩ := h
    refine ⟨eip, he, hc, fun ip hip hmem => ?_⟩
    simp [addressSelected, hW.addresses eip he ip hip hmem] at hs
  case deleteLoadBalancer =>
    obtain ⟨-, lb, -, rfl, hs⟩ := h
    simp only [loadBalancerSelected, loadBalancerBusy, Bool.and_eq_true, Bool.not_eq_true'] at hs
    split at hs
    · rename_i tgs htgs
      exact fun tg htg => hW.targetHealth tg
        (targetHealth_empty_of_targetsFound hs.1.2 tg (hW.targetGroups _ tgs htgs tg htg))
    · simp at hs
  case deleteLogGroup =>
    obtain ⟨-, lg, -, rfl, hs⟩ := h
    simp only [logGroupSelected, noStreams, Bool.and_eq_true] at hs
    split at hs
    · exact hW.logStreams _ ‹_›
    · simp at hs
  case deleteBucket =>
    obtain ⟨-, b, -, rfl, hs⟩ := h
    simp only [bucketSelected, bucketEmpty, Bool.and_eq_true] at hs
    split at hs
    · exact hW.objects _ ‹_›
    · simp at hs
  case deleteSecurityGroup =>
    obtain ⟨-, ifs, hifs, sg, hsg, rfl, hs⟩ := h
    simp only [securityGroupSelected, Bool.and_eq_true, decide_eq_true_eq] at hs
    exact ⟨fun hg => hs.1.2 (hW.interfaces ifs hifs _ hg), sg, hsg, rfl, hs.1.1⟩
  case deleteFunction =>
    obtain ⟨-, -, -, versions, hv, hd⟩ := h
    exact version_unoccupied hW hv hd

/-- **Occupancy, for the uses the handlers check.** Against a provider that reports the world
truthfully, no mutating call of a run deletes an attached volume, releases an associated
address, deletes a load balancer with a registered target, a log group with a stream, a bucket
with an object, the default security group or one attached to an interface, or a Lambda version
that is `$LATEST` or one of the three last published; and every count written is the number of
listed records the handler selects. -/
theorem run_spares_occupied (cfg : Config) (W : World) (P : Provider) (hW : Reports W P) :
    (∀ c ∈ (run cfg P).calls, Unoccupied W P c) ∧
      ∀ k n, (run cfg P).found k = some n → n = expectedFound cfg P k :=
  ⟨fun c hc => ((run_sweepInv cfg P).justified c hc).unoccupied hW, (run_sweepInv cfg P).found⟩

/-! ### An account with resources in use -/

/-- `list_versions_by_function` in the accounts below: the function `fn` has four published
versions, any other function none. -/
def fnVersions (f : String) : List Version :=
  if f = "fn" then [⟨"$LATEST", .at 0⟩, ⟨"1", .at 0⟩, ⟨"2", .at 0⟩, ⟨"3", .at 0⟩, ⟨"4", .at 0⟩]
  else [⟨"$LATEST", .at 0⟩]

/-- An account with one resource in use of each kind whose use a handler checks, next to idle
ones: an attached volume, an associated address, a load balancer with a registered target, a log
group with a stream, a bucket with an object, a security group on an interface, and the function
`fn` with four published versions. -/
def busyWorld : World where
  attachedVolumes := ["vol-attached"]
  associatedIps := ["203.0.113.7"]
  targetGroups arn := if arn = "arn-web" then ["tg-web"] else []
  registeredTargets tg := if tg = "tg-web" then ["i-1"] else []
  routedNatGateways := []
  images := []
  logStreams name := if name = "lg-busy" then ["stream-1"] else []
  bucketObjects name := if name = "bucket-busy" then ["key-1"] else []
  attachedGroups := ["sg-busy"]
  published f := if f = "fn" then ["1", "2", "3", "4"] else []
  aliasTargets _ := []
  published_nodup f := by dsimp only; split <;> decide
  latest_unpublished f := by dsimp only; split <;> decide

/-- What the listings of `busyWorld` return, all created at day 0: the listing filtered on
`available` omits the attached volume. -/
def busyProvider : Provider :=
  { Provider.quiet with
    describeVolumes := .ok [⟨"vol-idle", [], .at 0, some 8⟩]
    describeAddresses := .ok [⟨some "eipalloc-1", some "203.0.113.7", some "i-1", none, []⟩,
      ⟨some "eipalloc-2", some "198.51.100.9", none, none, []⟩]
    describeLoadBalancers := .ok [⟨"arn-web", "web", .at 0⟩]
    describeTargetGroups := fun arn => .ok (if arn = "arn-web" then ["tg-web"] else [])
    describeTargetHealth := fun tg => .ok (if tg = "tg-web" then ["i-1"] else [])
    describeLogGroups := .ok [⟨"lg-busy", .at 0, 0⟩, ⟨"lg-idle", .at 0, 0⟩]
    describeLogStreams := fun name => .ok (if name = "lg-busy" then ["stream-1"] else [])
    listBuckets := .ok [⟨"bucket-busy", .at 0⟩, ⟨"bucket-idle", .at 0⟩]
    listObjectsV2 := fun name => .ok (name = "bucket-busy")
    describeSecurityGroups := .ok [⟨"sg-0", "default", []⟩, ⟨"sg-busy", "app", []⟩,
      ⟨"sg-idle", "old", []⟩]
    describeNetworkInterfaces := .ok [["sg-busy"]]
    listFunctions := .ok ["fn"]
    listVersionsByFunction := fun f => .ok (fnVersions f) }

/-- `list_versions_by_function` answers truthfully: `$LATEST`, then the published versions. -/
theorem fnVersions_reported {f : String} {versions : List Version}
    (h : (.ok (fnVersions f) : Except String _) = .ok versions) :
    versions.map (·.version) = "$LATEST" :: busyWorld.published f := by
  rw [← Except.ok.inj h]
  by_cases hf : f = "fn" <;> simp [hf, busyWorld, fnVersions]

theorem reports_busy : Reports busyWorld busyProvider where
  volumes := by decide
  addresses := by
    intro eip he ip hip hmem
    obtain rfl : ip = "203.0.113.7" := List.mem_singleton.1 hmem
    revert eip
    decide
  targetGroups _ _ h _ htg := Except.ok.inj h ▸ htg
  targetHealth _ h := Except.ok.inj h
  logStreams _ h := Except.ok.inj h
  objects name h := by
    have hn : name ≠ "bucket-busy" := by simpa using Except.ok.inj h
    simp [busyWorld, hn]
  interfaces _ h := by
    rw [← Except.ok.inj h]
    decide
  versions _ _ h := fnVersions_reported h

theorem run_spares_occupied_busy :
    Reports busyWorld busyProvider ∧
      ((∀ c ∈ (run (sampleConfig false []) busyProvider).calls,
          Unoccupied busyWorld busyProvider c) ∧
        ∀ k n, (run (sampleConfig false []) busyProvider).found k = some n →
          n = expectedFound (sampleConfig false []) busyProvider k) :=
  ⟨reports_busy, run_spares_occupied _ _ _ reports_busy⟩

example : Call.deleteLogGroup "lg-idle" ∈ (run (sampleConfig false []) busyProvider).calls ∧
    Call.deleteLogGroup "lg-busy" ∉ (run (sampleConfig false []) busyProvider).calls ∧
    Call.deleteFunction "fn" "1" ∈ (run (sampleConfig false []) busyProvider).calls ∧
    Call.deleteFunction "fn" "2" ∉ (run (sampleConfig false []) busyProvider).calls := by
  decide

/-! ### Uses no handler checks -/

/-- An account whose NAT gateway `nat-1` is the target of a route, and whose function `fn` has an
alias on its oldest published version `1`. -/
def routedWorld : World :=
  { busyWorld with
    attachedVolumes := [], associatedIps := [], attachedGroups := []
    targetGroups := fun _ => [], registeredTargets := fun _ => []
    logStreams := fun _ => [], bucketObjects := fun _ => []
    routedNatGateways := ["nat-1"]
    aliasTargets := fun f => if f = "fn" then ["1"] else [] }

/-- What the listings of `routedWorld` return: the NAT gateway, created at day 0, and `fn`. -/
def routedProvider : Provider :=
  { Provider.quiet with
    describeNatGateways := .ok [⟨"nat-1", [], .at 0⟩]
    listFunctions := .ok ["fn"]
    listVersionsByFunction := fun f => .ok (fnVersions f) }

theorem reports_routed : Reports routedWorld routedProvider where
  volumes _ h := absurd h (List.not_mem_nil _)
  addresses _ h := absurd h (List.not_mem_nil _)
  targetGroups _ _ _ _ h := absurd h (List.not_mem_nil _)
  targetHealth _ _ := rfl
  logStreams _ _ := rfl
  objects _ _ := rfl
  interfaces _ _ _ h := absurd h (List.not_mem_nil _)
  versions _ _ h := fnVersions_reported h

/-- A truthful account where `cleanup_nat_gateways` deletes a NAT gateway that a route table
routes through, and `cleanup_old_lambda_versions` deletes a version an alias points at. -/
theorem routed_nat_and_alias_target_deleted :
    Reports routedWorld routedProvider ∧
      "nat-1" ∈ routedWorld.routedNatGateways ∧
      Call.deleteNatGateway "nat-1" ∈ (run (sampleConfig false []) routedProvider).calls ∧
      "1" ∈ routedWorld.aliasTargets "fn" ∧
      Call.deleteFunction "fn" "1" ∈ (run (sampleConfig false []) routedProvider).calls :=
  ⟨reports_routed, by decide, by decide, by decide, by decide⟩

/-! ### An account with a snapshot in use -/

/-- An image registered this instant from the snapshot `snap-1`. -/
def youngImage : Image := ⟨"ami-1", some "web", [], .at (100 * msPerDay), [⟨some "snap-1"⟩]⟩

/-- An account with one registered image and the snapshot behind it, copied by hand at day 0. -/
def backingSnapshotWorld : World :=
  ⟨[], [], fun _ => [], fun _ => [], [], [youngImage], fun _ => [], fun _ => [], [], fun _ => [],
    fun _ => [], fun _ => List.nodup_nil, fun _ => List.not_mem_nil _⟩

def backingSnapshotProvider : Provider :=
  { Provider.quiet with
    describeSnapshots := .ok [⟨"snap-1", some "Copied for migration", [], .at 0⟩]
    describeImages := .ok [youngImage]
    listVersionsByFunction := fun _ => .ok [⟨"$LATEST", .at 0⟩] }

theorem reports_backingSnapshot : Reports backingSnapshotWorld backingSnapshotProvider := by
  constructor <;> simp [backingSnapshotWorld, backingSnapshotProvider, Provider.quiet]

/-- A truthful account where `cleanup_ebs_snapshots` deletes and counts a snapshot that backs a
registered image: its description is not the one `CreateImage` writes. -/
theorem backing_snapshot_deleted :
    Reports backingSnapshotWorld backingSnapshotProvider ∧
      (∃ im ∈ backingSnapshotWorld.images, ⟨some "snap-1"⟩ ∈ im.blockDeviceMappings) ∧
      Call.deleteSnapshot "snap-1" ∈ (run (sampleConfig false []) backingSnapshotProvider).calls ∧
      (run (sampleConfig false []) backingSnapshotProvider).found .ebsSnapshots = some 1 :=
  ⟨reports_backingSnapshot, ⟨youngImage, List.mem_singleton_self _, by decide⟩, by decide, by decide⟩

end OddiyaOps.Cleanup
