import OddiyaOps.Cleanup.Compose
import OddiyaOps.Cleanup.Policy

/-!
# OddiyaOps.Cleanup.Tally

**Every error string a handler writes stands for one raising call that it reports.**

`summary['errors']` is written by the `except` clauses of `cleanup.py`: the one around each
handler, the one around each delete, and the per-repository one of `cleanup_ecr_images`. The
other `except` clauses record nothing: the bare `except: continue` around the target-group
lookup, the bucket lookup and the version listing, the one around the backing-snapshot deletes of
`cleanup_ami_images`, and the one around the `publish` of `send_notification`. `Kind.reports`
names the raising calls a handler records. Over records that carry the fields their handler
reads (`WellFormed`), the error strings of a handler are exactly as many as its calls that raise
and that it reports (`contribution_errors`), and the report adds none (`notification_errors`).

## Proof shape

The balance of a state is its error strings less its reported raising calls. `Tally P rep loud R m`
says that `m`, run from any state, keeps the balance when it returns and, if `loud`, lowers it by
one when it raises: the call that raised has no string yet. Each construct of the handlers keeps a
tally (`Tally.bind`, `Tally.ite`, `Tally.call`); an `except` that records turns a loud tally into
a quiet one (`Tally.tryCatch_report`), one that records nothing needs a quiet one
(`Tally.tryCatch_silent`). Every handler keeps a quiet tally (`Kind.cleanup_tally`), so from the
empty state it ends with balance zero.
-/

namespace OddiyaOps.Cleanup

open OddiyaOps.Python

/-! ### Which raising calls a handler reports -/

/-- Whether the provider raises on the call. -/
def Provider.raises (P : Provider) (c : Call) : Bool :=
  match P.answer c with
  | .ok _ => false
  | .error _ => true

/-- The calls whose raising handler `k` reports in `summary['errors']`: all but the per-record
lookups whose bare `except` skips the record, the report's `publish`, and the backing-snapshot
deletes of `cleanup_ami_images`. -/
def Kind.reports (k : Kind) : Call → Bool
  | .describeTargetGroups _ | .describeTargetHealth _ | .listObjectsV2 _
  | .listVersionsByFunction _ | .publish _ _ => false
  | .deleteSnapshot _ => k != .amiImages
  | _ => true

/-- The records carry the fields the handlers read. A missing or null field raises a `KeyError`,
`AttributeError` or `TypeError` that no provider call raised, and aborts the handler. -/
structure WellFormed (P : Provider) : Prop where
  volumes : ∀ v ∈ listed P.describeVolumes, v.createTime ≠ .absent ∧ v.size.isSome
  snapshots : ∀ sn ∈ listed P.describeSnapshots, sn.startTime ≠ .absent
  addresses : ∀ eip ∈ listed P.describeAddresses, (pyOr eip.publicIp eip.allocationId).isSome
  loadBalancers : ∀ lb ∈ listed P.describeLoadBalancers, lb.createdTime ≠ .absent
  natGateways : ∀ nat ∈ listed P.describeNatGateways, nat.createTime ≠ .absent
  dbSnapshots : ∀ sn ∈ listed P.describeDbSnapshots, sn.snapshotCreateTime ≠ .absent
  dbClusterSnapshots : ∀ sn ∈ listed P.describeDbClusterSnapshots, sn.snapshotCreateTime ≠ .absent
  images : ∀ im ∈ listed P.describeImages, ∃ t, im.creationDate = .at t
  logGroups : ∀ lg ∈ listed P.describeLogGroups, lg.lastEventTimestamp ≠ .null

/-! ### Error strings against reported raises -/

namespace Py

variable {α β : Type} (P : Provider) (rep : Call → Bool)

/-- The error strings of `d` less its calls that raised and that `rep` reports. -/
def balance (d : Sweep) : Int :=
  d.errors.length - (d.calls.filter fun c => rep c && P.raises c).length

@[simp] theorem balance_issue (s : Sweep) (c : Call) :
    balance P rep (s.issue c) = balance P rep s - if rep c && P.raises c then 1 else 0 := by
  simp only [balance, Sweep.issue_errors, Sweep.issue_calls, List.filter_append, List.length_append,
    List.filter_cons, List.filter_nil]
  split <;> simp
  omega

@[simp] theorem balance_addError (s : Sweep) (e : String) :
    balance P rep (s.addError e) = balance P rep s + 1 := by
  simp only [balance, Sweep.addError_errors, Sweep.addError_calls, List.length_append,
    List.length_singleton]
  omega

@[simp] theorem balance_record (s : Sweep) (d : Bool) (k : Kind) (n : Nat) :
    balance P rep (s.record d k n) = balance P rep s := rfl

/-- Run from any state, `m` keeps the balance when it returns, with a value satisfying `R`, and
lowers it by one when it raises, if `loud`. -/
def Tally (loud : Bool) (R : α → Prop) (m : Py α) : Prop :=
  ∀ s, match m s with
    | .ok a s' => R a ∧ balance P rep s' = balance P rep s
    | .error _ s' => balance P rep s' = balance P rep s - if loud then 1 else 0

variable {P rep} {loud : Bool} {R : α → Prop}

theorem Tally.pure {a : α} (h : R a) : Tally P rep loud R (Pure.pure a) := fun _ => ⟨h, rfl⟩

theorem Tally.bind {R' : β → Prop} {m : Py α} {f : α → Py β} (hm : Tally P rep loud R m)
    (hf : ∀ a, R a → Tally P rep loud R' (f a)) : Tally P rep loud R' (m >>= f) := fun s => by
  show match EStateM.bind m f s with | .ok a s' => _ | .error _ s' => _
  have h := hm s
  simp only [EStateM.bind]
  split at h
  · rename_i a s1 _
    have h' := hf a h.1 s1
    split at h' <;> simp_all
  · simp_all

theorem Tally.ite {c : Prop} [Decidable c] {a b : Py α} (ha : c → Tally P rep loud R a)
    (hb : ¬c → Tally P rep loud R b) : Tally P rep loud R (if c then a else b) := by
  split
  · exact ha ‹_›
  · exact hb ‹_›

theorem Tally.weaken {R' : α → Prop} {m : Py α} (hm : Tally P rep loud R m)
    (hR : ∀ a, R a → R' a) : Tally P rep loud R' m := fun s => by
  have h := hm s
  split at h <;> simp_all

/-- A call lowers the balance when it raises and its handler reports it. -/
theorem Tally.call (c : Call) :
    Tally P rep (rep c) (fun r => P.answer c = .ok r) (call P c) := fun s => by
  simp only [OddiyaOps.Cleanup.call]
  cases h : P.answer c <;> simp [Provider.raises, h]

/-- A call that raises only if `loud` says whether it is reported. -/
theorem Tally.call_of {c : Call} (h : rep c = loud ∨ P.raises c = false) :
    Tally P rep loud (fun r => P.answer c = .ok r) (OddiyaOps.Cleanup.call P c) := fun s => by
  simp only [OddiyaOps.Cleanup.call]
  cases hc : P.answer c
  · rcases h with h | h
    · simp [Provider.raises, hc, h]
    · simp [Provider.raises, hc] at h
  · simp [Provider.raises, hc]

/-- A block that raises only on reported calls, caught into one error string. -/
theorem Tally.tryCatch_report {m : Py α} {h : String → Py α} (hm : Tally P rep true R m)
    (hh : ∀ e s, ∃ a x, R a ∧ h e s = .ok a (s.addError x)) : Tally P rep loud R (tryCatch m h) :=
  fun s => by
  rw [tryCatch_apply]
  have h1 := hm s
  cases hms : m s with
  | ok a s' => rw [hms] at h1; exact h1
  | error e s' =>
    rw [hms] at h1
    obtain ⟨a, x, ha, hx⟩ := hh e s'
    simp only [hx, balance_addError, h1, ha, true_and]
    simp

/-- A block that raises only on unreported calls, caught into nothing. -/
theorem Tally.tryCatch_silent {m : Py α} {h : String → Py α} (hm : Tally P rep false R m)
    (hh : ∀ e s, ∃ a, R a ∧ h e s = .ok a s) : Tally P rep loud R (tryCatch m h) := fun s => by
  rw [tryCatch_apply]
  have h1 := hm s
  cases hms : m s with
  | ok a s' => rw [hms] at h1; exact h1
  | error e s' =>
    rw [hms] at h1
    obtain ⟨a, ha, hx⟩ := hh e s'
    simp only [hx, ha, h1, true_and]
    simp

theorem Tally.recordCounts (d : Bool) (k : Kind) (n : Nat) :
    Tally P rep loud (fun _ => True) (recordCounts d k n) := fun _ => ⟨trivial, rfl⟩

theorem Tally.item {st : Stamp} (key : String) (h : st ≠ .absent) :
    Tally P rep loud (fun _ => True) (st.item key) := fun _ => by
  cases st <;> simp_all [Stamp.item] <;> rfl

theorem Tally.keyItem {o : Option α} (key : String) (h : o.isSome) :
    Tally P rep loud (fun _ => True) (keyItem key o) := by
  cases o
  · cases h
  · exact .pure trivial

/-- A missing field raises inside a `try` whose `except` is silent. -/
theorem Tally.item_silent (st : Stamp) (key : String) :
    Tally P rep false (fun _ => True) (st.item key) := fun _ => by
  cases st <;> simp [Stamp.item] <;> rfl

theorem Tally.reported {c : Call} (hc : rep c = true) :
    Tally P rep true (fun r => P.answer c = .ok r) (OddiyaOps.Cleanup.call P c) :=
  hc ▸ Tally.call c

/-- A handler's closing `except`, which appends one error string. -/
theorem appendError_catches (f : String → String) :
    ∀ e s, ∃ a x, (fun _ => True) a ∧ (appendError (f e) : Py Unit) s = .ok a (s.addError x) :=
  fun _ _ => ⟨(), _, trivial, rfl⟩

end Py

open Py

variable (cfg : Config) {P : Provider} {k : Kind} {loud : Bool}

theorem attempt_tally {c : Call} (hc : k.reports c = true) (failure : String → String) :
    Tally P k.reports loud (fun _ => True) (attempt cfg P c failure) :=
  .ite (fun _ => .tryCatch_report (.bind (.reported hc) fun _ _ => .pure trivial)
    (appendError_catches _)) fun _ => .pure trivial

theorem collect_tally {ρ : Type} {body : ρ → Py (Option String)} :
    ∀ (rs : List ρ) (acc : List String), (∀ r ∈ rs, Tally P k.reports loud (fun _ => True) (body r)) →
      Tally P k.reports loud (fun _ => True) (collect body rs acc)
  | [], _, _ => .pure trivial
  | r :: rs, acc, hb => .bind (hb r (.head _)) fun o _ => by
    cases o
    exacts [collect_tally rs acc fun r h => hb r (.tail _ h),
      collect_tally rs _ fun r h => hb r (.tail _ h)]

theorem sweepKind_tally {ρ : Type} {kind : Kind} {label : String} {listing : Py (List ρ)}
    {body : ρ → Py (Option String)}
    (hl : Tally P k.reports true (fun rs => ∀ r ∈ rs, Tally P k.reports true (fun _ => True) (body r))
      listing) :
    Tally P k.reports loud (fun _ => True) (sweepKind cfg kind label listing body) :=
  .tryCatch_report (.bind hl fun rs hrs => .bind (collect_tally rs [] hrs) fun _ _ =>
    .recordCounts _ _ _) (appendError_catches _)

theorem mem_listed {α : Type} {x : Except String (List α)} {rs : List α} {r : α}
    (h : x = .ok rs) (hr : r ∈ rs) : r ∈ listed x := by
  rw [h]; exact hr

theorem volumeBody_tally {v : Volume} (hv : v.createTime ≠ .absent ∧ v.size.isSome) :
    Tally P Kind.ebsVolumes.reports loud (fun _ => True) (volumeBody cfg P v) := by
  simp only [volumeBody, pure_bind]
  exact .ite (fun _ => .pure trivial) fun _ => .bind (.item _ hv.1) fun _ _ =>
    .ite (fun _ => .pure trivial) fun _ => .bind (.keyItem _ hv.2) fun _ _ =>
      .bind (attempt_tally cfg (by exact rfl) _) fun _ _ => .pure trivial

theorem snapshotBody_tally {sn : Snapshot} (hs : sn.startTime ≠ .absent) :
    Tally P Kind.ebsSnapshots.reports loud (fun _ => True) (snapshotBody cfg P sn) := by
  simp only [snapshotBody, pure_bind]
  exact .ite (fun _ => .pure trivial) fun _ => .ite (fun _ => .pure trivial) fun _ =>
    .bind (.item _ hs) fun _ _ => .ite (fun _ => .pure trivial) fun _ =>
      .bind (attempt_tally cfg (by exact rfl) _) fun _ _ => .pure trivial

theorem isWhitelistedOpt_tally {name : Option String} (tags : List Tag) (h : name.isSome) :
    Tally P k.reports loud (fun _ => True) (isWhitelistedOpt cfg name tags) := by
  cases name
  · exact absurd h (by simp)
  · exact .pure trivial

theorem reports_releaseCall (eip : Address) : k.reports (releaseCall eip) = true := by
  unfold releaseCall
  split
  · split <;> rfl
  · rfl

theorem addressBody_tally {eip : Address} (he : (pyOr eip.publicIp eip.allocationId).isSome) :
    Tally P Kind.elasticIps.reports loud (fun _ => True) (addressBody cfg P eip) := by
  simp only [addressBody, pure_bind]
  exact .ite (fun _ => .pure trivial) fun _ => .bind (isWhitelistedOpt_tally cfg _ he) fun _ _ =>
    .ite (fun _ => .pure trivial) fun _ =>
      .bind (attempt_tally cfg (reports_releaseCall eip) _) fun _ _ => .pure trivial

theorem hasTargets_tally : ∀ tgs : List String,
    Tally P Kind.loadBalancers.reports false (fun _ => True) (hasTargets P tgs)
  | [] => .pure trivial
  | tg :: tgs => by
    simp only [hasTargets, pure_bind]
    exact .bind ((Tally.call (.describeTargetHealth tg)).weaken fun _ _ => trivial) fun _ _ =>
      .ite (fun _ => .pure trivial) fun _ => hasTargets_tally tgs

theorem loadBalancerBody_tally {lb : LoadBalancer} (hl : lb.createdTime ≠ .absent) :
    Tally P Kind.loadBalancers.reports loud (fun _ => True) (loadBalancerBody cfg P lb) := by
  simp only [loadBalancerBody, pure_bind]
  refine .ite (fun _ => .pure trivial) fun _ => .bind (R := fun _ => True) ?_ fun _ _ =>
    .ite (fun _ => .pure trivial) fun _ => .bind (.item _ hl) fun _ _ =>
      .ite (fun _ => .pure trivial) fun _ =>
        .bind (attempt_tally cfg (by exact rfl) _) fun _ _ => .pure trivial
  exact .tryCatch_silent (.bind (Tally.call (.describeTargetGroups _)) fun tgs _ =>
    hasTargets_tally tgs) fun _ _ => ⟨true, trivial, rfl⟩

theorem natGatewayBody_tally {nat : NatGateway} (hn : nat.createTime ≠ .absent) :
    Tally P Kind.natGateways.reports loud (fun _ => True) (natGatewayBody cfg P nat) := by
  simp only [natGatewayBody, pure_bind]
  exact .ite (fun _ => .pure trivial) fun _ => .bind (.item _ hn) fun _ _ =>
    .ite (fun _ => .pure trivial) fun _ => .bind (attempt_tally cfg (by exact rfl) _) fun _ _ =>
      .pure trivial

theorem dbSnapshotBody_tally {sn : DbSnapshot} (hs : sn.snapshotCreateTime ≠ .absent) :
    Tally P Kind.rdsSnapshots.reports loud (fun _ => True) (dbSnapshotBody cfg P sn) := by
  simp only [dbSnapshotBody, pure_bind]
  exact .ite (fun _ => .pure trivial) fun _ => .bind (.item _ hs) fun _ _ =>
    .ite (fun _ => .pure trivial) fun _ => .bind (attempt_tally cfg (by exact rfl) _) fun _ _ =>
      .pure trivial

theorem dbClusterSnapshotBody_tally {sn : DbClusterSnapshot} (hs : sn.snapshotCreateTime ≠ .absent) :
    Tally P Kind.rdsSnapshots.reports loud (fun _ => True) (dbClusterSnapshotBody cfg P sn) := by
  simp only [dbClusterSnapshotBody, pure_bind]
  exact .ite (fun _ => .pure trivial) fun _ => .bind (.item _ hs) fun _ _ =>
    .ite (fun _ => .pure trivial) fun _ => .bind (attempt_tally cfg (by exact rfl) _) fun _ _ =>
      .pure trivial

/-- The backing-snapshot deletes never raise, and their failures are not reported. -/
theorem deleteBackingSnapshots_tally : ∀ devices : List BlockDevice,
    Tally P Kind.amiImages.reports loud (fun _ => True) (deleteBackingSnapshots P devices)
  | [] => .pure trivial
  | d :: ds => by
    simp only [deleteBackingSnapshots]
    split
    · exact .bind (R := fun _ => True) (.tryCatch_silent (.bind (Tally.call (.deleteSnapshot _))
        fun _ _ =>
        .pure trivial) fun _ _ => ⟨(), trivial, rfl⟩) fun _ _ => deleteBackingSnapshots_tally ds
    · exact .bind (R := fun _ => True) (.pure trivial) fun _ _ => deleteBackingSnapshots_tally ds

theorem imageBody_tally {im : Image} (hi : ∃ t, im.creationDate = .at t) :
    Tally P Kind.amiImages.reports loud (fun _ => True) (imageBody cfg P im) := by
  obtain ⟨t, ht⟩ := hi
  simp only [imageBody, pure_bind, ht, Stamp.isoItem]
  exact .ite (fun _ => .pure trivial) fun _ => .ite (fun _ => .pure trivial) fun _ =>
    .ite (fun _ => .bind (.tryCatch_report (.bind (Tally.call (.deregisterImage _)) fun _ _ =>
      deleteBackingSnapshots_tally _) (appendError_catches _)) fun _ _ => .pure trivial)
      fun _ => .pure trivial

theorem repositoryBody_tally (repo : String) :
    Tally P Kind.ecrImages.reports true (fun _ => True) (repositoryBody cfg P repo) := by
  simp only [repositoryBody, pure_bind]
  exact .bind (Tally.call (.listImages repo)) fun _ _ => .ite (fun _ =>
    .ite (fun _ => .bind (Tally.call (.batchDeleteImage _ _)) fun _ _ => .pure trivial)
      fun _ => .pure trivial) fun _ => .pure trivial

theorem ecrRepositories_tally : ∀ (repos : List String) (total : Nat),
    Tally P Kind.ecrImages.reports loud (fun _ => True) (ecrRepositories cfg P repos total)
  | [], _ => .pure trivial
  | repo :: repos, total => by
    simp only [ecrRepositories, pure_bind, bind_pure]
    exact .ite (fun _ => ecrRepositories_tally repos total) fun _ =>
      .bind (.tryCatch_report (repositoryBody_tally cfg repo) fun _ _ => ⟨0, _, trivial, rfl⟩)
        fun _ _ => ecrRepositories_tally repos _

theorem lastEventRecent_tally {st : Stamp} (h : st ≠ .null) :
    Tally P k.reports loud (fun _ => True) (lastEventRecent cfg st) := by
  cases st
  · exact .pure trivial
  · exact absurd rfl h
  · exact .pure trivial

/-- The log group body raises when its `describe_log_streams` does, which has no `try` of its
own. -/
theorem logGroupBody_tally {lg : LogGroup} (hl : lg.lastEventTimestamp ≠ .null)
    (hs : loud = true ∨ P.raises (.describeLogStreams lg.logGroupName) = false) :
    Tally P Kind.cloudwatchLogs.reports loud (fun _ => True) (logGroupBody cfg P lg) := by
  simp only [logGroupBody, pure_bind]
  exact .ite (fun _ => .pure trivial) fun _ => .bind (lastEventRecent_tally cfg hl) fun _ _ =>
    .ite (fun _ => .pure trivial) fun _ => .bind (Tally.call_of (hs.imp (fun h => by rw [h]; rfl) id)) fun _ _ =>
      .ite (fun _ => .pure trivial) fun _ => .bind (attempt_tally cfg (by exact rfl) _) fun _ _ =>
        .pure trivial

theorem bucketBody_tally (b : Bucket) :
    Tally P Kind.s3Buckets.reports loud (fun _ => True) (bucketBody cfg P b) := by
  simp only [bucketBody, pure_bind]
  exact .ite (fun _ => .pure trivial) fun _ => .tryCatch_silent (.bind
    (Tally.call (.listObjectsV2 _)) fun _ _ => .ite (fun _ => .pure trivial) fun _ =>
      .bind (.item_silent _ _) fun _ _ => .ite (fun _ => .pure trivial) fun _ =>
        .bind (attempt_tally cfg (by exact rfl) _) fun _ _ => .pure trivial)
    fun _ _ => ⟨none, trivial, rfl⟩

theorem securityGroupBody_tally (used : List String) (sg : SecurityGroup) :
    Tally P Kind.securityGroups.reports loud (fun _ => True) (securityGroupBody cfg P used sg) := by
  simp only [securityGroupBody, pure_bind]
  exact .ite (fun _ => .pure trivial) fun _ => .ite (fun _ => .pure trivial) fun _ =>
    .ite (fun _ => .pure trivial) fun _ => .bind (attempt_tally cfg (by exact rfl) _) fun _ _ =>
      .pure trivial

theorem deleteVersions_tally (f : String) : ∀ (versions : List String) (total : Nat),
    Tally P Kind.lambdaVersions.reports loud (fun _ => True) (deleteVersions cfg P f versions total)
  | [], _ => .pure trivial
  | v :: vs, total => by
    simp only [deleteVersions]
    exact .ite (fun _ => .bind (R := fun _ => True) (.tryCatch_report (.bind
      (Tally.call (.deleteFunction f v)) fun _ _ => .pure trivial) fun _ _ =>
        ⟨total, _, trivial, rfl⟩) fun t _ =>
        deleteVersions_tally f vs t) fun _ => deleteVersions_tally f vs _

theorem lambdaFunctions_tally : ∀ (fs : List String) (total : Nat),
    Tally P Kind.lambdaVersions.reports loud (fun _ => True) (lambdaFunctions cfg P fs total)
  | [], _ => .pure trivial
  | f :: fs, total => by
    simp only [lambdaFunctions, pure_bind, bind_pure]
    exact .ite (fun _ => lambdaFunctions_tally fs total) fun _ =>
      .bind (R := fun _ => True) (.tryCatch_silent (.bind (Tally.call (.listVersionsByFunction f))
        fun _ _ =>
        deleteVersions_tally cfg f _ _) fun _ _ => ⟨total, trivial, rfl⟩) fun t _ =>
          lambdaFunctions_tally fs t

theorem cleanupEcrImages_tally :
    Tally P Kind.ecrImages.reports loud (fun _ => True) (cleanupEcrImages cfg P) := by
  unfold cleanupEcrImages
  exact .tryCatch_report (.bind (Tally.call .describeRepositories) fun repos _ =>
    .bind (ecrRepositories_tally cfg repos 0) fun _ _ => .recordCounts _ _ _)
    (appendError_catches _)

theorem cleanupEmptyS3Buckets_tally :
    Tally P Kind.s3Buckets.reports loud (fun _ => True) (cleanupEmptyS3Buckets cfg P) := by
  unfold cleanupEmptyS3Buckets
  exact sweepKind_tally cfg ((Tally.call .listBuckets).weaken fun _ _ b _ => bucketBody_tally cfg b)

theorem cleanupSecurityGroups_tally :
    Tally P Kind.securityGroups.reports loud (fun _ => True) (cleanupSecurityGroups cfg P) := by
  unfold cleanupSecurityGroups
  exact .tryCatch_report (.bind (Tally.call .describeSecurityGroups) fun sgs _ =>
    .bind (Tally.call .describeNetworkInterfaces) fun _ _ =>
      .bind (collect_tally sgs [] fun sg _ => securityGroupBody_tally cfg _ sg) fun _ _ =>
        .recordCounts _ _ _) (appendError_catches _)

theorem cleanupOldLambdaVersions_tally :
    Tally P Kind.lambdaVersions.reports loud (fun _ => True) (cleanupOldLambdaVersions cfg P) := by
  unfold cleanupOldLambdaVersions
  exact .tryCatch_report (.bind (Tally.call .listFunctions) fun fs _ =>
    .bind (lambdaFunctions_tally cfg fs 0) fun _ _ => .recordCounts _ _ _) (appendError_catches _)

section WellFormed

variable (W : WellFormed P)
include W

theorem cleanupEbsVolumes_tally :
    Tally P Kind.ebsVolumes.reports loud (fun _ => True) (cleanupEbsVolumes cfg P) := by
  unfold cleanupEbsVolumes
  refine sweepKind_tally cfg ((Tally.call .describeVolumes).weaken fun _ h v hv => ?_)
  exact volumeBody_tally cfg (W.volumes v (mem_listed h hv))

theorem cleanupEbsSnapshots_tally :
    Tally P Kind.ebsSnapshots.reports loud (fun _ => True) (cleanupEbsSnapshots cfg P) := by
  unfold cleanupEbsSnapshots
  refine sweepKind_tally cfg ((Tally.call .describeSnapshots).weaken fun _ h sn hs => ?_)
  exact snapshotBody_tally cfg (W.snapshots sn (mem_listed h hs))

theorem cleanupElasticIps_tally :
    Tally P Kind.elasticIps.reports loud (fun _ => True) (cleanupElasticIps cfg P) := by
  unfold cleanupElasticIps
  refine sweepKind_tally cfg ((Tally.call .describeAddresses).weaken fun _ h eip he => ?_)
  exact addressBody_tally cfg (W.addresses eip (mem_listed h he))

theorem cleanupLoadBalancers_tally :
    Tally P Kind.loadBalancers.reports loud (fun _ => True) (cleanupLoadBalancers cfg P) := by
  unfold cleanupLoadBalancers
  refine sweepKind_tally cfg ((Tally.call .describeLoadBalancers).weaken fun _ h lb hl => ?_)
  exact loadBalancerBody_tally cfg (W.loadBalancers lb (mem_listed h hl))

theorem cleanupNatGateways_tally :
    Tally P Kind.natGateways.reports loud (fun _ => True) (cleanupNatGateways cfg P) := by
  unfold cleanupNatGateways
  refine sweepKind_tally cfg ((Tally.call .describeNatGateways).weaken fun _ h nat hn => ?_)
  exact natGatewayBody_tally cfg (W.natGateways nat (mem_listed h hn))

theorem cleanupRdsSnapshots_tally :
    Tally P Kind.rdsSnapshots.reports loud (fun _ => True) (cleanupRdsSnapshots cfg P) := by
  unfold cleanupRdsSnapshots
  refine .tryCatch_report (.bind (Tally.call .describeDbSnapshots) fun dbs hdbs =>
    .bind (collect_tally dbs [] fun sn hs => ?_) fun acc _ =>
      .bind (Tally.call .describeDbClusterSnapshots) fun cls hcls =>
        .bind (collect_tally cls acc fun sn hs => ?_) fun _ _ => .recordCounts _ _ _)
    (appendError_catches _)
  · exact dbSnapshotBody_tally cfg (W.dbSnapshots sn (mem_listed hdbs hs))
  · exact dbClusterSnapshotBody_tally cfg (W.dbClusterSnapshots sn (mem_listed hcls hs))

theorem cleanupAmiImages_tally :
    Tally P Kind.amiImages.reports loud (fun _ => True) (cleanupAmiImages cfg P) := by
  unfold cleanupAmiImages
  refine sweepKind_tally cfg ((Tally.call .describeImages).weaken fun _ h im hi => ?_)
  exact imageBody_tally cfg (W.images im (mem_listed h hi))

theorem cleanupCloudwatchLogs_tally :
    Tally P Kind.cloudwatchLogs.reports loud (fun _ => True) (cleanupCloudwatchLogs cfg P) := by
  unfold cleanupCloudwatchLogs
  refine sweepKind_tally cfg ((Tally.call .describeLogGroups).weaken fun _ h lg hl => ?_)
  exact logGroupBody_tally cfg (W.logGroups lg (mem_listed h hl)) (.inl rfl)

theorem Kind.cleanup_tally (k : Kind) :
    Tally P k.reports false (fun _ => True) (k.cleanup cfg P) := by
  cases k
  exacts [cleanupEbsVolumes_tally cfg W, cleanupEbsSnapshots_tally cfg W,
    cleanupElasticIps_tally cfg W, cleanupLoadBalancers_tally cfg W, cleanupNatGateways_tally cfg W,
    cleanupRdsSnapshots_tally cfg W, cleanupAmiImages_tally cfg W, cleanupEcrImages_tally cfg,
    cleanupCloudwatchLogs_tally cfg W, cleanupEmptyS3Buckets_tally cfg,
    cleanupSecurityGroups_tally cfg, cleanupOldLambdaVersions_tally cfg]

/-- **Every reported raise is one error string.** On records that carry the fields read, the
error strings a handler adds are exactly as many as the calls it makes that raise and that it
reports. -/
theorem contribution_errors (k : Kind) :
    (contribution cfg P k).errors.length =
      ((contribution cfg P k).calls.filter fun c => k.reports c && P.raises c).length := by
  have h := Kind.cleanup_tally cfg W k Sweep.empty
  rw [Kind.cleanup_apply, Sweep.empty_extend] at h
  have h2 := h.2
  simp only [balance, Sweep.empty, List.length_nil, List.filter_nil] at h2
  omega

omit W in
/-- The report adds no error string: a failed `publish` is only printed. -/
theorem notification_errors : (notification cfg P).errors = [] := by
  have h : Tally P (fun _ => false) false (fun _ => True) (sendNotification cfg P) := by
    unfold sendNotification
    split
    · exact .ite (fun _ => .tryCatch_silent (.bind (Tally.call _) fun _ _ => .pure trivial)
        fun _ _ => ⟨(), trivial, rfl⟩) fun _ => .pure trivial
    · exact .pure trivial
  have h2 := (h Sweep.empty)
  rw [sendNotification_apply, Sweep.empty_extend] at h2
  have h3 := h2.2
  simp only [balance, Bool.false_and, List.filter_false, List.length_nil, Sweep.empty] at h3
  exact List.eq_nil_of_length_eq_zero (by omega)

end WellFormed

end OddiyaOps.Cleanup
