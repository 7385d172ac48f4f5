import OddiyaOps.Cleanup.Handlers

/-!
# OddiyaOps.Cleanup.Compose

**The handlers of the sweep are independent of each other.** A handler never reads the summary,
it only appends to it, and of the provider it reads only the answers to the calls it makes. So a
run of `handler` is the parts the enabled handlers add when each runs on its own, one after the
other, then the report's (`run_eq_concat`); and a handler's part is the same under two providers
that answer its own calls alike. A listing that fails in one handler therefore changes no other
handler's part (`listing_failure_isolated`).

## Proof shape

`Sweep.extend s d` is `s` followed by what `d` adds. `Py.Oblivious m` says that a program run from
any state does what it does from the empty state, after it. `Py.Local Q M` says that of a program
for every provider, and two more things: it issues only calls satisfying `Q`, and two providers
that agree on the calls it issues give the same run. Both are closed under the constructs the
handlers are written with (`bind`, `tryCatch`, `if`, calls and the summary's writes), so each
handler's proof follows its code, one combinator per construct.
-/

namespace OddiyaOps.Cleanup

/-! ### What a run adds to a state -/

/-- `s` followed by `d`: the calls and errors of `d` after those of `s`, and the counts `d`
writes over those of `s`. -/
def Sweep.extend (s d : Sweep) : Sweep :=
  ⟨s.calls ++ d.calls, fun k => (d.found k).or (s.found k),
    fun k => (d.deleted k).or (s.deleted k), s.errors ++ d.errors⟩

@[simp] theorem Sweep.extend_empty (s : Sweep) : s.extend Sweep.empty = s := by
  simp [Sweep.extend, Sweep.empty]

@[simp] theorem Sweep.empty_extend (d : Sweep) : Sweep.empty.extend d = d := by
  simp [Sweep.extend, Sweep.empty]

theorem Sweep.extend_assoc (s d e : Sweep) : (s.extend d).extend e = s.extend (d.extend e) := by
  simp [Sweep.extend, Option.or_assoc]

theorem Sweep.issue_eq_extend (s : Sweep) (c : Call) :
    s.issue c = s.extend (Sweep.empty.issue c) := by
  simp [Sweep.extend, Sweep.issue, Sweep.empty]

theorem Sweep.addError_eq_extend (s : Sweep) (e : String) :
    s.addError e = s.extend (Sweep.empty.addError e) := by
  simp [Sweep.extend, Sweep.addError, Sweep.empty]

theorem Sweep.record_eq_extend (s : Sweep) (d : Bool) (k : Kind) (n : Nat) :
    s.record d k n = s.extend (Sweep.empty.record d k n) := by
  simp only [Sweep.extend, Sweep.record, Sweep.empty, List.append_nil]
  congr 1 <;> funext k' <;> split <;> rfl

namespace Py

variable {α β : Type}

/-- A result of a run from the empty state, moved after `s`. -/
def shift (s : Sweep) : EStateM.Result String Sweep α → EStateM.Result String Sweep α
  | .ok a d => .ok a (s.extend d)
  | .error e d => .error e (s.extend d)

theorem shift_shift (s d : Sweep) (r : EStateM.Result String Sweep α) :
    shift (s.extend d) r = shift s (shift d r) := by
  cases r <;> simp [shift, Sweep.extend_assoc]

/-- `m` never reads the state: from any state it does what it does from the empty one, and adds
the same. -/
def Oblivious (m : Py α) : Prop := ∀ s, m s = shift s (m Sweep.empty)

theorem Oblivious.pure (a : α) : Oblivious (pure a : Py α) := fun s => by
  show EStateM.Result.ok a s = .ok a (s.extend Sweep.empty)
  rw [Sweep.extend_empty]

theorem Oblivious.throw (e : String) : Oblivious (throw e : Py α) := fun s => by
  show EStateM.Result.error e s = .error e (s.extend Sweep.empty)
  rw [Sweep.extend_empty]

theorem Oblivious.bind {m : Py α} {f : α → Py β} (hm : Oblivious m)
    (hf : ∀ a, Oblivious (f a)) : Oblivious (m >>= f) := fun s => by
  show EStateM.bind m f s = shift s (EStateM.bind m f Sweep.empty)
  simp only [EStateM.bind]
  rw [hm s]
  cases m Sweep.empty with
  | ok a d =>
    show f a (s.extend d) = shift s (f a d)
    rw [hf a, hf a d, shift_shift]
  | error e d => rfl

theorem Oblivious.tryCatch {m : Py α} {h : String → Py α} (hm : Oblivious m)
    (hh : ∀ e, Oblivious (h e)) : Oblivious (tryCatch m h) := fun s => by
  rw [tryCatch_apply, tryCatch_apply, hm s]
  cases m Sweep.empty with
  | ok a d => rfl
  | error e d =>
    show h e (s.extend d) = shift s (h e d)
    rw [hh e, hh e d, shift_shift]

end Py

open Py

/-! ### Programs that read only the answers to their own calls -/

/-- The handler whose listing a call is: the calls that fetch a handler's records, before its
loop. -/
def Call.listingOf : Call → Option Kind
  | .describeVolumes => some .ebsVolumes
  | .describeSnapshots => some .ebsSnapshots
  | .describeAddresses => some .elasticIps
  | .describeLoadBalancers => some .loadBalancers
  | .describeNatGateways => some .natGateways
  | .describeDbSnapshots | .describeDbClusterSnapshots => some .rdsSnapshots
  | .describeImages => some .amiImages
  | .describeRepositories => some .ecrImages
  | .describeLogGroups => some .cloudwatchLogs
  | .listBuckets => some .s3Buckets
  | .describeSecurityGroups | .describeNetworkInterfaces => some .securityGroups
  | .listFunctions => some .lambdaVersions
  | _ => none

namespace Py

variable {α β : Type}

/-- The calls `m` issues, run from the empty state. -/
def issued (m : Py α) : List Call := (final m Sweep.empty).calls

/-- A program for every provider, which never reads the state, issues only calls satisfying `Q`,
and reads of the provider only the answers to the calls it issues. -/
structure Local (Q : Call → Prop) (M : Provider → Py α) : Prop where
  oblivious : ∀ P, Oblivious (M P)
  issues : ∀ P, ∀ c ∈ issued (M P), Q c
  agree : ∀ P P', (∀ c ∈ issued (M P), P.answer c = P'.answer c) →
    M P' Sweep.empty = M P Sweep.empty

variable {Q : Call → Prop}

/-- A program that makes no call. -/
theorem Local.const {m : Py α} (hm : Oblivious m) (hc : issued m = []) : Local Q fun _ => m :=
  ⟨fun _ => hm, fun _ c h => absurd (hc ▸ h) (List.not_mem_nil c), fun _ _ _ => rfl⟩

theorem Local.pure (a : α) : Local Q fun _ => (Pure.pure a : Py α) := .const (.pure a) rfl

theorem Local.throw (e : String) : Local Q fun _ => (MonadExcept.throw e : Py α) :=
  .const (.throw e) rfl

theorem Local.weaken {Q' : Call → Prop} {M : Provider → Py α} (hM : Local Q M)
    (hQ : ∀ c, Q c → Q' c) : Local Q' M :=
  ⟨hM.oblivious, fun P c h => hQ c (hM.issues P c h), hM.agree⟩

theorem Local.ite {c : Prop} [Decidable c] {A B : Provider → Py α} (ha : Local Q A)
    (hb : Local Q B) : Local Q fun P => if c then A P else B P := by
  by_cases h : c
  · simpa [h] using ha
  · simpa [h] using hb

theorem bind_ok {m : Py α} {f : α → Py β} (hf : ∀ a, Oblivious (f a)) {a : α} {d : Sweep}
    (hd : m Sweep.empty = .ok a d) : (m >>= f) Sweep.empty = shift d (f a Sweep.empty) := by
  show EStateM.bind m f Sweep.empty = _
  simp only [EStateM.bind, hd]
  exact hf a d

theorem bind_error {m : Py α} {f : α → Py β} {e : String} {d : Sweep}
    (hd : m Sweep.empty = .error e d) : (m >>= f) Sweep.empty = .error e d := by
  show EStateM.bind m f Sweep.empty = _
  simp only [EStateM.bind, hd]

theorem tryCatch_ok {m : Py α} {h : String → Py α} {a : α} {d : Sweep}
    (hd : m Sweep.empty = .ok a d) : (tryCatch m h) Sweep.empty = .ok a d := by
  rw [tryCatch_apply, hd]

theorem tryCatch_error {m : Py α} {h : String → Py α} (hh : ∀ e, Oblivious (h e)) {e : String}
    {d : Sweep} (hd : m Sweep.empty = .error e d) :
    (tryCatch m h) Sweep.empty = shift d (h e Sweep.empty) := by
  rw [tryCatch_apply, hd]
  exact hh e d

theorem issued_ok {m : Py α} {a : α} {d : Sweep} (hd : m Sweep.empty = .ok a d) :
    issued m = d.calls := by
  simp only [issued, final, hd]

theorem issued_error {m : Py α} {e : String} {d : Sweep} (hd : m Sweep.empty = .error e d) :
    issued m = d.calls := by
  simp only [issued, final, hd]

theorem issued_shift {m : Py α} {d : Sweep} {r : EStateM.Result String Sweep α}
    (hd : m Sweep.empty = shift d r) : issued m = d.calls ++ (match r with
      | .ok _ s => s | .error _ s => s).calls := by
  simp only [issued, final, hd]
  cases r <;> rfl

theorem Local.bind {M : Provider → Py α} {F : Provider → α → Py β} (hM : Local Q M)
    (hF : ∀ a, Local Q fun P => F P a) : Local Q fun P => M P >>= F P := by
  refine ⟨fun P => .bind (hM.oblivious P) fun a => (hF a).oblivious P, fun P c hc => ?_,
    fun P P' h => ?_⟩
  · cases hd : M P Sweep.empty with
    | ok a d =>
      rw [issued_shift (bind_ok (fun a => (hF a).oblivious P) hd), List.mem_append] at hc
      exact hc.elim (fun hc => hM.issues P c (issued_ok hd ▸ hc)) ((hF a).issues P c)
    | error e d =>
      rw [issued_error (bind_error hd)] at hc
      exact hM.issues P c (issued_error hd ▸ hc)
  · cases hd : M P Sweep.empty with
    | ok a d =>
      rw [issued_shift (bind_ok (fun a => (hF a).oblivious P) hd)] at h
      have hd' : M P' Sweep.empty = .ok a d :=
        (hM.agree P P' fun c hc => h c (List.mem_append_left _ (issued_ok hd ▸ hc))).trans hd
      rw [bind_ok (fun a => (hF a).oblivious P') hd', bind_ok (fun a => (hF a).oblivious P) hd,
        (hF a).agree P P' fun c hc => h c (List.mem_append_right _ hc)]
    | error e d =>
      rw [issued_error (bind_error hd)] at h
      rw [bind_error ((hM.agree P P' fun c hc => h c (issued_error hd ▸ hc)).trans hd),
        bind_error hd]

theorem Local.tryCatch {M : Provider → Py α} {H : Provider → String → Py α} (hM : Local Q M)
    (hH : ∀ e, Local Q fun P => H P e) : Local Q fun P => tryCatch (M P) (H P) := by
  refine ⟨fun P => .tryCatch (hM.oblivious P) fun e => (hH e).oblivious P, fun P c hc => ?_,
    fun P P' h => ?_⟩
  · cases hd : M P Sweep.empty with
    | ok a d =>
      rw [issued_ok (tryCatch_ok hd)] at hc
      exact hM.issues P c (issued_ok hd ▸ hc)
    | error e d =>
      rw [issued_shift (tryCatch_error (fun e => (hH e).oblivious P) hd), List.mem_append] at hc
      exact hc.elim (fun hc => hM.issues P c (issued_error hd ▸ hc)) ((hH e).issues P c)
  · cases hd : M P Sweep.empty with
    | ok a d =>
      rw [issued_ok (tryCatch_ok hd)] at h
      rw [tryCatch_ok ((hM.agree P P' fun c hc => h c (issued_ok hd ▸ hc)).trans hd),
        tryCatch_ok hd]
    | error e d =>
      rw [issued_shift (tryCatch_error (fun e => (hH e).oblivious P) hd)] at h
      have hd' : M P' Sweep.empty = .error e d :=
        (hM.agree P P' fun c hc => h c (List.mem_append_left _ (issued_error hd ▸ hc))).trans hd
      rw [tryCatch_error (fun e => (hH e).oblivious P') hd',
        tryCatch_error (fun e => (hH e).oblivious P) hd,
        (hH e).agree P P' fun c hc => h c (List.mem_append_right _ hc)]

end Py

open Py

theorem call_oblivious (P : Provider) (c : Call) : Oblivious (call P c) := fun s => by
  simp only [call]
  cases P.answer c <;> simp [shift, ← Sweep.issue_eq_extend]

theorem Py.issued_call (P : Provider) (c : Call) : issued (call P c) = [c] := by
  simp only [issued, final, call]
  cases P.answer c <;> rfl

theorem Py.Local.ofCall {Q : Call → Prop} {c : Call} (hc : Q c) : Local Q fun P => call P c := by
  refine ⟨fun P => call_oblivious P c, fun P c' h => ?_, fun P P' h => ?_⟩
  · rw [issued_call, List.mem_singleton] at h
    exact h ▸ hc
  · simp only [call, h c (by rw [issued_call]; exact List.mem_singleton_self c)]

theorem appendError_oblivious (e : String) : Oblivious (appendError e) := fun s => by
  show EStateM.Result.ok () (s.addError e) = _
  rw [Sweep.addError_eq_extend]
  rfl

theorem recordCounts_oblivious (d : Bool) (k : Kind) (n : Nat) : Oblivious (recordCounts d k n) :=
  fun s => by
  show EStateM.Result.ok () (s.record d k n) = _
  rw [Sweep.record_eq_extend]
  rfl

theorem Py.Local.appendError {Q : Call → Prop} (e : String) : Local Q fun _ => appendError e :=
  .const (appendError_oblivious e) rfl

theorem Py.Local.recordCounts {Q : Call → Prop} (d : Bool) (k : Kind) (n : Nat) :
    Local Q fun _ => recordCounts d k n :=
  .const (recordCounts_oblivious d k n) rfl

theorem Py.Local.item {Q : Call → Prop} (key : String) (st : Stamp) :
    Local Q fun _ => st.item key := by
  cases st
  exacts [.throw _, .pure _, .pure _]

theorem Py.Local.keyItem {α : Type} {Q : Call → Prop} (key : String) (o : Option α) :
    Local Q fun _ => keyItem key o := by
  cases o
  exacts [.throw _, .pure _]

/-! ### Each handler reads only the answers to its own calls -/

/-- The calls a handler may make: its own listings, and calls about single records. -/
def Kind.mayIssue (k : Kind) (c : Call) : Prop := c.listingOf = none ∨ c.listingOf = some k

/-- A call about a single record, not a listing. -/
def Call.perRecord (c : Call) : Prop := c.listingOf = none

variable (cfg : Config)

theorem attempt_local {c : Call} (hc : c.perRecord) (failure : String → String) :
    Local Call.perRecord fun P => attempt cfg P c failure :=
  .ite (.tryCatch (.bind (.ofCall hc) fun _ => .pure _) fun _ => .appendError _) (.pure _)

theorem collect_local {ρ : Type} {Q : Call → Prop} {B : Provider → ρ → Py (Option String)}
    (hB : ∀ r, Local Q fun P => B P r) : ∀ rs acc, Local Q fun P => collect (B P) rs acc
  | [], _ => .pure _
  | r :: rs, acc => .bind (hB r) fun o => by
    cases o
    exacts [collect_local hB rs acc, collect_local hB rs _]

theorem sweepKind_local {ρ : Type} {kind : Kind} {label : String} {L : Provider → Py (List ρ)}
    {B : Provider → ρ → Py (Option String)} (hL : Local kind.mayIssue L)
    (hB : ∀ r, Local Call.perRecord fun P => B P r) :
    Local kind.mayIssue fun P => sweepKind cfg kind label (L P) (B P) :=
  .tryCatch (.bind hL fun rs => .bind (collect_local (fun r => (hB r).weaken fun _ => .inl) rs [])
    fun _ => .recordCounts _ _ _) fun _ => .appendError _

/-- The listing of handler `k`. -/
theorem Py.Local.listing {k : Kind} {c : Call} (hc : c.listingOf = some k) :
    Local k.mayIssue fun P => call P c :=
  .ofCall (.inr hc)

theorem volumeBody_local (v : Volume) :
    Local Call.perRecord fun P => volumeBody cfg P v := by
  simp only [volumeBody, pure_bind]
  exact .ite (.pure _) (.bind (.item _ _) fun _ => .ite (.pure _) (.bind (.keyItem _ _) fun _ =>
    .bind (attempt_local cfg (by exact rfl) _) fun _ => .pure _))

theorem cleanupEbsVolumes_local : Local Kind.ebsVolumes.mayIssue (cleanupEbsVolumes cfg) :=
  sweepKind_local cfg (.listing (by exact rfl)) (volumeBody_local cfg)

theorem snapshotBody_local (sn : Snapshot) :
    Local Call.perRecord fun P => snapshotBody cfg P sn := by
  simp only [snapshotBody, pure_bind]
  exact .ite (.pure _) (.ite (.pure _) (.bind (.item _ _) fun _ =>
    .ite (.pure _) (.bind (attempt_local cfg (by exact rfl) _) fun _ => .pure _)))

theorem cleanupEbsSnapshots_local : Local Kind.ebsSnapshots.mayIssue (cleanupEbsSnapshots cfg) :=
  sweepKind_local cfg (.listing (by exact rfl)) (snapshotBody_local cfg)

theorem isWhitelistedOpt_local {Q : Call → Prop} (name : Option String) (tags : List Tag) :
    Local Q fun _ => isWhitelistedOpt cfg name tags := by
  unfold isWhitelistedOpt
  cases name
  exacts [.ite (.throw _) (.pure _), .pure _]

theorem addressBody_local (eip : Address) :
    Local Call.perRecord fun P => addressBody cfg P eip := by
  simp only [addressBody, pure_bind]
  refine .ite (.pure _) (.bind (isWhitelistedOpt_local cfg _ _) fun _ =>
    .ite (.pure _) (.bind (attempt_local cfg ?_ _) fun _ => .pure _))
  unfold releaseCall
  split
  · split <;> rfl
  · rfl

theorem cleanupElasticIps_local : Local Kind.elasticIps.mayIssue (cleanupElasticIps cfg) :=
  sweepKind_local cfg (.listing (by exact rfl)) (addressBody_local cfg)

theorem hasTargets_local : ∀ tgs, Local Call.perRecord fun P => hasTargets P tgs
  | [] => .pure _
  | tg :: tgs => by
    simp only [hasTargets, pure_bind]
    exact .bind (.ofCall (by exact rfl)) fun _ => .ite (.pure _) (hasTargets_local tgs)

theorem loadBalancerBody_local (lb : LoadBalancer) :
    Local Call.perRecord fun P => loadBalancerBody cfg P lb := by
  simp only [loadBalancerBody, pure_bind]
  exact .ite (.pure _) (.bind (.tryCatch (.bind (.ofCall (by exact rfl)) fun tgs =>
    hasTargets_local tgs) fun _ => .pure _) fun _ => .ite (.pure _) (.bind (.item _ _) fun _ =>
      .ite (.pure _) (.bind (attempt_local cfg (by exact rfl) _) fun _ => .pure _)))

theorem cleanupLoadBalancers_local :
    Local Kind.loadBalancers.mayIssue (cleanupLoadBalancers cfg) :=
  sweepKind_local cfg (.listing (by exact rfl)) (loadBalancerBody_local cfg)

theorem natGatewayBody_local (nat : NatGateway) :
    Local Call.perRecord fun P => natGatewayBody cfg P nat := by
  simp only [natGatewayBody, pure_bind]
  exact .ite (.pure _) (.bind (.item _ _) fun _ =>
    .ite (.pure _) (.bind (attempt_local cfg (by exact rfl) _) fun _ => .pure _))

theorem cleanupNatGateways_local : Local Kind.natGateways.mayIssue (cleanupNatGateways cfg) :=
  sweepKind_local cfg (.listing (by exact rfl)) (natGatewayBody_local cfg)

theorem dbSnapshotBody_local (sn : DbSnapshot) :
    Local Call.perRecord fun P => dbSnapshotBody cfg P sn := by
  simp only [dbSnapshotBody, pure_bind]
  exact .ite (.pure _) (.bind (.item _ _) fun _ =>
    .ite (.pure _) (.bind (attempt_local cfg (by exact rfl) _) fun _ => .pure _))

theorem dbClusterSnapshotBody_local (sn : DbClusterSnapshot) :
    Local Call.perRecord fun P => dbClusterSnapshotBody cfg P sn := by
  simp only [dbClusterSnapshotBody, pure_bind]
  exact .ite (.pure _) (.bind (.item _ _) fun _ =>
    .ite (.pure _) (.bind (attempt_local cfg (by exact rfl) _) fun _ => .pure _))

theorem cleanupRdsSnapshots_local :
    Local Kind.rdsSnapshots.mayIssue (cleanupRdsSnapshots cfg) := by
  unfold cleanupRdsSnapshots
  exact .tryCatch (.bind (.listing (by exact rfl)) fun dbs =>
    .bind (collect_local (fun sn => (dbSnapshotBody_local cfg sn).weaken fun _ => .inl) dbs [])
      fun acc => .bind (.listing (by exact rfl)) fun cls =>
        .bind (collect_local (fun sn => (dbClusterSnapshotBody_local cfg sn).weaken
          fun _ => .inl) cls acc) fun _ => .recordCounts _ _ _) fun _ => .appendError _

theorem deleteBackingSnapshots_local :
    ∀ devices, Local Call.perRecord fun P => deleteBackingSnapshots P devices
  | [] => .pure _
  | d :: ds => by
    simp only [deleteBackingSnapshots]
    split
    · exact .bind (.tryCatch (.bind (.ofCall (by exact rfl)) fun _ => .pure _) fun _ => .pure _)
        fun _ => deleteBackingSnapshots_local ds
    · exact .bind (.pure _) fun _ => deleteBackingSnapshots_local ds

theorem isoItem_local {Q : Call → Prop} (key : String) (st : Stamp) :
    Local Q fun _ => st.isoItem key := by
  cases st
  exacts [.throw _, .throw _, .pure _]

theorem imageBody_local (im : Image) :
    Local Call.perRecord fun P => imageBody cfg P im := by
  simp only [imageBody, pure_bind]
  exact .ite (.pure _) (.bind (isoItem_local _ _) fun _ => .ite (.pure _)
    (.ite (.bind (.tryCatch (.bind (.ofCall (by exact rfl)) fun _ =>
      deleteBackingSnapshots_local _) fun _ => .appendError _) fun _ => .pure _) (.pure _)))

theorem cleanupAmiImages_local : Local Kind.amiImages.mayIssue (cleanupAmiImages cfg) :=
  sweepKind_local cfg (.listing (by exact rfl)) (imageBody_local cfg)

theorem repositoryBody_local (repo : String) :
    Local Call.perRecord fun P => repositoryBody cfg P repo := by
  simp only [repositoryBody, pure_bind]
  exact .bind (.ofCall (by exact rfl)) fun _ => .ite (.ite (.bind (.ofCall (by exact rfl))
    fun _ => .pure _) (.pure _)) (.pure _)

theorem ecrRepositories_local :
    ∀ repos total, Local Call.perRecord fun P => ecrRepositories cfg P repos total
  | [], _ => .pure _
  | repo :: repos, total => by
    simp only [ecrRepositories, pure_bind, bind_pure]
    exact .ite (ecrRepositories_local repos total) (.bind (.tryCatch (repositoryBody_local cfg repo)
      fun _ => .bind (.appendError _) fun _ => .pure _) fun n => ecrRepositories_local repos _)

theorem cleanupEcrImages_local : Local Kind.ecrImages.mayIssue (cleanupEcrImages cfg) := by
  unfold cleanupEcrImages
  exact .tryCatch (.bind (.listing (by exact rfl)) fun repos =>
    .bind ((ecrRepositories_local cfg repos 0).weaken fun _ => .inl) fun _ => .recordCounts _ _ _)
    fun _ => .appendError _

theorem lastEventRecent_local {Q : Call → Prop} (st : Stamp) :
    Local Q fun _ => lastEventRecent cfg st := by
  cases st
  exacts [.pure _, .throw _, .pure _]

theorem logGroupBody_local (lg : LogGroup) :
    Local Call.perRecord fun P => logGroupBody cfg P lg := by
  simp only [logGroupBody, pure_bind]
  exact .ite (.pure _) (.bind (lastEventRecent_local cfg _) fun _ => .ite (.pure _)
    (.bind (.ofCall (by exact rfl)) fun _ => .ite (.pure _)
      (.bind (attempt_local cfg (by exact rfl) _) fun _ => .pure _)))

theorem cleanupCloudwatchLogs_local :
    Local Kind.cloudwatchLogs.mayIssue (cleanupCloudwatchLogs cfg) :=
  sweepKind_local cfg (.listing (by exact rfl)) (logGroupBody_local cfg)

theorem bucketBody_local (b : Bucket) :
    Local Call.perRecord fun P => bucketBody cfg P b := by
  simp only [bucketBody, pure_bind]
  exact .ite (.pure _) (.tryCatch (.bind (.ofCall (by exact rfl)) fun _ => .ite (.pure _)
    (.bind (.item _ _) fun _ => .ite (.pure _)
      (.bind (attempt_local cfg (by exact rfl) _) fun _ => .pure _))) fun _ => .pure _)

theorem cleanupEmptyS3Buckets_local :
    Local Kind.s3Buckets.mayIssue (cleanupEmptyS3Buckets cfg) :=
  sweepKind_local cfg (.listing (by exact rfl)) (bucketBody_local cfg)

theorem securityGroupBody_local (used : List String) (sg : SecurityGroup) :
    Local Call.perRecord fun P => securityGroupBody cfg P used sg := by
  simp only [securityGroupBody, pure_bind]
  exact .ite (.pure _) (.ite (.pure _) (.ite (.pure _)
    (.bind (attempt_local cfg (by exact rfl) _) fun _ => .pure _)))

theorem cleanupSecurityGroups_local :
    Local Kind.securityGroups.mayIssue (cleanupSecurityGroups cfg) := by
  unfold cleanupSecurityGroups
  exact .tryCatch (.bind (.listing (by exact rfl)) fun sgs => .bind (.listing (by exact rfl))
    fun ifs => .bind (collect_local (fun sg => (securityGroupBody_local cfg _ sg).weaken
      fun _ => .inl) sgs []) fun _ => .recordCounts _ _ _) fun _ => .appendError _

theorem deleteVersions_local (f : String) :
    ∀ versions total, Local Call.perRecord fun P => deleteVersions cfg P f versions total
  | [], _ => .pure _
  | v :: vs, total => by
    simp only [deleteVersions]
    exact .ite (.bind (.tryCatch (.bind (.ofCall (by exact rfl)) fun _ => .pure _)
      fun _ => .bind (.appendError _) fun _ => .pure _) fun t => deleteVersions_local f vs t)
      (deleteVersions_local f vs _)

theorem lambdaFunctions_local :
    ∀ fs total, Local Call.perRecord fun P => lambdaFunctions cfg P fs total
  | [], _ => .pure _
  | f :: fs, total => by
    simp only [lambdaFunctions, pure_bind, bind_pure]
    exact .ite (lambdaFunctions_local fs total) (.bind (.tryCatch (.bind (.ofCall (by exact rfl))
      fun _ => deleteVersions_local cfg f _ _) fun _ => .pure _) fun t =>
        lambdaFunctions_local fs t)

theorem cleanupOldLambdaVersions_local :
    Local Kind.lambdaVersions.mayIssue (cleanupOldLambdaVersions cfg) := by
  unfold cleanupOldLambdaVersions
  exact .tryCatch (.bind (.listing (by exact rfl)) fun fs =>
    .bind ((lambdaFunctions_local cfg fs 0).weaken fun _ => .inl) fun _ => .recordCounts _ _ _)
    fun _ => .appendError _

theorem sendNotification_local : Local Call.perRecord (sendNotification cfg) := by
  unfold sendNotification
  split
  · exact .ite (.tryCatch (.bind (.ofCall (by exact rfl)) fun _ => .pure _) fun _ => .pure _)
      (.pure _)
  · exact .pure _

/-! ### A run is the handlers' parts, one after the other -/

/-- The handler that writes kind `k`, as `handler` calls it. -/
def Kind.cleanup : Kind → Config → Provider → Py Unit
  | .ebsVolumes => cleanupEbsVolumes
  | .ebsSnapshots => cleanupEbsSnapshots
  | .elasticIps => cleanupElasticIps
  | .loadBalancers => cleanupLoadBalancers
  | .natGateways => cleanupNatGateways
  | .rdsSnapshots => cleanupRdsSnapshots
  | .amiImages => cleanupAmiImages
  | .ecrImages => cleanupEcrImages
  | .cloudwatchLogs => cleanupCloudwatchLogs
  | .s3Buckets => cleanupEmptyS3Buckets
  | .securityGroups => cleanupSecurityGroups
  | .lambdaVersions => cleanupOldLambdaVersions

/-- The kinds in the order `handler` runs their handlers. -/
def Kind.all : List Kind :=
  [.ebsVolumes, .ebsSnapshots, .elasticIps, .loadBalancers, .natGateways, .rdsSnapshots,
    .amiImages, .ecrImages, .cloudwatchLogs, .s3Buckets, .securityGroups, .lambdaVersions]

theorem Kind.cleanup_local (k : Kind) : Local k.mayIssue (k.cleanup cfg) := by
  cases k
  exacts [cleanupEbsVolumes_local cfg, cleanupEbsSnapshots_local cfg, cleanupElasticIps_local cfg,
    cleanupLoadBalancers_local cfg, cleanupNatGateways_local cfg, cleanupRdsSnapshots_local cfg,
    cleanupAmiImages_local cfg, cleanupEcrImages_local cfg, cleanupCloudwatchLogs_local cfg,
    cleanupEmptyS3Buckets_local cfg, cleanupSecurityGroups_local cfg,
    cleanupOldLambdaVersions_local cfg]

/-- What handler `k` adds to the summary and the calls it makes, run on its own. -/
def contribution (P : Provider) (k : Kind) : Sweep := final (k.cleanup cfg P) Sweep.empty

/-- What the report adds: the `publish` call, if any. -/
def notification (P : Provider) : Sweep := final (sendNotification cfg P) Sweep.empty

/-- The states `ds` added one after the other. -/
def Sweep.concat (ds : List Sweep) : Sweep := ds.foldr Sweep.extend Sweep.empty

/-- A block whose exceptions are all caught by a handler that returns, returns. -/
theorem tryCatch_returns {m : Py Unit} {h : String → Py Unit}
    (hh : ∀ e s, ∃ s', h e s = .ok () s') : ∃ d, tryCatch m h Sweep.empty = .ok () d := by
  rw [tryCatch_apply]
  cases m Sweep.empty
  exacts [⟨_, rfl⟩, hh _ _]

/-- Every handler returns, from any state, having added its contribution. -/
theorem Kind.cleanup_apply (P : Provider) (k : Kind) (s : Sweep) :
    k.cleanup cfg P s = .ok () (s.extend (contribution cfg P k)) := by
  have hok : ∃ d, k.cleanup cfg P Sweep.empty = .ok () d := by
    cases k <;> exact tryCatch_returns fun _ _ => ⟨_, rfl⟩
  obtain ⟨d, hd⟩ := hok
  rw [(k.cleanup_local cfg).oblivious P s, contribution, final, hd]
  rfl

theorem sendNotification_apply (P : Provider) (s : Sweep) :
    sendNotification cfg P s = .ok () (s.extend (notification cfg P)) := by
  have hok : ∃ d, sendNotification cfg P Sweep.empty = .ok () d := by
    cases h : cfg.snsTopicArn with
    | none => simp only [sendNotification, h]; exact ⟨_, rfl⟩
    | some topic =>
      simp only [sendNotification, h]
      split
      · exact tryCatch_returns fun _ _ => ⟨_, rfl⟩
      · exact ⟨_, rfl⟩
  obtain ⟨d, hd⟩ := hok
  rw [(sendNotification_local cfg).oblivious P s, notification, final, hd]
  rfl

/-- `if CLEAN_X: cleanup_x(summary)`. -/
theorem enabled_apply (P : Provider) (k : Kind) (s : Sweep) :
    (if cfg.enabled k then k.cleanup cfg P else pure ()) s =
      .ok () (s.extend (if cfg.enabled k then contribution cfg P k else Sweep.empty)) := by
  split
  · exact Kind.cleanup_apply cfg P k s
  · rw [Sweep.extend_empty]; rfl

/-- The handlers one after the other, each if enabled. -/
theorem forM_apply (P : Provider) : ∀ (ks : List Kind) (s : Sweep),
    ks.forM (fun k => if cfg.enabled k then k.cleanup cfg P else pure ()) s =
      .ok () (s.extend (Sweep.concat (ks.map fun k =>
        if cfg.enabled k then contribution cfg P k else Sweep.empty)))
  | [], s => by rw [List.map_nil, Sweep.concat, List.foldr_nil, Sweep.extend_empty]; rfl
  | k :: ks, s => by
    show EStateM.bind _ (fun _ => List.forM ks _) s = _
    simp only [EStateM.bind, enabled_apply, forM_apply P ks, List.map_cons, Sweep.concat,
      List.foldr_cons, Sweep.extend_assoc]

theorem handler_eq_forM (P : Provider) : handler cfg P = (do
    tryCatch (Kind.all.forM fun k => if cfg.enabled k then k.cleanup cfg P else pure ())
      fun e => appendError e
    sendNotification cfg P) := by
  simp [handler, Kind.all, Kind.cleanup]

/-- **A run is the handlers' parts, one after the other**: each enabled handler adds what it
adds when run on its own, and the report comes last. -/
theorem run_eq_concat (P : Provider) :
    run cfg P = (Sweep.concat (Kind.all.map fun k =>
        if cfg.enabled k then contribution cfg P k else Sweep.empty)).extend
      (notification cfg P) := by
  have hall := forM_apply cfg P Kind.all Sweep.empty
  rw [Sweep.empty_extend] at hall
  have hrun : handler cfg P Sweep.empty = .ok () ((Sweep.concat (Kind.all.map fun k =>
      if cfg.enabled k then contribution cfg P k else Sweep.empty)).extend
        (notification cfg P)) := by
    rw [handler_eq_forM]
    show EStateM.bind (tryCatch _ _) (fun _ => sendNotification cfg P) Sweep.empty = _
    simp only [EStateM.bind, tryCatch_apply, hall, sendNotification_apply]
  rw [run, final, hrun]

/-- **A failing listing stays in its handler**: providers that differ only in the listing calls
of handler `X` give every other handler, and the report, the same part of the run. -/
theorem listing_failure_isolated (X : Kind) (P P' : Provider)
    (h : ∀ c, c.listingOf ≠ some X → P.answer c = P'.answer c) :
    (∀ Y, Y ≠ X → contribution cfg P' Y = contribution cfg P Y) ∧
      notification cfg P' = notification cfg P := by
  constructor
  · intro Y hY
    have hloc := Y.cleanup_local cfg
    rw [contribution, contribution, final, final, hloc.agree P P' fun c hc => h c (by
      rcases hloc.issues P c hc with hc | hc <;> rw [hc] <;> simp [hY])]
  · have hloc := sendNotification_local cfg
    rw [notification, notification, final, final, hloc.agree P P' fun c hc => h c (by
      rw [hloc.issues P c hc]; simp)]

end OddiyaOps.Cleanup
