import OddiyaOps.Cleanup.Policy

/-!
# OddiyaOps.Cleanup.Invariant

**Every run of `handler` ends in a state that agrees with the abstract model** (`run_sweepInv`):
each call it made is `Justified`, each count it wrote is `expectedFound`.

The proof follows the code's structure. `Py.Spec I R m` says `m` keeps `I` on both exits and
returns a value satisfying `R`. One lemma per loop body says the body keeps `SweepInv` and
returns an entry exactly when its record is selected; `collect_spec` lifts that to the loop,
`sweepKind_keeps` to the frame, and `handler_keeps` runs the twelve handlers in sequence.
-/

namespace OddiyaOps.Cleanup

open OddiyaOps.Python

/-! ### Specifications of `Py` programs -/

namespace Py

/-- Running `m` from a state satisfying `I` ends in one satisfying `I`; a returned value
satisfies `R`, and `X` holds whenever `m` raises. -/
def Spec {α : Type} (I : Sweep → Prop) (R : α → Prop) (X : Prop) (m : Py α) : Prop :=
  ∀ s, I s → m.wp (fun a s' => R a ∧ I s') (fun _ s' => X ∧ I s') s

variable {α β : Type} {I : Sweep → Prop} {R : α → Prop} {X : Prop}

theorem Spec.pure {a : α} (h : R a) : Spec I R X (pure a) := fun _ hs => ⟨h, hs⟩

theorem Spec.throw {e : String} (h : X) : Spec I R X (throw e) := fun _ hs => ⟨h, hs⟩

theorem Spec.keyItem {key : String} {o : Option α} (hX : o = none → X) :
    Spec I (fun _ => True) X (keyItem key o) := by
  cases o
  exacts [.throw (hX rfl), .pure trivial]

theorem Spec.bind {R' : β → Prop} {m : Py α} {f : α → Py β}
    (hm : Spec I R X m) (hf : ∀ a, R a → Spec I R' X (f a)) : Spec I R' X (m >>= f) :=
  fun s hs => by
    simp only [wp_bind]
    exact wp_mono (fun a _ ⟨ha, hs'⟩ => hf a ha _ hs') (fun _ _ h => h) (hm s hs)

theorem Spec.tryCatch {X' : Prop} {m : Py α} {h : String → Py α}
    (hm : Spec I R X m) (hh : X → ∀ e, Spec I R X' (h e)) : Spec I R X' (tryCatch m h) :=
  fun s hs => by
    simp only [wp_tryCatch]
    exact wp_mono (fun _ _ h => h) (fun e _ ⟨hx, hs'⟩ => hh hx e _ hs') (hm s hs)

/-- `Spec.bind` with the intermediate result predicate given. -/
theorem Spec.bindWith {R' : β → Prop} (R : α → Prop) {m : Py α} {f : α → Py β}
    (hm : Spec I R X m) (hf : ∀ a, R a → Spec I R' X (f a)) : Spec I R' X (m >>= f) :=
  hm.bind hf

/-- `Spec.tryCatch` with the condition under which the protected block raises given. -/
theorem Spec.tryCatchWith {X' : Prop} (X : Prop) {m : Py α} {h : String → Py α}
    (hm : Spec I R X m) (hh : X → ∀ e, Spec I R X' (h e)) :
    Spec I R X' (MonadExcept.tryCatch m h) :=
  hm.tryCatch hh

theorem Spec.ite {c : Prop} [Decidable c] {a b : Py α} (ha : c → Spec I R X a)
    (hb : ¬c → Spec I R X b) : Spec I R X (if c then a else b) := by
  split
  · exact ha ‹_›
  · exact hb ‹_›

theorem Spec.weaken {R' : α → Prop} {X' : Prop} {m : Py α} (hm : Spec I R X m)
    (hR : ∀ a, R a → R' a) (hX : X → X') : Spec I R' X' m :=
  fun s hs => wp_mono (fun a _ ⟨ha, h⟩ => ⟨hR a ha, h⟩) (fun _ _ ⟨hx, h⟩ => ⟨hX hx, h⟩) (hm s hs)

theorem Spec.final {m : Py α} (hm : Spec I R X m) {s : Sweep} (hs : I s) : I (final m s) :=
  final_of_wp (wp_mono (fun _ _ h => h.2) (fun _ _ h => h.2) (hm s hs))

end Py

open Py

variable {cfg : Config} {P : Provider} {X : Prop}

/-! ### The shared pieces -/

/-- A justified call keeps the invariant; it returns what the provider answers and raises only
when the provider raises. -/
theorem answer_spec (c : Call) (hc : Justified cfg P c) :
    Spec (SweepInv cfg P) (fun r => P.answer c = .ok r) (∃ e, P.answer c = .error e)
      (call P c) := fun s hs => by
  simp only [wp_call]
  split
  · exact ⟨‹_›, hs.issue hc⟩
  · exact ⟨⟨_, ‹_›⟩, hs.issue hc⟩

/-- `answer_spec` where nothing is asked of a raise. -/
theorem call_spec (c : Call) (hc : Justified cfg P c) :
    Spec (SweepInv cfg P) (fun r => P.answer c = .ok r) True (call P c) :=
  (answer_spec c hc).weaken (fun _ h => h) fun _ => trivial

/-- A call whose failure is swallowed: `try: <c> except: pass`. -/
theorem swallow_spec (c : Call) (hc : Justified cfg P c) :
    Spec (SweepInv cfg P) (fun _ => True) X (tryCatch (do let _ ← call P c) fun _ => pure ()) :=
  .tryCatch (.bind (call_spec c hc) fun _ _ => .pure trivial) fun _ _ => .pure trivial

theorem appendError_spec (e : String) :
    Spec (SweepInv cfg P) (fun _ => True) X (appendError e) :=
  fun _ hs => ⟨trivial, hs.addError e⟩

/-- The guarded delete never raises, and its call is made only in a real run. -/
theorem attempt_spec {c : Call} {failure : String → String}
    (hc : cfg.dryRun = false → Justified cfg P c) :
    Spec (SweepInv cfg P) (fun _ => True) X (attempt cfg P c failure) := by
  unfold attempt
  exact .ite (fun hd => .tryCatch (.bind (call_spec c (hc (by simpa using hd)))
      fun _ _ => .pure trivial) fun _ _ => appendError_spec _) fun _ => .pure trivial

theorem item_spec {st : Stamp} {key : String} (hX : st = .absent → X) :
    Spec (SweepInv cfg P) (fun t => t = st.value? ∧ st ≠ .absent) X (st.item key) :=
  fun _ hs => by cases st <;> simp_all [Stamp.value?]

/-- The loop collects one entry per selected record. -/
theorem collect_spec {ρ : Type} {body : ρ → Py (Option String)} (sel : ρ → Bool) :
    ∀ (rs : List ρ) (acc : List String),
      (∀ r ∈ rs, Spec (SweepInv cfg P) (fun o => o.isSome = sel r) X (body r)) →
      Spec (SweepInv cfg P) (fun acc' => acc'.length = acc.length + (rs.filter sel).length) X
        (collect body rs acc)
  | [], acc, _ => .pure (by simp)
  | r :: rs, acc, hb => by
    refine .bind (hb r (List.mem_cons_self _ _)) fun o ho => ?_
    have ih := fun acc => collect_spec sel rs acc fun r' hr' => hb r' (List.mem_cons_of_mem _ hr')
    cases o with
    | none => exact (ih acc).weaken (fun acc' h => by simp_all [List.filter_cons]) id
    | some k =>
      refine (ih (acc ++ [k])).weaken (fun acc' h => ?_) id
      simp_all [List.filter_cons]
      omega

/-- The frame of most handlers keeps the invariant when its listing answers with records whose
bodies select as `sel` says, and whose selected count is the expected one. -/
theorem sweepKind_spec {ρ : Type} {kind : Kind} {label : String} {listing : Py (List ρ)}
    {body : ρ → Py (Option String)} {sel : ρ → Bool}
    (hlist : Spec (SweepInv cfg P)
      (fun rs => (∀ r ∈ rs, Spec (SweepInv cfg P) (fun o => o.isSome = sel r) True (body r)) ∧
        (rs.filter sel).length = expectedFound cfg P kind) True listing) :
    Spec (SweepInv cfg P) (fun _ => True) X (sweepKind cfg kind label listing body) :=
  .tryCatch (.bind hlist fun rs ⟨hb, hn⟩ => .bind (collect_spec sel rs [] hb) fun _ hacc _ hs =>
      ⟨trivial, hs.record (by simp_all)⟩)
    fun _ _ => appendError_spec _

/-! ### Block storage and addresses -/

theorem volumeBody_spec {v : Volume} (hv : v ∈ listed P.describeVolumes) :
    Spec (SweepInv cfg P) (fun o => o.isSome = volumeSelected cfg v) True (volumeBody cfg P v) := by
  simp only [volumeBody, pure_bind]
  refine .ite (fun hw => .pure ?_) fun hw => .bind (item_spec fun _ => trivial) fun t ht =>
    .ite (fun ho => .pure ?_) fun ho => .bind (.keyItem fun _ => trivial) fun _ _ =>
      .bind (attempt_spec fun hd => ⟨hd, v, hv, rfl, ?_⟩) fun _ _ => .pure ?_
  all_goals simp_all [volumeSelected]

theorem cleanupEbsVolumes_spec :
    Spec (SweepInv cfg P) (fun _ => True) X (cleanupEbsVolumes cfg P) :=
  sweepKind_spec ((answer_spec .describeVolumes trivial).weaken (fun rs h => by
    simp only [Provider.answer] at h
    exact ⟨fun _ hv => volumeBody_spec (by rw [h]; exact hv), by rw [expectedFound, h]; rfl⟩)
    fun _ => trivial)

theorem snapshotBody_spec {sn : Snapshot} (hs : sn ∈ listed P.describeSnapshots) :
    Spec (SweepInv cfg P) (fun o => o.isSome = snapshotSelected cfg sn) True
      (snapshotBody cfg P sn) := by
  simp only [snapshotBody, pure_bind]
  refine .ite (fun hc => .pure ?_) fun hc => .ite (fun hw => .pure ?_) fun hw =>
    .bind (item_spec fun _ => trivial) fun t ht => .ite (fun ho => .pure ?_) fun ho =>
      .bind (attempt_spec fun hd => ⟨hd, .inl ⟨sn, hs, rfl, ?_⟩⟩) fun _ _ => .pure ?_
  all_goals simp_all [snapshotSelected]

theorem cleanupEbsSnapshots_spec :
    Spec (SweepInv cfg P) (fun _ => True) X (cleanupEbsSnapshots cfg P) :=
  sweepKind_spec ((answer_spec .describeSnapshots trivial).weaken (fun rs h => by
    simp only [Provider.answer] at h
    exact ⟨fun _ hv => snapshotBody_spec (by rw [h]; exact hv), by rw [expectedFound, h]; rfl⟩)
    fun _ => trivial)

theorem isWhitelistedOpt_spec {name : Option String} {tags : List Tag} :
    Spec (SweepInv cfg P) (fun b => b = optWhitelisted cfg name tags) True
      (isWhitelistedOpt cfg name tags) := by
  unfold isWhitelistedOpt
  cases name with
  | some n => exact .pure rfl
  | none => exact .ite (fun _ => .throw trivial) fun _ => .pure rfl

theorem releaseCall_justified {eip : Address} (hd : cfg.dryRun = false)
    (he : eip ∈ listed P.describeAddresses) (hsel : addressSelected cfg eip = true) :
    Justified cfg P (releaseCall eip) := by
  unfold releaseCall
  split
  · split
    · exact ⟨hd, eip, he, by simp_all [releaseCall], hsel⟩
    · exact ⟨hd, eip, he, by simp_all [releaseCall], hsel⟩
  · exact ⟨hd, eip, he, by simp_all [releaseCall], hsel⟩

theorem addressBody_spec {eip : Address} (he : eip ∈ listed P.describeAddresses) :
    Spec (SweepInv cfg P) (fun o => o.isSome = addressSelected cfg eip) True
      (addressBody cfg P eip) := by
  simp only [addressBody, pure_bind]
  refine .ite (fun ha => .pure (by simp [addressSelected, ha])) fun ha =>
    .bind isWhitelistedOpt_spec fun b hb =>
      .ite (fun hw => .pure (by simp [addressSelected, ← hb, hw])) fun hw =>
        .bind (attempt_spec fun hd => releaseCall_justified hd he ?_) fun _ _ => .pure ?_
  all_goals simp_all [addressSelected]

theorem cleanupElasticIps_spec :
    Spec (SweepInv cfg P) (fun _ => True) X (cleanupElasticIps cfg P) :=
  sweepKind_spec ((answer_spec .describeAddresses trivial).weaken (fun rs h => by
    simp only [Provider.answer] at h
    exact ⟨fun _ hv => addressBody_spec (by rw [h]; exact hv), by rw [expectedFound, h]; rfl⟩)
    fun _ => trivial)

/-! ### Load balancers and NAT gateways -/

/-- `hasTargets` answers `targetsFound`, and raises only when that is `true`. -/
theorem hasTargets_spec : ∀ tgs : List String,
    Spec (SweepInv cfg P) (fun b => b = targetsFound P tgs) (targetsFound P tgs = true)
      (hasTargets P tgs)
  | [] => .pure rfl
  | tg :: tgs => by
    simp only [hasTargets, pure_bind]
    refine .bind ((answer_spec (.describeTargetHealth tg) trivial).weaken (fun _ h => h) ?_)
      fun health hh => .ite (fun hne => .pure ?_) fun he => (hasTargets_spec tgs).weaken ?_ ?_
    all_goals simp_all [Provider.answer, targetsFound]

/-- The target check with its bare `except`: the record is skipped exactly when it is busy. -/
theorem targetCheck_spec {lb : LoadBalancer} :
    Spec (SweepInv cfg P) (fun b => b = loadBalancerBusy P lb) X
      (tryCatch (do hasTargets P (← call P (.describeTargetGroups lb.loadBalancerArn)))
        fun _ => pure true) := by
  refine .tryCatchWith (loadBalancerBusy P lb = true)
    (.bind ((answer_spec (.describeTargetGroups _) trivial).weaken (fun _ h => h) ?_)
      fun tgs htgs => (hasTargets_spec tgs).weaken ?_ ?_) fun hx _ => .pure hx.symm
  all_goals simp_all [Provider.answer, loadBalancerBusy]

theorem loadBalancerBody_spec {lb : LoadBalancer} (hl : lb ∈ listed P.describeLoadBalancers) :
    Spec (SweepInv cfg P) (fun o => o.isSome = loadBalancerSelected cfg P lb) True
      (loadBalancerBody cfg P lb) := by
  simp only [loadBalancerBody, pure_bind]
  refine .ite (fun hw => .pure ?_) fun hw => .bind targetCheck_spec fun b hb =>
    .ite (fun hskip => .pure ?_) fun hskip => .bind (item_spec fun _ => trivial) fun t ht =>
      .ite (fun ho => .pure ?_) fun ho =>
        .bind (attempt_spec fun hd => ⟨hd, lb, hl, rfl, ?_⟩) fun _ _ => .pure ?_
  all_goals simp_all [loadBalancerSelected]

theorem cleanupLoadBalancers_spec :
    Spec (SweepInv cfg P) (fun _ => True) X (cleanupLoadBalancers cfg P) :=
  sweepKind_spec ((answer_spec .describeLoadBalancers trivial).weaken (fun rs h => by
    simp only [Provider.answer] at h
    exact ⟨fun _ hv => loadBalancerBody_spec (by rw [h]; exact hv), by rw [expectedFound, h]; rfl⟩)
    fun _ => trivial)

theorem natGatewayBody_spec {nat : NatGateway} (hn : nat ∈ listed P.describeNatGateways) :
    Spec (SweepInv cfg P) (fun o => o.isSome = natGatewaySelected cfg nat) True
      (natGatewayBody cfg P nat) := by
  simp only [natGatewayBody, pure_bind]
  refine .ite (fun hw => .pure ?_) fun hw => .bind (item_spec fun _ => trivial) fun t ht =>
    .ite (fun ho => .pure ?_) fun ho =>
      .bind (attempt_spec fun hd => ⟨hd, nat, hn, rfl, ?_⟩) fun _ _ => .pure ?_
  all_goals simp_all [natGatewaySelected]

theorem cleanupNatGateways_spec :
    Spec (SweepInv cfg P) (fun _ => True) X (cleanupNatGateways cfg P) :=
  sweepKind_spec ((answer_spec .describeNatGateways trivial).weaken (fun rs h => by
    simp only [Provider.answer] at h
    exact ⟨fun _ hv => natGatewayBody_spec (by rw [h]; exact hv), by rw [expectedFound, h]; rfl⟩)
    fun _ => trivial)

/-! ### Database snapshots and machine images -/

theorem dbSnapshotBody_spec {sn : DbSnapshot} (hs : sn ∈ listed P.describeDbSnapshots) :
    Spec (SweepInv cfg P) (fun o => o.isSome = dbSnapshotSelected cfg sn) True
      (dbSnapshotBody cfg P sn) := by
  simp only [dbSnapshotBody, pure_bind]
  refine .ite (fun hw => .pure ?_) fun hw => .bind (item_spec fun _ => trivial) fun t ht =>
    .ite (fun ho => .pure ?_) fun ho =>
      .bind (attempt_spec fun hd => ⟨hd, sn, hs, rfl, ?_⟩) fun _ _ => .pure ?_
  all_goals simp_all [dbSnapshotSelected]

theorem dbClusterSnapshotBody_spec {sn : DbClusterSnapshot}
    (hs : sn ∈ listed P.describeDbClusterSnapshots) :
    Spec (SweepInv cfg P) (fun o => o.isSome = dbClusterSnapshotSelected cfg sn) True
      (dbClusterSnapshotBody cfg P sn) := by
  simp only [dbClusterSnapshotBody, pure_bind]
  refine .ite (fun hw => .pure ?_) fun hw => .bind (item_spec fun _ => trivial) fun t ht =>
    .ite (fun ho => .pure ?_) fun ho =>
      .bind (attempt_spec fun hd => ⟨hd, sn, hs, rfl, ?_⟩) fun _ _ => .pure ?_
  all_goals simp_all [dbClusterSnapshotSelected]

theorem cleanupRdsSnapshots_spec :
    Spec (SweepInv cfg P) (fun _ => True) X (cleanupRdsSnapshots cfg P) := by
  unfold cleanupRdsSnapshots
  refine .tryCatch (.bind (call_spec .describeDbSnapshots trivial) fun dbs hdbs => ?_)
    fun _ _ => appendError_spec _
  replace hdbs : listed P.describeDbSnapshots = dbs := by
    show listed (P.answer .describeDbSnapshots) = _
    rw [hdbs]; rfl
  refine .bind (collect_spec (dbSnapshotSelected cfg) dbs []
    fun _ h => dbSnapshotBody_spec (hdbs ▸ h)) fun acc hacc =>
      .bind (call_spec .describeDbClusterSnapshots trivial) fun cls hcls => ?_
  replace hcls : listed P.describeDbClusterSnapshots = cls := by
    show listed (P.answer .describeDbClusterSnapshots) = _
    rw [hcls]; rfl
  refine .bind (collect_spec (dbClusterSnapshotSelected cfg) cls acc
    fun _ h => dbClusterSnapshotBody_spec (hcls ▸ h)) fun acc' hacc' _ hs =>
      ⟨trivial, hs.record ?_⟩
  simp only [expectedFound, hdbs, hcls, List.length_nil] at hacc hacc' ⊢
  omega

theorem isoItem_spec {st : Stamp} {key : String} :
    Spec (SweepInv cfg P) (fun t => some t = st.value?) True (st.isoItem key) := fun _ hs => by
  cases st <;> simp_all [Stamp.isoItem, Stamp.value?]

/-- The backing-snapshot deletes of a selected image whose deregistration returned. -/
theorem deleteBackingSnapshots_spec {im : Image} (hd : cfg.dryRun = false)
    (hi : im ∈ listed P.describeImages) (hsel : imageSelected cfg im = true)
    (hreg : P.deregisterImage im.imageId = .ok ()) :
    ∀ devices, devices ⊆ im.blockDeviceMappings →
      Spec (SweepInv cfg P) (fun _ => True) X (deleteBackingSnapshots P devices)
  | [], _ => .pure trivial
  | d :: ds, hsub => by
    have rest := deleteBackingSnapshots_spec hd hi hsel hreg ds fun _ h => hsub (.tail _ h)
    simp only [deleteBackingSnapshots, pure_bind]
    split
    · rename_i sid hsid
      have hmem : (⟨some sid⟩ : BlockDevice) ∈ im.blockDeviceMappings := by
        rw [← hsid]
        exact hsub (List.mem_cons_self _ _)
      exact .bind (swallow_spec _ ⟨hd, .inr ⟨im, hi, hsel, hreg, hmem⟩⟩) fun _ _ => rest
    · exact rest

theorem imageBody_spec {im : Image} (hi : im ∈ listed P.describeImages) :
    Spec (SweepInv cfg P) (fun o => o.isSome = imageSelected cfg im) True
      (imageBody cfg P im) := by
  simp only [imageBody, pure_bind]
  refine .ite (fun hw => .pure ?_) fun hw => .bind isoItem_spec fun t ht =>
    .ite (fun ho => .pure ?_) fun ho => .ite (fun hd => .bind (.tryCatch
      (.bind (answer_spec (.deregisterImage _) ⟨?_, im, hi, rfl, ?_⟩) fun _ hreg =>
        deleteBackingSnapshots_spec ?_ hi ?_ hreg _ fun _ h => h)
      fun _ _ => appendError_spec _) fun _ _ => .pure ?_) fun hd => .pure ?_
  all_goals simp_all [imageSelected]

theorem cleanupAmiImages_spec :
    Spec (SweepInv cfg P) (fun _ => True) X (cleanupAmiImages cfg P) :=
  sweepKind_spec ((answer_spec .describeImages trivial).weaken (fun rs h => by
    simp only [Provider.answer] at h
    exact ⟨fun _ hv => imageBody_spec (by rw [h]; exact hv), by rw [expectedFound, h]; rfl⟩)
    fun _ => trivial)

/-! ### Container images -/

theorem repositoryBody_spec {repo : String} (hrepo : repo ∈ listed P.describeRepositories)
    (hw : isWhitelisted cfg repo [] = false) :
    Spec (SweepInv cfg P) (fun n => n = repositoryCount cfg P repo)
      (repositoryCount cfg P repo = 0) (repositoryBody cfg P repo) := by
  simp only [repositoryBody, pure_bind]
  refine .bind ((answer_spec (.listImages repo) trivial).weaken (fun _ h => h) ?_)
    fun images himages => ?_
  · rintro ⟨e, he⟩
    simp_all [Provider.answer, repositoryCount]
  simp only [Provider.answer] at himages
  have hcount : repositoryCount cfg P repo = if !cfg.dryRun && !(ecrSelection images).isEmpty &&
      !(P.batchDeleteImage repo (ecrSelection images)).toBool then 0
      else (ecrSelection images).length := by
    simp [repositoryCount, hw, himages]
  by_cases hgt : (images.filter ecrCandidate).length > 10
  · have hsel : ecrSelection images = (images.filter ecrCandidate).take
        ((images.filter ecrCandidate).length - 10) := if_pos hgt
    have hne : ((images.filter ecrCandidate).take
        ((images.filter ecrCandidate).length - 10)).isEmpty = false := by
      have hlen := List.length_take ((images.filter ecrCandidate).length - 10)
        (images.filter ecrCandidate)
      cases h : (images.filter ecrCandidate).take ((images.filter ecrCandidate).length - 10) with
      | nil => simp only [h, List.length_nil] at hlen; omega
      | cons _ _ => rfl
    rw [hsel, hne] at hcount
    simp only [hgt, if_true, hne]
    refine .ite (fun hb => .bind ((answer_spec (.batchDeleteImage repo _)
      ⟨by simpa using hb, hrepo, hw, images, himages, hsel.symm, by simpa using hne⟩).weaken
        (fun _ h => h) ?_) fun _ hok => .pure ?_) fun hb => .pure ?_
    all_goals simp_all [Provider.answer, Except.toBool]
  · simp only [hgt, if_false]
    exact .pure (by simp [hcount, ecrSelection, hgt])

/-- The repository loop adds up `repositoryCount`. -/
theorem ecrRepositories_spec : ∀ (repos : List String) (total : Nat),
    (∀ r ∈ repos, r ∈ listed P.describeRepositories) →
    Spec (SweepInv cfg P) (fun t => t = total + (repos.map (repositoryCount cfg P)).sum) X
      (ecrRepositories cfg P repos total)
  | [], total, _ => .pure (by simp)
  | repo :: repos, total, hsub => by
    have ih := fun t => ecrRepositories_spec repos t fun r h => hsub r (.tail _ h)
    simp only [ecrRepositories, pure_bind, bind_pure]
    refine .ite (fun hw => (ih total).weaken (fun t ht => ?_) id) fun hw =>
      .bind (.tryCatch (repositoryBody_spec (hsub _ (.head _)) (by simpa using hw))
        fun hx _ => .bind (appendError_spec _) fun _ _ => .pure hx.symm)
      fun n hn => (ih (total + n)).weaken (fun t ht => ?_) id
    · simp_all [repositoryCount]
    · simp_all
      omega

theorem cleanupEcrImages_spec :
    Spec (SweepInv cfg P) (fun _ => True) X (cleanupEcrImages cfg P) := by
  unfold cleanupEcrImages
  refine .tryCatch (.bind (call_spec .describeRepositories trivial) fun repos hrepos => ?_)
    fun _ _ => appendError_spec _
  replace hrepos : listed P.describeRepositories = repos := by
    show listed (P.answer .describeRepositories) = _
    rw [hrepos]; rfl
  exact .bind (ecrRepositories_spec repos 0 fun _ h => hrepos ▸ h) fun _ ht _ hs =>
    ⟨trivial, hs.record (by simp [ht, expectedFound, hrepos])⟩

/-! ### Logs, buckets, security groups and function versions -/

theorem lastEventRecent_spec {st : Stamp} :
    Spec (SweepInv cfg P) (fun b => b = !lastEventOld cfg st) True (lastEventRecent cfg st) :=
  fun _ hs => by cases st <;> simp_all [lastEventRecent, lastEventOld]

theorem logGroupBody_spec {lg : LogGroup} (hl : lg ∈ listed P.describeLogGroups) :
    Spec (SweepInv cfg P) (fun o => o.isSome = logGroupSelected cfg P lg) True
      (logGroupBody cfg P lg) := by
  simp only [logGroupBody, pure_bind]
  refine .ite (fun hw => .pure ?_) fun hw => .bind lastEventRecent_spec fun b hb =>
    .ite (fun hr => .pure ?_) fun hr =>
      .bind (call_spec (.describeLogStreams _) trivial) fun streams hs =>
        .ite (fun hne => .pure ?_) fun hne =>
          .bind (attempt_spec fun hd => ⟨hd, lg, hl, rfl, ?_⟩) fun _ _ => .pure ?_
  all_goals simp_all [logGroupSelected, noStreams, Provider.answer]

theorem cleanupCloudwatchLogs_spec :
    Spec (SweepInv cfg P) (fun _ => True) X (cleanupCloudwatchLogs cfg P) :=
  sweepKind_spec ((answer_spec .describeLogGroups trivial).weaken (fun rs h => by
    simp only [Provider.answer] at h
    exact ⟨fun _ hv => logGroupBody_spec (by rw [h]; exact hv), by rw [expectedFound, h]; rfl⟩)
    fun _ => trivial)

theorem bucketBody_spec {b : Bucket} (hb : b ∈ listed P.listBuckets) :
    Spec (SweepInv cfg P) (fun o => o.isSome = bucketSelected cfg P b) True
      (bucketBody cfg P b) := by
  simp only [bucketBody, pure_bind]
  refine .ite (fun hw => .pure ?_) fun hw => .tryCatchWith (bucketSelected cfg P b = false)
    (.bind ((answer_spec (.listObjectsV2 _) trivial).weaken (fun _ h => h) ?_) fun c hc =>
      .ite (fun h => .pure ?_) fun h => .bind (item_spec ?_) fun t ht =>
        .ite (fun ho => .pure ?_) fun ho =>
          .bind (attempt_spec fun hd => ⟨hd, b, hb, rfl, ?_⟩) fun _ _ => .pure ?_)
    fun hx _ => .pure (by simp [hx])
  all_goals simp_all [bucketSelected, bucketEmpty, bucketOld_of_ne_absent, Provider.answer]

theorem cleanupEmptyS3Buckets_spec :
    Spec (SweepInv cfg P) (fun _ => True) X (cleanupEmptyS3Buckets cfg P) :=
  sweepKind_spec ((answer_spec .listBuckets trivial).weaken (fun rs h => by
    simp only [Provider.answer] at h
    exact ⟨fun _ hv => bucketBody_spec (by rw [h]; exact hv), by rw [expectedFound, h]; rfl⟩)
    fun _ => trivial)

theorem securityGroupBody_spec {sg : SecurityGroup} {interfaces : List (List String)}
    (hsg : sg ∈ listed P.describeSecurityGroups)
    (hifs : P.describeNetworkInterfaces = .ok interfaces) :
    Spec (SweepInv cfg P) (fun o => o.isSome = securityGroupSelected cfg interfaces.flatten sg) True
      (securityGroupBody cfg P interfaces.flatten sg) := by
  simp only [securityGroupBody, pure_bind]
  refine .ite (fun h1 => .pure ?_) fun h1 => .ite (fun h2 => .pure ?_) fun h2 =>
    .ite (fun h3 => .pure ?_) fun h3 =>
      .bind (attempt_spec fun hd => ⟨hd, interfaces, hifs, sg, hsg, rfl, ?_⟩) fun _ _ => .pure ?_
  all_goals simp_all [securityGroupSelected]

theorem cleanupSecurityGroups_spec :
    Spec (SweepInv cfg P) (fun _ => True) X (cleanupSecurityGroups cfg P) := by
  simp only [cleanupSecurityGroups]
  refine .tryCatch (.bind (call_spec .describeSecurityGroups trivial) fun sgs hsgs =>
    .bind (call_spec .describeNetworkInterfaces trivial) fun ifs hifs => ?_)
    fun _ _ => appendError_spec _
  replace hsgs : listed P.describeSecurityGroups = sgs := by
    show listed (P.answer .describeSecurityGroups) = _
    rw [hsgs]; rfl
  simp only [Provider.answer] at hifs
  exact .bind (collect_spec _ sgs [] fun _ h => securityGroupBody_spec (hsgs ▸ h) hifs)
    fun _ hacc _ hs => ⟨trivial, hs.record (by
      rw [hacc, expectedFound, usedSecurityGroups, hsgs, hifs]; simp [listed])⟩

/-- The delete loop of one function counts every version in a dry run and the returned deletes
otherwise; it never raises. -/
theorem deleteVersions_spec {f : String} {versions : List Version}
    (hf : f ∈ listed P.listFunctions) (hw : isWhitelisted cfg f [] = false)
    (hv : P.listVersionsByFunction f = .ok versions) :
    ∀ (vs : List String) (total : Nat), (∀ v ∈ vs, v ∈ versionsToDelete versions) →
      Spec (SweepInv cfg P) (fun t => t = total + if cfg.dryRun then vs.length
          else (vs.filter fun v => (P.deleteFunction f v).toBool).length) False
        (deleteVersions cfg P f vs total)
  | [], total, _ => .pure (by simp)
  | v :: vs, total, hsub => by
    have ih := fun t => deleteVersions_spec hf hw hv vs t fun v h => hsub v (.tail _ h)
    simp only [deleteVersions]
    refine .ite (fun hd => .bindWith (fun t => t = total +
        if (P.deleteFunction f v).toBool then 1 else 0)
      (.tryCatchWith ((P.deleteFunction f v).toBool = false)
        (.bind ((answer_spec (.deleteFunction f v) ⟨?_, hf, hw, versions, hv, hsub v (.head _)⟩)
          |>.weaken (fun _ h => h) ?_) fun _ hok => .pure ?_)
        fun hx _ => .bind (appendError_spec _) fun _ _ => .pure ?_)
      fun t ht => (ih t).weaken (fun t' h' => ?_) id) fun hd =>
        (ih (total + 1)).weaken (fun t' h' => ?_) id
    all_goals simp_all [Provider.answer, List.filter_cons, Except.toBool]
    · split <;> simp_all
      omega
    · omega

/-- The function loop adds up `functionCount`. -/
theorem lambdaFunctions_spec : ∀ (fs : List String) (total : Nat),
    (∀ f ∈ fs, f ∈ listed P.listFunctions) →
    Spec (SweepInv cfg P) (fun t => t = total + (fs.map (functionCount cfg P)).sum) X
      (lambdaFunctions cfg P fs total)
  | [], total, _ => .pure (by simp)
  | f :: fs, total, hsub => by
    have ih := fun t => lambdaFunctions_spec fs t fun r h => hsub r (.tail _ h)
    simp only [lambdaFunctions, pure_bind, bind_pure]
    refine .ite (fun hw => (ih total).weaken (fun t ht => ?_) id) fun hw =>
      .bindWith (fun t => t = total + functionCount cfg P f)
        (.tryCatchWith (functionCount cfg P f = 0)
          (.bind ((answer_spec (.listVersionsByFunction f) trivial).weaken (fun _ h => h) ?_)
            fun versions hv => (deleteVersions_spec (hsub f (.head _)) (by simpa using hw) hv
              (versionsToDelete versions) total fun _ h => h).weaken (fun t ht => ?_) False.elim)
          fun hx _ => .pure (by simp [hx]))
        fun t ht => (ih t).weaken (fun t' h' => ?_) id
    all_goals simp_all [functionCount, Provider.answer]
    omega

theorem cleanupOldLambdaVersions_spec :
    Spec (SweepInv cfg P) (fun _ => True) X (cleanupOldLambdaVersions cfg P) := by
  unfold cleanupOldLambdaVersions
  refine .tryCatch (.bind (call_spec .listFunctions trivial) fun fs hfs => ?_)
    fun _ _ => appendError_spec _
  replace hfs : listed P.listFunctions = fs := by
    show listed (P.answer .listFunctions) = _
    rw [hfs]; rfl
  exact .bind (lambdaFunctions_spec fs 0 fun _ h => hfs ▸ h) fun _ ht _ hs =>
    ⟨trivial, hs.record (by simp [ht, expectedFound, hfs])⟩

/-! ### The whole run -/

theorem sendNotification_spec :
    Spec (SweepInv cfg P) (fun _ => True) X (sendNotification cfg P) := by
  unfold sendNotification
  split
  · exact .ite (fun _ => swallow_spec _ trivial) fun _ => .pure trivial
  · exact .pure trivial

/-- `if CLEAN_X: cleanup_x(summary)`. -/
theorem enabled_spec {c : Prop} [Decidable c] {m : Py Unit}
    (hm : Spec (SweepInv cfg P) (fun _ => True) X m) :
    Spec (SweepInv cfg P) (fun _ => True) X (if c then m else pure ()) :=
  .ite (fun _ => hm) fun _ => .pure trivial

theorem handler_spec : Spec (SweepInv cfg P) (fun _ => True) True (handler cfg P) := by
  unfold handler
  refine .bind (.tryCatchWith True ?_ fun _ _ => appendError_spec _) fun _ _ =>
    sendNotification_spec
  exact .bind (enabled_spec cleanupEbsVolumes_spec) fun _ _ =>
    .bind (enabled_spec cleanupEbsSnapshots_spec) fun _ _ =>
    .bind (enabled_spec cleanupElasticIps_spec) fun _ _ =>
    .bind (enabled_spec cleanupLoadBalancers_spec) fun _ _ =>
    .bind (enabled_spec cleanupNatGateways_spec) fun _ _ =>
    .bind (enabled_spec cleanupRdsSnapshots_spec) fun _ _ =>
    .bind (enabled_spec cleanupAmiImages_spec) fun _ _ =>
    .bind (enabled_spec cleanupEcrImages_spec) fun _ _ =>
    .bind (enabled_spec cleanupCloudwatchLogs_spec) fun _ _ =>
    .bind (enabled_spec cleanupEmptyS3Buckets_spec) fun _ _ =>
    .bind (enabled_spec cleanupSecurityGroups_spec) fun _ _ =>
    enabled_spec cleanupOldLambdaVersions_spec

/-- **The sweep agrees with the abstract model.** Every call a run of `handler` makes is
justified, and every count it writes is the expected one, for every configuration and every
provider. -/
theorem run_sweepInv (cfg : Config) (P : Provider) : SweepInv cfg P (run cfg P) :=
  handler_spec.final SweepInv.empty

end OddiyaOps.Cleanup
