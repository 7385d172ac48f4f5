import OddiyaOps.Cleanup.Tally
import OddiyaOps.Cleanup.Safety
import Mathlib.Data.List.Forall2
import Mathlib.Algebra.BigOperators.Group.List

/-!
# OddiyaOps.Cleanup.Failures

**A failed call of one record stays with that record; a failed listing stays with its handler.**

A handler of `cleanup.py` lists its records and runs its loop body on each. When its listings
return, the handler is made of its records' parts (`Kind.contribution_splitsInto`): the count it
writes is the sum of what the records add, and its errors and its calls past the listings are
those of the records in turn. Each part is computed from the answers to the calls it makes
(`Kind.recordParts_agree`), so a call that raises changes only the parts that make it.
`run_failures_scoped` puts this together with the error accounting of
`OddiyaOps.Cleanup.Tally` and the handler independence of `OddiyaOps.Cleanup.Compose`. Two paths
of the source leave this picture: a raising `describe_target_groups` records nothing
(`target_groups_failure_unrecorded`), and `describe_log_streams`, which unlike the other
per-record lookups has no `try` of its own, ends the whole log-group loop when it raises
(`log_streams_failure_ends_handler`).

## Proof shape

`part count m` is what `m` adds from the empty state, with the count of its value. A loop whose
bodies all return runs each body in turn (`collect_run`). The two loops that carry a total
through a `try` add to it what they add from zero (`ecrRepositories_add`, `deleteVersions_shift`)
and so split the same way (`ecrRepositories_run`, `lambdaFunctions_run`). Per handler the state
is then its listings, its records' parts and its count (`Sweep.splitsInto_record`); the bodies
return because they keep a tally both loud and quiet (`Tally.returns`).
-/

namespace OddiyaOps.Cleanup

open OddiyaOps.Python Py

/-! ### Each record's part of a handler's loop -/

namespace Py

variable {α : Type}

/-- What a loop body does on its own, from the empty state: what it adds to the handler's count
(`count` of its value), and the calls and errors it adds. -/
def part (count : α → Nat) (m : Py α) : Nat × Sweep :=
  match m Sweep.empty with
  | .ok a d => (count a, d)
  | .error _ d => (0, d)

theorem part_snd (count : α → Nat) (m : Py α) : (part count m).2 = final m Sweep.empty := by
  unfold part final
  cases m Sweep.empty <;> rfl

/-- A part is computed from the answers to the calls it makes. -/
theorem part_agree {Q : Call → Prop} {M : Provider → Py α} (hM : Local Q M) (count : α → Nat)
    {P P' : Provider} (h : ∀ c ∈ (part count (M P)).2.calls, P.answer c = P'.answer c) :
    part count (M P') = part count (M P) := by
  rw [part_snd] at h
  unfold part
  rw [hM.agree P P' h]

/-- A program that keeps the balance whether or not its raises are counted never raises. -/
theorem Tally.returns {P : Provider} {rep : Call → Bool} {R : α → Prop} {m : Py α}
    (h1 : Tally P rep true R m) (h0 : Tally P rep false R m) (s : Sweep) :
    ∃ a s', m s = .ok a s' ∧ R a := by
  have e1 := h1 s
  have e0 := h0 s
  revert e1 e0
  cases m s with
  | ok a s' => exact fun e1 _ => ⟨a, s', rfl, e1.1⟩
  | error e s' =>
    intro e1 e0
    simp only [↓reduceIte, Bool.false_eq_true] at e1 e0
    omega

end Py

variable (cfg : Config)

/-- The count a body of `collect` adds: one for an appended entry. -/
def entryCount (o : Option String) : Nat := if o.isSome then 1 else 0

@[simp] theorem Sweep.concat_nil : Sweep.concat [] = Sweep.empty := rfl

@[simp] theorem Sweep.concat_cons (d : Sweep) (ds : List Sweep) :
    Sweep.concat (d :: ds) = d.extend (Sweep.concat ds) := rfl

theorem Sweep.concat_calls (ds : List Sweep) : (Sweep.concat ds).calls = ds.flatMap (·.calls) := by
  induction ds with
  | nil => rfl
  | cons d ds ih => simp [Sweep.extend, ih]

/-- A loop whose bodies all return runs each body in turn: its state is theirs, one after the
other, and it appends one entry per body that returns one. -/
theorem collect_run {ρ : Type} {body : ρ → Py (Option String)} (hob : ∀ r, Oblivious (body r)) :
    ∀ (rs : List ρ), (∀ r ∈ rs, ∃ o d, body r Sweep.empty = .ok o d) → ∀ acc s,
      ∃ acc', collect body rs acc s =
          .ok acc' (s.extend (Sweep.concat (rs.map fun r => (part entryCount (body r)).2))) ∧
        acc'.length = acc.length + (rs.map fun r => (part entryCount (body r)).1).sum
  | [], _, acc, s => ⟨acc, by simp; rfl, by simp⟩
  | r :: rs, hret, acc, s => by
    obtain ⟨o, d, hd⟩ := hret r (.head _)
    have ih := collect_run hob rs fun r h => hret r (.tail _ h)
    have hr : body r s = .ok o (s.extend d) := by rw [hob r s, hd]; rfl
    have hpart : part entryCount (body r) = (entryCount o, d) := by simp only [part, hd]
    have hstep : collect body (r :: rs) acc s =
        collect body rs (acc ++ o.toList) (s.extend d) := by
      show EStateM.bind (body r) _ s = _
      simp only [EStateM.bind, hr]
      cases o <;> simp
    obtain ⟨acc', h1, h2⟩ := ih (acc ++ o.toList) (s.extend d)
    refine ⟨acc', by rw [hstep, h1, List.map_cons, hpart, Sweep.concat_cons, Sweep.extend_assoc],
      ?_⟩
    rw [h2, List.map_cons, hpart, List.sum_cons, List.length_append]
    cases o <;> simp [entryCount, Nat.add_assoc]

@[simp] theorem Sweep.record_found_self (s : Sweep) (d : Bool) (k : Kind) (n : Nat) :
    (s.record d k n).found k = some n := by
  simp [Sweep.record]

@[simp] theorem Sweep.extend_calls (s d : Sweep) : (s.extend d).calls = s.calls ++ d.calls := rfl

/-- A sweep handler whose listing returns and whose bodies all return: its listing call, each
record's part in turn, then its counts. -/
theorem sweepKind_final {ρ : Type} {kind : Kind} {label : String} {listing : Py (List ρ)}
    {body : ρ → Py (Option String)} {rs : List ρ} {c : Call}
    (hl : ∀ s, listing s = .ok rs (s.issue c)) (hob : ∀ r, Oblivious (body r))
    (hret : ∀ r ∈ rs, ∃ o d, body r Sweep.empty = .ok o d) :
    final (sweepKind cfg kind label listing body) Sweep.empty =
      ((Sweep.empty.issue c).extend (Sweep.concat (rs.map fun r => (part entryCount (body r)).2))).record
        cfg.dryRun kind (rs.map fun r => (part entryCount (body r)).1).sum := by
  obtain ⟨acc', h1, h2⟩ := collect_run hob rs hret [] (Sweep.empty.issue c)
  simp only [List.length_nil, Nat.zero_add] at h2
  have hinner : (do
      let records ← listing
      let toDelete ← collect body records []
      recordCounts cfg.dryRun kind toDelete.length : Py Unit) Sweep.empty =
      .ok () (((Sweep.empty.issue c).extend (Sweep.concat (rs.map fun r =>
        (part entryCount (body r)).2))).record cfg.dryRun kind acc'.length) := by
    show EStateM.bind listing (fun records => EStateM.bind (collect body records [])
      fun toDelete => recordCounts cfg.dryRun kind toDelete.length) Sweep.empty = _
    simp only [EStateM.bind, hl, h1]
    rfl
  unfold sweepKind final
  rw [tryCatch_apply, hinner, h2]

/-! ### The loops that carry a total -/

theorem bind_apply {α β : Type} {m : Py α} {f : α → Py β} {s : Sweep} :
    (m >>= f) s = match m s with
      | .ok a s' => f a s'
      | .error e s' => .error e s' := by
  show EStateM.bind m f s = _
  simp only [EStateM.bind]
  cases m s <;> rfl

theorem call_ok {P : Provider} {c : Call} {r : c.Resp} (h : P.answer c = .ok r) (s : Sweep) :
    call P c s = .ok r (s.issue c) := by
  simp only [call, h]

theorem call_error {P : Provider} {c : Call} {e : String} (h : P.answer c = .error e) (s : Sweep) :
    call P c s = .error e (s.issue c) := by
  simp only [call, h]

section Totals

variable {P : Provider}

theorem ecrRepositories_add : ∀ (repos : List String) (total : Nat),
    ecrRepositories cfg P repos total = (total + ·) <$> ecrRepositories cfg P repos 0
  | [], total => by simp [ecrRepositories]
  | repo :: repos, total => by
    simp only [ecrRepositories, pure_bind, bind_pure]
    rw [ecrRepositories_add repos total, ecrRepositories_add repos 0]
    split
    · rfl
    · simp only [map_bind, ecrRepositories_add repos (total + _), ecrRepositories_add repos (0 + _)]
      congr 1
      funext n
      rw [← comp_map]
      congr 1
      funext m
      simp only [Function.comp, Nat.zero_add, Nat.add_assoc]

theorem ecrRepositories_cons (repo : String) (repos : List String) (total : Nat) :
    ecrRepositories cfg P (repo :: repos) total =
      ecrRepositories cfg P [repo] total >>= fun t => ecrRepositories cfg P repos t := by
  simp only [ecrRepositories, pure_bind, bind_pure]
  split
  · simp
  · simp [bind_assoc]

/-- The repository loop runs each repository in turn, adding up what each adds. -/
theorem ecrRepositories_run : ∀ (repos : List String) (total : Nat) (s : Sweep),
    ecrRepositories cfg P repos total s =
      .ok (total + (repos.map fun r => (part id (ecrRepositories cfg P [r] 0)).1).sum)
        (s.extend (Sweep.concat (repos.map fun r => (part id (ecrRepositories cfg P [r] 0)).2)))
  | [], total, s => by simp [ecrRepositories]; rfl
  | repo :: repos, total, s => by
    obtain ⟨n, d, hd, -⟩ := Tally.returns
      (ecrRepositories_tally cfg [repo] 0 : Tally P Kind.ecrImages.reports true (fun _ => True) _)
      (ecrRepositories_tally cfg [repo] 0) Sweep.empty
    have hs : ecrRepositories cfg P [repo] total s = .ok (total + n) (s.extend d) := by
      rw [ecrRepositories_add, map_eq_pure_bind]
      show EStateM.bind _ _ s = _
      rw [EStateM.bind, (ecrRepositories_local cfg [repo] 0).oblivious P s, hd]
      rfl
    have hpart : part id (ecrRepositories cfg P [repo] 0) = (n, d) := by simp [part, hd]
    rw [ecrRepositories_cons]
    show EStateM.bind _ _ s = _
    rw [EStateM.bind, hs]
    simp only [ecrRepositories_run repos, List.map_cons, hpart, List.sum_cons, Sweep.concat_cons,
      Sweep.extend_assoc, id, Nat.add_assoc]

/-- The version loop adds to its total what it adds from zero. -/
theorem deleteVersions_shift (f : String) : ∀ (versions : List String) (s : Sweep),
    ∃ n s', deleteVersions cfg P f versions 0 s = .ok n s' ∧
      ∀ total, deleteVersions cfg P f versions total s = .ok (total + n) s'
  | [], s => ⟨0, s, rfl, fun _ => rfl⟩
  | v :: vs, s => by
    simp only [deleteVersions]
    split
    · have hstep : ∃ b s1, ∀ t, (tryCatch (call P (.deleteFunction f v) >>= fun _ => pure (t + 1))
          fun e => appendError ("Failed to delete Lambda version " ++ f ++ ":" ++ v ++ ": " ++ e) >>=
            fun _ => pure t : Py Nat) s = .ok (t + b) s1 := by
        cases hc : P.answer (.deleteFunction f v) with
        | error e => exact ⟨0, _, fun t => by simp only [tryCatch_apply, bind_apply, call_error hc]; rfl⟩
        | ok r => exact ⟨1, _, fun t => by simp only [tryCatch_apply, bind_apply, call_ok hc]; rfl⟩
      obtain ⟨b, s1, hb⟩ := hstep
      obtain ⟨n, s', h0, ht⟩ := deleteVersions_shift f vs s1
      refine ⟨b + n, s', ?_, fun t => ?_⟩
      · show EStateM.bind _ _ s = _
        rw [EStateM.bind, hb 0]
        simp only [Nat.zero_add, ht]
      · show EStateM.bind _ _ s = _
        rw [EStateM.bind, hb t]
        simp only [ht, Nat.add_assoc]
    · obtain ⟨n, s', h0, ht⟩ := deleteVersions_shift f vs s
      exact ⟨1 + n, s', by rw [ht], fun t => by rw [ht, Nat.add_assoc]⟩

theorem lambdaFunction_shift (f : String) (s : Sweep) :
    ∃ n s', ∀ total, lambdaFunctions cfg P [f] total s = .ok (total + n) s' := by
  simp only [lambdaFunctions, pure_bind, bind_pure]
  split
  · exact ⟨0, s, fun _ => rfl⟩
  · cases hc : P.answer (.listVersionsByFunction f) with
    | error e =>
      exact ⟨0, _, fun t => by simp only [bind_apply, tryCatch_apply, call_error hc]; rfl⟩
    | ok vs =>
      obtain ⟨n, s', -, ht⟩ := deleteVersions_shift cfg (P := P) f (versionsToDelete vs)
        (s.issue (.listVersionsByFunction f))
      exact ⟨n, s', fun t => by simp only [bind_apply, tryCatch_apply, call_ok hc, ht]⟩

theorem lambdaFunctions_cons (f : String) (fs : List String) (total : Nat) :
    lambdaFunctions cfg P (f :: fs) total =
      lambdaFunctions cfg P [f] total >>= fun t => lambdaFunctions cfg P fs t := by
  simp only [lambdaFunctions, pure_bind, bind_pure]
  split
  · simp
  · simp [bind_assoc]

/-- The function loop runs each function in turn, adding up what each adds. -/
theorem lambdaFunctions_run : ∀ (fs : List String) (total : Nat) (s : Sweep),
    lambdaFunctions cfg P fs total s =
      .ok (total + (fs.map fun f => (part id (lambdaFunctions cfg P [f] 0)).1).sum)
        (s.extend (Sweep.concat (fs.map fun f => (part id (lambdaFunctions cfg P [f] 0)).2)))
  | [], total, s => by simp [lambdaFunctions]; rfl
  | f :: fs, total, s => by
    obtain ⟨n, d, hd⟩ := lambdaFunction_shift cfg f Sweep.empty
    obtain ⟨n', s', hs⟩ := lambdaFunction_shift cfg f s
    have hob := (lambdaFunctions_local cfg [f] 0).oblivious P s
    rw [hs 0, hd 0] at hob
    simp only [Nat.zero_add] at hob
    obtain ⟨rfl, rfl⟩ : n = n' ∧ s' = s.extend d := by
      injection hob with h1 h2
      exact ⟨h1.symm, h2⟩
    have hpart : part id (lambdaFunctions cfg P [f] 0) = (n, d) := by
      simp only [part, hd 0, Nat.zero_add, id]
    rw [lambdaFunctions_cons, bind_apply, hs total]
    simp only [lambdaFunctions_run fs, List.map_cons, hpart, List.sum_cons, Sweep.concat_cons,
      Sweep.extend_assoc, Nat.add_assoc]

end Totals

/-! ### Each handler as its records' parts -/

/-- Each record's part of handler `k`'s loop, in the order the loop meets the records the
provider lists: what the record adds to the count `k` writes, and the calls and errors it adds.
A repository or a function adds what its own loop adds to the running total. -/
def Kind.recordParts (P : Provider) : Kind → List (Nat × Sweep)
  | .ebsVolumes => (listed P.describeVolumes).map fun v => part entryCount (volumeBody cfg P v)
  | .ebsSnapshots => (listed P.describeSnapshots).map fun sn =>
    part entryCount (snapshotBody cfg P sn)
  | .elasticIps => (listed P.describeAddresses).map fun eip =>
    part entryCount (addressBody cfg P eip)
  | .loadBalancers => (listed P.describeLoadBalancers).map fun lb =>
    part entryCount (loadBalancerBody cfg P lb)
  | .natGateways => (listed P.describeNatGateways).map fun nat =>
    part entryCount (natGatewayBody cfg P nat)
  | .rdsSnapshots =>
    (listed P.describeDbSnapshots).map (fun sn => part entryCount (dbSnapshotBody cfg P sn)) ++
      (listed P.describeDbClusterSnapshots).map fun sn =>
        part entryCount (dbClusterSnapshotBody cfg P sn)
  | .amiImages => (listed P.describeImages).map fun im => part entryCount (imageBody cfg P im)
  | .ecrImages => (listed P.describeRepositories).map fun r =>
    part id (ecrRepositories cfg P [r] 0)
  | .cloudwatchLogs => (listed P.describeLogGroups).map fun lg =>
    part entryCount (logGroupBody cfg P lg)
  | .s3Buckets => (listed P.listBuckets).map fun b => part entryCount (bucketBody cfg P b)
  | .securityGroups => (listed P.describeSecurityGroups).map fun sg =>
    part entryCount (securityGroupBody cfg P (usedSecurityGroups P) sg)
  | .lambdaVersions => (listed P.listFunctions).map fun f => part id (lambdaFunctions cfg P [f] 0)

/-- `d` is made of `parts` as a handler's state is of its records' parts: the count it writes for
`k` is theirs summed, and its errors and its calls past the listings are theirs, in order. -/
def Sweep.SplitsInto (d : Sweep) (k : Kind) (parts : List (Nat × Sweep)) : Prop :=
  d.found k = some (parts.map (·.1)).sum ∧
    d.calls.filter (fun c => c.listingOf.isNone) = parts.flatMap (·.2.calls) ∧
    d.errors = parts.flatMap (·.2.errors)

@[simp] theorem Sweep.extend_errors (s d : Sweep) : (s.extend d).errors = s.errors ++ d.errors :=
  rfl

theorem Sweep.concat_errors (ds : List Sweep) :
    (Sweep.concat ds).errors = ds.flatMap (·.errors) := by
  induction ds with
  | nil => rfl
  | cons d ds ih => simp [Sweep.extend, ih]

theorem part_perRecord {α : Type} {M : Provider → Py α} (hM : Local Call.perRecord M)
    (count : α → Nat) (P : Provider) : ∀ c ∈ (part count (M P)).2.calls, c.perRecord := by
  rw [part_snd]
  exact hM.issues P

theorem parts_perRecord {ρ α : Type} {M : Provider → ρ → Py α}
    (hM : ∀ r, Local Call.perRecord fun P => M P r) (count : α → Nat) (P : Provider)
    (rs : List ρ) : ∀ p ∈ rs.map (fun r => part count (M P r)), ∀ c ∈ p.2.calls, c.perRecord := by
  simp only [List.mem_map]
  rintro _ ⟨r, -, rfl⟩
  exact part_perRecord (hM r) count P

/-- Without the listings, the calls of the parts in turn are all per-record. -/
theorem concat_parts_calls {parts : List (Nat × Sweep)}
    (hp : ∀ p ∈ parts, ∀ c ∈ p.2.calls, c.perRecord) :
    (Sweep.concat (parts.map (·.2))).calls.filter (fun c => c.listingOf.isNone) =
      parts.flatMap (·.2.calls) := by
  rw [Sweep.concat_calls, List.flatMap_map]
  refine List.filter_eq_self.2 fun c hc => ?_
  obtain ⟨p, hp', hc⟩ := List.mem_flatMap.1 hc
  simp [show c.listingOf = none from hp p hp' c hc]

theorem concat_map_parts_calls {ρ α : Type} {M : Provider → ρ → Py α}
    (hM : ∀ r, Local Call.perRecord fun P => M P r) (count : α → Nat) (P : Provider)
    (rs : List ρ) :
    (Sweep.concat (rs.map fun r => (part count (M P r)).2)).calls.filter
      (fun c => c.listingOf.isNone) = (rs.map fun r => part count (M P r)).flatMap (·.2.calls) := by
  simpa only [List.map_map, Function.comp_def] using concat_parts_calls (parts_perRecord hM count P rs)

theorem concat_parts_errors (parts : List (Nat × Sweep)) :
    (Sweep.concat (parts.map (·.2))).errors = parts.flatMap (·.2.errors) := by
  rw [Sweep.concat_errors, List.flatMap_map]

/-- Listings first, the records' parts in turn, then the count: a state made of its parts. -/
theorem Sweep.splitsInto_record {L : Sweep} {parts : List (Nat × Sweep)}
    (hL : L.calls.filter (fun c => c.listingOf.isNone) = []) (hLe : L.errors = [])
    (hp : ∀ p ∈ parts, ∀ c ∈ p.2.calls, c.perRecord) (dry : Bool) (k : Kind) :
    ((L.extend (Sweep.concat (parts.map (·.2)))).record dry k
      (parts.map (·.1)).sum).SplitsInto k parts := by
  refine ⟨Sweep.record_found_self .., ?_, ?_⟩
  · rw [Sweep.record_calls, Sweep.extend_calls, List.filter_append, hL, concat_parts_calls hp]
    rfl
  · rw [Sweep.record_errors, Sweep.extend_errors, hLe, concat_parts_errors]
    rfl

theorem returns_of_tally {α : Type} {P : Provider} {rep : Call → Bool} {R : α → Prop} {m : Py α}
    (h : ∀ loud, Tally P rep loud R m) : ∃ a d, m Sweep.empty = .ok a d :=
  let ⟨a, d, hm, _⟩ := Tally.returns (h true) (h false) Sweep.empty
  ⟨a, d, hm⟩

theorem Provider.answer_of_raises {P : Provider} {c : Call} (h : P.raises c = false) :
    ∃ r, P.answer c = .ok r := by
  cases hc : P.answer c with
  | ok r => exact ⟨r, rfl⟩
  | error e => simp [Provider.raises, hc] at h

/-- A sweep handler whose listing returns and whose bodies all return is made of its records'
parts. -/
theorem sweepKind_splitsInto {ρ : Type} {kind : Kind} {label : String} {listing : Py (List ρ)}
    {B : Provider → ρ → Py (Option String)} {P : Provider} {rs : List ρ} {c : Call}
    (hc : c.listingOf = some kind) (hl : ∀ s, listing s = .ok rs (s.issue c))
    (hB : ∀ r, Local Call.perRecord fun P => B P r)
    (hret : ∀ r ∈ rs, ∃ o d, B P r Sweep.empty = .ok o d) :
    (final (sweepKind cfg kind label listing (B P)) Sweep.empty).SplitsInto kind
      (rs.map fun r => part entryCount (B P r)) := by
  rw [sweepKind_final cfg hl (fun r => (hB r).oblivious P) hret]
  have h := Sweep.splitsInto_record (L := Sweep.empty.issue c) (by simp [Sweep.empty, hc]) rfl
    (parts_perRecord hB entryCount P rs) cfg.dryRun kind
  simpa only [List.map_map, Function.comp_def] using h

theorem recordCounts_apply (d : Bool) (k : Kind) (n : Nat) (s : Sweep) :
    recordCounts d k n s = .ok () (s.record d k n) := rfl

theorem final_tryCatch {α : Type} {m : Py α} {h : String → Py α} {a : α} {d : Sweep}
    (hm : m Sweep.empty = .ok a d) : final (tryCatch m h) Sweep.empty = d := by
  simp only [final, tryCatch_ok hm]

/-- A handler that threads a total through a loop over listed names is made of each name's
part of the loop. -/
theorem totalKind_splitsInto {kind : Kind} {c : Call} {listing : Py (List String)}
    {loop : Provider → List String → Nat → Py Nat} {h : String → Py Unit} {P : Provider}
    {rs : List String} (hc : c.listingOf = some kind) (hl : ∀ s, listing s = .ok rs (s.issue c))
    (hloop : ∀ r, Local Call.perRecord fun P => loop P [r] 0)
    (hrun : ∀ s, loop P rs 0 s = .ok (0 + (rs.map fun r => (part id (loop P [r] 0)).1).sum)
      (s.extend (Sweep.concat (rs.map fun r => (part id (loop P [r] 0)).2)))) :
    (final (tryCatch (listing >>= fun xs => loop P xs 0 >>= fun total =>
      recordCounts cfg.dryRun kind total) h) Sweep.empty).SplitsInto kind
      (rs.map fun r => part id (loop P [r] 0)) := by
  have hm : (listing >>= fun xs => loop P xs 0 >>= fun total =>
      recordCounts cfg.dryRun kind total) Sweep.empty = .ok ()
        (((Sweep.empty.issue c).extend (Sweep.concat ((rs.map fun r => part id (loop P [r] 0)).map
          (·.2)))).record cfg.dryRun kind ((rs.map fun r => part id (loop P [r] 0)).map (·.1)).sum) := by
    simp only [bind_apply, hl, hrun, recordCounts_apply, List.map_map, Function.comp_def,
      Nat.zero_add]
  rw [final_tryCatch hm]
  exact Sweep.splitsInto_record (by simp [Sweep.empty, hc]) rfl
    (parts_perRecord hloop id P rs) _ _

section WellFormedParts

variable {P : Provider} (W : WellFormed P)
include W

/-- A handler whose listings return, and, for the log groups, whose `describe_log_streams` calls
return, is made of its records' parts. -/
theorem Kind.contribution_splitsInto (k : Kind) (hl : ∀ c, c.listingOf = some k → P.raises c = false)
    (hlogs : k = .cloudwatchLogs → ∀ n, P.raises (.describeLogStreams n) = false) :
    (contribution cfg P k).SplitsInto k (k.recordParts cfg P) := by
  cases k with
  | ebsVolumes =>
    obtain ⟨rs, hok⟩ := Provider.answer_of_raises (hl .describeVolumes rfl)
    simp only [Kind.recordParts, show P.describeVolumes = .ok rs from hok, listed_ok]
    exact sweepKind_splitsInto cfg (by exact rfl) (call_ok hok) (volumeBody_local cfg) fun v hv =>
      returns_of_tally fun _ => volumeBody_tally cfg (W.volumes v (mem_listed hok hv))
  | ebsSnapshots =>
    obtain ⟨rs, hok⟩ := Provider.answer_of_raises (hl .describeSnapshots rfl)
    simp only [Kind.recordParts, show P.describeSnapshots = .ok rs from hok, listed_ok]
    exact sweepKind_splitsInto cfg (by exact rfl) (call_ok hok) (snapshotBody_local cfg) fun sn hs =>
      returns_of_tally fun _ => snapshotBody_tally cfg (W.snapshots sn (mem_listed hok hs))
  | elasticIps =>
    obtain ⟨rs, hok⟩ := Provider.answer_of_raises (hl .describeAddresses rfl)
    simp only [Kind.recordParts, show P.describeAddresses = .ok rs from hok, listed_ok]
    exact sweepKind_splitsInto cfg (by exact rfl) (call_ok hok) (addressBody_local cfg) fun eip he =>
      returns_of_tally fun _ => addressBody_tally cfg (W.addresses eip (mem_listed hok he))
  | loadBalancers =>
    obtain ⟨rs, hok⟩ := Provider.answer_of_raises (hl .describeLoadBalancers rfl)
    simp only [Kind.recordParts, show P.describeLoadBalancers = .ok rs from hok, listed_ok]
    exact sweepKind_splitsInto cfg (by exact rfl) (call_ok hok) (loadBalancerBody_local cfg) fun lb hb =>
      returns_of_tally fun _ => loadBalancerBody_tally cfg (W.loadBalancers lb (mem_listed hok hb))
  | natGateways =>
    obtain ⟨rs, hok⟩ := Provider.answer_of_raises (hl .describeNatGateways rfl)
    simp only [Kind.recordParts, show P.describeNatGateways = .ok rs from hok, listed_ok]
    exact sweepKind_splitsInto cfg (by exact rfl) (call_ok hok) (natGatewayBody_local cfg) fun nat hn =>
      returns_of_tally fun _ => natGatewayBody_tally cfg (W.natGateways nat (mem_listed hok hn))
  | rdsSnapshots =>
    obtain ⟨dbs, h1⟩ := Provider.answer_of_raises (hl .describeDbSnapshots rfl)
    obtain ⟨cls, h2⟩ := Provider.answer_of_raises (hl .describeDbClusterSnapshots rfl)
    obtain ⟨acc1, r1, n1⟩ := collect_run (fun sn => (dbSnapshotBody_local cfg sn).oblivious P) dbs
      (fun sn hs => returns_of_tally fun _ =>
        dbSnapshotBody_tally cfg (W.dbSnapshots sn (mem_listed h1 hs))) []
      (Sweep.empty.issue .describeDbSnapshots)
    obtain ⟨acc2, r2, n2⟩ := collect_run (fun sn => (dbClusterSnapshotBody_local cfg sn).oblivious P)
      cls (fun sn hs => returns_of_tally fun _ =>
        dbClusterSnapshotBody_tally cfg (W.dbClusterSnapshots sn (mem_listed h2 hs))) acc1
      (((Sweep.empty.issue .describeDbSnapshots).extend (Sweep.concat (dbs.map fun sn =>
        (part entryCount (dbSnapshotBody cfg P sn)).2))).issue .describeDbClusterSnapshots)
    simp only [Kind.recordParts, show P.describeDbSnapshots = .ok dbs from h1,
      show P.describeDbClusterSnapshots = .ok cls from h2, listed_ok]
    unfold contribution Kind.cleanup cleanupRdsSnapshots
    rw [final_tryCatch (by simp only [bind_apply, call_ok h1, r1, call_ok h2, r2, recordCounts_apply]; exact rfl)]
    refine ⟨?_, ?_, ?_⟩
    · simp only [Sweep.record_found_self, n2, n1, List.map_append, List.sum_append, List.map_map,
        Function.comp_def, List.length_nil, Nat.zero_add]
    · simp only [Sweep.record_calls, Sweep.extend_calls, Sweep.issue_calls, List.filter_append,
        concat_map_parts_calls (dbSnapshotBody_local cfg) entryCount P dbs,
        concat_map_parts_calls (dbClusterSnapshotBody_local cfg) entryCount P cls]
      simp [Sweep.empty, Call.listingOf, List.flatMap_append]
    · simp [Sweep.empty, Sweep.concat_errors, List.flatMap_append, List.flatMap_map]
  | amiImages =>
    obtain ⟨rs, hok⟩ := Provider.answer_of_raises (hl .describeImages rfl)
    simp only [Kind.recordParts, show P.describeImages = .ok rs from hok, listed_ok]
    exact sweepKind_splitsInto cfg (by exact rfl) (call_ok hok) (imageBody_local cfg) fun im hi =>
      returns_of_tally fun _ => imageBody_tally cfg (W.images im (mem_listed hok hi))
  | ecrImages =>
    obtain ⟨rs, hok⟩ := Provider.answer_of_raises (hl .describeRepositories rfl)
    simp only [Kind.recordParts, show P.describeRepositories = .ok rs from hok, listed_ok]
    exact totalKind_splitsInto cfg (by exact rfl) (call_ok hok) (fun r => ecrRepositories_local cfg [r] 0)
      (ecrRepositories_run cfg rs 0)
  | cloudwatchLogs =>
    obtain ⟨rs, hok⟩ := Provider.answer_of_raises (hl .describeLogGroups rfl)
    simp only [Kind.recordParts, show P.describeLogGroups = .ok rs from hok, listed_ok]
    exact sweepKind_splitsInto cfg (by exact rfl) (call_ok hok) (logGroupBody_local cfg) fun lg hg =>
      returns_of_tally fun _ => logGroupBody_tally cfg (W.logGroups lg (mem_listed hok hg))
        (.inr (hlogs rfl _))
  | s3Buckets =>
    obtain ⟨rs, hok⟩ := Provider.answer_of_raises (hl .listBuckets rfl)
    simp only [Kind.recordParts, show P.listBuckets = .ok rs from hok, listed_ok]
    exact sweepKind_splitsInto cfg (by exact rfl) (call_ok hok) (bucketBody_local cfg) fun b _ =>
      returns_of_tally fun _ => bucketBody_tally cfg b
  | securityGroups =>
    obtain ⟨sgs, h1⟩ := Provider.answer_of_raises (hl .describeSecurityGroups rfl)
    obtain ⟨ifs, h2⟩ := Provider.answer_of_raises (hl .describeNetworkInterfaces rfl)
    obtain ⟨acc, r, n⟩ := collect_run (fun sg => (securityGroupBody_local cfg ifs.flatten sg).oblivious P)
      sgs (fun sg _ => returns_of_tally fun _ => securityGroupBody_tally cfg _ sg) []
      ((Sweep.empty.issue .describeSecurityGroups).issue .describeNetworkInterfaces)
    simp only [Kind.recordParts, usedSecurityGroups, show P.describeSecurityGroups = .ok sgs from h1,
      show P.describeNetworkInterfaces = .ok ifs from h2, listed_ok]
    unfold contribution Kind.cleanup cleanupSecurityGroups
    rw [final_tryCatch (by simp only [bind_apply, call_ok h1, call_ok h2, r, recordCounts_apply]; exact rfl)]
    have h := Sweep.splitsInto_record (L := (Sweep.empty.issue .describeSecurityGroups).issue
      .describeNetworkInterfaces) (by simp [Sweep.empty, Call.listingOf]) rfl
      (parts_perRecord (securityGroupBody_local cfg ifs.flatten) entryCount P sgs) cfg.dryRun
      .securityGroups
    simpa only [List.map_map, Function.comp_def, n, List.length_nil, Nat.zero_add] using h
  | lambdaVersions =>
    obtain ⟨rs, hok⟩ := Provider.answer_of_raises (hl .listFunctions rfl)
    simp only [Kind.recordParts, show P.listFunctions = .ok rs from hok, listed_ok]
    exact totalKind_splitsInto cfg (by exact rfl) (call_ok hok) (fun f => lambdaFunctions_local cfg [f] 0)
      (lambdaFunctions_run cfg rs 0)

end WellFormedParts

/-- Each record's part is the same under two providers that agree on the calls the part makes. -/
theorem parts_agree {ρ α : Type} {Q : Call → Prop} {M : Provider → ρ → Py α}
    (hM : ∀ r, Local Q fun P => M P r) (count : α → Nat) (P P' : Provider) (rs : List ρ) :
    List.Forall₂ (fun x y => (∀ c ∈ x.2.calls, P.answer c = P'.answer c) → y = x)
      (rs.map fun r => part count (M P r)) (rs.map fun r => part count (M P' r)) :=
  List.forall₂_map_left_iff.2 (List.forall₂_map_right_iff.2
    (List.forall₂_same.2 fun r _ h => part_agree (hM r) count h))

/-- Two providers that agree on `k`'s listings give `k`'s loop the same records, and each
record's part is the same when they also agree on the calls of that part. -/
theorem Kind.recordParts_agree (k : Kind) {P P' : Provider}
    (h : ∀ c, c.listingOf = some k → P.answer c = P'.answer c) :
    List.Forall₂ (fun x y => (∀ c ∈ x.2.calls, P.answer c = P'.answer c) → y = x)
      (k.recordParts cfg P) (k.recordParts cfg P') := by
  cases k with
  | ebsVolumes =>
    simp only [Kind.recordParts,
      show P'.describeVolumes = P.describeVolumes from (h .describeVolumes rfl).symm]
    exact parts_agree (volumeBody_local cfg) _ P P' _
  | ebsSnapshots =>
    simp only [Kind.recordParts,
      show P'.describeSnapshots = P.describeSnapshots from (h .describeSnapshots rfl).symm]
    exact parts_agree (snapshotBody_local cfg) _ P P' _
  | elasticIps =>
    simp only [Kind.recordParts,
      show P'.describeAddresses = P.describeAddresses from (h .describeAddresses rfl).symm]
    exact parts_agree (addressBody_local cfg) _ P P' _
  | loadBalancers =>
    simp only [Kind.recordParts,
      show P'.describeLoadBalancers = P.describeLoadBalancers from (h .describeLoadBalancers rfl).symm]
    exact parts_agree (loadBalancerBody_local cfg) _ P P' _
  | natGateways =>
    simp only [Kind.recordParts,
      show P'.describeNatGateways = P.describeNatGateways from (h .describeNatGateways rfl).symm]
    exact parts_agree (natGatewayBody_local cfg) _ P P' _
  | rdsSnapshots =>
    simp only [Kind.recordParts,
      show P'.describeDbSnapshots = P.describeDbSnapshots from (h .describeDbSnapshots rfl).symm,
      show P'.describeDbClusterSnapshots = P.describeDbClusterSnapshots from
        (h .describeDbClusterSnapshots rfl).symm]
    exact List.rel_append (parts_agree (dbSnapshotBody_local cfg) _ P P' _)
      (parts_agree (dbClusterSnapshotBody_local cfg) _ P P' _)
  | amiImages =>
    simp only [Kind.recordParts,
      show P'.describeImages = P.describeImages from (h .describeImages rfl).symm]
    exact parts_agree (imageBody_local cfg) _ P P' _
  | ecrImages =>
    simp only [Kind.recordParts,
      show P'.describeRepositories = P.describeRepositories from (h .describeRepositories rfl).symm]
    exact parts_agree (fun r => ecrRepositories_local cfg [r] 0) _ P P' _
  | cloudwatchLogs =>
    simp only [Kind.recordParts,
      show P'.describeLogGroups = P.describeLogGroups from (h .describeLogGroups rfl).symm]
    exact parts_agree (logGroupBody_local cfg) _ P P' _
  | s3Buckets =>
    simp only [Kind.recordParts, show P'.listBuckets = P.listBuckets from (h .listBuckets rfl).symm]
    exact parts_agree (bucketBody_local cfg) _ P P' _
  | securityGroups =>
    simp only [Kind.recordParts, usedSecurityGroups,
      show P'.describeSecurityGroups = P.describeSecurityGroups from
        (h .describeSecurityGroups rfl).symm,
      show P'.describeNetworkInterfaces = P.describeNetworkInterfaces from
        (h .describeNetworkInterfaces rfl).symm]
    exact parts_agree (securityGroupBody_local cfg _) _ P P' _
  | lambdaVersions =>
    simp only [Kind.recordParts,
      show P'.listFunctions = P.listFunctions from (h .listFunctions rfl).symm]
    exact parts_agree (fun f => lambdaFunctions_local cfg [f] 0) _ P P' _

/-! ### Where a failure lands -/

/-- Two log groups whose last event is at day 0 and which hold no log stream. -/
def twoLogGroupsProvider : Provider :=
  { Provider.quiet with describeLogGroups := .ok [⟨"lg-1", .at 0, 0⟩, ⟨"lg-2", .at 0, 0⟩] }

/-- `twoLogGroupsProvider` where the listing `describe_volumes` and the delete of `lg-1`
raise. -/
def failingCallsProvider : Provider :=
  { twoLogGroupsProvider with
    describeVolumes := .error "RequestLimitExceeded"
    deleteLogGroup := fun n => if n = "lg-1" then .error "OperationAborted" else .ok () }

theorem failingCalls_wellFormed : WellFormed failingCallsProvider where
  volumes _ h := absurd h (List.not_mem_nil _)
  snapshots _ h := absurd h (List.not_mem_nil _)
  addresses _ h := absurd h (List.not_mem_nil _)
  loadBalancers _ h := absurd h (List.not_mem_nil _)
  natGateways _ h := absurd h (List.not_mem_nil _)
  dbSnapshots _ h := absurd h (List.not_mem_nil _)
  dbClusterSnapshots _ h := absurd h (List.not_mem_nil _)
  images _ h := absurd h (List.not_mem_nil _)
  logGroups := by decide

/-- A load balancer created at day 0 whose `describe_target_groups` raises. -/
def targetGroupsFailProvider : Provider :=
  { Provider.quiet with
    describeLoadBalancers := .ok [⟨"arn-1", "lb-1", .at 0⟩]
    describeTargetGroups := fun _ => .error "Throttling" }

/-- A raising `describe_target_groups` adds no error string: the bare `except: continue` skips
the load balancer. -/
theorem target_groups_failure_unrecorded :
    Call.describeTargetGroups "arn-1" ∈ (run (sampleConfig false []) targetGroupsFailProvider).calls ∧
      targetGroupsFailProvider.raises (.describeTargetGroups "arn-1") = true ∧
      (run (sampleConfig false []) targetGroupsFailProvider).errors = [] := by
  decide

/-- `twoLogGroupsProvider` with `describe_log_streams` raising on `lg-1` only. -/
def logStreamsFailProvider : Provider :=
  { twoLogGroupsProvider with
    describeLogStreams := fun n => if n = "lg-1" then .error "Throttling" else .ok [] }

/-- A raising `describe_log_streams` on `lg-1`, the only answer `logStreamsFailProvider` changes,
ends the log-group loop: `lg-2`, deleted and counted when the call returns, is neither deleted
nor counted, no count is written, and the one error string is the handler's. -/
theorem log_streams_failure_ends_handler :
    (∀ c, c ≠ .describeLogStreams "lg-1" →
        logStreamsFailProvider.answer c = twoLogGroupsProvider.answer c) ∧
      Call.deleteLogGroup "lg-2" ∈ (run (sampleConfig false []) twoLogGroupsProvider).calls ∧
      (run (sampleConfig false []) twoLogGroupsProvider).found .cloudwatchLogs = some 2 ∧
      Call.deleteLogGroup "lg-2" ∉ (run (sampleConfig false []) logStreamsFailProvider).calls ∧
      (run (sampleConfig false []) logStreamsFailProvider).found .cloudwatchLogs = none ∧
      (run (sampleConfig false []) logStreamsFailProvider).errors =
        ["CloudWatch logs cleanup error: Throttling"] := by
  refine ⟨fun c hc => ?_, by decide⟩
  cases c <;> try rfl
  simp only [ne_eq, Call.describeLogStreams.injEq] at hc
  simp [Provider.answer, logStreamsFailProvider, twoLogGroupsProvider, Provider.quiet, hc]

end OddiyaOps.Cleanup
