import OddiyaOps.Cleanup.Safety
import OddiyaOps.Cleanup.Tally

/-!
# OddiyaOps.Cleanup.Preview

**A dry run previews a real run.** Under one account, `handler` with `DRY_RUN` set makes the
reads of the account that it makes without, in the same order, writes the same counts except
where a real run leaves out the deletes that raised (`ecr_images` and `lambda_versions` count
only the deletes that returned, so the real count is at most the dry one), and records the
errors of the real run less those of its failed deletes (`dryRun_previews_run`). When every
delete returns, the two summaries have the same counts and the same errors
(`dryRun_exact_of_deletesReturn`).

## Proof shape

`Sweep.Previews P d a` says what a dry-run state `d` keeps of a real-run state `a`: the same reads,
a sublist of the errors, and related counts. `Py.Previews P V md ma` says that `md` and `ma`, run
from such states, both return, with values related by `V`, or both raise the same exception,
and end in such states again. It is closed under `bind`, `tryCatch`, `if` and `forM`, and a
program that never reads the state previews itself (`Previews.of_oblivious`). What only the real
run does (`Py.RealOnly`) is a mutating call in a `try` and what its `except` records; the dry run
skips it (`Previews.skip`). So each handler's proof follows its code and meets `DRY_RUN` only
where the code does: the guarded delete (`attempt`), the image's deregistration, the batch
delete of a repository, the version deletes, the closing writes and the report's subject.
-/

namespace OddiyaOps.Cleanup

open OddiyaOps.Python Py

/-! ### The relation between the two runs -/

/-- The calls that read the account: all but the mutating ones and the report's `publish`,
whose subject names the mode. -/
def Call.reads : Call → Bool
  | .publish _ _ => false
  | c => !c.mutating

/-- The kinds whose count in a real run is of the deletes that returned. -/
def Kind.countsDeletes : Kind → Bool
  | .ecrImages | .lambdaVersions => true
  | _ => false

/-- Every mutating call returns. -/
def Provider.DeletesReturn (P : Provider) : Prop := ∀ c, c.mutating = true → P.raises c = false

/-- A real run's count `m` of kind `k` against a dry run's `n`: never more, and the same unless
`k` counts the deletes that returned and some delete raised. -/
def CountPreviews (P : Provider) (k : Kind) (n m : Nat) : Prop :=
  m ≤ n ∧ (k.countsDeletes = false → m = n) ∧ (P.DeletesReturn → m = n)

/-- What a dry-run state `d` keeps of a real-run state `a`: the same reads, in order, the errors
less some, and the counts written, related by `CountPreviews`. -/
structure Sweep.Previews (P : Provider) (d a : Sweep) : Prop where
  reads : d.calls.filter Call.reads = a.calls.filter Call.reads
  errors : d.errors.Sublist a.errors
  errors_eq : P.DeletesReturn → d.errors = a.errors
  found : ∀ k, Option.Rel (CountPreviews P k) (d.found k) (a.found k)

/-- `cfg` with `DRY_RUN` set to `dryRun`. -/
def Config.withDryRun (cfg : Config) (dryRun : Bool) : Config := { cfg with dryRun := dryRun }

section WithDryRun

variable (cfg : Config) (b : Bool)

@[simp] theorem Config.withDryRun_dryRun : (cfg.withDryRun b).dryRun = b := rfl
@[simp] theorem Config.withDryRun_enabled : (cfg.withDryRun b).enabled = cfg.enabled := rfl
@[simp] theorem Config.withDryRun_snsTopicArn :
    (cfg.withDryRun b).snsTopicArn = cfg.snsTopicArn := rfl
@[simp] theorem isWhitelisted_withDryRun (name : String) (tags : List Tag) :
    isWhitelisted (cfg.withDryRun b) name tags = isWhitelisted cfg name tags := rfl
@[simp] theorem isOldEnough_withDryRun (t : Option Int) :
    isOldEnough (cfg.withDryRun b) t = isOldEnough cfg t := rfl
@[simp] theorem isWhitelistedOpt_withDryRun (name : Option String) (tags : List Tag) :
    isWhitelistedOpt (cfg.withDryRun b) name tags = isWhitelistedOpt cfg name tags := rfl
@[simp] theorem lastEventRecent_withDryRun (st : Stamp) :
    lastEventRecent (cfg.withDryRun b) st = lastEventRecent cfg st := rfl

end WithDryRun

section Counts

variable {P : Provider} {k : Kind} {n m n' m' : Nat}

theorem CountPreviews.refl (P : Provider) (k : Kind) (n : Nat) : CountPreviews P k n n :=
  ⟨le_refl n, fun _ => rfl, fun _ => rfl⟩

theorem CountPreviews.add (h : CountPreviews P k n m) (h' : CountPreviews P k n' m') :
    CountPreviews P k (n + n') (m + m') :=
  ⟨Nat.add_le_add h.1 h'.1, fun hk => by rw [h.2.1 hk, h'.2.1 hk],
    fun hr => by rw [h.2.2 hr, h'.2.2 hr]⟩

/-- A count that a raising delete left at `m` below the dry run's `n`. -/
theorem CountPreviews.of_raise (hk : k.countsDeletes = true) (hr : ¬P.DeletesReturn)
    (hle : m ≤ n) : CountPreviews P k n m :=
  ⟨hle, fun h => absurd (hk.symm.trans h) (by decide), fun h => absurd h hr⟩

/-- A mutating call that raised is a delete that did not return. -/
theorem not_deletesReturn {c : Call} (hc : c.mutating = true) {e : String}
    (he : P.answer c = .error e) : ¬P.DeletesReturn := fun h => by
  simpa [Provider.raises, he] using h c hc

end Counts

namespace Sweep.Previews

variable {P : Provider} {d a : Sweep}

theorem empty : Sweep.Previews P Sweep.empty Sweep.empty :=
  ⟨rfl, .refl _, fun _ => rfl, fun _ => .none⟩

/-- Both runs add the same. -/
theorem extend (h : Sweep.Previews P d a) (e : Sweep) :
    Sweep.Previews P (d.extend e) (a.extend e) := by
  refine ⟨by simp [Sweep.extend, h.reads], h.errors.append (.refl _),
    fun hr => by simp [Sweep.extend, h.errors_eq hr], fun k => ?_⟩
  show Option.Rel _ ((e.found k).or (d.found k)) ((e.found k).or (a.found k))
  rcases e.found k with _ | n
  · exact h.found k
  · exact .some (CountPreviews.refl P k n)

/-- A call that is not a read, made by the real run only. -/
theorem issue_real (h : Sweep.Previews P d a) {c : Call} (hc : c.reads = false) :
    Sweep.Previews P d (a.issue c) :=
  ⟨by simp [h.reads, hc], h.errors, h.errors_eq, h.found⟩

/-- A call that is not a read, made by the dry run only. -/
theorem issue_dry (h : Sweep.Previews P d a) {c : Call} (hc : c.reads = false) :
    Sweep.Previews P (d.issue c) a :=
  ⟨by simp [h.reads, hc], h.errors, h.errors_eq, h.found⟩

/-- An error the real run records after a delete that raised. -/
theorem addError_real (h : Sweep.Previews P d a) (hr : ¬P.DeletesReturn) (e : String) :
    Sweep.Previews P d (a.addError e) :=
  ⟨h.reads, by simpa using h.errors.trans (List.sublist_append_left _ _), fun h' => absurd h' hr,
    h.found⟩

/-- The closing writes of a handler, in the two modes. -/
theorem record (h : Sweep.Previews P d a) {k : Kind} {n m : Nat} (hn : CountPreviews P k n m) :
    Sweep.Previews P (d.record true k n) (a.record false k m) := by
  refine ⟨h.reads, h.errors, h.errors_eq, fun k' => ?_⟩
  simp only [Sweep.record]
  split
  · subst_vars; exact .some hn
  · exact h.found k'

theorem mutating_reads {c : Call} (hc : c.mutating = true) : c.reads = false := by
  cases c <;> simp_all [Call.reads, Call.mutating]

end Sweep.Previews

namespace Py

variable {α β : Type} (P : Provider)

/-- The results a dry run and a real run may end in: both return, with values related by `V`,
or both raise the same exception, in states where the first previews the second. -/
def ResultPreviews (V : α → α → Prop) :
    EStateM.Result String Sweep α → EStateM.Result String Sweep α → Prop
  | .ok x d, .ok y a => V x y ∧ Sweep.Previews P d a
  | .error e d, .error e' a => e = e' ∧ Sweep.Previews P d a
  | _, _ => False

/-- Run from states where the dry run previews the real run, `md` and `ma` end in results that
do too. -/
def Previews (V : α → α → Prop) (md ma : Py α) : Prop :=
  ∀ d a, Sweep.Previews P d a → ResultPreviews P V (md d) (ma a)

/-- What only the real run does: from any state the dry run previews, it returns a value
satisfying `R`, in a state the dry run still previews. -/
def RealOnly (R : α → Prop) (ma : Py α) : Prop :=
  ∀ d a, Sweep.Previews P d a → match ma a with
    | .ok y a' => R y ∧ Sweep.Previews P d a'
    | .error _ _ => False

variable {P} {V : α → α → Prop} {W : β → β → Prop}

theorem Previews.pure {x y : α} (h : V x y) : Previews P V (Pure.pure x) (Pure.pure y) :=
  fun _ _ hs => ⟨h, hs⟩

theorem Previews.bind {md ma : Py α} {fd fa : α → Py β} (hm : Previews P V md ma)
    (hf : ∀ x y, V x y → Previews P W (fd x) (fa y)) : Previews P W (md >>= fd) (ma >>= fa) :=
  fun d a hs => by
    show ResultPreviews P W (EStateM.bind md fd d) (EStateM.bind ma fa a)
    unfold EStateM.bind
    match md d, ma a, hm d a hs with
    | .ok x d', .ok y a', ⟨hv, hs'⟩ => exact hf x y hv d' a' hs'
    | .error _ _, .error _ _, h => exact h
    | .ok _ _, .error _ _, h => exact h.elim
    | .error _ _, .ok _ _, h => exact h.elim

theorem Previews.tryCatch {md ma : Py α} {hd ha : String → Py α} (hm : Previews P V md ma)
    (hh : ∀ e, Previews P V (hd e) (ha e)) :
    Previews P V (tryCatch md hd) (tryCatch ma ha) := fun d a hs => by
  rw [tryCatch_apply, tryCatch_apply]
  match md d, ma a, hm d a hs with
  | .ok _ _, .ok _ _, h => exact h
  | .error e d', .error _ a', ⟨rfl, hs'⟩ => exact hh e d' a' hs'
  | .ok _ _, .error _ _, h => exact h.elim
  | .error _ _, .ok _ _, h => exact h.elim

theorem Previews.ite {c : Prop} [Decidable c] {ad aa bd ba : Py α}
    (ha : c → Previews P V ad aa) (hb : ¬c → Previews P V bd ba) :
    Previews P V (if c then ad else bd) (if c then aa else ba) := by
  by_cases h : c
  · rw [if_pos h, if_pos h]; exact ha h
  · rw [if_neg h, if_neg h]; exact hb h

theorem Previews.weaken {V' : α → α → Prop} {md ma : Py α} (h : Previews P V md ma)
    (hV : ∀ x y, V x y → V' x y) : Previews P V' md ma := fun d a hs => by
  match md d, ma a, h d a hs with
  | .ok _ _, .ok _ _, ⟨hv, hs'⟩ => exact ⟨hV _ _ hv, hs'⟩
  | .error _ _, .error _ _, h => exact h
  | .ok _ _, .error _ _, h => exact h.elim
  | .error _ _, .ok _ _, h => exact h.elim

/-- A program that never reads the state previews itself. -/
theorem Previews.of_oblivious {m : Py α} (hm : Oblivious m) (hV : ∀ x, V x x) :
    Previews P V m m := fun d a hs => by
  rw [hm d, hm a]
  cases m Sweep.empty with
  | ok x e => exact ⟨hV x, hs.extend e⟩
  | error _ e => exact ⟨rfl, hs.extend e⟩

/-- The same first step in both runs. -/
theorem Previews.bind_same {m : Py α} {fd fa : α → Py β} (hm : Oblivious m)
    (hf : ∀ x, Previews P W (fd x) (fa x)) : Previews P W (m >>= fd) (m >>= fa) :=
  (Previews.of_oblivious hm fun _ => rfl).bind fun x _ h => h ▸ hf x

/-- The dry run skips what only the real run does. -/
theorem Previews.skip {md : Py β} {ma : Py α} {fa : α → Py β} {R : α → Prop}
    (hm : RealOnly P R ma) (hf : ∀ y, R y → Previews P W md (fa y)) :
    Previews P W md (ma >>= fa) := fun d a hs => by
  show ResultPreviews P W (md d) (EStateM.bind ma fa a)
  unfold EStateM.bind
  match ma a, hm d a hs with
  | .ok y a', ⟨hy, hs'⟩ => exact hf y hy d a' hs'
  | .error _ _, h => exact h.elim

theorem Previews.forM {ρ : Type} {fd fa : ρ → Py Unit}
    (hf : ∀ r, Previews P (fun _ _ => True) (fd r) (fa r)) :
    ∀ rs : List ρ, Previews P (fun _ _ => True) (rs.forM fd) (rs.forM fa)
  | [] => .pure trivial
  | r :: rs => (hf r).bind fun _ _ _ => Previews.forM hf rs

/-- Both runs end in states the dry run previews, returning or raising. -/
theorem Previews.final {md ma : Py α} (h : Previews P V md ma) {d a : Sweep}
    (hs : Sweep.Previews P d a) : Sweep.Previews P (final md d) (final ma a) := by
  unfold Py.final
  match md d, ma a, h d a hs with
  | .ok _ _, .ok _ _, h => exact h.2
  | .error _ _, .error _ _, h => exact h.2
  | .ok _ _, .error _ _, h => exact h.elim
  | .error _ _, .ok _ _, h => exact h.elim

theorem RealOnly.pure {y : α} {R : α → Prop} (h : R y) : RealOnly P R (Pure.pure y) :=
  fun _ _ hs => ⟨h, hs⟩

theorem RealOnly.bind {R : α → Prop} {R' : β → Prop} {ma : Py α} {fa : α → Py β}
    (hm : RealOnly P R ma) (hf : ∀ y, R y → RealOnly P R' (fa y)) : RealOnly P R' (ma >>= fa) :=
  fun d a hs => by
    show match EStateM.bind ma fa a with | .ok y a' => _ | .error _ _ => False
    unfold EStateM.bind
    match ma a, hm d a hs with
    | .ok y a', ⟨hy, hs'⟩ => exact hf y hy d a' hs'
    | .error _ _, h => exact h.elim

/-- An error the real run records after a delete raised. -/
theorem RealOnly.appendError (hr : ¬P.DeletesReturn) (e : String) :
    RealOnly P (fun _ => True) (appendError e) := fun _ _ hs => ⟨trivial, hs.addError_real hr e⟩

/-- A mutating call in a `try`: what follows it when it returns, and the `except` when it
raises, are done by the real run only. -/
theorem RealOnly.tryCatch_call {R : α → Prop} {c : Call} (hc : c.mutating = true)
    {k : c.Resp → Py α} {h : String → Py α} (hk : ∀ r, RealOnly P R (k r))
    (hh : ∀ e, ¬P.DeletesReturn → RealOnly P R (h e)) :
    RealOnly P R (tryCatch (call P c >>= k) h) := fun d a hs => by
  rw [tryCatch_apply]
  have hs' := hs.issue_real (Sweep.Previews.mutating_reads hc)
  show match (match EStateM.bind (call P c) k a with
    | .ok a s' => EStateM.Result.ok a s' | .error e s' => h e s') with
    | .ok y a' => _ | .error _ _ => False
  unfold EStateM.bind call
  cases he : P.answer c with
  | ok r =>
    have := hk r d _ hs'
    dsimp only
    revert this
    cases k r (a.issue c) with
    | ok => exact id
    | error => exact False.elim
  | error e => exact hh e (not_deletesReturn hc he) d _ hs'

theorem Previews.record {k : Kind} {n m : Nat} (h : CountPreviews P k n m) :
    Previews P (fun _ _ => True) (recordCounts true k n) (recordCounts false k m) :=
  fun _ _ hs => ⟨trivial, hs.record h⟩

/-- A `try` around a first step, run from any state. -/
theorem tryCatch_bind_apply (m : Py α) (f : α → Py β) (h : String → Py β) (s : Sweep) :
    tryCatch (m >>= f) h s = match m s with
      | .ok x s' => tryCatch (f x) h s'
      | .error e s' => h e s' := by
  rw [tryCatch_apply]
  show (match EStateM.bind m f s with
    | .ok a s' => EStateM.Result.ok a s' | .error e s' => h e s') = _
  unfold EStateM.bind
  cases m s with
  | ok x s' => exact (tryCatch_apply (f x) h).symm
  | error e s' => rfl

/-- The same first step in both runs, inside a `try`. -/
theorem Previews.tryCatch_bind_same {m : Py α} {fd fa : α → Py β} {hd ha : String → Py β}
    (hm : Oblivious m)
    (hf : ∀ x, Previews P W (MonadExcept.tryCatch (fd x) hd) (MonadExcept.tryCatch (fa x) ha))
    (hh : ∀ e, Previews P W (hd e) (ha e)) :
    Previews P W (MonadExcept.tryCatch (m >>= fd) hd) (MonadExcept.tryCatch (m >>= fa) ha) :=
  fun d a hs => by
  rw [tryCatch_bind_apply, tryCatch_bind_apply, hm d, hm a]
  cases m Sweep.empty with
  | ok x e => exact hf x _ _ (hs.extend e)
  | error e' e => exact hh e' _ _ (hs.extend e)

/-- A call whose failure is ignored, made by both runs, about calls that are not reads. -/
theorem Previews.swallowed {cd ca : Call} (hd : cd.reads = false) (ha : ca.reads = false) :
    Previews P (fun _ _ => True) (MonadExcept.tryCatch (do let _ ← call P cd) fun _ => Pure.pure ())
      (MonadExcept.tryCatch (do let _ ← call P ca) fun _ => Pure.pure ()) := fun d a hs => by
  rw [tryCatch_bind_apply, tryCatch_bind_apply]
  simp only [call]
  cases P.answer cd <;> cases P.answer ca <;> exact ⟨trivial, (hs.issue_dry hd).issue_real ha⟩

end Py

/-! ### The shared pieces -/

section Handlers

variable (cfg : Config) {P : Provider}

theorem attempt_dryRun (c : Call) (failure : String → String) :
    attempt (cfg.withDryRun true) P c failure = pure () := rfl

/-- The guarded delete of a real run. -/
theorem attempt_realOnly {c : Call} (hc : c.mutating = true) (failure : String → String) :
    RealOnly P (fun _ => True) (attempt (cfg.withDryRun false) P c failure) :=
  .tryCatch_call hc (fun _ => .pure trivial) fun _ hr => .appendError hr _

/-- A loop body's guarded delete, then the rest of the body. -/
theorem Py.Previews.attempt {α : Type} {V : α → α → Prop} {c : Call} (hc : c.mutating = true)
    {failure : String → String} {kd ka : Py α} (hk : Previews P V kd ka) :
    Previews P V (attempt (cfg.withDryRun true) P c failure >>= fun _ => kd)
      (attempt (cfg.withDryRun false) P c failure >>= fun _ => ka) := by
  rw [attempt_dryRun, pure_bind]
  exact .skip (attempt_realOnly cfg hc failure) fun _ _ => hk

theorem collect_previews {ρ : Type} {bd ba : ρ → Py (Option String)}
    (hb : ∀ r, Previews P (· = ·) (bd r) (ba r)) :
    ∀ rs acc, Previews P (· = ·) (collect bd rs acc) (collect ba rs acc)
  | [], _ => .pure rfl
  | r :: rs, acc => (hb r).bind fun o _ h => h ▸ by cases o <;> exact collect_previews hb rs _

/-- The frame of most handlers: the same listing, bodies that preview each other, and the
closing writes of one count. -/
theorem sweepKind_previews {ρ : Type} {kind : Kind} {label : String} {listing : Py (List ρ)}
    (hl : Oblivious listing) {bd ba : ρ → Py (Option String)}
    (hb : ∀ r, Previews P (· = ·) (bd r) (ba r)) :
    Previews P (fun _ _ => True) (sweepKind (cfg.withDryRun true) kind label listing bd)
      (sweepKind (cfg.withDryRun false) kind label listing ba) := by
  simp only [sweepKind, Config.withDryRun_dryRun]
  exact .tryCatch (.bind_same hl fun rs => (collect_previews hb rs []).bind fun _ _ h =>
    h ▸ .record (.refl P kind _)) fun _ => .of_oblivious (appendError_oblivious _) fun _ => trivial

/-! ### The loop bodies -/

theorem volumeBody_previews (v : Volume) :
    Previews P (· = ·) (volumeBody (cfg.withDryRun true) P v)
      (volumeBody (cfg.withDryRun false) P v) := by
  simp only [volumeBody, pure_bind, isWhitelisted_withDryRun, isOldEnough_withDryRun]
  exact .ite (fun _ => .pure rfl) fun _ =>
    .bind_same ((Local.item (Q := Call.perRecord) _ _).oblivious P) fun _ =>
      .ite (fun _ => .pure rfl) fun _ =>
        .bind_same ((Local.keyItem (Q := Call.perRecord) _ _).oblivious P) fun _ =>
          .attempt cfg (by exact rfl) (.pure rfl)

theorem snapshotBody_previews (sn : Snapshot) :
    Previews P (· = ·) (snapshotBody (cfg.withDryRun true) P sn)
      (snapshotBody (cfg.withDryRun false) P sn) := by
  simp only [snapshotBody, pure_bind, isWhitelisted_withDryRun, isOldEnough_withDryRun]
  exact .ite (fun _ => .pure rfl) fun _ => .ite (fun _ => .pure rfl) fun _ =>
    .bind_same ((Local.item (Q := Call.perRecord) _ _).oblivious P) fun _ =>
      .ite (fun _ => .pure rfl) fun _ => .attempt cfg (by exact rfl) (.pure rfl)

theorem releaseCall_mutating (eip : Address) : (releaseCall eip).mutating = true := by
  unfold releaseCall
  split
  · split <;> rfl
  · rfl

theorem addressBody_previews (eip : Address) :
    Previews P (· = ·) (addressBody (cfg.withDryRun true) P eip)
      (addressBody (cfg.withDryRun false) P eip) := by
  simp only [addressBody, pure_bind, isWhitelistedOpt_withDryRun]
  exact .ite (fun _ => .pure rfl) fun _ =>
    .bind_same ((isWhitelistedOpt_local (Q := Call.perRecord) cfg _ _).oblivious P) fun _ =>
      .ite (fun _ => .pure rfl) fun _ => .attempt cfg (releaseCall_mutating eip) (.pure rfl)

theorem loadBalancerBody_previews (lb : LoadBalancer) :
    Previews P (· = ·) (loadBalancerBody (cfg.withDryRun true) P lb)
      (loadBalancerBody (cfg.withDryRun false) P lb) := by
  simp only [loadBalancerBody, pure_bind, isWhitelisted_withDryRun, isOldEnough_withDryRun]
  exact .ite (fun _ => .pure rfl) fun _ =>
    .bind_same (.tryCatch (.bind (call_oblivious P _) fun tgs => (hasTargets_local tgs).oblivious P)
      fun _ => .pure _) fun _ => .ite (fun _ => .pure rfl) fun _ =>
        .bind_same ((Local.item (Q := Call.perRecord) _ _).oblivious P) fun _ =>
          .ite (fun _ => .pure rfl) fun _ => .attempt cfg (by exact rfl) (.pure rfl)

theorem natGatewayBody_previews (nat : NatGateway) :
    Previews P (· = ·) (natGatewayBody (cfg.withDryRun true) P nat)
      (natGatewayBody (cfg.withDryRun false) P nat) := by
  simp only [natGatewayBody, pure_bind, isWhitelisted_withDryRun, isOldEnough_withDryRun]
  exact .ite (fun _ => .pure rfl) fun _ =>
    .bind_same ((Local.item (Q := Call.perRecord) _ _).oblivious P) fun _ =>
      .ite (fun _ => .pure rfl) fun _ => .attempt cfg (by exact rfl) (.pure rfl)

theorem dbSnapshotBody_previews (sn : DbSnapshot) :
    Previews P (· = ·) (dbSnapshotBody (cfg.withDryRun true) P sn)
      (dbSnapshotBody (cfg.withDryRun false) P sn) := by
  simp only [dbSnapshotBody, pure_bind, isWhitelisted_withDryRun, isOldEnough_withDryRun]
  exact .ite (fun _ => .pure rfl) fun _ =>
    .bind_same ((Local.item (Q := Call.perRecord) _ _).oblivious P) fun _ =>
      .ite (fun _ => .pure rfl) fun _ => .attempt cfg (by exact rfl) (.pure rfl)

theorem dbClusterSnapshotBody_previews (sn : DbClusterSnapshot) :
    Previews P (· = ·) (dbClusterSnapshotBody (cfg.withDryRun true) P sn)
      (dbClusterSnapshotBody (cfg.withDryRun false) P sn) := by
  simp only [dbClusterSnapshotBody, pure_bind, isWhitelisted_withDryRun, isOldEnough_withDryRun]
  exact .ite (fun _ => .pure rfl) fun _ =>
    .bind_same ((Local.item (Q := Call.perRecord) _ _).oblivious P) fun _ =>
      .ite (fun _ => .pure rfl) fun _ => .attempt cfg (by exact rfl) (.pure rfl)

/-- The best-effort deletes of an image's backing snapshots, made by the real run only. -/
theorem deleteBackingSnapshots_realOnly :
    ∀ devices, RealOnly P (fun _ => True) (deleteBackingSnapshots P devices)
  | [] => .pure trivial
  | device :: devices => by
    simp only [deleteBackingSnapshots]
    split
    · exact .bind (R := fun _ => True)
        (.tryCatch_call (by exact rfl) (fun _ => .pure trivial) fun _ _ => .pure trivial)
        fun _ _ => deleteBackingSnapshots_realOnly devices
    · exact .bind (R := fun _ => True) (.pure trivial) fun _ _ =>
        deleteBackingSnapshots_realOnly devices

theorem imageBody_previews (im : Image) :
    Previews P (· = ·) (imageBody (cfg.withDryRun true) P im)
      (imageBody (cfg.withDryRun false) P im) := by
  simp only [imageBody, pure_bind, isWhitelisted_withDryRun, isOldEnough_withDryRun,
    Config.withDryRun_dryRun, Bool.not_true, Bool.not_false, Bool.false_eq_true, ↓reduceIte]
  exact .ite (fun _ => .pure rfl) fun _ =>
    .bind_same ((isoItem_local (Q := Call.perRecord) _ _).oblivious P) fun _ =>
      .ite (fun _ => .pure rfl) fun _ =>
        .skip (.tryCatch_call (by exact rfl) (fun _ => deleteBackingSnapshots_realOnly _)
          fun _ hr => .appendError hr _) fun _ _ => .pure rfl

theorem logGroupBody_previews (lg : LogGroup) :
    Previews P (· = ·) (logGroupBody (cfg.withDryRun true) P lg)
      (logGroupBody (cfg.withDryRun false) P lg) := by
  simp only [logGroupBody, pure_bind, isWhitelisted_withDryRun, lastEventRecent_withDryRun]
  exact .ite (fun _ => .pure rfl) fun _ =>
    .bind_same ((lastEventRecent_local (Q := Call.perRecord) cfg _).oblivious P) fun _ =>
      .ite (fun _ => .pure rfl) fun _ => .bind_same (call_oblivious P _) fun _ =>
        .ite (fun _ => .pure rfl) fun _ => .attempt cfg (by exact rfl) (.pure rfl)

theorem bucketBody_previews (b : Bucket) :
    Previews P (· = ·) (bucketBody (cfg.withDryRun true) P b)
      (bucketBody (cfg.withDryRun false) P b) := by
  simp only [bucketBody, pure_bind, isWhitelisted_withDryRun, isOldEnough_withDryRun]
  exact .ite (fun _ => .pure rfl) fun _ => .tryCatch (.bind_same (call_oblivious P _) fun _ =>
    .ite (fun _ => .pure rfl) fun _ =>
      .bind_same ((Local.item (Q := Call.perRecord) _ _).oblivious P) fun _ =>
        .ite (fun _ => .pure rfl) fun _ => .attempt cfg (by exact rfl) (.pure rfl))
    fun _ => .pure rfl

theorem securityGroupBody_previews (used : List String) (sg : SecurityGroup) :
    Previews P (· = ·) (securityGroupBody (cfg.withDryRun true) P used sg)
      (securityGroupBody (cfg.withDryRun false) P used sg) := by
  simp only [securityGroupBody, pure_bind, isWhitelisted_withDryRun]
  exact .ite (fun _ => .pure rfl) fun _ => .ite (fun _ => .pure rfl) fun _ =>
    .ite (fun _ => .pure rfl) fun _ => .attempt cfg (by exact rfl) (.pure rfl)

/-! ### The handlers -/

theorem cleanupRdsSnapshots_previews :
    Previews P (fun _ _ => True) (cleanupRdsSnapshots (cfg.withDryRun true) P)
      (cleanupRdsSnapshots (cfg.withDryRun false) P) := by
  simp only [cleanupRdsSnapshots, Config.withDryRun_dryRun]
  exact .tryCatch (.bind_same (call_oblivious P _) fun dbs =>
    (collect_previews (dbSnapshotBody_previews cfg) dbs []).bind fun _ _ h => h ▸
      .bind_same (call_oblivious P _) fun cls =>
        (collect_previews (dbClusterSnapshotBody_previews cfg) cls _).bind fun _ _ h => h ▸
          .record (.refl P _ _)) fun _ => .of_oblivious (appendError_oblivious _) fun _ => trivial

theorem cleanupSecurityGroups_previews :
    Previews P (fun _ _ => True) (cleanupSecurityGroups (cfg.withDryRun true) P)
      (cleanupSecurityGroups (cfg.withDryRun false) P) := by
  simp only [cleanupSecurityGroups, Config.withDryRun_dryRun]
  exact .tryCatch (.bind_same (call_oblivious P _) fun sgs => .bind_same (call_oblivious P _)
    fun _ => (collect_previews (securityGroupBody_previews cfg _) sgs []).bind fun _ _ h => h ▸
      .record (.refl P _ _)) fun _ => .of_oblivious (appendError_oblivious _) fun _ => trivial

/-- One repository, with its `except`: a real run's count is the dry run's, or `0` when the
batch delete raised. -/
theorem repository_previews (repo : String) :
    Previews P (CountPreviews P .ecrImages)
      (tryCatch (repositoryBody (cfg.withDryRun true) P repo) fun e => do
        appendError ("Failed to clean ECR repo " ++ repo ++ ": " ++ e)
        pure 0)
      (tryCatch (repositoryBody (cfg.withDryRun false) P repo) fun e => do
        appendError ("Failed to clean ECR repo " ++ repo ++ ": " ++ e)
        pure 0) := by
  have hh : ∀ e, Oblivious (do
      appendError ("Failed to clean ECR repo " ++ repo ++ ": " ++ e)
      pure 0 : Py Nat) := fun e => .bind (appendError_oblivious _) fun _ => .pure _
  simp only [repositoryBody, Config.withDryRun_dryRun, Bool.not_true, Bool.not_false,
    Bool.false_and, Bool.true_and, Bool.false_eq_true, ↓reduceIte, pure_bind]
  refine .tryCatch_bind_same (call_oblivious P _) (fun images => ?_)
    fun e => .of_oblivious (hh e) (CountPreviews.refl P _)
  split
  · intro d a hs
    split
    · rw [tryCatch_bind_apply]
      simp only [call]
      cases hb : P.answer (.batchDeleteImage repo _) with
      | ok _ => exact ⟨.refl P _ _, hs.issue_real (by exact rfl)⟩
      | error e =>
        have hr := not_deletesReturn (by exact rfl) hb
        exact ⟨.of_raise rfl hr (Nat.zero_le _), (hs.issue_real (by exact rfl)).addError_real hr _⟩
    · exact ⟨.refl P _ _, hs⟩
  · exact .tryCatch (.pure (.refl P _ 0)) fun e => .of_oblivious (hh e) (CountPreviews.refl P _)

theorem ecrRepositories_previews : ∀ (repos : List String) (n m : Nat),
    CountPreviews P .ecrImages n m →
    Previews P (CountPreviews P .ecrImages) (ecrRepositories (cfg.withDryRun true) P repos n)
      (ecrRepositories (cfg.withDryRun false) P repos m)
  | [], _, _, h => .pure h
  | repo :: repos, n, m, h => by
    simp only [ecrRepositories, pure_bind, bind_pure, isWhitelisted_withDryRun]
    exact .ite (fun _ => ecrRepositories_previews repos n m h) fun _ =>
      (repository_previews cfg repo).bind fun _ _ h' => ecrRepositories_previews repos _ _ (h.add h')

theorem cleanupEcrImages_previews :
    Previews P (fun _ _ => True) (cleanupEcrImages (cfg.withDryRun true) P)
      (cleanupEcrImages (cfg.withDryRun false) P) := by
  simp only [cleanupEcrImages, Config.withDryRun_dryRun]
  exact .tryCatch (.bind_same (call_oblivious P _) fun repos =>
    (ecrRepositories_previews cfg repos 0 0 (.refl P _ 0)).bind fun _ _ h => .record h)
    fun _ => .of_oblivious (appendError_oblivious _) fun _ => trivial

theorem deleteVersions_previews (f : String) : ∀ (versions : List String) (n m : Nat),
    CountPreviews P .lambdaVersions n m →
    Previews P (CountPreviews P .lambdaVersions)
      (deleteVersions (cfg.withDryRun true) P f versions n)
      (deleteVersions (cfg.withDryRun false) P f versions m)
  | [], _, _, h => .pure h
  | v :: vs, n, m, h => by
    simp only [deleteVersions, Config.withDryRun_dryRun, Bool.not_true, Bool.not_false,
      Bool.false_eq_true, ↓reduceIte]
    exact .skip (R := CountPreviews P .lambdaVersions (n + 1))
      (.tryCatch_call (by exact rfl) (fun _ => .pure (h.add (.refl P _ 1))) fun _ hr =>
        .bind (.appendError hr _) fun _ _ => .pure (h.add (.of_raise rfl hr (Nat.zero_le 1))))
      fun _ ht => deleteVersions_previews f vs _ _ ht

theorem lambdaFunctions_previews : ∀ (fs : List String) (n m : Nat),
    CountPreviews P .lambdaVersions n m →
    Previews P (CountPreviews P .lambdaVersions) (lambdaFunctions (cfg.withDryRun true) P fs n)
      (lambdaFunctions (cfg.withDryRun false) P fs m)
  | [], _, _, h => .pure h
  | f :: fs, n, m, h => by
    simp only [lambdaFunctions, pure_bind, bind_pure, isWhitelisted_withDryRun]
    exact .ite (fun _ => lambdaFunctions_previews fs n m h) fun _ =>
      (Previews.tryCatch_bind_same (call_oblivious P _)
        (fun _ => .tryCatch (deleteVersions_previews cfg f _ n m h) fun _ => .pure h)
        fun _ => .pure h).bind fun _ _ h' => lambdaFunctions_previews fs _ _ h'

theorem cleanupOldLambdaVersions_previews :
    Previews P (fun _ _ => True) (cleanupOldLambdaVersions (cfg.withDryRun true) P)
      (cleanupOldLambdaVersions (cfg.withDryRun false) P) := by
  simp only [cleanupOldLambdaVersions, Config.withDryRun_dryRun]
  exact .tryCatch (.bind_same (call_oblivious P _) fun fs =>
    (lambdaFunctions_previews cfg fs 0 0 (.refl P _ 0)).bind fun _ _ h => .record h)
    fun _ => .of_oblivious (appendError_oblivious _) fun _ => trivial

theorem Kind.cleanup_previews (k : Kind) :
    Previews P (fun _ _ => True) (k.cleanup (cfg.withDryRun true) P)
      (k.cleanup (cfg.withDryRun false) P) := by
  cases k
  case ebsVolumes => exact sweepKind_previews cfg (call_oblivious P _) (volumeBody_previews cfg)
  case ebsSnapshots => exact sweepKind_previews cfg (call_oblivious P _) (snapshotBody_previews cfg)
  case elasticIps => exact sweepKind_previews cfg (call_oblivious P _) (addressBody_previews cfg)
  case loadBalancers =>
    exact sweepKind_previews cfg (call_oblivious P _) (loadBalancerBody_previews cfg)
  case natGateways =>
    exact sweepKind_previews cfg (call_oblivious P _) (natGatewayBody_previews cfg)
  case rdsSnapshots => exact cleanupRdsSnapshots_previews cfg
  case amiImages => exact sweepKind_previews cfg (call_oblivious P _) (imageBody_previews cfg)
  case ecrImages => exact cleanupEcrImages_previews cfg
  case cloudwatchLogs =>
    exact sweepKind_previews cfg (call_oblivious P _) (logGroupBody_previews cfg)
  case s3Buckets => exact sweepKind_previews cfg (call_oblivious P _) (bucketBody_previews cfg)
  case securityGroups => exact cleanupSecurityGroups_previews cfg
  case lambdaVersions => exact cleanupOldLambdaVersions_previews cfg

/-- The report: the same `publish`, but for its subject, and neither run records its failure. -/
theorem sendNotification_previews :
    Previews P (fun _ _ => True) (sendNotification (cfg.withDryRun true) P)
      (sendNotification (cfg.withDryRun false) P) := by
  simp only [sendNotification, Config.withDryRun_snsTopicArn, Config.withDryRun_dryRun]
  split
  · exact .ite (fun _ => .swallowed rfl rfl) fun _ => .pure trivial
  · exact .pure trivial

theorem handler_previews :
    Previews P (fun _ _ => True) (handler (cfg.withDryRun true) P)
      (handler (cfg.withDryRun false) P) := by
  rw [handler_eq_forM, handler_eq_forM]
  simp only [Config.withDryRun_enabled]
  exact (Previews.tryCatch (.forM (fun k => .ite (fun _ => k.cleanup_previews cfg)
    fun _ => .pure trivial) _) fun _ => .of_oblivious (appendError_oblivious _) fun _ => trivial)
    |>.bind fun _ _ _ => sendNotification_previews cfg

theorem run_previews (P : Provider) :
    Sweep.Previews P (run (cfg.withDryRun true) P) (run (cfg.withDryRun false) P) :=
  (handler_previews cfg).final .empty

end Handlers

/-! ### The preview -/

section Found

variable {P : Provider} {k : Kind} {x y : Option Nat}

theorem found_eq_of_countsDeletes (h : Option.Rel (CountPreviews P k) x y)
    (hk : k.countsDeletes = false) : x = y := by
  cases h with
  | some h => exact congrArg some (h.2.1 hk).symm
  | none => rfl

theorem found_eq_of_deletesReturn (h : Option.Rel (CountPreviews P k) x y)
    (hP : P.DeletesReturn) : x = y := by
  cases h with
  | some h => exact congrArg some (h.2.2 hP).symm
  | none => rfl

theorem found_le (h : Option.Rel (CountPreviews P k) x y) : Option.Rel (fun n m => m ≤ n) x y := by
  cases h with
  | some h => exact .some h.1
  | none => exact .none

end Found

/-- **A dry run previews a real run.** Under one account, the run with `DRY_RUN` set makes the
reads of the account that the run without makes, in the same order, and records the real run's
errors less some (those of the deletes that raised). It writes a count for the same kinds as the
real run, the same count but for `ecr_images` and `lambda_versions`, where the real run counts
only the deletes that returned and so at most the dry run's count. -/
theorem dryRun_previews_run (cfg : Config) (P : Provider) :
    (run (cfg.withDryRun true) P).calls.filter Call.reads =
        (run (cfg.withDryRun false) P).calls.filter Call.reads ∧
      (run (cfg.withDryRun true) P).errors.Sublist (run (cfg.withDryRun false) P).errors ∧
      (∀ k, k.countsDeletes = false →
        (run (cfg.withDryRun true) P).found k = (run (cfg.withDryRun false) P).found k) ∧
      ∀ k, Option.Rel (fun n m => m ≤ n) ((run (cfg.withDryRun true) P).found k)
        ((run (cfg.withDryRun false) P).found k) :=
  have h := run_previews cfg P
  ⟨h.reads, h.errors, fun k => found_eq_of_countsDeletes (h.found k), fun k => found_le (h.found k)⟩

/-- **When every delete returns, the dry run's summary is the real run's**: the same counts,
for every kind, and the same errors. -/
theorem dryRun_exact_of_deletesReturn (cfg : Config) (P : Provider) (hP : P.DeletesReturn) :
    (run (cfg.withDryRun true) P).errors = (run (cfg.withDryRun false) P).errors ∧
      (run (cfg.withDryRun true) P).found = (run (cfg.withDryRun false) P).found :=
  have h := run_previews cfg P
  ⟨h.errors_eq hP, funext fun k => found_eq_of_deletesReturn (h.found k) hP⟩

theorem dryRun_exact_oldVolume :
    oldVolumeProvider.DeletesReturn ∧
      (run ((sampleConfig false []).withDryRun true) oldVolumeProvider).errors =
        (run ((sampleConfig false []).withDryRun false) oldVolumeProvider).errors ∧
      (run ((sampleConfig false []).withDryRun true) oldVolumeProvider).found =
        (run ((sampleConfig false []).withDryRun false) oldVolumeProvider).found := by
  have hP : oldVolumeProvider.DeletesReturn := fun c _ => by cases c <;> rfl
  exact ⟨hP, dryRun_exact_of_deletesReturn _ _ hP⟩

end OddiyaOps.Cleanup
