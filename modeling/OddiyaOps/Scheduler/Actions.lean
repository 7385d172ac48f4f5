import OddiyaOps.Scheduler.Restore

/-!
# OddiyaOps.Scheduler.Actions

**Every action but `start` is a stop.** `handler` lower-cases the event's `action` and hands
it to the three handlers, and each of them compares it only with `'start'`: any other value,
a typo such as `'restart'` included, takes the stop branch. So an invocation with such an action
changes the account and makes the calls exactly as one with `'stop'` does, and these are stop
calls: no `start_*` call, and every `update_auto_scaling_group` scales to `0`
(`handler_non_start_stops`).

## Proof shape

One equation per handler says that it reads the action only through `action = "start"`
(`handleEc2Instances_of_ne_start`, `rdsInstance_of_ne_start`, `asgGroup_of_ne_start`); together
they rewrite `handler` (`handler_of_ne_start`). `Issues ok m` says that `m`, from any account,
only appends calls satisfying `ok` to the log; it is closed under the constructs the handlers
are written with, so a stop issues only stop calls (`handler_stop_issues`).
-/

namespace OddiyaOps.Scheduler

open OddiyaOps.Python

variable (S : Services)

/-! ### The handlers compare the action only with `start` -/

theorem handleEc2Instances_of_ne_start {action : String} (h : action ≠ "start")
    (ids : List String) : handleEc2Instances S ids action = handleEc2Instances S ids "stop" := by
  simp only [handleEc2Instances, if_neg h, if_neg (show "stop" ≠ "start" by decide)]

theorem rdsInstance_of_ne_start {action : String} (h : action ≠ "start") :
    rdsInstance S action = rdsInstance S "stop" := by
  funext dbId
  simp only [rdsInstance, if_neg h, if_neg (show "stop" ≠ "start" by decide)]

theorem asgGroup_of_ne_start {action : String} (h : action ≠ "start") :
    asgGroup S action = asgGroup S "stop" := by
  funext name
  simp only [asgGroup, if_neg h, if_neg (show "stop" ≠ "start" by decide)]

/-- An invocation whose action is not `start` runs as one with `stop`, but for the action it
reports. -/
theorem handler_of_ne_start {action? : Option String}
    (h : pyLower (action?.getD "stop") ≠ "start") (env : Env) :
    handler S action? env = (fun r => { r with action := pyLower (action?.getD "stop") }) <$>
      handler S (some "stop") env := by
  simp only [handler, handleEc2Instances_of_ne_start S h, handleRdsInstances,
    rdsInstance_of_ne_start S h, handleAutoScalingGroups, asgGroup_of_ne_start S h,
    Option.getD_some, show pyLower "stop" = "stop" by decide, map_bind, map_pure]

/-! ### A stop makes only stop calls -/

/-- The calls of a stop: `stop_instances`, the RDS lookup and stops, the group lookup, the tag
saving the capacity, and `update_auto_scaling_group` to `0`. -/
def Call.stopSide : Call → Bool
  | .stopInstances _ | .describeDbClusters _ | .stopDbCluster _ | .stopDbInstance _
  | .describeAutoScalingGroups _ | .createOrUpdateTags _ _ _ => true
  | .updateAutoScalingGroup _ minSize desiredCapacity => minSize = 0 && desiredCapacity = 0
  | .startInstances _ | .startDbCluster _ | .startDbInstance _ => false

/-- From any account, `m` only appends calls satisfying `ok` to the log. -/
def Issues {α : Type} (ok : Call → Bool) (m : Sched α) : Prop :=
  ∀ c, ∃ new, (m.run c).2.calls = c.calls ++ new ∧ ∀ x ∈ new, ok x = true

section Issues

variable {α β : Type} {ok : Call → Bool}

theorem Issues.ret (a : α) : Issues ok (pure a : Sched α) := fun c => ⟨[], by simp, by simp⟩

theorem Issues.bind {m : Sched α} {f : α → Sched β} (hm : Issues ok m)
    (hf : ∀ a, Issues ok (f a)) : Issues ok (m >>= f) := fun c => by
  obtain ⟨n1, h1, k1⟩ := hm c
  obtain ⟨n2, h2, k2⟩ := hf (m.run c).1 (m.run c).2
  refine ⟨n1 ++ n2, ?_, fun x hx => (List.mem_append.1 hx).elim (k1 x) (k2 x)⟩
  rw [StateT.run_bind]
  show ((f (m.run c).1).run (m.run c).2).2.calls = _
  rw [h2, h1, List.append_assoc]

theorem Issues.call {call : Call} (h : ok call = true) : Issues ok (issue call) := fun c =>
  ⟨[call], rfl, by simp [h]⟩

theorem Issues.setGroup (name : String) (g : Group) :
    Issues ok (modify (·.setGroup name g) : Sched Unit) := fun c => ⟨[], by simp, by simp⟩

theorem Issues.read {f : Cloud → Sched β} (hf : ∀ c, Issues ok (f c)) : Issues ok (get >>= f) :=
  fun c => hf c c

theorem Issues.ite {p : Prop} [Decidable p] {a b : Sched α} (ha : Issues ok a)
    (hb : Issues ok b) : Issues ok (if p then a else b) := by
  split
  exacts [ha, hb]

theorem Issues.mapM {f : β → Sched α} (hf : ∀ x, Issues ok (f x)) :
    ∀ xs : List β, Issues ok (xs.mapM f)
  | [] => .ret _
  | x :: xs => by
    rw [List.mapM_cons]
    exact .bind (hf x) fun a => .bind (Issues.mapM hf xs) fun _ => .ret _

end Issues

theorem handleEc2Instances_issues (ids : List String) :
    Issues Call.stopSide (handleEc2Instances S ids "stop") := by
  unfold handleEc2Instances
  refine .ite (.ret _) ?_
  rw [if_neg (by decide)]
  exact .bind (.call rfl) fun _ => by split <;> exact .ret _

theorem rdsInstance_issues (dbId : String) : Issues Call.stopSide (rdsInstance S "stop" dbId) := by
  unfold rdsInstance rdsCall
  refine .bind (.call rfl) fun _ => ?_
  split
  · exact .ret _
  · simp only [if_neg (show "stop" ≠ "start" by decide)]
    exact .ite (.bind (.call rfl) fun _ => by split <;> exact .ret _)
      (.bind (.call rfl) fun _ => by split <;> exact .ret _)

theorem updateAutoScalingGroup_issues (name : String) (g : Group) :
    Issues Call.stopSide (updateAutoScalingGroup S name g 0 0) := by
  unfold updateAutoScalingGroup
  refine .bind (.call rfl) fun _ => ?_
  split
  · exact .bind (.setGroup _ _) fun _ => .ret _
  · exact .ret _

theorem asgGroup_issues (name : String) : Issues Call.stopSide (asgGroup S "stop" name) := by
  unfold asgGroup
  refine .bind (.call rfl) fun _ => .read fun c => ?_
  split
  · exact .ret _
  · rw [if_neg (by decide)]
    exact .bind (.call rfl) fun _ => .bind (.setGroup _ _) fun _ =>
      .bind (updateAutoScalingGroup_issues S _ _) fun r => by split <;> exact .ret _

/-- A stop issues only stop calls. -/
theorem handler_stop_issues (env : Env) : Issues Call.stopSide (handler S (some "stop") env) := by
  unfold handler whenAny
  exact .bind (.ite (.ret _) (handleEc2Instances_issues S _)) fun _ =>
    .bind (.ite (.ret _) (.mapM (rdsInstance_issues S) _)) fun _ =>
      .bind (.ite (.ret _) (.mapM (asgGroup_issues S) _)) fun _ => .ret _

/-! ### An action other than `start` -/

/-- **Any action but `start` stops.** For all EC2 and RDS answers, every configuration
and every account, an invocation whose lower-cased action is not `start` leaves the account and
the call log as one with `stop` does, returns the same result but for its `action`, and
appends only stop calls. -/
theorem handler_non_start_stops (action? : Option String) (env : Env) (c : Cloud)
    (h : pyLower (action?.getD "stop") ≠ "start") :
    ((handler S action? env).run c).2 = ((handler S (some "stop") env).run c).2 ∧
    ((handler S action? env).run c).1 =
      { ((handler S (some "stop") env).run c).1 with action := pyLower (action?.getD "stop") } ∧
    ∃ new, ((handler S action? env).run c).2.calls = c.calls ++ new ∧
      ∀ call ∈ new, call.stopSide = true := by
  rw [handler_of_ne_start S h]
  obtain ⟨new, hnew, hstop⟩ := handler_stop_issues S env c
  exact ⟨rfl, rfl, new, hnew, hstop⟩

/-- The configuration of the runs below: one instance, one database, the group `web`. -/
def oneOfEachEnv : Env := ⟨["i-1"], ["db-1"], ["web"]⟩

theorem handler_non_start_stops_restart :
    pyLower ((some "Restart").getD "stop") ≠ "start" ∧
    ((handler Services.quiet (some "Restart") oneOfEachEnv).run webCloud).2 =
        ((handler Services.quiet (some "stop") oneOfEachEnv).run webCloud).2 ∧
      ((handler Services.quiet (some "Restart") oneOfEachEnv).run webCloud).1 =
        { ((handler Services.quiet (some "stop") oneOfEachEnv).run webCloud).1 with
          action := pyLower ((some "Restart").getD "stop") } ∧
      ∃ new, ((handler Services.quiet (some "Restart") oneOfEachEnv).run webCloud).2.calls =
          webCloud.calls ++ new ∧ ∀ call ∈ new, call.stopSide = true :=
  ⟨by decide, handler_non_start_stops Services.quiet _ _ _ (by decide)⟩

/-- The action `Restart`, neither `start` nor `stop` once lower-cased, stops the instance and
the database and scales `web` to `0`. -/
theorem restart_stops_resources :
    pyLower "Restart" ≠ "start" ∧ pyLower "Restart" ≠ "stop" ∧
      (invoke Services.quiet ⟨some "Restart", oneOfEachEnv⟩ webCloud).calls =
        [.stopInstances ["i-1"], .describeDbClusters "db-1", .stopDbInstance "db-1",
          .describeAutoScalingGroups "web", .createOrUpdateTags "web" capacityTag "5",
          .updateAutoScalingGroup "web" 0 0] ∧
      (invoke Services.quiet ⟨some "Restart", oneOfEachEnv⟩ webCloud).groups "web" =
        some ⟨0, 0, 10, [⟨capacityTag, "5"⟩], by decide⟩ := by
  decide

end OddiyaOps.Scheduler
