import OddiyaOps.Scheduler.Model

/-!
# OddiyaOps.Scheduler.Restore

**What a start restores.** A stop saves the group's `DesiredCapacity` in the
`ScheduledDesiredCapacity` tag and updates `MinSize` and `DesiredCapacity` to `0`; a start
updates `MinSize` to `1` and `DesiredCapacity` to the saved value, or to `2` when there is no
tag. Auto Scaling admits an update only within `0 ≤ MinSize ≤ DesiredCapacity ≤ MaxSize`.

## Proof shape

* One pass over a group is `Group.step` (`asgGroup_groups`); a pass over another group, and the
  EC2 and RDS handlers, leave the group alone. So an invocation acts on a group as its passes
  over it (`invoke_groups`), and a sequence of invocations as the passes of all of them, in
  order (`invokeAll_groups`, over `history`). A group that `ASG_NAMES` does not list is never
  changed (`invoke_unlisted_group`).
* A stop saves `DesiredCapacity` where the next start reads it (`scheduledDesired_step_stop`) and
  leaves the group at `0`; a start does not touch the tag, so a second start in a row changes
  nothing (`step_start_step_start`), and a start after passes with a stop among them acts as one
  right after the last stop (`step_start_of_lastStopCapacity`). That start restores the saved
  capacity, which the bound keeps below `MaxSize`, unless it is `0`: then `MinSize 1` is above
  it and the update is rejected (`step_start_step_stop`).

The restored values are therefore those before the *last* stop, not before the first stop since
the previous start, and a start with no stop before it sets `MinSize` to `1`, whatever it was.
For a retried invocation this means: a second run of a start changes no group
(`start_retry_changes_no_group`), while a second run of a stop saves the `0` the first one set,
so the next start is rejected and the group stays at `0` (`stop_retry_leaves_group_stopped`).
-/

namespace OddiyaOps.Scheduler

open OddiyaOps.Python

/-! ### One pass over a group -/

@[simp] theorem issue_run (call : Call) (c : Cloud) : (issue call).run c = ((), c.issue call) := rfl

@[simp] theorem modify_run (f : Cloud → Cloud) (c : Cloud) :
    (modify f : Sched Unit).run c = ((), f c) :=
  rfl

@[simp] theorem get_run (c : Cloud) : (get : Sched Cloud).run c = (c, c) := rfl

variable (S : Services)

/-- An update changes the group it names as `Group.update` does. -/
theorem updateAutoScalingGroup_groups {c : Cloud} {name : String} {g : Group}
    (hg : c.groups name = some g) (m d : Int) (n : String) :
    ((updateAutoScalingGroup S name g m d).run c).2.groups n =
      if n = name then some (g.update m d) else c.groups n := by
  unfold updateAutoScalingGroup Group.update
  split
  · rfl
  · show c.groups n = _
    split <;> simp_all

theorem asgGroup_groups (action name n : String) (c : Cloud) :
    ((asgGroup S action name).run c).2.groups n =
      if n = name then (c.groups name).map (Group.step (action = "start")) else c.groups n := by
  simp only [asgGroup, StateT.run_bind, issue_run, get_run, Id.bind_eq, Cloud.issue_groups]
  cases hg : c.groups name with
  | none => split <;> by_cases hn : n = name <;> simp_all
  | some g =>
    simp only [Option.map_some', Group.step]
    by_cases ha : action = "start"
    · simp only [ha, decide_True, if_true]
      cases hd : scheduledDesired g.tags with
      | error e => split <;> by_cases hn : n = name <;> simp_all
      | ok d =>
        simp only [StateT.run_bind, Id.bind_eq]
        split <;> exact updateAutoScalingGroup_groups S (by rwa [Cloud.issue_groups]) 1 d n
    · simp only [ha, decide_False, Bool.false_eq_true, if_false, StateT.run_bind, Id.bind_eq]
      split <;>
      · refine (updateAutoScalingGroup_groups S
          (g := g.setTag capacityTag (toString g.desiredCapacity))
          (by simp [Cloud.setGroup_groups]) 0 0 n).trans ?_
        by_cases hn : n = name <;> simp [hn, Cloud.setGroup_groups]

/-- A group after a sequence of passes, each a start (`true`) or a stop. -/
def Group.run (g : Group) (ops : List Bool) : Group := ops.foldl (fun g start => g.step start) g

@[simp] theorem Group.run_nil (g : Group) : g.run [] = g := rfl

@[simp] theorem Group.run_cons (g : Group) (b : Bool) (ops : List Bool) :
    g.run (b :: ops) = (g.step b).run ops := rfl

theorem Group.run_append (g : Group) (ops ops' : List Bool) :
    g.run (ops ++ ops') = (g.run ops).run ops' :=
  List.foldl_append _ _ _ _

theorem handleAutoScalingGroups_groups (action n : String) :
    ∀ (names : List String) (c : Cloud),
      ((handleAutoScalingGroups S names action).run c).2.groups n =
        (c.groups n).map (·.run ((names.filter (· = n)).map fun _ => decide (action = "start")))
  | [], c => by simp; rfl
  | name :: names, c => by
    have ih := handleAutoScalingGroups_groups action n names
    simp only [handleAutoScalingGroups] at ih ⊢
    simp only [List.mapM_cons, StateT.run_bind, Id.bind_eq, StateT.run_pure, Id.pure_eq, ih,
      asgGroup_groups]
    by_cases hn : name = n
    · subst hn
      cases c.groups name <;> simp
    · simp [Ne.symm hn, hn]

/-! ### The other handlers leave the groups alone -/

theorem handleEc2Instances_groups (ids : List String) (action : String) (c : Cloud) :
    ((handleEc2Instances S ids action).run c).2.groups = c.groups := by
  unfold handleEc2Instances
  split
  · rfl
  · split
    · cases S.startInstances ids <;> rfl
    · cases S.stopInstances ids <;> rfl

theorem rdsInstance_groups (action dbId : String) (c : Cloud) :
    ((rdsInstance S action dbId).run c).2.groups = c.groups := by
  unfold rdsInstance rdsCall
  simp only [StateT.run_bind, Id.bind_eq]
  split
  · rfl
  · split <;> split <;> simp only [StateT.run_bind, Id.bind_eq] <;> split <;> rfl

theorem handleRdsInstances_groups (action : String) :
    ∀ (ids : List String) (c : Cloud), ((handleRdsInstances S ids action).run c).2.groups = c.groups
  | [], c => rfl
  | dbId :: ids, c => by
    have ih := handleRdsInstances_groups action ids
    simp only [handleRdsInstances] at ih ⊢
    simp only [List.mapM_cons, StateT.run_bind, Id.bind_eq, StateT.run_pure, Id.pure_eq, ih,
      rdsInstance_groups]

theorem whenAny_groups {ε : Type} (rs : List String) (m : Sched (List ε)) (c : Cloud)
    (h : (m.run c).2.groups = c.groups) : ((whenAny rs m).run c).2.groups = c.groups := by
  unfold whenAny
  split
  · rfl
  · exact h

theorem whenAny_handleAutoScalingGroups_groups (names : List String) (action n : String)
    (c : Cloud) :
    ((whenAny names (handleAutoScalingGroups S names action)).run c).2.groups n =
      (c.groups n).map (·.run ((names.filter (· = n)).map fun _ => decide (action = "start"))) := by
  unfold whenAny
  split
  · rename_i h
    simp [List.isEmpty_iff.1 h]
  · exact handleAutoScalingGroups_groups S action n names c

/-! ### Invocations -/

/-- Whether an invocation starts: `event.get('action', 'stop').lower() == 'start'`. -/
def Invocation.isStart (inv : Invocation) : Bool := pyLower (inv.action?.getD "stop") = "start"

/-- The passes an invocation makes over the group `name`: one per occurrence in `ASG_NAMES`. -/
def Invocation.passes (inv : Invocation) (name : String) : List Bool :=
  (inv.env.asgNames.filter (· = name)).map fun _ => inv.isStart

/-- An invocation passes over a group as many times as `ASG_NAMES` names it, each time with its
own action. -/
theorem Invocation.passes_eq (inv : Invocation) (name : String) :
    inv.passes name = List.replicate (inv.env.asgNames.count name) inv.isStart := by
  rw [Invocation.passes, List.map_const', List.count, List.countP_eq_length_filter]
  congr 3

/-- An invocation changes each group by its passes over it. -/
theorem invoke_groups (inv : Invocation) (name : String) (c : Cloud) :
    (invoke S inv c).groups name = (c.groups name).map (·.run (inv.passes name)) := by
  simp only [invoke, handler, StateT.run_bind, Id.bind_eq, StateT.run_pure, Id.pure_eq]
  rw [whenAny_handleAutoScalingGroups_groups,
    whenAny_groups _ _ _ (handleRdsInstances_groups S _ _ _),
    whenAny_groups _ _ _ (handleEc2Instances_groups S _ _ _)]
  rfl

/-- The passes a sequence of invocations makes over the group `name`, in order. -/
def history (name : String) (invs : List Invocation) : List Bool := invs.flatMap (·.passes name)

/-- A sequence of invocations changes each group by all their passes over it. -/
theorem invokeAll_groups (name : String) :
    ∀ (invs : List Invocation) (c : Cloud),
      (invokeAll S invs c).groups name = (c.groups name).map (·.run (history name invs))
  | [], c => by simp [invokeAll, history]
  | inv :: invs, c => by
    have ih := invokeAll_groups name invs (invoke S inv c)
    simp only [invokeAll, List.foldl_cons] at ih ⊢
    rw [ih, invoke_groups, Option.map_map]
    simp only [history, List.flatMap_cons, Group.run_append]
    rfl

/-! ### The saved capacity -/

/-- `DesiredCapacity` just before the last stop among the passes, if there is one. -/
def lastStopCapacity : Group → List Bool → Option Int
  | _, [] => none
  | g, start :: ops =>
    (lastStopCapacity (g.step start) ops).or (if start then none else some g.desiredCapacity)

theorem scheduledDesired_map_setTag (value : String) :
    ∀ tags : List Tag, tags.any (·.key == capacityTag) = true →
      scheduledDesired (tags.map fun t => if t.key = capacityTag then ⟨capacityTag, value⟩ else t) =
        capacityOf value
  | [], h => by simp at h
  | t :: ts, h => by
    by_cases ht : t.key = capacityTag
    · simp [scheduledDesired, ht]
    · have h' : ts.any (·.key == capacityTag) = true := by simpa [ht] using h
      simp [scheduledDesired, ht, scheduledDesired_map_setTag value ts h']

theorem scheduledDesired_append_tag (value : String) :
    ∀ tags : List Tag, tags.any (·.key == capacityTag) = false →
      scheduledDesired (tags ++ [⟨capacityTag, value⟩]) = capacityOf value
  | [], _ => by simp [scheduledDesired]
  | t :: ts, h => by
    simp only [List.any_cons, Bool.or_eq_false_iff, beq_eq_false_iff_ne] at h
    simp [scheduledDesired, h.1, scheduledDesired_append_tag value ts h.2]

/-- A stop saves `DesiredCapacity` where the next start reads it. -/
theorem scheduledDesired_step_stop (g : Group) :
    scheduledDesired (g.step false).tags = .ok g.desiredCapacity := by
  have hread : capacityOf (toString g.desiredCapacity) = .ok g.desiredCapacity := by
    simp [capacityOf, pyInt_toString]
  simp only [Group.step, Bool.false_eq_true, if_false, Group.update_tags, Group.setTag]
  split
  · exact (scheduledDesired_map_setTag _ _ ‹_›).trans hread
  · exact (scheduledDesired_append_tag _ _ (Bool.eq_false_iff.2 ‹_›)).trans hread

/-- A stop leaves the group at `0`: the bound admits that update on every group. -/
theorem step_stop_sizes (g : Group) :
    (g.step false).minSize = 0 ∧ (g.step false).desiredCapacity = 0 :=
  Group.update_of_admits (Group.admits_zero _)

@[simp] theorem Group.step_maxSize (b : Bool) (g : Group) : (g.step b).maxSize = g.maxSize := by
  unfold Group.step
  split
  · split <;> simp
  · simp

theorem step_start_of_scheduledDesired {g : Group} {d : Int} (h : scheduledDesired g.tags = .ok d) :
    g.step true = g.update 1 d := by
  simp [Group.step, h]

theorem step_start_of_error {g : Group} {e : String} (h : scheduledDesired g.tags = .error e) :
    g.step true = g := by
  simp [Group.step, h]

/-- A second start in a row changes nothing. -/
theorem step_start_step_start (g : Group) : (g.step true).step true = g.step true := by
  cases hd : scheduledDesired g.tags with
  | ok d =>
    rw [step_start_of_scheduledDesired hd,
      step_start_of_scheduledDesired (by rwa [Group.update_tags] : scheduledDesired _ = _),
      Group.update_update]
  | error e => rw [step_start_of_error hd, step_start_of_error hd]

theorem run_replicate_start (g : Group) (k : Nat) :
    g.run (List.replicate (k + 1) true) = g.step true := by
  induction k with
  | zero => rfl
  | succ k ih =>
    rw [List.replicate_succ', Group.run_append, ih]
    exact step_start_step_start g

/-- Starts before a start change nothing it does. -/
theorem step_start_run_starts (g : Group) :
    ∀ k, (g.run (List.replicate k true)).step true = g.step true
  | 0 => rfl
  | k + 1 => by rw [run_replicate_start, step_start_step_start]

/-- Passes with no stop are all starts. -/
theorem eq_replicate_of_lastStopCapacity_none :
    ∀ (g : Group) (ops : List Bool), lastStopCapacity g ops = none →
      ops = List.replicate ops.length true
  | _, [], _ => rfl
  | g, b :: ops, h => by
    simp only [lastStopCapacity, Option.or_eq_none] at h
    cases b
    · simp at h
    · rw [List.length_cons, List.replicate_succ,
        ← eq_replicate_of_lastStopCapacity_none _ ops h.1]

/-- A start right after a stop restores the capacity `d` the stop saved, unless `d` is `0`:
`MinSize 1` is then above it, the update is rejected, and the group stays at `0`. -/
theorem step_start_step_stop (g : Group) :
    if g.desiredCapacity = 0 then
      ((g.step false).step true).minSize = 0 ∧ ((g.step false).step true).desiredCapacity = 0
    else ((g.step false).step true).minSize = 1 ∧
      ((g.step false).step true).desiredCapacity = g.desiredCapacity := by
  obtain ⟨hmin, hdes⟩ := step_stop_sizes g
  obtain ⟨h0, h1, h2⟩ := g.bounded
  rw [step_start_of_scheduledDesired (scheduledDesired_step_stop g)]
  split
  · rename_i hz
    rw [Group.update_of_not_admits fun h => absurd h.2.1 (by omega)]
    exact ⟨hmin, hdes⟩
  · exact Group.update_of_admits ⟨zero_le_one, by omega, by simpa using h2⟩

/-- A start after passes with a stop among them acts as one right after the last stop. -/
theorem step_start_of_lastStopCapacity :
    ∀ (g : Group) (ops : List Bool) {d : Int}, lastStopCapacity g ops = some d →
      if d = 0 then
        ((g.run ops).step true).minSize = 0 ∧ ((g.run ops).step true).desiredCapacity = 0
      else ((g.run ops).step true).minSize = 1 ∧ ((g.run ops).step true).desiredCapacity = d
  | _, [], _, h => nomatch h
  | g, b :: ops, d, h => by
    simp only [lastStopCapacity] at h
    cases hl : lastStopCapacity (g.step b) ops with
    | some d' =>
      simp only [hl, Option.or_some, Option.some_inj] at h
      exact h ▸ step_start_of_lastStopCapacity (g.step b) ops hl
    | none =>
      simp only [hl, Option.none_or] at h
      cases b
      · obtain rfl : g.desiredCapacity = d := Option.some_inj.1 h
        rw [Group.run_cons, eq_replicate_of_lastStopCapacity_none _ _ hl, step_start_run_starts]
        exact step_start_step_stop g
      · simp at h

/-! ### Starts -/

/-- **What a start restores.** For every initial state of a group and every sequence of
invocations before a start that names it: when a stop pass came before, the start restores the
`DesiredCapacity` `d` the group had just before the last one, with `MinSize` `1`, unless `d` is
`0`, in which case Auto Scaling rejects the update and the group stays at `0`. With no stop
before, the start updates the group to `MinSize` `1` and `int` of its initial
`ScheduledDesiredCapacity` tag, or `2` without one, when the service admits it; otherwise, and
when `int` rejects the tag, the group is left as it was. -/
theorem start_restores_last_stop (c : Cloud) (invs : List Invocation) (inv : Invocation)
    (name : String) (g0 : Group) (hg : c.groups name = some g0) (hstart : inv.isStart = true)
    (hname : name ∈ inv.env.asgNames) :
    ∃ g, (invoke S inv (invokeAll S invs c)).groups name = some g ∧
      match lastStopCapacity g0 (history name invs), scheduledDesired g0.tags with
      | some d, _ =>
        if d = 0 then g.minSize = 0 ∧ g.desiredCapacity = 0
        else g.minSize = 1 ∧ g.desiredCapacity = d
      | none, .ok d =>
        if 1 ≤ d ∧ d ≤ g0.maxSize then g.minSize = 1 ∧ g.desiredCapacity = d else g = g0
      | none, .error _ => g = g0 := by
  obtain ⟨k, hk⟩ := Nat.exists_eq_succ_of_ne_zero (List.count_pos_iff.2 hname).ne'
  refine ⟨(g0.run (history name invs)).step true, ?_, ?_⟩
  · rw [invoke_groups, invokeAll_groups, hg, Invocation.passes_eq, hstart, hk]
    simp [run_replicate_start]
  · cases hl : lastStopCapacity g0 (history name invs) with
    | some d => exact step_start_of_lastStopCapacity g0 _ hl
    | none =>
      rw [eq_replicate_of_lastStopCapacity_none g0 _ hl, step_start_run_starts]
      cases hd : scheduledDesired g0.tags with
      | ok d =>
        dsimp only
        rw [step_start_of_scheduledDesired hd]
        split
        · rename_i hin
          exact Group.update_of_admits ⟨zero_le_one, hin.1, hin.2⟩
        · rename_i hout
          exact Group.update_of_not_admits fun h => hout ⟨h.2.1, h.2.2⟩
      | error e => exact step_start_of_error hd

/-! ### A group that was never stopped -/

/-- EC2 and RDS answering every call without a change. -/
def Services.quiet : Services :=
  ⟨fun _ => .ok [], fun _ => .ok [], fun _ => .notFound, fun _ => .ok (), fun _ => .ok (),
    fun _ => .ok (), fun _ => .ok (), fun _ _ _ => "ValidationError"⟩

/-- The group `web`, running with `MinSize` 3, `DesiredCapacity` 5 and `MaxSize` 10. -/
def webGroup : Group := ⟨3, 5, 10, [], by decide⟩

/-- An account whose only group is `web`. -/
def webCloud : Cloud := ⟨fun n => if n = "web" then some webGroup else none, []⟩

/-- An invocation with `ASG_NAMES = ["web"]`. -/
def webInvocation (action : String) : Invocation := ⟨some action, ⟨[], [], ["web"]⟩⟩

theorem start_restores_last_stop_web :
    webCloud.groups "web" = some webGroup ∧ (webInvocation "start").isStart = true ∧
      "web" ∈ (webInvocation "start").env.asgNames ∧
      ∃ g, (invoke Services.quiet (webInvocation "start") (invokeAll Services.quiet
          [webInvocation "stop", webInvocation "stop"] webCloud)).groups "web" = some g ∧
        match lastStopCapacity webGroup
            (history "web" [webInvocation "stop", webInvocation "stop"]), scheduledDesired [] with
        | some d, _ =>
          if d = 0 then g.minSize = 0 ∧ g.desiredCapacity = 0
          else g.minSize = 1 ∧ g.desiredCapacity = d
        | none, .ok d =>
          if 1 ≤ d ∧ d ≤ webGroup.maxSize then g.minSize = 1 ∧ g.desiredCapacity = d
          else g = webGroup
        | none, .error _ => g = webGroup :=
  ⟨rfl, rfl, by decide, start_restores_last_stop Services.quiet webCloud _ _ "web" _ rfl rfl
    (by decide)⟩

/-- A start with no stop before it sets `MinSize` 1 and `DesiredCapacity` 2 instead of keeping
3 and 5; and after two stops, a start leaves the group at the `0` the second stop saved. -/
theorem start_does_not_restore_initial_capacity :
    webCloud.groups "web" = some webGroup ∧
      (invoke Services.quiet (webInvocation "start") webCloud).groups "web" =
        some ⟨1, 2, 10, [], by decide⟩ ∧
      (invokeAll Services.quiet [webInvocation "stop", webInvocation "stop",
        webInvocation "start"] webCloud).groups "web" =
        some ⟨0, 0, 10, [⟨capacityTag, "0"⟩], by decide⟩ :=
  ⟨rfl, by decide, by decide⟩

/-! ### Groups outside `ASG_NAMES` -/

/-- **An invocation scales only the groups it names.** A group that `ASG_NAMES` does not list is
left as it was, whatever the action and whatever EC2 and RDS answer. -/
theorem invoke_unlisted_group (c : Cloud) (inv : Invocation) (name : String)
    (h : name ∉ inv.env.asgNames) : (invoke S inv c).groups name = c.groups name := by
  rw [invoke_groups, Invocation.passes_eq, List.count_eq_zero_of_not_mem h, List.replicate_zero]
  cases c.groups name <;> rfl

/-- A stop of the group `api` leaves `web` running. -/
theorem invoke_unlisted_group_web :
    "web" ∉ (⟨some "stop", ⟨[], [], ["api"]⟩⟩ : Invocation).env.asgNames ∧
      (invoke Services.quiet ⟨some "stop", ⟨[], [], ["api"]⟩⟩ webCloud).groups "web" =
        some webGroup :=
  ⟨by decide, invoke_unlisted_group Services.quiet webCloud _ "web" (by decide)⟩

/-! ### Retried invocations -/

/-- **A retried start changes no group.** Running a start invocation a second time leaves every
group as the first run left it. -/
theorem start_retry_changes_no_group (c : Cloud) (inv : Invocation) (hstart : inv.isStart = true)
    (name : String) :
    (invoke S inv (invoke S inv c)).groups name = (invoke S inv c).groups name := by
  rw [invoke_groups, invoke_groups, Option.map_map]
  congr 1
  funext g
  rw [Function.comp_apply, ← Group.run_append, Invocation.passes_eq, hstart,
    List.append_replicate_replicate]
  cases h : inv.env.asgNames.count name with
  | zero => rfl
  | succ n => rw [show n + 1 + (n + 1) = n + 1 + n + 1 by omega, run_replicate_start,
      run_replicate_start]

theorem start_retry_changes_no_group_web :
    (webInvocation "start").isStart = true ∧
      (invoke Services.quiet (webInvocation "start")
          (invoke Services.quiet (webInvocation "start") webCloud)).groups "web" =
        (invoke Services.quiet (webInvocation "start") webCloud).groups "web" :=
  ⟨rfl, start_retry_changes_no_group Services.quiet webCloud (webInvocation "start") rfl "web"⟩

/-- A stop pass, or several, leave a group at size `0`. -/
theorem run_stops_sizes (g : Group) (n : Nat) :
    (g.run (List.replicate (n + 1) false)).minSize = 0 ∧
      (g.run (List.replicate (n + 1) false)).desiredCapacity = 0 := by
  rw [List.replicate_succ', Group.run_append, Group.run_cons, Group.run_nil]
  exact step_stop_sizes _

/-- **A retried stop loses the saved capacity.** When a stop invocation that names a group runs
twice before a start that names it, the group stays at `MinSize` `0` and `DesiredCapacity` `0`:
the second stop saves the `0` the first one set, and the start's update to `MinSize` `1` with
that `DesiredCapacity` is rejected. -/
theorem stop_retry_leaves_group_stopped (c : Cloud) (stop start : Invocation) (name : String)
    (g0 : Group) (hg : c.groups name = some g0) (hstop : stop.isStart = false)
    (hstart : start.isStart = true) (h₁ : name ∈ stop.env.asgNames)
    (h₂ : name ∈ start.env.asgNames) :
    ∃ g, (invokeAll S [stop, stop, start] c).groups name = some g ∧
      g.minSize = 0 ∧ g.desiredCapacity = 0 := by
  obtain ⟨a, ha⟩ := Nat.exists_eq_succ_of_ne_zero (List.count_pos_iff.2 h₁).ne'
  obtain ⟨b, hb⟩ := Nat.exists_eq_succ_of_ne_zero (List.count_pos_iff.2 h₂).ne'
  have hrun : g0.run (history name [stop, stop, start]) =
      ((g0.run (List.replicate (a + a + 1) false)).step false).step true := by
    simp only [history, List.flatMap_cons, List.flatMap_nil, List.append_nil,
      Invocation.passes_eq, hstop, hstart, ha, hb, ← List.append_assoc,
      List.append_replicate_replicate, Group.run_append, run_replicate_start]
    rw [show a + 1 + (a + 1) = a + a + 1 + 1 by omega, List.replicate_succ', Group.run_append]
    rfl
  have hstopped := step_start_step_stop (g0.run (List.replicate (a + a + 1) false))
  rw [if_pos (run_stops_sizes g0 (a + a)).2] at hstopped
  exact ⟨_, by rw [invokeAll_groups, hg, Option.map_some', hrun], hstopped⟩

theorem stop_retry_leaves_group_stopped_web :
    webCloud.groups "web" = some webGroup ∧ (webInvocation "stop").isStart = false ∧
      (webInvocation "start").isStart = true ∧ "web" ∈ (webInvocation "stop").env.asgNames ∧
      "web" ∈ (webInvocation "start").env.asgNames ∧
      ∃ g, (invokeAll Services.quiet [webInvocation "stop", webInvocation "stop",
          webInvocation "start"] webCloud).groups "web" = some g ∧
        g.minSize = 0 ∧ g.desiredCapacity = 0 :=
  ⟨rfl, rfl, rfl, by decide, by decide, stop_retry_leaves_group_stopped Services.quiet webCloud
    (webInvocation "stop") (webInvocation "start") "web" _ rfl rfl rfl (by decide) (by decide)⟩

end OddiyaOps.Scheduler
