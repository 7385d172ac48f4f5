import OddiyaOps.FixYaml.Sections

/-!
# OddiyaOps.FixYaml.Rerun

**`fix-yaml.py` run on its own output changes nothing** (`fixContent_idempotent`): the file it
writes is cut into profiles that each merge to themselves, and joined back to the same text.

The second run does not cut where the first one joined. A merged profile may hold `'\n---\n'`
itself: a line `---` outside every section stays where it was, and the merge moves the lines
after it in front of `app:`. So the second run cuts a merged profile into more pieces
(`mergeAppSections_of_mem_pySplit_merged`), at its lines `---` (`dashes_line_of_sep`); every
piece but the last is lines without a header, and the last is lines without a header, `app:` and
the merged body, which is the form a merge writes (`MergedForm`,
`mergeAppSections_pyJoin_merged`). So every profile the second run reads is a fixed point of the
merge, and has at most one root-level `app:` header (`fixContent_single_app_header`).

## Proof shape

`pySplit_pyJoin` splits a join into the splits of its parts, when no part but the last runs
into an occurrence of the separator across the separator after it (`NoStraddle`). For
`'\n---\n'` that fails only for a part ending in `'\n---'` (`noStraddle_of_not_suffix`), so
only for joined lines whose last line is `---` (`eq_append_dashes_of_suffix`). A merged profile
with sections ends with `app:` or a body line, and one without sections is a part of the first
split, which no occurrence runs out of (`noStraddle_of_mem_dropLast`).
-/

namespace OddiyaOps.FixYaml

open OddiyaOps.Python

/-! ### Splitting a join -/

theorem pySplit_ne_nil (s sep : String) : pySplit s sep ≠ [] := by
  simpa [pySplit] using splitScan_ne_nil sep.toList 0 s.toList []

theorem pyJoin_append {sep : String} : ∀ {xs ys : List String}, xs ≠ [] → ys ≠ [] →
    pyJoin sep (xs ++ ys) = pyJoin sep xs ++ sep ++ pyJoin sep ys
  | [_], _, _, hy => by rw [List.singleton_append, pyJoin_cons hy, pyJoin_singleton]
  | x :: x' :: xs, ys, _, hy => by
    rw [List.cons_append, pyJoin_cons (by simp), pyJoin_append (List.cons_ne_nil x' xs) hy,
      pyJoin_cons (List.cons_ne_nil x' xs)]
    simp only [String.append_assoc]

/-- **Split of a join**: the parts' own splits, when no part but the last runs into the
separator after it. -/
theorem pySplit_pyJoin {sep : String} (hsep : sep ≠ "") : ∀ {ms : List String}, ms ≠ [] →
    (∀ m ∈ ms.dropLast, NoStraddle sep.toList m.toList) →
      pySplit (pyJoin sep ms) sep = ms.flatMap (pySplit · sep)
  | [_], _, _ => by simp [pyJoin_singleton]
  | m :: m' :: ms, _, h => by
    rw [List.dropLast_cons_of_ne_nil (List.cons_ne_nil _ _)] at h
    rw [pyJoin_cons (List.cons_ne_nil _ _), pySplit_append_sep _ hsep (h m (.head _)),
      pySplit_pyJoin hsep (List.cons_ne_nil _ _) fun x hx => h x (.tail _ hx)]
    simp only [List.flatMap_cons]

/-! ### Where `'\n---\n'` stands in joined lines -/

theorem eq_dashes_of_leading {v t : List Char} (hv : '\n' ∉ v)
    (h : ['-', '-', '-', '\n'] <+: v ++ '\n' :: t) : v = ['-', '-', '-'] := by
  have hlen : v.length ≤ 3 := by
    by_contra hl
    have : ['-', '-', '-', '\n'] <+: v :=
      List.prefix_of_prefix_length_le h (List.prefix_append _ _) (by simp; omega)
    exact hv (this.subset (by simp))
  have hpre : v <+: ['-', '-', '-', '\n'] :=
    List.prefix_of_prefix_length_le (List.prefix_append _ _) h (by simp; omega)
  obtain ⟨k, hk⟩ : ∃ k, v.length = k := ⟨_, rfl⟩
  rw [List.prefix_iff_eq_take, hk] at hpre
  rw [hk] at hlen
  subst hpre
  interval_cases k <;> simp_all [List.cons_prefix_cons]

theorem toList_append_newline (s t : String) :
    (s ++ "\n" ++ t).toList = s.toList ++ '\n' :: t.toList :=
  List.append_assoc s.toList ['\n'] t.toList

/-- Joined lines that start with `'---\n'` start with a line `---` that another follows. -/
theorem eq_dashes_head {y : String} {ys : List String} (hy : '\n' ∉ y.toList)
    (h : ['-', '-', '-', '\n'] <+: (pyJoin "\n" (y :: ys)).toList) : y = "---" ∧ ys ≠ [] := by
  rcases eq_or_ne ys [] with rfl | hys
  · rw [pyJoin_singleton] at h
    exact absurd (h.subset (by simp)) hy
  · rw [pyJoin_cons hys, toList_append_newline] at h
    exact ⟨congrArg String.mk (eq_dashes_of_leading hy h), hys⟩

theorem infix_of_infix_append {v t : List Char} (hv : '\n' ∉ v)
    (h : ['\n', '-', '-', '-', '\n'] <:+: v ++ '\n' :: t) :
    ['\n', '-', '-', '-', '\n'] <:+: '\n' :: t := by
  induction v with
  | nil => exact h
  | cons c v ih =>
    rcases List.infix_cons_iff.1 h with hp | hi
    · exact absurd (List.mem_cons.2 (.inl (List.cons_prefix_cons.1 hp).1)) hv
    · exact ih (fun hm => hv (.tail _ hm)) hi

/-- **A `'\n---\n'` in joined lines is a line `---`** with a line before and one after it. -/
theorem dashes_line_of_sep : ∀ {L : List String}, (∀ x ∈ L, '\n' ∉ x.toList) →
    ['\n', '-', '-', '-', '\n'] <:+: (pyJoin "\n" L).toList → "---" ∈ L.tail.dropLast
  | [], _, h => absurd h (by decide)
  | [x], hL, h => by
    rw [pyJoin_singleton] at h
    exact absurd (h.subset (by simp)) (hL x (.head _))
  | x :: y :: ys, hL, h => by
    rw [pyJoin_cons (List.cons_ne_nil _ _), toList_append_newline] at h
    rcases List.infix_cons_iff.1 (infix_of_infix_append (hL x (.head _)) h) with hp | hi
    · obtain ⟨rfl, hys⟩ :=
        eq_dashes_head (hL y (.tail _ (.head _))) (List.cons_prefix_cons.1 hp).2
      simp [List.dropLast_cons_of_ne_nil hys]
    · have hmem := dashes_line_of_sep (fun z hz => hL z (.tail _ hz)) hi
      rcases eq_or_ne ys [] with rfl | hys
      · simp at hmem
      · rw [List.tail_cons] at hmem
        rw [List.tail_cons, List.dropLast_cons_of_ne_nil hys]
        exact .tail _ hmem

/-- Joined lines end with `'\n---'` only when two or more lines end with a line `---`. -/
theorem eq_append_dashes_of_suffix {L : List String} (hL : ∀ x ∈ L, '\n' ∉ x.toList)
    (h : ['\n', '-', '-', '-'] <:+ (pyJoin "\n" L).toList) :
    ∃ L', L' ≠ [] ∧ L = L' ++ ["---"] := by
  obtain rfl | ⟨L', x, rfl⟩ := List.eq_nil_or_concat L
  · exact absurd h (by decide)
  · rw [List.concat_eq_append] at hL h ⊢
    have hx := hL x (by simp)
    rcases eq_or_ne L' [] with rfl | hne
    · rw [List.nil_append, pyJoin_singleton] at h
      exact absurd (h.subset (by simp)) hx
    · rw [pyJoin_append hne (List.cons_ne_nil _ []), pyJoin_singleton, toList_append_newline,
        ← List.reverse_prefix] at h
      have hrev : ['-', '-', '-', '\n'] <+:
          x.toList.reverse ++ '\n' :: (pyJoin "\n" L').toList.reverse := by
        simpa using h
      replace hrev := eq_dashes_of_leading (by simpa using hx) hrev
      have hx' : x.toList = ['-', '-', '-'] := by rw [← List.reverse_reverse x.toList, hrev]; rfl
      exact ⟨L', hne, by rw [show x = "---" from congrArg String.mk hx']⟩

/-- An occurrence of `'\n---\n'` that runs from inside `a` into a separator after it starts at
the last four characters of `a`, which are then `'\n---'`. -/
theorem noStraddle_of_not_suffix {a : List Char} (h : ¬ ['\n', '-', '-', '-'] <:+ a) :
    NoStraddle "\n---\n".toList a := by
  intro j hj hp
  by_contra hlt
  rw [List.drop_append_of_le_length hj.le] at hp
  have hu : a.drop j <+: "\n---\n".toList :=
    List.prefix_of_prefix_length_le (List.prefix_append _ _) hp (by simp at hlt ⊢; omega)
  obtain ⟨k, hk⟩ : ∃ k, a.length - j = k := ⟨_, rfl⟩
  rw [List.prefix_iff_eq_take, List.length_drop, hk] at hu
  have hk4 : k ≤ 4 := by simp at hlt; omega
  rw [hu] at hp
  interval_cases k
  · exact absurd hk (by omega)
  · exact absurd hp (by decide)
  · exact absurd hp (by decide)
  · exact absurd hp (by decide)
  · exact h ⟨a.take j, by rw [show ['\n', '-', '-', '-'] = a.drop j by rw [hu]; rfl,
      List.take_append_drop]⟩

/-! ### Merged text merges to itself -/

theorem pyJoin_append_pyJoin {sep : String} {xs ys : List String} (hy : ys ≠ []) :
    pyJoin sep (xs ++ [pyJoin sep ys]) = pyJoin sep (xs ++ ys) := by
  rcases eq_or_ne xs [] with rfl | hx
  · rw [List.nil_append, List.nil_append, pyJoin_singleton]
  · rw [pyJoin_append hx (List.cons_ne_nil _ _), pyJoin_append hx hy, pyJoin_singleton]

theorem pyJoin_dashes {L₁ L₂ : List String} (h₁ : L₁ ≠ []) (h₂ : L₂ ≠ []) :
    pyJoin "\n" (L₁ ++ "---" :: L₂) = pyJoin "\n" L₁ ++ "\n---\n" ++ pyJoin "\n" L₂ := by
  rw [pyJoin_append h₁ (List.cons_ne_nil _ _), pyJoin_cons h₂]
  simp only [String.append_assoc]
  rfl

theorem lines_pyJoin {L : List String} (hne : L ≠ []) (hL : ∀ x ∈ L, '\n' ∉ x.toList) :
    pySplit (pyJoin "\n" L) "\n" = L := by
  rw [pySplit_pyJoin_newline hne, flatMap_pySplit_of_lines hL]

/-- Lines without a header are merged to themselves. -/
theorem mergeAppSections_pyJoin_of_no_header {L : List String} (hne : L ≠ [])
    (hL : ∀ x ∈ L, '\n' ∉ x.toList ∧ rootHeader x = false) :
    mergeAppSections (pyJoin "\n" L) = pyJoin "\n" L := by
  refine mergeAppSections_of_bodies_nil ?_
  rw [lines_pyJoin hne fun x hx => (hL x hx).1, layout, ← List.append_nil L,
    layoutFrom_none_append fun x hx => (hL x hx).2]
  rfl

/-- Lines in the form a merge writes them: the lines outside every section, which hold no newline
and no header, and after `app:` the body lines, which also stay in its section. -/
structure MergedForm (r bl : List String) : Prop where
  rest : ∀ x ∈ r, '\n' ∉ x.toList ∧ rootHeader x = false
  body : ∀ x ∈ bl, '\n' ∉ x.toList ∧ rootHeader x = false ∧ staysIn 0 x = true
  body_ne_nil : bl ≠ []

theorem MergedForm.newline_free {r bl : List String} (h : MergedForm r bl) :
    ∀ x ∈ r ++ "app:" :: bl, '\n' ∉ x.toList := fun x hx => by
  rcases List.mem_append.1 hx with hx | hx
  · exact (h.rest x hx).1
  · rcases List.mem_cons.1 hx with rfl | hx
    · decide
    · exact (h.body x hx).1

/-- Text in the form a merge writes is merged to itself. -/
theorem mergeAppSections_pyJoin_merged {r bl : List String} (h : MergedForm r bl) :
    mergeAppSections (pyJoin "\n" (r ++ "app:" :: bl)) = pyJoin "\n" (r ++ "app:" :: bl) := by
  have hlay : layout (r ++ "app:" :: bl) = ⟨r, [], [bl]⟩ := by
    rw [layout, layoutFrom_none_append fun x hx => (h.rest x hx).2, layoutFrom_header (by decide),
      show "app:".length - (pyLstrip "app:").length = 0 by decide,
      layoutFrom_some_of_stays fun x hx => (h.body x hx).2]
    simp
  rw [mergeAppSections_eq_layout, lines_pyJoin (by simp) h.newline_free, hlay,
    if_neg (List.cons_ne_nil _ _), List.map_singleton, pyJoin_singleton,
    show "app:\n" = "app:" ++ "\n" from rfl, ← pyJoin_cons h.body_ne_nil,
    pyJoin_append_pyJoin (List.cons_ne_nil _ _)]

theorem dashes_mem_tail {r bl : List String} (hbl : ∀ x ∈ bl, staysIn 0 x = true)
    (h : "---" ∈ (r ++ "app:" :: bl).tail.dropLast) : "---" ∈ r.tail := by
  replace h := List.dropLast_subset _ h
  cases r with
  | nil => exact absurd (hbl _ h) (by decide)
  | cons x r =>
    rcases List.mem_append.1 h with h | h
    · exact h
    · rcases List.mem_cons.1 h with h | h
      · exact absurd h (by decide)
      · exact absurd (hbl _ h) (by decide)

/-- A split cuts at a separator after lines with no line `---` but the first: those lines hold no
`'\n---\n'`, and do not end with `'\n---'`. -/
theorem pySplit_cut {x : String} {r₁ : List String} (hL : ∀ y ∈ x :: r₁, '\n' ∉ y.toList)
    (h₁ : "---" ∉ r₁) (b : String) :
    pySplit (pyJoin "\n" (x :: r₁) ++ "\n---\n" ++ b) "\n---\n" =
      pyJoin "\n" (x :: r₁) :: pySplit b "\n---\n" := by
  have hclean : NoStraddle "\n---\n".toList (pyJoin "\n" (x :: r₁)).toList :=
    noStraddle_of_not_suffix fun hs => by
      obtain ⟨L', hL', he⟩ := eq_append_dashes_of_suffix hL hs
      obtain ⟨y, L'', rfl⟩ := List.exists_cons_of_ne_nil hL'
      simp only [List.cons_append, List.cons.injEq] at he
      exact h₁ (he.2 ▸ by simp)
  rw [pySplit_append_sep _ (by decide) hclean,
    pySplit_eq_singleton fun hi => h₁ (List.dropLast_subset _ (dashes_line_of_sep hL hi))]
  rfl

/-- **A second run cuts merged text into profiles that merge to themselves.** The cuts fall at
lines `---` outside every section, so every piece but the last is lines without a header, and
the last ends with `app:` and the merged body. -/
theorem mergeAppSections_of_mem_pySplit_merged {r bl : List String} (h : MergedForm r bl) :
    ∀ q ∈ pySplit (pyJoin "\n" (r ++ "app:" :: bl)) "\n---\n", mergeAppSections q = q := by
  intro q hq
  by_cases hd : "---" ∈ r.tail
  · -- cut at the first line `---` after the first line
    obtain ⟨x, r', rfl⟩ : ∃ x r', r = x :: r' :=
      List.exists_cons_of_ne_nil (by rintro rfl; simp at hd)
    obtain ⟨r₁, r₂, rfl, h₁⟩ := List.eq_append_cons_of_mem (show "---" ∈ r' from hd)
    have hx₁ : ∀ y ∈ x :: r₁, '\n' ∉ y.toList ∧ rootHeader y = false :=
      fun y hy => h.rest y (List.cons_subset_cons x (List.subset_append_left _ _) hy)
    rw [show x :: (r₁ ++ "---" :: r₂) ++ "app:" :: bl = x :: r₁ ++ "---" :: (r₂ ++ "app:" :: bl)
        by simp, pyJoin_dashes (List.cons_ne_nil _ _) (by simp),
      pySplit_cut (fun y hy => (hx₁ y hy).1) h₁] at hq
    rcases List.mem_cons.1 hq with rfl | hq
    · exact mergeAppSections_pyJoin_of_no_header (List.cons_ne_nil _ _) hx₁
    · exact mergeAppSections_of_mem_pySplit_merged
        ⟨fun y hy => h.rest y (by simp [hy]), h.body, h.body_ne_nil⟩ q hq
  · -- no line `---` inside: the text is one profile
    rw [pySplit_eq_singleton fun hi => hd (dashes_mem_tail (fun x hx => (h.body x hx).2.2)
      (dashes_line_of_sep h.newline_free hi)), List.mem_singleton] at hq
    exact hq ▸ mergeAppSections_pyJoin_merged h
termination_by r.length
decreasing_by simp_wf; subst_vars; simp; omega

/-! ### The script run on its own output -/

theorem bodyLines_ne_nil {bodies : List (List String)} (h : bodies ≠ []) :
    bodyLines bodies ≠ [] := by
  obtain ⟨b, bs, rfl⟩ := List.exists_cons_of_ne_nil h
  rw [bodyLines, List.flatMap_cons]
  split
  · simp
  · exact List.append_ne_nil_of_left_ne_nil ‹_› _

/-- A merged profile with sections is in the form a merge writes. -/
theorem mergedForm_layout {p : String} (h : (layout (pySplit p "\n")).bodies ≠ []) :
    MergedForm (layout (pySplit p "\n")).rest (bodyLines (layout (pySplit p "\n")).bodies) := by
  have hnl : ∀ x ∈ (layout (pySplit p "\n")).rest ++
      "app:" :: bodyLines (layout (pySplit p "\n")).bodies, '\n' ∉ x.toList := fun x hx =>
    newline_not_mem_of_mem_pySplit ((pySplit_mergeAppSections h).symm ▸ hx)
  refine ⟨fun x hx => ⟨hnl x (by simp [hx]), rootHeader_of_mem_merged (.inl hx)⟩,
    fun x hx => ⟨hnl x (by simp [hx]), rootHeader_of_mem_merged (.inr hx), ?_⟩,
    bodyLines_ne_nil h⟩
  rcases mem_bodyLines hx with rfl | hx
  · rfl
  · exact layoutFrom_stays none _ x (List.mem_append_right _ hx)

/-- A merged profile is its lines joined. -/
theorem mergeAppSections_eq_pyJoin {p : String} (h : (layout (pySplit p "\n")).bodies ≠ []) :
    mergeAppSections p = pyJoin "\n"
      ((layout (pySplit p "\n")).rest ++ "app:" :: bodyLines (layout (pySplit p "\n")).bodies) := by
  rw [← pySplit_mergeAppSections h, pyJoin_pySplit _ _ (by decide)]

/-- A merged profile other than the last runs into no `'\n---\n'` across the separator after
it. -/
theorem noStraddle_mergeAppSections {c p : String} (hp : p ∈ (pySplit c "\n---\n").dropLast) :
    NoStraddle "\n---\n".toList (mergeAppSections p).toList := by
  by_cases h : (layout (pySplit p "\n")).bodies = []
  · rw [mergeAppSections_of_bodies_nil h]
    exact noStraddle_of_mem_dropLast hp
  · refine noStraddle_of_not_suffix fun hs => ?_
    rw [mergeAppSections_eq_pyJoin h] at hs
    obtain ⟨L', -, he⟩ := eq_append_dashes_of_suffix (mergedForm_layout h).newline_free hs
    -- the last line, `app:` or a body line, would be `---`
    have hlast := congrArg List.getLast? he
    rw [List.getLast?_append_cons, List.getLast?_concat] at hlast
    rcases List.mem_cons.1 (List.mem_of_getLast?_eq_some hlast) with hx | hx
    · exact absurd hx (by decide)
    · exact absurd ((mergedForm_layout h).body _ hx).2.2 (by decide)

/-- Every profile a second run cuts out of a merged profile merges to itself. -/
theorem mergeAppSections_of_mem_pySplit_mergeAppSections {c p q : String}
    (hp : p ∈ pySplit c "\n---\n") (hq : q ∈ pySplit (mergeAppSections p) "\n---\n") :
    mergeAppSections q = q := by
  by_cases h : (layout (pySplit p "\n")).bodies = []
  · rw [mergeAppSections_of_bodies_nil h, pySplit_eq_singleton
      (not_infix_of_mem_pySplit (by decide) hp), List.mem_singleton] at hq
    rw [hq, mergeAppSections_of_bodies_nil h]
  · rw [mergeAppSections_eq_pyJoin h] at hq
    exact mergeAppSections_of_mem_pySplit_merged (mergedForm_layout h) q hq

/-- Every profile a second run reads in the script's output merges to itself. -/
theorem mergeAppSections_of_mem_pySplit_fixContent {content q : String}
    (hq : q ∈ pySplit (fixContent content) "\n---\n") : mergeAppSections q = q := by
  rw [fixContent, pySplit_pyJoin (by decide) (by simp [pySplit_ne_nil]) fun m hm => ?_] at hq
  · obtain ⟨m, hm, hq⟩ := List.mem_flatMap.1 hq
    obtain ⟨p, hp, rfl⟩ := List.mem_map.1 hm
    exact mergeAppSections_of_mem_pySplit_mergeAppSections hp hq
  · rw [← List.map_dropLast] at hm
    obtain ⟨p, hp, rfl⟩ := List.mem_map.1 hm
    exact noStraddle_mergeAppSections hp

/-- **Running the script on its own output changes nothing.** -/
theorem fixContent_idempotent (content : String) :
    fixContent (fixContent content) = fixContent content := by
  conv_lhs => rw [fixContent]
  rw [List.map_congr_left fun q hq => mergeAppSections_of_mem_pySplit_fixContent hq, List.map_id',
    pyJoin_pySplit _ _ (by decide)]

/-- A profile that merges to itself has at most one header: none without sections, and with them
only the `app:` the merge writes. -/
theorem headers_le_one_of_fixed {q : String} (h : mergeAppSections q = q) :
    ((pySplit q "\n").filter isHeader).length ≤ 1 := by
  rw [show isHeader = rootHeader from funext isHeader_eq_rootHeader]
  by_cases hb : (layout (pySplit q "\n")).bodies = []
  · rw [← layoutFrom_bodies_length none, ← layout, hb]
    exact Nat.zero_le _
  · rw [← h, pySplit_mergeAppSections hb, List.filter_append,
      List.filter_cons_of_pos (by decide),
      List.filter_eq_nil_iff.2 fun x hx => by simp [rootHeader_of_mem_merged (.inl hx)],
      List.filter_eq_nil_iff.2 fun x hx => by simp [rootHeader_of_mem_merged (.inr hx)]]
    exact le_refl _

/-- **Every profile of the output has at most one root-level `app:` header**, reading profiles
as the script reads them. -/
theorem fixContent_single_app_header (content : String) :
    ∀ q ∈ pySplit (fixContent content) "\n---\n",
      ((pySplit q "\n").filter isHeader).length ≤ 1 :=
  fun _ hq => headers_le_one_of_fixed (mergeAppSections_of_mem_pySplit_fixContent hq)

/-- A profile with two sections and a line between them comes out with one header. -/
theorem fixContent_single_app_header_twoSections :
    "x: 2\napp:\n  a: 1\n  b: 3" ∈
        pySplit (fixContent "app:\n  a: 1\nx: 2\napp:\n  b: 3") "\n---\n" ∧
      ((pySplit "x: 2\napp:\n  a: 1\n  b: 3" "\n").filter isHeader).length ≤ 1 :=
  ⟨by decide, fixContent_single_app_header "app:\n  a: 1\nx: 2\napp:\n  b: 3" _ (by decide)⟩

end OddiyaOps.FixYaml
