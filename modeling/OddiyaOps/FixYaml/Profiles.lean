import OddiyaOps.FixYaml.Merge
import Mathlib.Data.List.Perm.Basic

/-!
# OddiyaOps.FixYaml.Profiles

**What `fix-yaml.py` does to a profile's lines**: a profile with no root-level `app:` header
comes out unchanged (`mergeAppSections_of_no_header`); in any other, the non-blank lines come
out in another order, with all the headers replaced by one `app:` line
(`mergeAppSections_perm`). Blank lines are not kept track of: an empty section adds one to the
merged section. `fixContent_merges_each_profile` lifts this to the file, whose profiles are
the pieces between the occurrences of the exact text `'\n---\n'`, and `fixContent_keeps_lines`
says it of the whole file: no line but a header is lost or added.

The content is what `open(..., 'r')` returns, in which universal newlines have turned every
`'\r\n'` into `'\n'`, so a file with CRLF line ends is cut as one with LF ends. A line YAML
reads as a separator is still not always such an occurrence (`'--- # c'`, a last line `'---'`),
and the profiles then straddle YAML documents: `commented_separator_merges_documents` moves a
section from one document into another.

## Proof shape

`Holds` is the loop invariant of `merge_app_sections`, in the shape the code gives it: the
sections closed so far are a list of line lists (`bodies`) whose joins are `app_sections`, and
the lines read that are not headers are held, up to order, by `result`, `bodies` and the open
section. `Holds.step` proves one turn keeps it, one case per branch of the loop, each through
the lemma that says what that branch does (`Scan.step_header`, `Scan.step_leave`, ...), and
`Holds.foldl` lifts it to the loop. The text written after the loop is split back into lines
by the lemmas of the first section, which need that no line of a split holds a newline.
-/

namespace OddiyaOps.FixYaml

open OddiyaOps.Python

/-! ### Lines of a joined text -/

theorem splitOnP_go_append_cons {p : Char → Bool} {c : Char} (hc : p c = true) (b : List Char) :
    ∀ (a acc : List Char),
      List.splitOnP.go p (a ++ c :: b) acc = List.splitOnP.go p a acc ++ List.splitOnP.go p b []
  | [], acc => by simp [List.splitOnP.go, hc]
  | x :: a, acc => by
    simp only [List.cons_append, List.splitOnP.go]
    split
    · exact congrArg (acc.reverse :: ·) (splitOnP_go_append_cons hc b a [])
    · exact splitOnP_go_append_cons hc b a (x :: acc)

theorem pySplit_newline (s : String) :
    pySplit s "\n" = (List.splitOnP.go (· == '\n') s.toList []).map String.mk := by
  simp only [pySplit]
  rw [show "\n".toList = ['\n'] from rfl, splitScan_singleton]

/-- Splitting at a newline splits the two sides. -/
theorem pySplit_newline_append (s t : String) :
    pySplit (s ++ "\n" ++ t) "\n" = pySplit s "\n" ++ pySplit t "\n" := by
  have h : (s ++ "\n" ++ t).toList = s.toList ++ '\n' :: t.toList :=
    (List.append_assoc s.toList ['\n'] t.toList)
  rw [pySplit_newline, h, splitOnP_go_append_cons (by rfl) t.toList s.toList [], List.map_append,
    pySplit_newline, pySplit_newline]

theorem pySplit_newline_of_not_mem {s : String} (h : '\n' ∉ s.toList) : pySplit s "\n" = [s] := by
  rw [pySplit_newline, ← List.splitOnP, List.splitOnP_eq_single _ _ fun x hx => by
    simp only [beq_iff_eq]
    rintro rfl
    exact h hx]
  rfl

theorem newline_not_mem_of_mem_pySplit {s x : String} (hx : x ∈ pySplit s "\n") :
    '\n' ∉ x.toList := by
  rw [pySplit_newline] at hx
  obtain ⟨l, hl, rfl⟩ := List.mem_map.1 hx
  have : ∀ (cs acc : List Char), '\n' ∉ acc → ∀ l ∈ List.splitOnP.go (· == '\n') cs acc,
      '\n' ∉ l := by
    intro cs
    induction cs with
    | nil => intro acc hacc l hl; simp_all [List.splitOnP.go]
    | cons c cs ih =>
      intro acc hacc l hl
      simp only [List.splitOnP.go] at hl
      split at hl
      · rcases List.mem_cons.1 hl with rfl | hl
        · simpa using hacc
        · exact ih [] (by simp) l hl
      · rename_i hc
        refine ih (c :: acc) (fun hmem => ?_) l hl
        rcases List.mem_cons.1 hmem with h | h
        · exact hc (by simp [← h])
        · exact hacc h
  exact this _ [] (by simp) l hl

theorem pyJoin_cons {sep x : String} {xs : List String} (h : xs ≠ []) :
    pyJoin sep (x :: xs) = x ++ sep ++ pyJoin sep xs := by
  simp only [pyJoin, List.map_cons]
  rw [intercalate_cons_of_ne_nil (by simpa using h)]
  rfl

theorem pyJoin_singleton (sep x : String) : pyJoin sep [x] = x := by
  simp [pyJoin, List.intercalate]

/-- The lines of a joined text are the lines of its pieces. -/
theorem pySplit_pyJoin_newline : ∀ {xs : List String}, xs ≠ [] →
    pySplit (pyJoin "\n" xs) "\n" = xs.flatMap (pySplit · "\n")
  | [], h => absurd rfl h
  | [x], _ => by simp [pyJoin, List.intercalate]
  | x :: y :: ys, _ => by
    rw [pyJoin_cons (List.cons_ne_nil y ys), pySplit_newline_append,
      pySplit_pyJoin_newline (List.cons_ne_nil y ys)]
    rfl

theorem flatMap_pySplit_of_lines {xs : List String} (h : ∀ x ∈ xs, '\n' ∉ x.toList) :
    xs.flatMap (pySplit · "\n") = xs := by
  induction xs with
  | nil => rfl
  | cons x xs ih =>
    rw [List.flatMap_cons, pySplit_newline_of_not_mem (h x (.head _)),
      ih fun y hy => h y (.tail _ hy)]
    rfl

/-! ### The loop invariant -/

/-- What the loop variables hold after reading the lines `ps`: every line that is not a header
is held exactly once, by `result`, by a closed section (`bodies`, which `app_sections` holds
joined) or by the open section after its header; and while no header has been read, every line
is in `result`, in order. -/
structure Holds (ps : List String) (bodies : List (List String)) (s : Scan) : Prop where
  sections : s.appSections = bodies.map (pyJoin "\n")
  held : (s.result ++ bodies.flatten ++ s.currentApp.tail).Perm (ps.filter fun l => !isHeader l)
  closed : s.inApp = false → s.currentApp = []
  opened : s.inApp = true → s.currentApp ≠ []
  unseen : ps.all (fun l => !isHeader l) = true → s.result = ps ∧ bodies = [] ∧ s.inApp = false
  seen : ps.any isHeader = true → s.inApp = true ∨ bodies ≠ []

theorem Holds.init : Holds [] [] Scan.init :=
  ⟨rfl, by simp [Scan.init], fun _ => rfl, by simp [Scan.init], fun _ => ⟨rfl, rfl, rfl⟩,
    by simp⟩

theorem Scan.step_header {s : Scan} {line : String} (hh : isHeader line = true) :
    s.step line = { s with
      appSections := if s.inApp && !s.currentApp.isEmpty then s.closeSection else s.appSections
      inApp := true, currentApp := [line], indentLevel := line.length - (pyLstrip line).length } := by
  simp [Scan.step, hh]

theorem Scan.step_leave {s : Scan} {line : String} (hh : isHeader line = false)
    (hin : s.inApp = true) (hl : s.leaves line = true) :
    s.step line = { s with
      appSections := if !s.currentApp.isEmpty then s.closeSection else s.appSections
      inApp := false, currentApp := [], result := s.result ++ [line] } := by
  simp [Scan.step, hh, hin, hl]

theorem Scan.step_stay {s : Scan} {line : String} (hh : isHeader line = false)
    (hin : s.inApp = true) (hl : s.leaves line = false) :
    s.step line = { s with currentApp := s.currentApp ++ [line] } := by
  simp [Scan.step, hh, hin, hl]

theorem Scan.step_outside {s : Scan} {line : String} (hh : isHeader line = false)
    (hin : s.inApp = false) : s.step line = { s with result := s.result ++ [line] } := by
  simp [Scan.step, hh, hin]

theorem Holds.step {ps : List String} {bodies : List (List String)} {s : Scan}
    (h : Holds ps bodies s) (line : String) :
    ∃ bodies', Holds (ps ++ [line]) bodies' (s.step line) := by
  have hcount := fun a => List.perm_iff_count.1 h.held a
  cases hh : isHeader line
  · cases hin : s.inApp
    · -- a line outside every section stays in place
      have hc := h.closed hin
      refine ⟨bodies, ?_⟩
      rw [Scan.step_outside hh hin]
      refine ⟨h.sections, List.perm_iff_count.2 fun a => ?_, fun _ => hc, by simp [hin], ?_, ?_⟩
      · have := hcount a
        simp only [hc, List.tail_nil, List.append_nil] at this
        simp only [hc, List.tail_nil, List.append_nil, List.count_append, List.filter_append,
          List.filter_cons, hh, Bool.not_false, if_true, List.filter_nil] at this ⊢
        omega
      · intro hall
        simp only [List.all_append, Bool.and_eq_true] at hall
        obtain ⟨h1, h2, h3⟩ := h.unseen hall.1
        exact ⟨by rw [h1], h2, h3⟩
      · intro hany
        simp only [List.any_append, List.any_cons, hh, List.any_nil, Bool.or_false] at hany
        simpa [hin] using h.seen hany
    · cases hl : s.leaves line
      · -- an indented or blank line joins the open section
        have hc := h.opened hin
        refine ⟨bodies, ?_⟩
        rw [Scan.step_stay hh hin hl]
        refine ⟨h.sections, List.perm_iff_count.2 fun a => ?_, by simp [hin], by simp, ?_, ?_⟩
        · have := hcount a
          rw [List.tail_append_of_ne_nil hc]
          simp only [List.count_append, List.filter_append, List.filter_cons, hh, Bool.not_false,
            if_true, List.filter_nil] at this ⊢
          omega
        · intro hall
          simp only [List.all_append, Bool.and_eq_true] at hall
          simpa [hin] using (h.unseen hall.1).2.2
        · simp [hin]
      · -- a line at the header's level closes the section
        refine ⟨bodies ++ [s.currentApp.tail], ?_⟩
        rw [Scan.step_leave hh hin hl]
        refine ⟨?_, List.perm_iff_count.2 fun a => ?_, by simp, by simp, ?_, by simp⟩
        · simp [h.opened hin, Scan.closeSection, h.sections]
        · have := hcount a
          simp only [List.flatten_append, List.flatten_singleton, List.tail_nil, List.append_nil,
            List.count_append, List.filter_append, List.filter_cons, hh, Bool.not_false, if_true,
            List.filter_nil] at this ⊢
          omega
        · intro hall
          simp only [List.all_append, Bool.and_eq_true] at hall
          simpa [hin] using (h.unseen hall.1).2.2
  · -- a header closes the open section, if any, and opens its own
    refine ⟨if s.inApp then bodies ++ [s.currentApp.tail] else bodies, ?_⟩
    rw [Scan.step_header hh]
    cases hin : s.inApp
    · have hc := h.closed hin
      refine ⟨by simp [hin, h.sections], ?_, by simp, by simp, ?_, by simp⟩
      · simpa [hh, hin, hc, List.filter_append] using h.held
      · simp [hh]
    · have hc := h.opened hin
      refine ⟨by simp [hin, hc, Scan.closeSection, h.sections], ?_, by simp, by simp, ?_, by simp⟩
      · simpa [hh, hin, List.filter_append] using h.held
      · simp [hh]

/-- The invariant over a whole profile. -/
theorem Holds.foldl : ∀ (rest ps : List String) (bodies : List (List String)) (s : Scan),
    Holds ps bodies s → ∃ bodies', Holds (ps ++ rest) bodies' (rest.foldl Scan.step s)
  | [], ps, bodies, s, h => ⟨bodies, by simpa using h⟩
  | line :: rest, ps, bodies, s, h => by
    obtain ⟨bodies', h'⟩ := h.step line
    simpa using Holds.foldl rest (ps ++ [line]) bodies' (s.step line) h'

/-! ### What the merge writes -/

/-- A profile without a header comes out unchanged. -/
theorem finish_of_unseen {ps : List String} {bodies : List (List String)} {s : Scan}
    (h : Holds ps bodies s) (hall : ps.all (fun l => !isHeader l) = true) :
    s.finish = pyJoin "\n" ps := by
  obtain ⟨hres, hb, hin⟩ := h.unseen hall
  simp [Scan.finish, hin, h.sections, hb, hres]

/-- The lines the bodies take in the merged section: an empty body is one empty line. -/
def bodyLines (bodies : List (List String)) : List String :=
  bodies.flatMap fun b => if b = [] then [""] else b

theorem pySplit_pyJoin_bodies {bodies : List (List String)}
    (h : ∀ b ∈ bodies, ∀ x ∈ b, '\n' ∉ x.toList) :
    (bodies.map (pyJoin "\n")).flatMap (pySplit · "\n") = bodyLines bodies := by
  induction bodies with
  | nil => rfl
  | cons b bs ih =>
    simp only [bodyLines, List.map_cons, List.flatMap_cons] at ih ⊢
    rw [ih fun b' hb' => h b' (.tail _ hb')]
    congr 1
    split
    · subst b; rfl
    · rw [pySplit_pyJoin_newline ‹_›, flatMap_pySplit_of_lines (h b (.head _))]

theorem bodyLines_filter_nonBlank (bodies : List (List String)) :
    (bodyLines bodies).filter nonBlank = bodies.flatten.filter nonBlank := by
  induction bodies with
  | nil => rfl
  | cons b bs ih =>
    simp only [bodyLines, List.flatMap_cons, List.flatten_cons, List.filter_append] at ih ⊢
    rw [ih]
    split
    · subst b; rfl
    · rfl

/-- The lines of a merged profile: the lines kept in place, `app:`, and the bodies' lines. -/
theorem pySplit_merged {r : List String} {bodies : List (List String)}
    (hr : ∀ x ∈ r, '\n' ∉ x.toList) (hb : ∀ b ∈ bodies, ∀ x ∈ b, '\n' ∉ x.toList)
    (hne : bodies ≠ []) :
    pySplit (pyJoin "\n" (r ++ ["app:\n" ++ pyJoin "\n" (bodies.map (pyJoin "\n"))])) "\n" =
      r ++ "app:" :: bodyLines bodies := by
  have happ : ∀ t : String, "app:\n" ++ t = "app:" ++ "\n" ++ t := fun t => by
    rw [String.append_assoc]; rfl
  rw [pySplit_pyJoin_newline (by simp), List.flatMap_append, flatMap_pySplit_of_lines hr]
  simp only [List.flatMap_cons, List.flatMap_nil, List.append_nil, happ, pySplit_newline_append,
    pySplit_newline_of_not_mem (show '\n' ∉ "app:".toList by decide),
    pySplit_pyJoin_newline (List.map_eq_nil_iff.not.2 hne), pySplit_pyJoin_bodies hb]
  rfl

/-- A profile with a header: its non-blank lines come out with the headers replaced by one
`app:` line. -/
theorem finish_of_seen {ps : List String} {bodies : List (List String)} {s : Scan}
    (h : Holds ps bodies s) (hlines : ∀ x ∈ ps, '\n' ∉ x.toList)
    (hany : ps.any isHeader = true) :
    ((pySplit s.finish "\n").filter nonBlank).Perm
      ("app:" :: ps.filter fun l => !isHeader l && nonBlank l) := by
  -- the sections after the last one is closed
  set final := if s.inApp then bodies ++ [s.currentApp.tail] else bodies with hfinal
  have hsections : (if s.inApp && !s.currentApp.isEmpty then s.closeSection else s.appSections) =
      final.map (pyJoin "\n") := by
    cases hin : s.inApp
    · simp [hfinal, hin, h.sections]
    · simp [hfinal, hin, h.opened hin, Scan.closeSection, h.sections]
  have hheld : (s.result ++ final.flatten).Perm (ps.filter fun l => !isHeader l) := by
    cases hin : s.inApp
    · simpa [hfinal, hin, h.closed hin] using h.held
    · simpa [hfinal, hin] using h.held
  have hne : final ≠ [] := by
    cases hin : s.inApp
    · simpa [hfinal, hin] using h.seen hany
    · simp [hfinal, hin]
  have hmem : ∀ x ∈ s.result ++ final.flatten, '\n' ∉ x.toList := fun x hx =>
    hlines x (List.mem_of_mem_filter (hheld.subset hx))
  have hout : pySplit s.finish "\n" = s.result ++ "app:" :: bodyLines final := by
    have hsec : (final.map (pyJoin "\n")).isEmpty = false := by simpa using hne
    simp only [Scan.finish, hsections, hsec, Bool.not_false, ↓reduceIte]
    exact pySplit_merged (fun x hx => hmem x (List.mem_append_left _ hx))
      (fun b hb x hx => hmem x (List.mem_append_right _ (List.mem_flatten.2 ⟨b, hb, hx⟩))) hne
  have hfilter : ps.filter (fun l => !isHeader l && nonBlank l) =
      (ps.filter fun l => !isHeader l).filter nonBlank := by
    simp only [List.filter_filter, Bool.and_comm]
  rw [hout, List.filter_append, List.filter_cons_of_pos (by decide), bodyLines_filter_nonBlank,
    hfilter]
  exact List.perm_middle.trans (.cons _ (by rw [← List.filter_append]; exact hheld.filter _))

/-- The scan of a profile's lines, from the start. -/
theorem Holds.mergeAppSections (p : String) :
    ∃ bodies, Holds (pySplit p "\n") bodies ((pySplit p "\n").foldl Scan.step Scan.init) := by
  simpa using Holds.foldl (pySplit p "\n") [] [] Scan.init Holds.init

/-- `merge_app_sections` keeps a profile with no root-level `app:` header as it is. -/
theorem mergeAppSections_of_no_header (p : String)
    (h : (pySplit p "\n").all (fun l => !isHeader l) = true) : mergeAppSections p = p := by
  obtain ⟨bodies, hs⟩ := Holds.mergeAppSections p
  rw [mergeAppSections, finish_of_unseen hs h, pyJoin_pySplit _ _ (by decide)]

/-- `merge_app_sections` writes the non-blank lines of a profile with a root-level `app:` header
in another order, with its headers replaced by one `app:` line. -/
theorem mergeAppSections_perm (p : String) (h : (pySplit p "\n").any isHeader = true) :
    ((pySplit (mergeAppSections p) "\n").filter nonBlank).Perm
      ("app:" :: (pySplit p "\n").filter fun l => !isHeader l && nonBlank l) := by
  obtain ⟨bodies, hs⟩ := Holds.mergeAppSections p
  exact finish_of_seen hs (fun _ => newline_not_mem_of_mem_pySplit) h

/-! ### The whole file -/

/-- The lines of two profiles joined at `'\n---\n'`: those of the first, a line `---`, and those
of the second. -/
theorem pySplit_newline_dashes (a b : String) :
    pySplit (a ++ "\n---\n" ++ b) "\n" = pySplit a "\n" ++ "---" :: pySplit b "\n" := by
  rw [show a ++ "\n---\n" ++ b = a ++ "\n" ++ ("---" ++ "\n" ++ b) by
      simp only [String.append_assoc]; rfl,
    pySplit_newline_append, pySplit_newline_append,
    pySplit_newline_of_not_mem (s := "---") (by decide)]
  rfl

/-- A profile keeps its non-blank lines that are not headers through the merge, up to order. -/
theorem mergeAppSections_kept_perm (p : String) :
    ((pySplit (mergeAppSections p) "\n").filter fun l => !isHeader l && nonBlank l).Perm
      ((pySplit p "\n").filter fun l => !isHeader l && nonBlank l) := by
  cases h : (pySplit p "\n").any isHeader
  · rw [mergeAppSections_of_no_header p (by simpa using h)]
  · have hkeep : ∀ L : List String, (L.filter fun l => !isHeader l && nonBlank l).filter
        (fun l => !isHeader l) = L.filter fun l => !isHeader l && nonBlank l := fun L =>
      List.filter_eq_self.2 fun l hl => by
        simp only [List.mem_filter, Bool.and_eq_true] at hl
        exact hl.2.1
    have hperm := (mergeAppSections_perm p h).filter fun l => !isHeader l
    rwa [List.filter_filter, List.filter_cons_of_neg (by decide), hkeep] at hperm

/-- Profiles joined at `'\n---\n'` keep their non-blank lines that are not headers through the
merge, up to order. -/
theorem pyJoin_map_kept_perm : ∀ ps : List String,
    ((pySplit (pyJoin "\n---\n" (ps.map mergeAppSections)) "\n").filter
        fun l => !isHeader l && nonBlank l).Perm
      ((pySplit (pyJoin "\n---\n" ps) "\n").filter fun l => !isHeader l && nonBlank l)
  | [] => .refl _
  | [p] => by simpa only [List.map_singleton, pyJoin_singleton] using mergeAppSections_kept_perm p
  | p :: p' :: ps => by
    rw [List.map_cons, List.map_cons, pyJoin_cons (List.cons_ne_nil _ _),
      pyJoin_cons (List.cons_ne_nil _ _), pySplit_newline_dashes, pySplit_newline_dashes,
      List.filter_append, List.filter_append, List.filter_cons_of_pos (by decide),
      List.filter_cons_of_pos (by decide)]
    exact (mergeAppSections_kept_perm p).append ((pyJoin_map_kept_perm (p' :: ps)).cons _)

/-- **The script loses no line of content.** Over the whole file, the non-blank lines that are not
`app:` headers, the `---` separators among them, come out as they went in, up to order. -/
theorem fixContent_keeps_lines (content : String) :
    ((pySplit (fixContent content) "\n").filter fun l => !isHeader l && nonBlank l).Perm
      ((pySplit content "\n").filter fun l => !isHeader l && nonBlank l) := by
  conv_rhs => rw [← pyJoin_pySplit content "\n---\n" (by decide)]
  exact pyJoin_map_kept_perm _

/-! ### Profiles and YAML documents -/

/-- A line YAML reads as a document separator: '---', then blanks and possibly a comment. -/
def isSeparator (line : String) : Bool :=
  match line.toList with
  | '-' :: '-' :: '-' :: rest =>
    match rest.dropWhile isSpace with
    | [] => true
    | c :: _ => c = '#'
  | _ => false

/-- The YAML documents of a text, each as its lines. -/
def documents (content : String) : List (List String) := (pySplit content "\n").splitOnP isSeparator

/-- The script cuts the file at each occurrence of the exact text '\n---\n', and merges each
piece on its own. -/
theorem fixContent_merges_each_profile (c : String) :
    pyJoin "\n---\n" (pySplit c "\n---\n") = c ∧
      fixContent c = pyJoin "\n---\n" ((pySplit c "\n---\n").map mergeAppSections) ∧
      ∀ p ∈ pySplit c "\n---\n", ¬ "\n---\n".toList <:+: p.toList ∧
        ((pySplit p "\n").all (fun l => !isHeader l) = true → mergeAppSections p = p) ∧
        ((pySplit p "\n").any isHeader = true →
          ((pySplit (mergeAppSections p) "\n").filter nonBlank).Perm
            ("app:" :: (pySplit p "\n").filter fun l => !isHeader l && nonBlank l)) :=
  ⟨pyJoin_pySplit _ _ (by decide), rfl,
    fun p hp => ⟨not_infix_of_mem_pySplit (by decide) hp, mergeAppSections_of_no_header p,
      mergeAppSections_perm p⟩⟩

/-- Two profiles separated by '--- # c', each with its own section. -/
def commentedSeparator : String := "app:\n  x: 1\n--- # c\napp:\n  y: 2"

/-- The second profile's section is moved into the first document. -/
theorem commented_separator_merges_documents :
    documents commentedSeparator = [["app:", "  x: 1"], ["app:", "  y: 2"]] ∧
      documents (fixContent commentedSeparator) = [[], ["app:", "  x: 1", "  y: 2"]] := by
  decide

end OddiyaOps.FixYaml
