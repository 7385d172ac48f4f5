import OddiyaOps.FixYaml.Profiles

/-!
# OddiyaOps.FixYaml.Sections

**`merge_app_sections` moves the root-level `app:` sections of a profile, in order, under one
header at its end, and a second merge changes nothing.**

A profile is laid out here as its YAML reads, apart from the code: a header is a line whose
`strip()` is `app:` and that does not start with a space; its section is the header and the
lines after it that are blank or start with one space more than the header's indent, up to the
first other line or the next header. `layout` splits the lines into those outside every
section (`rest`) and the sections' bodies (`bodies`), in order.

`mergeAppSections_eq_layout` says that the code computes its text from that layout alone: the
lines outside, then `app:` and the bodies, each joined. From it `mergeAppSections_layout` reads
off the non-blank lines of the result and its one header, and `mergeAppSections_idempotent`
that the result is a profile the merge leaves as it is.

## Proof shape

`scan_layout` is a simulation: folding `Scan.step` over any lines, from any state whose open
section holds its header, moves the lines `layoutFrom` puts outside into `result` and closes the
sections `layoutFrom` reads, the one open at the start included. There is one case per branch
of the loop, and the start state is generalized. The facts about `layout` alone (it partitions
the lines that are not headers, and every body line stays under a header of indent `0`) are
inductions over the lines; they give the merged text its layout: the lines outside, then one
section holding every body line.
-/

namespace OddiyaOps.FixYaml

open OddiyaOps.Python

/-! ### A reader's layout of a profile -/

/-- A root-level header: `l.strip() == 'app:'` and not `l.startswith(' ')`. -/
def rootHeader (line : String) : Bool := pyStrip line = "app:" && !startsWith line " "

/-- A line stays in the section of a header of indent `w`: it is blank or starts with `w + 1`
spaces. -/
def staysIn (w : Nat) (line : String) : Bool :=
  !nonBlank line || startsWith line (spaces (w + 1))

/-- A profile's lines, read from a point inside a section or outside every section. -/
structure Layout where
  /-- The lines outside every section. -/
  rest : List String
  /-- The lines that continue the section open at the start. -/
  cont : List String
  /-- The bodies of the sections that start later, without their headers. -/
  bodies : List (List String)
  deriving DecidableEq, Repr

/-- The reading from inside a section whose header has indent `w` (`some w`), or from outside
every section (`none`). -/
def layoutFrom : Option Nat → List String → Layout
  | _, [] => ⟨[], [], []⟩
  | open?, line :: lines =>
    if rootHeader line then
      let l := layoutFrom (some (line.length - (pyLstrip line).length)) lines
      ⟨l.rest, [], l.cont :: l.bodies⟩
    else match open? with
      | some w =>
        if staysIn w line then
          let l := layoutFrom (some w) lines
          ⟨l.rest, line :: l.cont, l.bodies⟩
        else
          let l := layoutFrom none lines
          ⟨line :: l.rest, [], l.bodies⟩
      | none =>
        let l := layoutFrom none lines
        ⟨line :: l.rest, [], l.bodies⟩

/-- A profile's lines, laid out from outside every section. -/
def layout (lines : List String) : Layout := layoutFrom none lines

example : layout ["a: 1", "app:", "  x: 1", "b: 2", "app:", "", "  y: 2"] =
    ⟨["a: 1", "b: 2"], [], [["  x: 1"], ["", "  y: 2"]]⟩ := by decide

variable {o : Option Nat} {w : Nat} {line : String} {lines : List String}

@[simp] theorem layoutFrom_nil (o : Option Nat) : layoutFrom o [] = ⟨[], [], []⟩ := rfl

theorem layoutFrom_header (h : rootHeader line = true) :
    layoutFrom o (line :: lines) =
      ⟨(layoutFrom (some (line.length - (pyLstrip line).length)) lines).rest, [],
        (layoutFrom (some (line.length - (pyLstrip line).length)) lines).cont ::
          (layoutFrom (some (line.length - (pyLstrip line).length)) lines).bodies⟩ := by
  simp [layoutFrom, h]

theorem layoutFrom_stay (h : rootHeader line = false) (hs : staysIn w line = true) :
    layoutFrom (some w) (line :: lines) =
      ⟨(layoutFrom (some w) lines).rest, line :: (layoutFrom (some w) lines).cont,
        (layoutFrom (some w) lines).bodies⟩ := by
  simp [layoutFrom, h, hs]

theorem layoutFrom_leave (h : rootHeader line = false) (hs : staysIn w line = false) :
    layoutFrom (some w) (line :: lines) =
      ⟨line :: (layoutFrom none lines).rest, [], (layoutFrom none lines).bodies⟩ := by
  simp [layoutFrom, h, hs]

theorem layoutFrom_outside (h : rootHeader line = false) :
    layoutFrom none (line :: lines) =
      ⟨line :: (layoutFrom none lines).rest, [], (layoutFrom none lines).bodies⟩ := by
  simp [layoutFrom, h]

/-! ### What the reading keeps -/

/-- From outside every section, no line continues an open section. -/
@[simp] theorem layoutFrom_none_cont (lines : List String) : (layoutFrom none lines).cont = [] := by
  cases lines with
  | nil => rfl
  | cons line lines => cases h : rootHeader line <;> simp [layoutFrom, h]

/-- The reading partitions the lines that are not headers. -/
theorem layoutFrom_perm : ∀ (o : Option Nat) (lines : List String),
    ((layoutFrom o lines).rest ++ (layoutFrom o lines).cont ++
      (layoutFrom o lines).bodies.flatten).Perm (lines.filter fun x => !rootHeader x)
  | _, [] => .nil
  | o, line :: lines => by
    cases h : rootHeader line
    · cases o with
      | none =>
        rw [layoutFrom_outside h]
        simpa [h] using layoutFrom_perm none lines
      | some w =>
        cases hs : staysIn w line
        · rw [layoutFrom_leave h hs]
          simpa [h] using layoutFrom_perm none lines
        · rw [layoutFrom_stay h hs]
          simp only [List.filter_cons, h, Bool.not_false, ↓reduceIte, List.append_assoc,
            List.cons_append]
          exact List.perm_middle.trans (.cons _ (by simpa using layoutFrom_perm (some w) lines))
    · rw [layoutFrom_header h]
      simpa [h] using layoutFrom_perm _ lines

theorem mem_of_mem_layoutFrom {o : Option Nat} {lines : List String} {x : String}
    (hx : x ∈ (layoutFrom o lines).rest ++ (layoutFrom o lines).cont ++
      (layoutFrom o lines).bodies.flatten) : x ∈ lines ∧ rootHeader x = false := by
  simpa using (layoutFrom_perm o lines).subset hx

theorem mem_of_mem_layout_rest {lines : List String} {x : String}
    (hx : x ∈ (layout lines).rest) : x ∈ lines ∧ rootHeader x = false :=
  mem_of_mem_layoutFrom (List.mem_append_left _ (List.mem_append_left _ hx))

theorem mem_of_mem_layout_bodies {lines : List String} {x : String}
    (hx : x ∈ (layout lines).bodies.flatten) : x ∈ lines ∧ rootHeader x = false :=
  mem_of_mem_layoutFrom (List.mem_append_right _ hx)

/-- Each header opens one section. -/
theorem layoutFrom_bodies_length : ∀ (o : Option Nat) (lines : List String),
    (layoutFrom o lines).bodies.length = (lines.filter rootHeader).length
  | _, [] => rfl
  | o, line :: lines => by
    cases h : rootHeader line
    · cases o with
      | none => simp [layoutFrom_outside h, h, layoutFrom_bodies_length none lines]
      | some w =>
        cases hs : staysIn w line
        · simp [layoutFrom_leave h hs, h, layoutFrom_bodies_length none lines]
        · simp [layoutFrom_stay h hs, h, layoutFrom_bodies_length (some w) lines]
    · simp [layoutFrom_header h, h, layoutFrom_bodies_length _ lines]

theorem staysIn_zero (h : staysIn w line = true) : staysIn 0 line = true := by
  unfold staysIn at h ⊢
  cases hb : nonBlank line
  · rfl
  · simp only [hb, Bool.not_true, Bool.false_or, startsWith, List.isPrefixOf_iff_prefix] at h ⊢
    exact List.IsPrefix.trans ⟨List.replicate w ' ', rfl⟩ h

/-- Every line of a section, the open one included, stays under a header of indent `0`. -/
theorem layoutFrom_stays : ∀ (o : Option Nat) (lines : List String),
    ∀ x ∈ (layoutFrom o lines).cont ++ (layoutFrom o lines).bodies.flatten, staysIn 0 x = true
  | _, [] => by simp
  | o, line :: lines => by
    cases h : rootHeader line
    · cases o with
      | none => simpa [layoutFrom_outside h] using layoutFrom_stays none lines
      | some w =>
        cases hs : staysIn w line
        · simpa [layoutFrom_leave h hs] using layoutFrom_stays none lines
        · rw [layoutFrom_stay h hs]
          rintro x (_ | ⟨_, hx⟩)
          · exact staysIn_zero hs
          · exact layoutFrom_stays _ lines x hx
    · simpa [layoutFrom_header h] using layoutFrom_stays _ lines

/-- Lines that are not headers, read from outside, stay outside. -/
theorem layoutFrom_none_append {r : List String} (hr : ∀ x ∈ r, rootHeader x = false)
    (lines : List String) :
    layoutFrom none (r ++ lines) =
      ⟨r ++ (layoutFrom none lines).rest, [], (layoutFrom none lines).bodies⟩ := by
  induction r with
  | nil =>
    rcases hl : layoutFrom none lines with ⟨rest, cont, bodies⟩
    have hc := layoutFrom_none_cont lines
    rw [hl] at hc
    subst hc
    rw [List.nil_append, hl]
    rfl
  | cons x r ih =>
    rw [List.cons_append, layoutFrom_outside (hr x (.head _)), ih fun y hy => hr y (.tail _ hy)]
    rfl

/-- Lines that are not headers and stay, read inside a section, continue it. -/
theorem layoutFrom_some_of_stays :
    ∀ {lines : List String}, (∀ x ∈ lines, rootHeader x = false ∧ staysIn w x = true) →
      layoutFrom (some w) lines = ⟨[], lines, []⟩
  | [], _ => rfl
  | x :: lines, h => by
    rw [layoutFrom_stay (h x (.head _)).1 (h x (.head _)).2,
      layoutFrom_some_of_stays fun y hy => h y (.tail _ hy)]

/-- A profile without sections is read as it is. -/
theorem layout_rest_of_bodies_nil {lines : List String} (h : (layout lines).bodies = []) :
    (layout lines).rest = lines := by
  have hlen := layoutFrom_bodies_length none lines
  rw [show (layoutFrom none lines).bodies = [] from h, List.length_nil, eq_comm,
    List.length_eq_zero, List.filter_eq_nil_iff] at hlen
  have := layoutFrom_none_append (r := lines) (fun x hx => by simpa using hlen x hx) []
  simpa [layout] using congrArg Layout.rest this

/-! ### The code reads a profile that way -/

/-- The code's test `line.strip() == 'app:' and (not line.startswith(' ') or line[:4] == 'app:')`
is `rootHeader`: a line that starts with a space does not start with `app:`. -/
theorem isHeader_eq_rootHeader (line : String) : isHeader line = rootHeader line := by
  unfold isHeader rootHeader
  cases h : startsWith line " "
  · simp
  · obtain ⟨t, ht⟩ := List.isPrefixOf_iff_prefix.1 h
    have hne : (⟨line.data.take 4⟩ : String) ≠ "app:" := fun he => by
      rw [show line.data = ' ' :: t from ht.symm] at he
      exact absurd (List.head_eq_of_cons_eq (congrArg String.data he)) (by decide)
    simp [hne]

theorem Scan.leaves_eq (s : Scan) (line : String) :
    s.leaves line = !staysIn s.indentLevel line := by
  unfold Scan.leaves staysIn
  cases nonBlank line <;> cases startsWith line (spaces (s.indentLevel + 1)) <;> rfl

/-- The sections after the loop: the last one closed, if one is open. -/
def Scan.sectionsAtEnd (s : Scan) : List String :=
  if s.inApp && !s.currentApp.isEmpty then s.closeSection else s.appSections

theorem Scan.finish_eq (s : Scan) :
    s.finish = pyJoin "\n" (if !s.sectionsAtEnd.isEmpty then
      s.result ++ ["app:\n" ++ pyJoin "\n" s.sectionsAtEnd] else s.result) := rfl

/-- Where the loop is: in the section of a header of indent `indentLevel`, or outside. -/
def Scan.position (s : Scan) : Option Nat := if s.inApp then some s.indentLevel else none

/-- **The loop simulates the reading.** From any state whose open section holds its header,
the loop over `lines` appends to `result` the lines the reading puts outside, and ends with
the sections it had, the open one continued by the lines the reading gives it, and then the
sections the reading finds. -/
theorem scan_layout :
    ∀ (lines : List String) (s : Scan), (s.inApp = true → s.currentApp ≠ []) →
    (lines.foldl Scan.step s).result = s.result ++ (layoutFrom s.position lines).rest ∧
    (lines.foldl Scan.step s).sectionsAtEnd =
      (if s.inApp then
        s.appSections ++ [pyJoin "\n" (s.currentApp.tail ++ (layoutFrom s.position lines).cont)]
      else s.appSections) ++ (layoutFrom s.position lines).bodies.map (pyJoin "\n")
  | [], s, hs => by
    cases hin : s.inApp
    · simp [Scan.sectionsAtEnd, Scan.position, hin]
    · simp [Scan.sectionsAtEnd, Scan.position, hin, hs hin, Scan.closeSection]
  | line :: lines, s, hs => by
    rw [List.foldl_cons]
    cases hh : rootHeader line
    · have hh' : isHeader line = false := (isHeader_eq_rootHeader line).trans hh
      cases hin : s.inApp
      · -- a line outside every section stays in place
        have ih := scan_layout lines (s.step line) (by simp [Scan.step_outside hh' hin, hin])
        rw [Scan.step_outside hh' hin] at ih ⊢
        simp only [Scan.position, hin, Bool.false_eq_true, ↓reduceIte] at ih ⊢
        rw [layoutFrom_outside hh]
        simpa using ih
      · cases hst : staysIn s.indentLevel line
        · -- a line at the header's level closes the section
          have hl : s.leaves line = true := by simp [Scan.leaves_eq, hst]
          have ih := scan_layout lines (s.step line) (by simp [Scan.step_leave hh' hin hl])
          rw [Scan.step_leave hh' hin hl] at ih ⊢
          simp only [Scan.position, hin, Bool.false_eq_true, ↓reduceIte] at ih ⊢
          rw [layoutFrom_leave hh hst]
          simpa [Scan.closeSection, hs hin] using ih
        · -- an indented or blank line joins the open section
          have hl : s.leaves line = false := by simp [Scan.leaves_eq, hst]
          have ih := scan_layout lines (s.step line) (by simp [Scan.step_stay hh' hin hl])
          rw [Scan.step_stay hh' hin hl] at ih ⊢
          simp only [Scan.position, hin, Bool.false_eq_true, ↓reduceIte] at ih ⊢
          rw [layoutFrom_stay hh hst]
          simpa [List.tail_append_of_ne_nil (hs hin)] using ih
    · -- a header closes the open section, if any, and opens its own
      have hh' : isHeader line = true := (isHeader_eq_rootHeader line).trans hh
      have ih := scan_layout lines (s.step line) (by simp [Scan.step_header hh'])
      rw [Scan.step_header hh'] at ih ⊢
      simp only [Scan.position, ↓reduceIte] at ih
      rw [layoutFrom_header hh]
      cases hin : s.inApp
      · simpa [hin] using ih
      · simpa [hin, hs hin, Scan.closeSection] using ih

/-! ### What the merge writes -/

/-- The merge writes the lines the reading puts outside, then `app:` and the bodies, each
joined; a profile without sections comes out as its lines joined. -/
theorem mergeAppSections_eq_layout (p : String) :
    mergeAppSections p = pyJoin "\n" (if (layout (pySplit p "\n")).bodies = [] then
      (layout (pySplit p "\n")).rest else (layout (pySplit p "\n")).rest ++
        ["app:\n" ++ pyJoin "\n" ((layout (pySplit p "\n")).bodies.map (pyJoin "\n"))]) := by
  obtain ⟨h1, h2⟩ := scan_layout (pySplit p "\n") Scan.init (by simp [Scan.init])
  simp only [show Scan.init.inApp = false from rfl, show Scan.init.result = [] from rfl,
    show Scan.init.appSections = [] from rfl, Scan.position, Bool.false_eq_true, ↓reduceIte,
    List.nil_append] at h1 h2
  rw [mergeAppSections, Scan.finish_eq, h1, h2, layout]
  cases (layoutFrom none (pySplit p "\n")).bodies <;> rfl

theorem mergeAppSections_of_bodies_nil {p : String} (h : (layout (pySplit p "\n")).bodies = []) :
    mergeAppSections p = p := by
  rw [mergeAppSections_eq_layout, if_pos h, layout_rest_of_bodies_nil h,
    pyJoin_pySplit _ _ (by decide)]

theorem mem_bodyLines {bodies : List (List String)} {x : String} (hx : x ∈ bodyLines bodies) :
    x = "" ∨ x ∈ bodies.flatten := by
  obtain ⟨b, hb, hx⟩ := List.mem_flatMap.1 hx
  split at hx
  · exact .inl (List.mem_singleton.1 hx)
  · exact .inr (List.mem_flatten.2 ⟨b, hb, hx⟩)

/-- The lines of a merged profile with sections: the lines outside, `app:`, the body lines. -/
theorem pySplit_mergeAppSections {p : String} (h : (layout (pySplit p "\n")).bodies ≠ []) :
    pySplit (mergeAppSections p) "\n" =
      (layout (pySplit p "\n")).rest ++ "app:" :: bodyLines (layout (pySplit p "\n")).bodies := by
  rw [mergeAppSections_eq_layout, if_neg h]
  exact pySplit_merged (fun x hx => newline_not_mem_of_mem_pySplit (mem_of_mem_layout_rest hx).1)
    (fun b hb x hx => newline_not_mem_of_mem_pySplit
      (mem_of_mem_layout_bodies (List.mem_flatten.2 ⟨b, hb, hx⟩)).1) h

/-- No line the merge writes is a header, but its `app:`. -/
theorem rootHeader_of_mem_merged {p : String} {x : String}
    (hx : x ∈ (layout (pySplit p "\n")).rest ∨
      x ∈ bodyLines (layout (pySplit p "\n")).bodies) : rootHeader x = false := by
  rcases hx with hx | hx
  · exact (mem_of_mem_layout_rest hx).2
  · rcases mem_bodyLines hx with rfl | hx
    · rfl
    · exact (mem_of_mem_layout_bodies hx).2

/-- **`merge_app_sections` on any profile.** Without sections it returns the profile. With
sections, its non-blank lines are those outside every section, then `app:`, then those of the
bodies, each in the profile's order, and `app:` is its only header. -/
theorem mergeAppSections_layout (p : String) :
    ((layout (pySplit p "\n")).bodies = [] → mergeAppSections p = p) ∧
    ((layout (pySplit p "\n")).bodies ≠ [] →
      (pySplit (mergeAppSections p) "\n").filter nonBlank =
          (layout (pySplit p "\n")).rest.filter nonBlank ++
            "app:" :: (layout (pySplit p "\n")).bodies.flatten.filter nonBlank ∧
        (pySplit (mergeAppSections p) "\n").filter rootHeader = ["app:"]) := by
  refine ⟨mergeAppSections_of_bodies_nil, fun h => ?_⟩
  rw [pySplit_mergeAppSections h, List.filter_append, List.filter_append,
    List.filter_cons_of_pos (by decide), List.filter_cons_of_pos (by decide),
    bodyLines_filter_nonBlank]
  refine ⟨rfl, ?_⟩
  rw [List.filter_eq_nil_iff.2 fun x hx => by simp [rootHeader_of_mem_merged (.inl hx)],
    List.filter_eq_nil_iff.2 fun x hx => by simp [rootHeader_of_mem_merged (.inr hx)]]
  rfl

/-- The merged text is read as the lines outside, then one section holding every body line. -/
theorem layout_merged {p : String} (h : (layout (pySplit p "\n")).bodies ≠ []) :
    layout (pySplit (mergeAppSections p) "\n") =
      ⟨(layout (pySplit p "\n")).rest, [], [bodyLines (layout (pySplit p "\n")).bodies]⟩ := by
  have hstay : ∀ x ∈ bodyLines (layout (pySplit p "\n")).bodies,
      rootHeader x = false ∧ staysIn 0 x = true := fun x hx => by
    refine ⟨rootHeader_of_mem_merged (.inr hx), ?_⟩
    rcases mem_bodyLines hx with rfl | hx
    · rfl
    · exact layoutFrom_stays none _ x (List.mem_append_right _ hx)
  rw [pySplit_mergeAppSections h, layout,
    layoutFrom_none_append (fun x hx => rootHeader_of_mem_merged (.inl hx)),
    layoutFrom_header (by decide), show "app:".length - (pyLstrip "app:").length = 0 by decide,
    layoutFrom_some_of_stays hstay]
  simp

/-- **A second merge changes nothing**, blank lines included. -/
theorem mergeAppSections_idempotent (p : String) :
    mergeAppSections (mergeAppSections p) = mergeAppSections p := by
  by_cases h : (layout (pySplit p "\n")).bodies = []
  · rw [mergeAppSections_of_bodies_nil h, mergeAppSections_of_bodies_nil h]
  · -- the body lines join back to the joined bodies
    have hjoin : pyJoin "\n" (bodyLines (layout (pySplit p "\n")).bodies) =
        pyJoin "\n" ((layout (pySplit p "\n")).bodies.map (pyJoin "\n")) := by
      rw [← pySplit_pyJoin_bodies fun b hb x hx => newline_not_mem_of_mem_pySplit
          (mem_of_mem_layout_bodies (List.mem_flatten.2 ⟨b, hb, hx⟩)).1,
        ← pySplit_pyJoin_newline (List.map_eq_nil_iff.not.2 h), pyJoin_pySplit _ _ (by decide)]
    conv_lhs => rw [mergeAppSections_eq_layout, layout_merged h]
    rw [if_neg (List.cons_ne_nil _ _), List.map_singleton,
      show pyJoin "\n" [pyJoin "\n" (bodyLines (layout (pySplit p "\n")).bodies)] =
        pyJoin "\n" (bodyLines (layout (pySplit p "\n")).bodies) by simp [pyJoin, List.intercalate],
      hjoin, mergeAppSections_eq_layout p, if_neg h]

end OddiyaOps.FixYaml
