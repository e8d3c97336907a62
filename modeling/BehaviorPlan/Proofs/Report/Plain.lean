import BehaviorPlan.Proofs.Pipeline.Category
import BehaviorPlan.Proofs.Text.Lines
import BehaviorPlan.Report.Plain

/-! # What the plain text report shows

The report has two parts, each cut into groups by category. Of every group the size and a first
stretch are printed, and the number of findings that are left out. Nothing is lost on the way from
the verdict to the report, and nothing is shown twice. -/
namespace BehaviorPlan

/-- The findings in groups: by category in the order of categories, every finding in one group and
as often as it was found, and in a group in order of discovery. -/
structure Grouped (findings : List Finding) (groups : List (Category × List Finding)) : Prop where
  order : (groups.map (·.1)).Sublist Category.all
  category : ∀ g ∈ groups, ∀ f ∈ g.2, f.category = g.1
  ne_nil : ∀ g ∈ groups, g.2 ≠ []
  sublist : ∀ g ∈ groups, g.2.Sublist findings
  perm : (groups.flatMap (·.2)).Perm findings

section Grouping

variable {findings : List Finding}

theorem Category.nodup_all : Category.all.Nodup := by
  decide

theorem mem_groupByCategory_iff {g : Category × List Finding} : g ∈ groupByCategory findings ↔
    g.2 = findings.filter (·.category = g.1) ∧ g.2 ≠ [] := by
  obtain ⟨c, group⟩ := g
  simp only [groupByCategory, List.mem_filter, List.mem_map, Category.mem_all, true_and,
    Prod.mk.injEq, decide_eq_true_eq, and_congr_left_iff]
  intro _
  constructor
  · rintro ⟨_, rfl, rfl⟩
    rfl
  · intro hgroup
    exact ⟨c, rfl, hgroup.symm⟩

theorem groupByCategory_order :
    ((groupByCategory findings).map (·.1)).Sublist Category.all := by
  have hall : (Category.all.map fun c => (c, findings.filter (·.category = c))).map (·.1) =
      Category.all := by
    rw [List.map_map]
    exact List.map_id Category.all
  rw [groupByCategory]
  conv_rhs => rw [← hall]
  exact List.filter_sublist.map _

theorem groupByCategory_perm : ((groupByCategory findings).flatMap (·.2)).Perm findings := by
  have hnonempty : (groupByCategory findings).flatMap (·.2) =
      Category.all.flatMap fun c => findings.filter (·.category = c) := by
    have hfilled := List.flatten_filter_ne_nil
      (L := Category.all.map fun c => findings.filter (·.category = c))
    rw [List.flatMap_def, List.flatMap_def, ← hfilled, groupByCategory, List.filter_map,
      List.filter_map, List.map_map]
    rfl
  have hevery : findings.filter (·.category ∈ Category.all) = findings :=
    List.filter_eq_self.mpr fun f _ => decide_eq_true (Category.mem_all f.category)
  have hperm := flatMap_filter_perm Finding.category Category.nodup_all findings
  rw [hevery] at hperm
  rw [hnonempty]
  exact hperm

theorem grouped_groupByCategory (findings : List Finding) :
    Grouped findings (groupByCategory findings) :=
  { order := groupByCategory_order
    category := by
      intro g hg f hf
      rw [(mem_groupByCategory_iff.mp hg).1] at hf
      exact of_decide_eq_true (List.mem_filter.mp hf).2
    ne_nil := fun g hg => (mem_groupByCategory_iff.mp hg).2
    sublist := by
      intro g hg
      rw [(mem_groupByCategory_iff.mp hg).1]
      exact List.filter_sublist
    perm := groupByCategory_perm }

theorem foldl_enterCategory (categories : List Category) (grouped : List (Category × List Finding)) :
    categories.foldl (Validation.mk findings).enterCategory grouped =
      grouped ++
        (categories.map fun c => (c, findings.filter (·.category = c))).filter (·.2 ≠ []) := by
  induction categories generalizing grouped with
  | nil => simp
  | cons c categories ih =>
    rw [List.foldl_cons, ih, Validation.enterCategory, List.map_cons, List.filter_cons]
    by_cases h : findings.filter (·.category = c) = []
    · simp [h]
    · simp [h, List.append_assoc]

theorem byCategory_eq_groupByCategory (findings : List Finding) :
    (Validation.mk findings).byCategory = groupByCategory findings := by
  rw [Validation.byCategory, foldl_enterCategory, List.nil_append, groupByCategory]

theorem Grouped.sum_length {groups : List (Category × List Finding)}
    (h : Grouped findings groups) : (groups.map (·.2.length)).sum = findings.length := by
  rw [← h.perm.length_eq, List.length_flatMap]

theorem countOf_severities (findings : List Finding) :
    countOf .error findings + countOf .warning findings + countOf .info findings =
      findings.length := by
  induction findings with
  | nil => rfl
  | cons f findings ih =>
    simp only [countOf, List.countP_cons, List.length_cons] at ih ⊢
    cases f.severity <;> simp <;> omega

end Grouping

namespace Report

variable {options : ReportOptions} {r : Run}

/-- What a limit leaves of a group: its beginning, up to the limit. -/
structure Capped (options : ReportOptions) (group first rest : List Finding) : Prop where
  split : first ++ rest = group
  limited : ∀ limit, options.maxFindings = some limit →
    (first.length : Int) = min limit group.length
  unlimited : options.maxFindings = none → rest = []

/-- The lines of a finding: severity, subject and message, and then the suggestion if suggestions
are asked for and there is one. -/
structure PrintsFinding (options : ReportOptions) (f : Finding) (lines : List String) : Prop where
  head : lines.head? =
    some ("  [" ++ f.severity.label ++ "] " ++ f.subject ++ ": " ++ f.message)
  suggested : ∀ s, options.suggestions = true → f.suggestion = some s → s ≠ "" →
    lines.tail = ["    Suggestion: " ++ s]
  alone : options.suggestions = false ∨ f.suggestion = none ∨ f.suggestion = some "" →
    lines.tail = []

/-- The lines of a group: its size, its first findings, and the number of the others if there are
any. -/
def PrintsGroup (options : ReportOptions) (group : Category × List Finding)
    (lines : List String) : Prop :=
  ∃ first rest printed, Capped options group.2 first rest ∧
    List.Forall₂ (PrintsFinding options) first printed ∧
    lines = ["", group.1.label ++ " (" ++ toString group.2.length ++ "):"] ++ printed.flatten ++
      (if rest = [] then [] else ["  ... and " ++ toString rest.length ++ " more"])

theorem printsFinding_findingLines (options : ReportOptions) (f : Finding) :
    PrintsFinding options f (Plain.findingLines options f) where
  head := rfl
  suggested := by
    intro s hon hs hne
    have hshown : (present? f.suggestion).toList = [s] := by
      simp [present?, hs, hne]
    rw [Plain.findingLines, if_pos hon, hshown]
    rfl
  alone := by
    rintro (hoff | hnone | hempty)
    · simp [Plain.findingLines, hoff]
    · simp [Plain.findingLines, present?, hnone]
    · simp [Plain.findingLines, present?, hempty]

theorem capped_shown (hoptions : Checked.defect? options = none) (group : List Finding) :
    ∃ rest, Capped options group (shown options group) rest := by
  cases hlimit : options.maxFindings with
  | none =>
    refine ⟨[], ?_, by simp [hlimit], fun _ => rfl⟩
    simp [shown, hlimit]
  | some limit =>
    have hpos : ¬ limit < 1 := by
      simpa [Checked.defect?, hlimit] using hoptions
    refine ⟨group.drop limit.toNat, ?_, ?_, by simp [hlimit]⟩
    · simp [shown, hlimit]
    · intro limit' hlimit'
      obtain rfl := Option.some.inj (hlimit.symm.trans hlimit')
      simp only [shown, hlimit, List.length_take]
      omega

theorem printsGroup_groupLines (hoptions : Checked.defect? options = none)
    (group : Category × List Finding) :
    PrintsGroup options group (Plain.groupLines options group) := by
  obtain ⟨rest, hcapped⟩ := capped_shown hoptions group.2
  have hhidden : hidden options group.2 = rest.length := by
    have hlength := congrArg List.length hcapped.split
    rw [List.length_append] at hlength
    rw [hidden]
    omega
  refine ⟨_, rest, (shown options group.2).map (Plain.findingLines options), hcapped, ?_, ?_⟩
  · rw [List.forall₂_map_right_iff, List.forall₂_same]
    exact fun f _ => printsFinding_findingLines options f
  · rw [Plain.groupLines, hhidden, List.flatMap_def]
    cases rest <;> rfl

def Plain.opening (r : Run) : List String :=
  [rule '=', "Multi-Behavior Validation Report", rule '='] ++
    sectionLines "Phase 1: Structural Validation" ++
    [s!"  Behaviors: {r.partition.behaviors.length}",
      s!"  Shared functions: {r.partition.sharedFunctions.length}"] ++
    (if r.structuralFindings = [] then ["  No structural issues found"] else [])

/-- Lines between the groups of the two parts. -/
def Plain.between (options : ReportOptions) (r : Run) : List String :=
  ((r.analysis.map fun a => analysisLines options a r.order).getD []) ++
    sectionLines "Phase 2: Generated Code Validation" ++
    (if r.issues = [] then ["  No generated code issues found"] else [])

def Plain.closing (r : Run) : List String :=
  statusLines r.verdict ++
    ["", rule '=', "Result: " ++ (if r.passed then "PASSED" else "FAILED"), rule '=']

theorem Plain.findingsLines_unless_nil (options : ReportOptions) (nothing : List String)
    (findings : List Finding) :
    (if findings = [] then nothing else findingsLines options findings) =
      (if findings = [] then nothing else []) ++ findingsLines options findings := by
  by_cases h : findings = []
  · simp [h, findingsLines, groupByCategory]
  · simp [h]

theorem Plain.lines_eq (options : ReportOptions) (r : Run) :
    lines options r = opening r ++ findingsLines options r.structuralFindings ++
      between options r ++ findingsLines options r.issues ++ closing r := by
  simp only [lines, structuralLines, codeLines, findingsLines_unless_nil, opening, between, closing,
    List.append_assoc]

/-- Every finding of the verdict is in one part of the report and there in one group. Every group
is printed with its size, its first findings up to the limit, and the number of the others. -/
structure Reported (options : ReportOptions) (r : Run) : Prop where
  parts : r.structuralFindings ++ r.issues = r.verdict.findings
  grouped : ∀ part ∈ [r.structuralFindings, r.issues], Grouped part (groupByCategory part)
  byCategory : ∀ part ∈ [r.structuralFindings, r.issues],
    groupByCategory part = (Validation.mk part).byCategory
  printed : ∃ structural code,
    List.Forall₂ (PrintsGroup options) (groupByCategory r.structuralFindings) structural ∧
    List.Forall₂ (PrintsGroup options) (groupByCategory r.issues) code ∧
    Plain.render options r = String.join ((Plain.opening r ++ structural.flatten ++
      Plain.between options r ++ code.flatten ++ Plain.closing r).map (· ++ "\n"))
  sizes : ((groupByCategory r.structuralFindings).map (·.2.length)).sum +
      ((groupByCategory r.issues).map (·.2.length)).sum =
    r.verdict.count .error + r.verdict.count .warning + r.verdict.count .info

theorem forall₂_printsGroup (hoptions : Checked.defect? options = none)
    (groups : List (Category × List Finding)) :
    List.Forall₂ (PrintsGroup options) groups (groups.map (Plain.groupLines options)) := by
  rw [List.forall₂_map_right_iff, List.forall₂_same]
  exact fun group _ => printsGroup_groupLines hoptions group

/-- Whatever the limit of a report is, the report of a run accounts for all findings. -/
theorem reported_of_run (config : Config) (rules : List Rule) (functions : List FunctionDecl)
    (classes : List ClassSource) (r : Run) (options : ReportOptions)
    (hoptions : Checked.defect? options = none)
    (h : Pipeline.run config rules functions classes = .ok r) : Reported options r := by
  have hparts := Pipeline.structuralFindings_append_issues h
  refine
    { parts := hparts
      grouped := fun part _ => grouped_groupByCategory part
      byCategory := fun part _ => (byCategory_eq_groupByCategory part).symm
      printed := ?_
      sizes := ?_ }
  · refine ⟨_, _, forall₂_printsGroup hoptions _, forall₂_printsGroup hoptions _, ?_⟩
    rw [Plain.render, Plain.lines_eq, Plain.findingsLines, Plain.findingsLines, List.flatMap_def,
      List.flatMap_def]
    exact Text.unlines_eq_join (by simp [Plain.opening])
  · rw [(grouped_groupByCategory _).sum_length, (grouped_groupByCategory _).sum_length,
      ← List.length_append, hparts]
    exact (countOf_severities r.verdict.findings).symm

/-- More findings on the classes of the house than the report shows. -/
theorem reported_house : ∃ r,
    Pipeline.run Pipeline.houseConfig (Rule.enabled Pipeline.houseConfig) Pipeline.house
        [Pipeline.plainDoor, Pipeline.openLamp] = .ok r ∧
      1 < r.issues.length ∧ Reported { maxFindings := some 1 } r := by
  obtain ⟨r, _, _, _, hr, -, -, hstages⟩ :=
    Pipeline.exists_stages_house [Pipeline.plainDoor, Pipeline.openLamp]
  have hfound : 1 < (Code.findings (Rule.enabled Pipeline.houseConfig)
      [Pipeline.plainDoor, Pipeline.openLamp]).length := by
    decide +kernel
  refine ⟨r, hr, ?_, reported_of_run Pipeline.houseConfig (Rule.enabled Pipeline.houseConfig)
    Pipeline.house [Pipeline.plainDoor, Pipeline.openLamp] r { maxFindings := some 1 }
    (by decide) hr⟩
  rw [hstages.issues, Code.findings_append, List.length_append]
  omega

end Report

end BehaviorPlan
