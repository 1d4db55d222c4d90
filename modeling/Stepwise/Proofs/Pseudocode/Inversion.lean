/-
Module: Stepwise.Proofs.Pseudocode.Inversion
Purpose: What can be read back from the pseudocode of a workflow.
Main exports: Step.SingleLine, Workflow.SingleLine, Pseudocode.splitOn_render,
  Pseudocode.map_block_eq_of_lines_eq, Pseudocode.map_block_eq_of_render_eq,
  Pseudocode.face_exits_of_block_eq, Pseudocode.connections_eq_of_exits_eq,
  Pseudocode.next?_eq_of_exits_eq
-/
import Stepwise.Pseudocode

namespace Stepwise

/-!
The text is joined twice: lines by line feeds, and blocks by empty lines with an
empty block at the end.  Both joints can be found again, the first because no
written line holds a line feed and the second because no line of a block is
empty.  Inside a block the first word tells the kind, and with it how every
other line begins; what follows is a name, an instruction or a reference as it
was written.
-/

/-- No text of the step holds a line feed. -/
structure Step.SingleLine (step : Step) : Prop where
  name : '\n' ∉ step.name.toList
  instruction : '\n' ∉ step.instruction.toList
  connections : ∀ reference ∈ step.connections, '\n' ∉ reference.toList

instance (step : Step) : Decidable step.SingleLine :=
  decidable_of_iff
    ('\n' ∉ step.name.toList ∧ '\n' ∉ step.instruction.toList ∧
      ∀ reference ∈ step.connections, '\n' ∉ reference.toList)
    ⟨fun ⟨name, instruction, connections⟩ => ⟨name, instruction, connections⟩,
      fun ⟨name, instruction, connections⟩ => ⟨name, instruction, connections⟩⟩

/-- No text of the workflow holds a line feed. -/
def Workflow.SingleLine (w : Workflow) : Prop :=
  ∀ step ∈ w.steps, step.SingleLine

instance (w : Workflow) : Decidable w.SingleLine :=
  inferInstanceAs (Decidable (∀ step ∈ w.steps, step.SingleLine))

namespace Pseudocode

variable {step step' : Step}

/-! ### Lines of a block -/

theorem not_mem_header (single : step.SingleLine) : '\n' ∉ (header step).toList := by
  have name := single.name
  cases kind : step.kind <;> simp [header, kind, StepKind.keyword, name]

theorem exits_singleLine (single : step.SingleLine) :
    ∀ line ∈ exits step, '\n' ∉ line.toList := by
  have named {introduction target : String} (plain : '\n' ∉ introduction.toList)
      (held : target ∈ step.connections) : '\n' ∉ (introduction ++ target).toList := by
    simp [plain, single.connections target held]
  intro line written
  cases kind : step.kind with
  | decision =>
      simp only [exits, kind, List.mem_map] at written
      obtain ⟨target, held, rfl⟩ := written
      exact named (by decide) held
  | process =>
      simp only [exits, kind, List.mem_map, Option.mem_toList] at written
      obtain ⟨target, first, rfl⟩ := written
      exact named (by decide) (List.mem_of_mem_head? first)
  | terminal =>
      simp only [exits, kind, List.mem_map, Option.mem_toList] at written
      obtain ⟨target, first, rfl⟩ := written
      exact named (by decide) (List.mem_of_mem_head? first)

theorem block_singleLine (single : step.SingleLine) :
    ∀ line ∈ block step, '\n' ∉ line.toList := by
  have instruction := single.instruction
  intro line written
  simp only [block, List.mem_cons] at written
  rcases written with rfl | rfl | exit
  · exact not_mem_header single
  · cases kind : step.kind <;> simp [instructionLabel, instruction]
  · exact exits_singleLine single line exit

theorem header_ne_empty (step : Step) : header step ≠ "" := by
  simp [header, String.append_eq_empty_iff]

/-- No line of a block is empty. -/
theorem empty_not_mem_block (step : Step) : "" ∉ block step := by
  intro written
  simp only [block, List.mem_cons] at written
  rcases written with title | instruction | exit
  · exact header_ne_empty step title.symm
  · have nonempty : "    " ++ instructionLabel step.kind ++ ": " ++ step.instruction ≠ "" := by
      simp [String.append_eq_empty_iff]
    exact nonempty instruction.symm
  · cases kind : step.kind <;> simp [exits, kind, String.append_eq_empty_iff] at exit

/-! ### Blocks of a text -/

/-- The lines are the blocks and an empty one, joined by empty lines. -/
theorem lines_eq_intercalate (steps : List Step) :
    lines steps = [""].intercalate (steps.map block ++ [[]]) := by
  induction steps with
  | nil => rfl
  | cons step rest ih =>
      have more : rest.map block ++ [[]] ≠ [] := by simp
      rw [List.map_cons, List.cons_append, List.intercalate_cons_of_ne_nil more, ← ih]
      rfl

/-- The blocks can be found again in the lines. -/
theorem map_block_eq_of_lines_eq {steps steps' : List Step} (same : lines steps = lines steps') :
    steps.map block = steps'.map block := by
  have found (steps : List Step) : (lines steps).splitOn "" = steps.map block ++ [[]] := by
    rw [lines_eq_intercalate]
    refine List.splitOn_intercalate "" ?_ (by simp)
    intro piece member
    rcases List.mem_append.mp member with block | last
    · obtain ⟨step, -, rfl⟩ := List.mem_map.mp block
      exact empty_not_mem_block step
    · simp [List.mem_singleton.mp last]
  have split := congrArg (List.splitOn "") same
  rw [found, found] at split
  exact List.append_cancel_right split

/-- A workflow with steps has at least the first two lines of a block. -/
theorem lines_cons (step : Step) (rest : List Step) :
    ∃ second more, lines (step :: rest) = header step :: second :: more :=
  ⟨_, _, rfl⟩

/-- The lines of a workflow with steps can be found again in its text. -/
theorem splitOn_render {w : Workflow} (single : w.SingleLine) (nonempty : w.steps ≠ []) :
    (render w).toList.splitOn '\n' = (lines w.steps).map String.toList := by
  rw [render, String.toList_intercalate]
  refine List.splitOn_intercalate '\n' ?_ ?_
  · intro text member
    obtain ⟨line, written, rfl⟩ := List.mem_map.mp member
    obtain ⟨step, held, among⟩ := List.mem_flatMap.mp written
    rcases List.mem_append.mp among with inside | behind
    · exact block_singleLine (single step held) line inside
    · simp [List.mem_singleton.mp behind]
  · obtain ⟨step, rest, cons⟩ := List.exists_cons_of_ne_nil nonempty
    obtain ⟨second, more, written⟩ := lines_cons step rest
    simp [cons, written]

/-- The text of a workflow with steps is not empty. -/
theorem render_ne_empty {w : Workflow} (single : w.SingleLine) (nonempty : w.steps ≠ []) :
    render w ≠ "" := by
  intro empty
  have split := splitOn_render single nonempty
  obtain ⟨step, rest, cons⟩ := List.exists_cons_of_ne_nil nonempty
  obtain ⟨second, more, written⟩ := lines_cons step rest
  rw [empty, cons, written] at split
  -- The empty text is a single line, and there are at least two.
  have count := congrArg List.length split
  simp at count

/-- Equal texts have equal blocks. -/
theorem map_block_eq_of_render_eq {w w' : Workflow} (single : w.SingleLine)
    (single' : w'.SingleLine) (same : render w = render w') :
    w.steps.map block = w'.steps.map block := by
  by_cases nonempty : w.steps = []
  · by_cases nonempty' : w'.steps = []
    · rw [nonempty, nonempty']
    · have empty : render w = "" := by simp [render, lines, nonempty]
      exact absurd (same.symm.trans empty) (render_ne_empty single' nonempty')
  · by_cases nonempty' : w'.steps = []
    · have empty : render w' = "" := by simp [render, lines, nonempty']
      exact absurd (same.trans empty) (render_ne_empty single nonempty)
    · have split := splitOn_render single nonempty
      rw [same, splitOn_render single' nonempty'] at split
      have lines := (List.map_inj_right fun _ _ => String.toList_inj.mp).mp split
      exact (map_block_eq_of_lines_eq lines).symm

/-! ### The steps of blocks -/

/-- A header begins with the word for the kind, which no other kind shares, and
goes on with the name. -/
theorem kind_name_of_header_eq (same : header step = header step') :
    step.kind = step'.kind ∧ step.name = step'.name := by
  have characters := congrArg String.toList same
  cases kind : step.kind <;> cases kind' : step'.kind <;>
    simp [header, kind, kind', StepKind.keyword, String.toList_inj] at characters ⊢
  all_goals exact characters

/-- What a block says of a step: all but the connections that are not
followed. -/
theorem face_exits_of_block_eq (same : block step = block step') :
    step.face = step'.face ∧ exits step = exits step' := by
  obtain ⟨title, same⟩ := List.cons_eq_cons.mp same
  obtain ⟨instruction, exits⟩ := List.cons_eq_cons.mp same
  obtain ⟨kind, name⟩ := kind_name_of_header_eq title
  rw [kind, String.append_right_inj] at instruction
  exact ⟨by simp [Step.face, kind, name, instruction], exits⟩

theorem exits_of_decision (kind : step.kind = .decision) :
    exits step = step.connections.map fun target => "    if true: goto " ++ target := by
  simp only [exits, kind]

theorem exits_of_other (kind : step.kind ≠ .decision) :
    exits step = step.next?.toList.map fun target => "    next: " ++ target := by
  cases other : step.kind with
  | decision => exact absurd other kind
  | process => simp only [exits, other]
  | terminal => simp only [exits, other]

theorem eq_of_map_append_eq {introduction : String} {targets targets' : List String}
    (same : (targets.map fun target => introduction ++ target) =
      targets'.map fun target => introduction ++ target) : targets = targets' :=
  (List.map_inj_right fun _ _ => (String.append_right_inj introduction).mp).mp same

/-- A decision is written with all of its connections. -/
theorem connections_eq_of_exits_eq (kind : step.kind = .decision) (kind' : step'.kind = .decision)
    (same : exits step = exits step') : step.connections = step'.connections := by
  rw [exits_of_decision kind, exits_of_decision kind'] at same
  exact eq_of_map_append_eq same

/-- Every step is written with the connection that is followed. -/
theorem next?_eq_of_exits_eq (kinds : step.kind = step'.kind) (same : exits step = exits step') :
    step.next? = step'.next? := by
  by_cases kind : step.kind = .decision
  · rw [Step.next?, Step.next?, connections_eq_of_exits_eq kind (kinds ▸ kind) same]
  · rw [exits_of_other kind, exits_of_other (kinds ▸ kind)] at same
    have first := congrArg List.head? (eq_of_map_append_eq same)
    rwa [Option.head?_toList, Option.head?_toList] at first

end Pseudocode

end Stepwise
