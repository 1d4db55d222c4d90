/-
Module: Stepwise.Proofs.Pseudocode.Layout
Purpose: Where the line feeds of a pseudocode stand, and what its headers are.
Main exports: Pseudocode.render_append, Text.Tight, Pseudocode.exists_tight_render,
  Pseudocode.filter_lines, Pseudocode.render_layout
-/
import Stepwise.Proofs.Pseudocode.Inversion
import Stepwise.Proofs.Text.Occurrence

namespace Stepwise

/-!
The text of two workflows in a row is made from the texts of the two, with one
line feed more in between.  With the text of a single step, which is its block
and a line feed, this says where all line feeds are: one behind each line, and
a second one where another block follows.
-/

/-! ### Texts without line feeds around them -/

/-- A text that line feeds neither begin nor end, with so many double line feeds
and no triple one inside. -/
structure Text.Tight (gaps : Nat) (text : List Char) : Prop where
  starts : ∃ c ∈ text.head?, c ≠ '\n'
  ends : ∃ c ∈ text.getLast?, c ≠ '\n'
  double : occurrences ['\n', '\n'] text = gaps
  triple : occurrences ['\n', '\n', '\n'] text = 0

namespace Text

variable {gaps gaps' : Nat} {text text' : List Char}

/-- One line is tight. -/
theorem Tight.line {line : List Char} (nonempty : line ≠ []) (single : '\n' ∉ line) :
    Tight 0 line := by
  have never {pattern : List Char} (feed : '\n' ∈ pattern) : occurrences pattern line = 0 := by
    rw [occurrences_eq_zero_iff]
    intro inside
    exact single (inside.subset feed)
  have other {c : Char} (held : c ∈ line) : c ≠ '\n' := ne_of_mem_of_not_mem held single
  exact
    { starts :=
        ⟨line.head nonempty, List.head_mem_head? nonempty, other (List.head_mem nonempty)⟩
      ends := ⟨line.getLast nonempty, List.getLast_mem_getLast? nonempty,
        other (List.getLast_mem nonempty)⟩
      double := never (by simp)
      triple := never (by simp) }

/-- Line feeds between two tight texts add their own double ones. -/
theorem Tight.append (tight : Tight gaps text) (tight' : Tight gaps' text') (middle : List Char)
    (few : occurrences ['\n', '\n', '\n'] middle = 0) :
    Tight (gaps + occurrences ['\n', '\n'] middle + gaps') (text ++ middle ++ text') := by
  obtain ⟨first, leads, begins⟩ := tight.starts
  obtain ⟨last, closes, stops⟩ := tight.ends
  obtain ⟨first', leads', begins'⟩ := tight'.starts
  obtain ⟨last', closes', stops'⟩ := tight'.ends
  have double := occurrences_between (List.cons_ne_nil '\n' ['\n']) closes leads'
    (by simp [stops]) (by simp [begins']) middle
  have triple := occurrences_between (List.cons_ne_nil '\n' ['\n', '\n']) closes leads'
    (by simp [stops]) (by simp [begins']) middle
  refine
    { starts := ⟨first, ?_, begins⟩
      ends := ⟨last', ?_, stops'⟩
      double := ?_
      triple := ?_ }
  · rw [List.append_assoc]
    exact List.mem_head?_append_of_mem_head? leads
  · exact List.mem_getLast?_append_of_mem_getLast? closes'
  · rw [double, tight.double, tight'.double]
  · rw [triple, tight.triple, few, tight'.triple]

/-- Lines that are not empty make a tight text without double line feeds. -/
theorem Tight.intercalate {lines : List (List Char)} (nonempty : lines ≠ [])
    (fitting : ∀ line ∈ lines, line ≠ [] ∧ '\n' ∉ line) :
    Tight 0 (['\n'].intercalate lines) := by
  induction lines with
  | nil => exact absurd rfl nonempty
  | cons line lines ih =>
      rw [List.forall_mem_cons] at fitting
      have first : Tight 0 line := .line fitting.1.1 fitting.1.2
      by_cases alone : lines = []
      · rwa [alone, List.intercalate_singleton]
      · rw [List.intercalate_cons_of_ne_nil alone]
        exact first.append (ih alone fitting.2) ['\n'] (by decide)

/-- A line feed behind a tight text changes nothing inside. -/
theorem Tight.occurrences_concat (tight : Tight gaps text) (pattern : List Char)
    (several : 2 ≤ pattern.length) (feeds : ∀ c ∈ pattern, c = '\n') :
    occurrences pattern (text ++ ['\n']) = occurrences pattern text := by
  obtain ⟨last, closes, stops⟩ := tight.ends
  obtain ⟨front, rfl⟩ := List.getLast?_eq_some_iff.mp closes
  have nonempty : pattern ≠ [] := List.ne_nil_of_length_pos (by omega)
  have missing : last ∉ pattern := fun held => stops (feeds last held)
  have short : occurrences pattern ['\n'] = 0 := by
    rw [occurrences_eq_zero_iff]
    intro inside
    have length := inside.length_le
    simp only [List.length_singleton] at length
    omega
  have cut := occurrences_append_cons nonempty missing front ['\n']
  have cut_front := occurrences_append_cons nonempty missing front []
  rw [List.append_assoc, List.singleton_append, cut, cut_front, short, occurrences_nil nonempty]

end Text

namespace Pseudocode

/-! ### Line feeds of a workflow -/

theorem lines_append (steps steps' : List Step) :
    lines (steps ++ steps') = lines steps ++ lines steps' :=
  List.flatMap_append

theorem lines_ne_nil {steps : List Step} (nonempty : steps ≠ []) : lines steps ≠ [] := by
  obtain ⟨step, rest, rfl⟩ := List.exists_cons_of_ne_nil nonempty
  obtain ⟨second, more, written⟩ := lines_cons step rest
  simp [written]

/-- Between the texts of two workflows stands one more line feed. -/
theorem render_append {u v : Workflow} (nonempty : u.steps ≠ []) (nonempty' : v.steps ≠ []) :
    render (u.append v.steps) = render u ++ "\n" ++ render v := by
  rw [render, Workflow.append, lines_append,
    String.intercalate_append_of_ne_nil (lines_ne_nil nonempty) (lines_ne_nil nonempty')]
  rfl

/-- The text of a single step is its block with a line feed behind it. -/
theorem render_singleton (step : Step) :
    render ⟨[step]⟩ = "\n".intercalate (block step) ++ "\n" := by
  have written : lines [step] = block step ++ [""] := List.append_nil _
  have some_lines : block step ≠ [] := List.cons_ne_nil _ _
  rw [render, written, String.intercalate_append_of_ne_nil some_lines (List.cons_ne_nil _ _),
    String.intercalate_singleton, String.append_empty]

theorem tight_block {step : Step} (single : step.SingleLine) :
    Text.Tight 0 ("\n".intercalate (block step)).toList := by
  rw [String.toList_intercalate]
  apply Text.Tight.intercalate (by simp [block])
  intro line written
  obtain ⟨text, held, rfl⟩ := List.mem_map.mp written
  refine ⟨?_, block_singleLine single text held⟩
  rw [Ne, String.toList_eq_nil_iff]
  exact ne_of_mem_of_not_mem held (empty_not_mem_block step)

/-- The text of a workflow ends in a single line feed and has a double one in front
of each step but the first. -/
theorem exists_tight_render (step : Step) (rest : List Step)
    (single : Workflow.SingleLine ⟨step :: rest⟩) :
    ∃ text, (render ⟨step :: rest⟩).toList = text ++ ['\n'] ∧ Text.Tight rest.length text := by
  induction rest generalizing step with
  | nil =>
      refine ⟨_, ?_, tight_block (single step List.mem_cons_self)⟩
      rw [render_singleton, String.toList_append]
      rfl
  | cons next rest ih =>
      have others : Workflow.SingleLine ⟨next :: rest⟩ :=
        fun other held => single other (List.mem_cons_of_mem _ held)
      obtain ⟨text, written, tight⟩ := ih next others
      have first := tight_block (single step List.mem_cons_self)
      have joined : render ⟨step :: next :: rest⟩ =
          render ⟨[step]⟩ ++ "\n" ++ render ⟨next :: rest⟩ :=
        render_append (u := ⟨[step]⟩) (v := ⟨next :: rest⟩) (List.cons_ne_nil _ _)
          (List.cons_ne_nil _ _)
      have both := first.append tight ['\n', '\n'] (by decide)
      have one_gap : Text.occurrences ['\n', '\n'] ['\n', '\n'] = 1 := by decide
      refine ⟨("\n".intercalate (block step)).toList ++ ['\n', '\n'] ++ text, ?_, ?_⟩
      · rw [joined, render_singleton]
        simp [written]
      · rwa [one_gap, Nat.zero_add, Nat.add_comm] at both

/-! ### Headers -/

/-- Neither empty nor indented. -/
def isOutermost (line : List Char) : Bool :=
  !line.isEmpty && line.head? != some ' '

theorem isOutermost_header (step : Step) : isOutermost (header step).toList = true := by
  cases kind : step.kind <;> simp [isOutermost, header, kind, StepKind.keyword]

/-- Behind its header a block is indented. -/
theorem not_isOutermost_of_mem_tail {step : Step} {line : String}
    (inside : line ∈ (block step).tail) :
    isOutermost line.toList = false := by
  rw [block, List.tail_cons, List.mem_cons] at inside
  rcases inside with rfl | exit
  · simp [isOutermost]
  · cases kind : step.kind with
    | decision =>
        rw [exits_of_decision kind, List.mem_map] at exit
        obtain ⟨target, -, rfl⟩ := exit
        simp [isOutermost]
    | process =>
        rw [exits_of_other (by simp [kind]), List.mem_map] at exit
        obtain ⟨target, -, rfl⟩ := exit
        simp [isOutermost]
    | terminal =>
        rw [exits_of_other (by simp [kind]), List.mem_map] at exit
        obtain ⟨target, -, rfl⟩ := exit
        simp [isOutermost]

/-- The outermost lines are the headers. -/
theorem filter_lines (steps : List Step) :
    ((lines steps).map String.toList).filter isOutermost =
      steps.map fun step => (header step).toList := by
  induction steps with
  | nil => rfl
  | cons step rest ih =>
      have cut : lines (step :: rest) = header step :: ((block step).tail ++ "" :: lines rest) := by
        simp [lines, block]
      have indented : ((block step).tail.map String.toList).filter isOutermost = [] := by
        rw [List.filter_eq_nil_iff]
        intro text held
        obtain ⟨line, inside, rfl⟩ := List.mem_map.mp held
        simp [not_isOutermost_of_mem_tail inside]
      have empty : isOutermost "".toList = false := rfl
      rw [cut, List.map_cons, List.filter_cons_of_pos (isOutermost_header step), List.map_append,
        List.filter_append, indented, List.nil_append, List.map_cons,
        List.filter_cons_of_neg (Bool.not_eq_true _ ▸ empty), ih, List.map_cons]

/-- The text of two workflows in a row is made from their texts with a line feed
in between.  If no text of a step holds a line feed, the whole begins with none
and ends in exactly one, has a double one between any two steps and nowhere
else, and never a triple one; and its lines that are neither empty nor
indented are the headers of the steps in their order. -/
theorem render_layout :
    (∀ u v : Workflow, u.steps ≠ [] → v.steps ≠ [] →
        render (u.append v.steps) = render u ++ "\n" ++ render v) ∧
      ∀ w : Workflow, w.steps ≠ [] → w.SingleLine →
        (render w).toList.head? ≠ some '\n' ∧
          (∃ body, (render w).toList = body ++ ['\n'] ∧ body.getLast? ≠ some '\n') ∧
          Text.occurrences ['\n', '\n'] (render w).toList = w.length - 1 ∧
          ¬ ['\n', '\n', '\n'] <:+: (render w).toList ∧
          ((render w).toList.splitOn '\n').filter
              (fun line => !line.isEmpty && line.head? != some ' ') =
            w.steps.map fun step => (step.kind.keyword ++ " " ++ step.name ++ ":").toList := by
  refine ⟨fun u v => render_append, ?_⟩
  intro w nonempty single
  have titles : ((render w).toList.splitOn '\n').filter isOutermost =
      w.steps.map fun step => (header step).toList := by
    rw [splitOn_render single nonempty, filter_lines]
  obtain ⟨steps⟩ := w
  obtain ⟨step, rest, rfl⟩ := List.exists_cons_of_ne_nil nonempty
  obtain ⟨text, written, tight⟩ := exists_tight_render step rest single
  obtain ⟨first, leads, begins⟩ := tight.starts
  obtain ⟨last, closes, stops⟩ := tight.ends
  have doubles := tight.occurrences_concat ['\n', '\n'] (by decide) (by simp)
  have triples := tight.occurrences_concat ['\n', '\n', '\n'] (by decide) (by simp)
  refine ⟨?_, ⟨text, written, ?_⟩, ?_, ?_, titles⟩
  · rw [written, List.mem_head?_append_of_mem_head? leads]
    simp [begins]
  · rw [closes]
    simp [stops]
  · rw [written, doubles, tight.double]
    rfl
  · rw [written, ← Text.occurrences_eq_zero_iff, triples, tight.triple]

/-- Texts that are empty or look like a header. -/
def posing : Workflow :=
  { steps :=
      [{ name := "", kind := .process, instruction := "", connections := [""] },
        { name := "b:", kind := .decision, instruction := "terminal c:",
          connections := ["process d:", ""] }] }

/-- They leave the lines as they are: one gap, and two headers. -/
theorem render_layout_posing :
    posing.steps ≠ [] ∧ posing.SingleLine ∧
      render (posing.append posing.steps) = render posing ++ "\n" ++ render posing ∧
      Text.occurrences ['\n', '\n'] (render posing).toList = 1 ∧
      ((render posing).toList.splitOn '\n').filter
          (fun line => !line.isEmpty && line.head? != some ' ') =
        ["process :".toList, "decision b::".toList] := by
  have nonempty : posing.steps ≠ [] := by decide
  have single : posing.SingleLine := by decide
  obtain ⟨joined, shaped⟩ := render_layout
  obtain ⟨-, -, gaps, -, titles⟩ := shaped posing nonempty single
  exact ⟨nonempty, single, joined posing posing nonempty nonempty, gaps, titles⟩

end Pseudocode

end Stepwise
