/-
Module: Stepwise.Proofs.CommandLine.Printed
Purpose: What a call prints when it ends, be it a verdict or a report on a
  failure.
Main exports: Json.Unescaped, Json.nameLines, Json.write_ofStrings, CommandLine.Verdict.lines,
  CommandLine.Verdict.indented_toJson, CommandLine.Failure.report_invalid,
  CommandLine.Failure.report_unbounded, CommandLine.conclude_of_execute,
  CommandLine.conclude_of_failure
-/
import Stepwise.CommandLine.Outcome
import Stepwise.Proofs.Step.Name

namespace Stepwise

/-!
The names in a verdict are positional.  None of their characters is escaped, so
each name stands between its quotes as it is, and none of them is a line feed, so
a cause that mentions only such names takes one line of a report.
-/

namespace Json

/-- A text that stands between quotes as it is. -/
def Unescaped (text : String) : Prop :=
  ∀ c ∈ text.toList, escape c = [c]

theorem quoted_of_unescaped {text : String} (unescaped : Unescaped text) :
    quoted text = '"' :: text.toList ++ ['"'] := by
  rw [quoted, List.flatMap_congr unescaped, List.flatMap_singleton']

theorem unescaped_nameOf (ordinal : Nat) : Unescaped (Step.nameOf ordinal) := by
  intro c held
  rcases Step.mem_nameOf held with inside | digit
  · have every : ∀ letter ∈ Step.stem, escape letter = [letter] := by
      simp [Step.stem, escape]
    exact every c inside
  · have every : ∀ value : Fin 10,
        escape (Nat.digitChar value) = [Nat.digitChar value] := by decide
    obtain ⟨value, rfl⟩ := Text.exists_digitChar_of_isDigit digit
    exact every value

/-- Names as an array in the indented form, each on a line of its own.  The
margin is that of the line on which the array starts. -/
def nameLines (margin : String) : List String → String
  | [] => "[]"
  | names =>
      "[\n" ++ ",\n".intercalate (names.map fun name => margin ++ "  \"" ++ name ++ "\"") ++
        "\n" ++ margin ++ "]"

variable {margin : String} {depth : Nat}

theorem lineBreak_eq (indent : margin.toList = List.replicate (2 * depth) ' ') :
    Spacing.indented.lineBreak depth = '\n' :: margin.toList := by
  rw [indent]
  rfl

theorem lineBreak_succ (indent : margin.toList = List.replicate (2 * depth) ' ') :
    Spacing.indented.lineBreak (depth + 1) = '\n' :: (margin ++ "  ").toList := by
  have deeper : (margin ++ "  ").toList = List.replicate (2 * (depth + 1)) ' ' := by
    rw [String.toList_append, indent, Nat.mul_succ, ← List.replicate_append_replicate]
    rfl
  exact lineBreak_eq deeper

/-- One of the lines between the brackets. -/
theorem toList_line (margin : String) {name : String} (unescaped : Unescaped name) :
    (margin ++ "  \"" ++ name ++ "\"").toList = (margin ++ "  ").toList ++ quoted name := by
  simp [quoted_of_unescaped unescaped]

/-- Unescaped texts in an array are written as lines with commas between them. -/
theorem writeItems_texts (indent : margin.toList = List.replicate (2 * depth) ' ') (name : String)
    (names : List String) (unescaped : ∀ other ∈ name :: names, Unescaped other) :
    (margin ++ "  ").toList ++ quoted name ++
        writeItems .indented (depth + 1) (names.map Json.str) =
      (",\n".intercalate
        ((name :: names).map fun name => margin ++ "  \"" ++ name ++ "\"")).toList := by
  rw [String.toList_intercalate]
  induction names generalizing name with
  | nil =>
      have here : Unescaped name := unescaped name (List.mem_singleton_self name)
      simp only [List.map_cons, List.map_nil, List.intercalate_singleton, writeItems,
        toList_line margin here, List.append_nil]
  | cons next names ih =>
      obtain ⟨here, others⟩ := List.forall_mem_cons.mp unescaped
      have further := ih next others
      simp only [List.map_cons] at further ⊢
      rw [List.intercalate_cons_cons, ← further, toList_line margin here, writeItems,
        lineBreak_succ indent]
      simp [write]

/-- Unescaped texts are written as the lines of their array. -/
theorem write_ofStrings (indent : margin.toList = List.replicate (2 * depth) ' ')
    {names : List String} (unescaped : ∀ name ∈ names, Unescaped name) :
    write .indented depth (.ofStrings names) = (nameLines margin names).toList := by
  cases names with
  | nil => simp [ofStrings, write, nameLines]
  | cons name names =>
      have lines := writeItems_texts indent name names unescaped
      simp only [ofStrings, List.map_cons, write, nameLines, String.toList_append] at lines ⊢
      rw [← lines, lineBreak_eq indent, lineBreak_succ indent]
      simp

end Json

namespace CommandLine

/-! ### Verdicts -/

/-- A verdict as it is printed. -/
def Verdict.lines (verdict : Verdict) : String :=
  "\x7b\n  \"reachable\": " ++ Json.nameLines "  " verdict.reachable ++
    ",\n  \"report\": \x7b\n    \"halt\": \"" ++ verdict.report.halt.keyword ++
    "\",\n    \"reward\": " ++ Json.numberLayout.write verdict.report.reward ++
    ",\n    \"visited\": " ++ Json.nameLines "    " verdict.report.visited ++
    "\n  \x7d,\n  \"steps\": " ++ verdict.length.repr ++ "\n\x7d\n"

theorem quoted_keyword (halt : Halt) :
    Json.quoted halt.keyword = '"' :: halt.keyword.toList ++ ['"'] := by
  cases halt <;> decide

/-- The indented form of a verdict whose names need no escapes, line by
line. -/
theorem Verdict.indented_toJson {verdict : Verdict}
    (listed : ∀ name ∈ verdict.reachable, Json.Unescaped name)
    (visited : ∀ name ∈ verdict.report.visited, Json.Unescaped name) :
    verdict.toJson.indented ++ "\n" = verdict.lines := by
  have two : "  ".toList = List.replicate (2 * 1) ' ' := by decide
  have four : "    ".toList = List.replicate (2 * 2) ' ' := by decide
  have reachable : Json.write .indented 1 (.ofStrings verdict.reachable) =
      (Json.nameLines "  " verdict.reachable).toList := Json.write_ofStrings two listed
  have names : Json.write .indented 2 (.ofStrings verdict.report.visited) =
      (Json.nameLines "    " verdict.report.visited).toList := Json.write_ofStrings four visited
  have steps : (verdict.length : Int).repr = verdict.length.repr := rfl
  apply String.toList_inj.mp
  simp only [Json.indented, toJson, Halt.toJson, Json.write, Json.writeMembers, reachable, names,
    quoted_keyword, Json.Number.write, steps]
  unfold lines
  simp [Json.quoted, Json.escape, Json.Spacing.indented]

/-! ### Reports on failures -/

namespace Failure

/-- A text of one line is not changed by indenting the lines behind it. -/
theorem indentLines_of_line {text : String} (line : '\n' ∉ text.toList) :
    indentLines text = text := by
  have kept : ∀ c ∈ text.toList, (if c = '\n' then "\n    ".toList else [c]) = [c] := by
    intro c held
    rw [if_neg]
    rintro rfl
    exact line held
  rw [indentLines, List.flatMap_congr kept, List.flatMap_singleton', String.ofList_toList]

theorem report_invalid (fault : WorkflowFault) :
    (invalid fault).report = "Error: validation failed: " ++ fault.message := by
  change "Error: " ++ ("validation failed: " ++ fault.message) ++ "" = _
  rw [String.append_empty, ← String.append_assoc]
  rfl

theorem newline_not_mem_message (limit : Nat) {next : String} (line : '\n' ∉ next.toList) :
    '\n' ∉ (WorkflowFault.unboundedTraversal limit next).message.toList := by
  have digits : '\n' ∉ Nat.toDigits 10 limit :=
    fun held => absurd (Text.isDigit_of_mem_toDigits held) (by decide)
  unfold WorkflowFault.message
  simp [digits, line]

/-- The report on a walk that comes back says where it was given up. -/
theorem report_unbounded (limit : Nat) {next : String} (line : '\n' ∉ next.toList) :
    (unevaluated (.unboundedTraversal limit next)).report =
      "Error: evaluation failed\n\nCaused by:\n    traversal exceeded " ++ limit.repr ++
        " steps at '" ++ next ++ "'; workflow likely contains a cycle" := by
  change "Error: " ++ "evaluation failed" ++ ("\n\nCaused by:\n    " ++
    indentLines (WorkflowFault.unboundedTraversal limit next).message) = _
  rw [indentLines_of_line (newline_not_mem_message limit line)]
  unfold WorkflowFault.message
  simp only [← String.append_assoc]
  rfl

end Failure

/-! ### Ends of calls -/

variable {invocation : Invocation} {text printed : String} {failure : Failure}

theorem decodeText_toUTF8 (text : String) : decodeText text.toUTF8 = .ok text := by
  rw [decodeText, String.fromUTF8?, String.toUTF8_eq_toByteArray, dif_pos text.isValidUTF8]
  rfl

/-- An invocation that has read the bytes of a text prints what it makes of the
text. -/
theorem conclude_of_execute (executed : execute invocation text = .ok printed) :
    invocation.conclude (.ok text.toUTF8) = .printed printed := by
  simp only [Invocation.conclude, bind, Except.bind, decodeText_toUTF8, Except.mapError, executed]

/-- If it makes nothing of the text, it reports why. -/
theorem conclude_of_failure (failed : execute invocation text = .error failure) :
    invocation.conclude (.ok text.toUTF8) = .failed failure.report := by
  simp only [Invocation.conclude, bind, Except.bind, decodeText_toUTF8, Except.mapError, failed]

end CommandLine

end Stepwise
