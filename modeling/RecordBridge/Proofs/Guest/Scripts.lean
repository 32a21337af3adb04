import RecordBridge.Proofs.Guest.Answers
import RecordBridge.Proofs.Guest.Loading
import RecordBridge.Proofs.Record.Putting

namespace RecordBridge.Guest

-- Every exception that the file raises of its own accord leaves the process alive.
def Source.Ordinary : Source → Prop
  | .unparsable fault => ∀ file, (fault file).Ordinary
  | .script body => ∀ c args, .raise c args ∈ body → (Raised.make c args true).Ordinary
  | .undecodable _ => True

namespace Program

-- What the statements of a file find when they begin.
def begun (program : Program) (file : Text) : Program :=
  (program.bind mainModule fileVariable (.str file)).withBuiltins

-- The same program but for the variable that names a file.
def withoutFile (program : Program) : Program :=
  { program with main := program.main.filter (·.1 ≠ fileVariable) }

theorem bind_main (program : Program) (name : String) (value : Object) :
    program.bind mainModule name value = { program with main := Named.put name value program.main } := by
  rw [bind, setBindings, if_pos rfl, bindings, if_pos rfl]

-- A file begins with its name, with what is known everywhere, and with all that it would have found.
structure Begins (program : Program) (file : Text) (begun : Program) : Prop where
  file : Named.find? fileVariable begun.main = some (.str file)
  builtins : Named.find? builtinsVariable begun.main =
    (Named.find? builtinsVariable program.main).or (some (.thing "dict"))
  others : ∀ name, name ≠ fileVariable → name ≠ builtinsVariable →
    Named.find? name begun.main = Named.find? name program.main
  rest : begun = { program with main := begun.main }

theorem begins_begun (program : Program) (file : Text) : program.Begins file (program.begun file) := by
  have unlike : builtinsVariable ≠ fileVariable := by decide
  have known := Named.find?_put_other (.str file) program.main unlike
  rw [begun, bind_main, withBuiltins]
  dsimp only
  rw [known]
  split
  · rename_i there
    obtain ⟨value, found⟩ := Option.isSome_iff_exists.mp there
    exact ⟨Named.find?_put_self .., by rw [known, found, Option.some_or],
      fun name other _ => Named.find?_put_other _ _ other, rfl⟩
  · rename_i missing
    rw [bind_main]
    refine ⟨?_, ?_, fun name other another => ?_, rfl⟩
    · exact (Named.find?_put_other _ _ (Ne.symm unlike)).trans (Named.find?_put_self ..)
    · rw [Option.not_isSome_iff_eq_none.mp missing]
      exact Named.find?_put_self ..
    · exact (Named.find?_put_other _ _ another).trans (Named.find?_put_other _ _ other)

end Program

namespace Statement

variable {program left after : Program} {front : List Statement} {statement : Statement} {raised : Raised}

-- Whatever goes wrong in a statement, only one that says so asks for the end of the process.
theorem apply_ordinary {module : String} (raises : statement.apply module program = .error raised)
    (own : ∀ c args, statement = .raise c args → (Raised.make c args true).Ordinary) : raised.Ordinary := by
  cases statement with
  | assign name value => cases raises
  | define name definition => cases raises
  | publish target name =>
    rw [apply] at raises
    split at raises
    · cases raises
    · cases raises
      exact Raised.builtin_ordinary (by decide) _ _ _
  | increment name =>
    rw [apply] at raises
    split at raises
    · cases raises
      exact Raised.builtin_ordinary (by decide) _ _ _
    · split at raises
      · cases raises
      · cases raises
        exact Raised.builtin_ordinary (by decide) _ _ _
  | delete name =>
    rw [apply] at raises
    split at raises
    · cases raises
    · cases raises
      exact Raised.builtin_ordinary (by decide) _ _ _
  | raise c args =>
    cases raises
    exact own c args rfl
  | require library =>
    rw [apply] at raises
    split at raises
    · cases raises
    · cases raises
      exact Raised.builtin_ordinary (by decide) _ _ _
  | searchHere name => cases raises

-- The statements are carried out one after the other, each on what the one before it left.
inductive Performs : List Statement → Program → Program → Prop where
  | nil {program : Program} : Performs [] program program
  | cons {program between left : Program} {statement : Statement} {rest : List Statement}
      (applied : statement.apply mainModule program = .ok between) (performs : Performs rest between left) :
      Performs (statement :: rest) program left

-- A body with a statement that raises on what is left for it is not carried out to its end.
theorem Performs.unfinished (performs : Performs front program left)
    (raises : statement.apply mainModule left = .error raised) (back : List Statement) :
    ¬ Performs (front ++ statement :: back) program after := by
  induction performs with
  | nil =>
    rintro ⟨⟩
    rename_i applied _
    rw [raises] at applied
    cases applied
  | cons applied performs ih =>
    rintro ⟨⟩
    rename_i again rest
    rw [applied] at again
    cases again
    exact ih raises rest

-- A body stops at its first statement that raises, if there is one.
theorem runAll_performs (program : Program) (body : List Statement) :
    (∃ left, runAll mainModule program body = (.ok (), left) ∧ Performs body program left) ∨
      ∃ raised front statement back left, runAll mainModule program body = (.error raised, left) ∧
        body = front ++ statement :: back ∧ Performs front program left ∧
        statement.apply mainModule left = .error raised := by
  induction body generalizing program with
  | nil => exact .inl ⟨program, rfl, .nil⟩
  | cons statement rest ih =>
    rw [runAll]
    cases applied : statement.apply mainModule program with
    | ok between =>
      obtain ⟨left, ran, performs⟩ | ⟨raised, front, last, back, left, ran, rfl, performs, raises⟩ := ih between
      · exact .inl ⟨left, ran, .cons applied performs⟩
      · exact .inr ⟨raised, statement :: front, last, back, left, ran, rfl, .cons applied performs, raises⟩
    | error raised => exact .inr ⟨raised, [], statement, rest, program, rfl, rfl, .nil, applied⟩

end Statement

namespace Program

open Statement (Performs)

variable {program left : Program} {body : List Statement}

-- The variable that names a file is there at most once.
def FileOnce (program : Program) : Prop := (Named.values fileVariable program.main).tail = []

theorem FileOnce.bind (once : program.FileOnce) (name : String) (value : Object) :
    (program.bind mainModule name value).FileOnce := by
  rw [FileOnce, bind_main]
  dsimp only
  by_cases same : fileVariable = name
  · rw [← same, Named.values_put_self, List.tail_cons]
    exact once
  · rw [Named.values_put_other same]
    exact once

theorem FileOnce.erase (once : program.FileOnce) (name : String) :
    (Named.values fileVariable (Named.erase name program.main)).tail = [] := by
  by_cases same : fileVariable = name
  · rw [← same, Named.values_erase_self, once]
    rfl
  · rw [Named.values_erase_other same]
    exact once

-- No statement adds a second variable of a name: a known one is replaced where it stands.
theorem FileOnce.apply {after : Program} {statement : Statement} (once : program.FileOnce)
    (applied : statement.apply mainModule program = .ok after) : after.FileOnce := by
  cases Statement.apply_moves applied with
  | bound name value => exact once.bind name value
  | erased name =>
    rw [setBindings, if_pos rfl, bindings, if_pos rfl]
    exact once.erase name
  | published name value => exact once
  | searched directory name value =>
    unfold Statement.searchFirst
    split <;> exact once.bind name value

theorem FileOnce.performs (once : program.FileOnce) (performs : Performs body program left) :
    left.FileOnce := by
  induction performs with
  | nil => exact once
  | cons applied performs ih => exact ih (once.apply applied)

theorem FileOnce.begun (once : program.FileOnce) (file : Text) : (program.begun file).FileOnce := by
  have named := once.bind fileVariable (.str file)
  rw [Program.begun, withBuiltins]
  split
  · exact named
  · exact named.bind builtinsVariable _

theorem fileOnce_absent (absent : fileVariable ∉ Named.names program.main) : program.FileOnce := by
  rw [FileOnce, Named.values_none.mpr absent]
  rfl

theorem FileOnce.forgetFile (once : program.FileOnce) : program.forgetFile = program.withoutFile := by
  rw [Program.forgetFile, Named.erase_exact once, withoutFile]

theorem withoutFile_absent (absent : fileVariable ∉ Named.names program.main) :
    program.withoutFile = program := by
  rw [withoutFile, Named.filter_fresh absent]

theorem absent_withoutFile (program : Program) : fileVariable ∉ Named.names program.withoutFile.main := by
  simp [withoutFile, Named.names]

-- How a file that runs in `__main__` ends, and what it leaves.
inductive RunsMain (program : Program) (file : Text) : Source → Except Raised Unit → Program → Prop where
  | unparsed {fault : Text → Raised} : RunsMain program file (.unparsable fault) (.error (fault file)) program
  | stopped {front back : List Statement} {statement : Statement} {raised : Raised} {left : Program}
      (performs : Performs front (program.begun file) left)
      (raises : statement.apply mainModule left = .error raised) :
      RunsMain program file (.script (front ++ statement :: back)) (.error raised) left.withoutFile
  | finished {body : List Statement} {left : Program} (performs : Performs body (program.begun file) left) :
      RunsMain program file (.script body) (.ok ()) left.withoutFile

theorem runMain_script (program : Program) (file : Text) (body : List Statement) :
    program.runMain file (.script body) =
      ((Statement.runAll mainModule (program.begun file) body).1,
        (Statement.runAll mainModule (program.begun file) body).2.forgetFile) := rfl

theorem runMain_ended (absent : fileVariable ∉ Named.names program.main) (file : Text) {source : Source}
    (text : ∀ body, source ≠ .undecodable body) :
    program.RunsMain file source (program.runMain file source).1 (program.runMain file source).2 := by
  have once := fileOnce_absent absent
  cases source with
  | undecodable body => exact absurd rfl (text body)
  | unparsable fault =>
    have left : (program.runMain file (.unparsable fault)).2 = program := by
      change (program.bind mainModule fileVariable (.str file)).forgetFile = program
      rw [(once.bind fileVariable _).forgetFile, withoutFile, bind_main]
      dsimp only
      rw [Named.filter_put]
      exact withoutFile_absent absent
    rw [left]
    exact .unparsed
  | script body =>
    rw [runMain_script]
    have begun := once.begun file
    obtain ⟨left, ran, performs⟩ | ⟨raised, front, statement, back, left, ran, rfl, performs, raises⟩ :=
      Statement.runAll_performs (program.begun file) body
    · rw [ran, (begun.performs performs).forgetFile]
      exact .finished performs
    · rw [ran, (begun.performs performs).forgetFile]
      exact .stopped performs raises

section Ended

variable {file : Text} {source : Source} {ended : Except Raised Unit} {after : Program}

theorem RunsMain.absent (absent : fileVariable ∉ Named.names program.main)
    (runs : program.RunsMain file source ended after) : fileVariable ∉ Named.names after.main := by
  cases runs with
  | unparsed => exact absent
  | stopped performs raises => exact absent_withoutFile _
  | finished performs => exact absent_withoutFile _

theorem RunsMain.ordinary {raised : Raised} (own : source.Ordinary)
    (runs : program.RunsMain file source (.error raised) after) : raised.Ordinary := by
  cases runs with
  | unparsed => exact own file
  | @stopped front back statement raised left performs raises =>
    refine Statement.apply_ordinary raises fun c args same => own c args ?_
    rw [← same]
    exact List.mem_append_right front List.mem_cons_self

-- A script that can be carried out to its end is.
theorem RunsMain.finishes {body : List Statement} (runs : program.RunsMain file (.script body) ended after)
    (performs : Performs body (program.begun file) left) : ended = .ok () := by
  cases runs with
  | stopped before raises => exact absurd performs (before.unfinished raises _)
  | finished performs => rfl

end Ended

end Program
end RecordBridge.Guest
