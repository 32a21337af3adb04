import RecordBridge.Guest.Import

namespace RecordBridge.Guest

namespace Program

@[simp] theorem setBindings_seen (program : Program) (module : String) (bindings : Namespace) :
    (program.setBindings module bindings).seen = program.seen := by
  unfold setBindings
  split <;> rfl

@[simp] theorem bind_seen (program : Program) (module name : String) (value : Object) :
    (program.bind module name value).seen = program.seen := setBindings_seen _ _ _

theorem withBuiltins_seen (program : Program) : program.withBuiltins.seen = program.seen := by
  unfold withBuiltins
  split
  · rfl
  · exact program.bind_seen _ _ _

end Program

namespace Statement

-- All that a statement that does not raise can do to the program.
inductive Moves (module : String) (program : Program) : Program → Prop where
  | bound (name : String) (value : Object) : Moves module program (program.bind module name value)
  | erased (name : String) :
      Moves module program (program.setBindings module (Named.erase name (program.bindings module)))
  | published (name : String) (value : Object) :
      Moves module program { program with builtins := Named.put name value program.builtins }
  | searched (directory : Bytes) (name : String) (value : Object) :
      Moves module program (searchFirst directory (program.bind module name value))

theorem apply_moves {module : String} {program after : Program} {statement : Statement}
    (applied : statement.apply module program = .ok after) : Moves module program after := by
  cases statement with
  | assign name value =>
    cases applied
    exact .bound name value
  | define name definition =>
    cases applied
    exact .bound name _
  | publish target name =>
    rw [apply] at applied
    split at applied
    · cases applied
      exact .published target _
    · cases applied
  | increment name =>
    rw [apply] at applied
    split at applied
    · cases applied
    · split at applied
      · cases applied
        exact .bound name _
      · cases applied
  | delete name =>
    rw [apply] at applied
    split at applied
    · cases applied
      exact .erased name
    · cases applied
  | raise c args => cases applied
  | require library =>
    rw [apply] at applied
    split at applied
    · cases applied
      exact .bound library _
    · cases applied
  | searchHere name =>
    cases applied
    exact .searched _ name _

theorem apply_seen {module : String} {program after : Program} {statement : Statement}
    (applied : statement.apply module program = .ok after) : after.seen = program.seen := by
  cases apply_moves applied with
  | bound name value => exact program.bind_seen _ _ _
  | erased name => exact program.setBindings_seen _ _
  | published name value => rfl
  | searched directory name value =>
    unfold searchFirst
    split <;> exact program.bind_seen _ _ _

theorem runAll_seen (module : String) (program : Program) (body : List Statement) :
    (runAll module program body).2.seen = program.seen := by
  induction body generalizing program with
  | nil => rfl
  | cons statement rest ih =>
    rw [runAll]
    cases applied : statement.apply module program with
    | ok after => exact (ih after).trans (apply_seen applied)
    | error e => rfl

end Statement

theorem Source.run_seen (module : String) (file : Text) (program : Program) (source : Source) :
    (source.run module file program).2.seen = program.seen := by
  cases source with
  | undecodable body => exact Statement.runAll_seen module program body
  | unparsable fault => rfl
  | script body => exact Statement.runAll_seen module program body

theorem Program.runMain_seen (program : Program) (file : Text) (source : Source) :
    (program.runMain file source).2.seen = program.seen := by
  have named := program.bind_seen mainModule fileVariable (.str file)
  refine (Source.run_seen mainModule file _ source).trans ?_
  split
  · exact (withBuiltins_seen _).trans named
  · exact named

namespace Import

theorem settle_seen (name : String) (program : Program) : (settle name program).seen = program.seen := by
  unfold settle
  split
  · rfl
  · exact program.bind_seen _ _ _

theorem runFound_seen (name : String) (found : Found) (program : Program) :
    (runFound name found program).2.seen = program.seen := by
  have ran := Source.run_seen name (.ofString (Utf8.lossy found.path))
    (program.setBindings name (blank name found)) found.source
  rw [program.setBindings_seen] at ran
  unfold runFound
  dsimp only
  split
  · rename_i done ended
    rw [ended] at ran
    exact (settle_seen name done).trans ran
  · rename_i e done ended
    rw [ended] at ran
    exact ran

theorem loadStage_seen (site : Site) (name : String) (program : Program) :
    (loadStage site name program).2.seen = program.seen := by
  unfold loadStage
  split
  · rfl
  · dsimp only
    split
    · rfl
    · split
      · exact program.setBindings_seen _ _
      · exact runFound_seen name _ program
      · rfl

theorem loadAll_seen (site : Site) (names : List String) (program : Program) :
    (loadAll site names program).2.seen = program.seen := by
  induction names generalizing program with
  | nil => rfl
  | cons name rest ih =>
    have stage := loadStage_seen site name program
    rw [loadAll]
    split
    · rename_i after loaded
      rw [loaded] at stage
      exact (ih after).trans stage
    · rename_i e after loaded
      rw [loaded] at stage
      exact stage

end Import

theorem Program.load_seen (site : Site) (name : String) (program : Program) :
    (Program.load site name program).2.seen = program.seen := by
  unfold load
  split
  · rfl
  · have loaded := Import.loadAll_seen site ((Import.stages name).filter (· ≠ "")) program
    split <;> rename_i ran <;> rw [ran] at loaded <;> exact loaded

theorem Inherited.found_seen (module name : String) (interpreter : Interpreter) :
    (Inherited.found module name interpreter).2.program.seen = interpreter.program.seen := by
  unfold found
  dsimp only
  split
  · rfl
  · split
    · exact interpreter.program.bind_seen _ _ _
    · rfl

theorem Operator.member_seen (module name : String) (interpreter : Interpreter) :
    (Operator.member module name interpreter).2.program.seen = interpreter.program.seen := by
  have found := Inherited.found_seen module name interpreter
  unfold member
  split
  · rename_i ran
    rw [ran] at found
    exact found
  · rename_i ran
    rw [ran] at found
    split <;> exact found

theorem Interpreter.lookup_seen (module name : String) (interpreter : Interpreter) :
    (Interpreter.lookup module name interpreter).2.program.seen = interpreter.program.seen := by
  have found := Operator.member_seen module name interpreter
  unfold lookup
  split <;> rename_i ran <;> rw [ran] at found <;> exact found

end RecordBridge.Guest
