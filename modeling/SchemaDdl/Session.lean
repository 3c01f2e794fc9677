import SchemaDdl.Artifact.Store
import SchemaDdl.Compile.Compiler
import SchemaDdl.Database.Gateway

/-!
# Sessions

A session holds a schema, the script once there is one, and what is needed to
do something with them: a compiler, a store and a gateway. The schema is
compiled at the first occasion, with the prefix of the namespace that the
gateway is on then, and stays as it is from there on.

An import executes the statements of the script one after another and ends at
the first that fails; what was executed stays. If the target is not the
namespace that the gateway is on, the gateway is switched before the first
statement and back after the last, whatever became of them. A session reports by
yes or no, and says why in its journal.
-/

namespace SchemaDdl

structure Session (γ : Type) where
  schema : Schema
  script : List Sql.Statement := []
  compiler : Compiler
  store : Store
  gateway : γ
  journal : List Note := []

namespace Session

variable {γ : Type}

def statements (s : Session γ) : List String := s.script.map Sql.Statement.text

/-- The statements that are sent to the database. -/
def executable (s : Session γ) : List String := s.statements.filter fun t => !Sql.isComment t

def isLoaded (s : Session γ) : Bool := s.schema.isCompiled

def report (s : Session γ) (notes : List Note) : Session γ := { s with journal := s.journal ++ notes }

variable [Gateway γ]

/-- Compiles the schema unless there is a script already. -/
def load (s : Session γ) : Except SchemaError Unit × Session γ :=
  if !s.script.isEmpty then (.ok (), s)
  else
    let compiler := s.compiler.withPrefix (Gateway.tablePrefix s.gateway)
    match compiler.compile s.schema with
    | .error e => (.error e, { s with compiler })
    | .ok c =>
      (.ok (), { s with schema := c.schema, script := c.script, compiler := c.compiler }.report c.notes)

/-- The namespace that is meant when none is named. -/
def target (s : Session γ) (space : Option String) : String :=
  space.getD (Gateway.current s.gateway)

/-! ## Executing the script -/

/-- What came of executing statements up to the first failure. -/
structure Execution (γ : Type) where
  gateway : γ
  applied : Nat := 0
  failure : Option DatabaseError := none
  notes : List Note := []

def executeFrom (done : Execution γ) : List String → Execution γ
  | [] => done
  | statement :: r =>
    let reply := Gateway.execute done.gateway statement
    let done := { done with gateway := reply.gateway, notes := done.notes ++ reply.notes }
    match reply.result with
    | .error e => { done with failure := some e }
    | .ok () => executeFrom { done with applied := done.applied + 1 } r

/-- Switches the gateway; a failure is reported by `note`. -/
def switchTo (s : Session γ) (space : String) (note : DatabaseError → Note) : Bool × Session γ :=
  let reply := Gateway.switch s.gateway space
  let s := { s with gateway := reply.gateway }.report reply.notes
  match reply.result with
  | .ok () => (true, s)
  | .error e => (false, s.report [note e])

/-- Switches to a namespace unless the gateway is on it. -/
def enter (s : Session γ) (space : String) : Bool × Session γ :=
  if Gateway.current s.gateway = space then (true, s) else s.switchTo space (.switchFailed space)

def executeScript (s : Session γ) (space : String) : Execution γ × Session γ :=
  let done := executeFrom { gateway := s.gateway } s.executable
  let s := { s with gateway := done.gateway }.report done.notes
  match done.failure with
  | none => (done, s)
  | some e => (done, s.report [.importAborted space done.applied e])

/-- Switches from a namespace back to the one that was left for it. -/
def leave (s : Session γ) (space home : String) : Bool × Session γ :=
  if home = space then (true, s) else s.switchTo home (.restoreFailed home)

/-! ## Storing, importing and exporting -/

variable {m : Type → Type} [Monad m] [FileAccess m]

/-- Compiles the schema and writes the artifact of a namespace. -/
def build (s : Session γ) (space : Option String) (backup : Bool) : m (Bool × Session γ) := do
  match s.load with
  | (.error e, s) => return (false, s.report [.compileFailed e])
  | (.ok (), s) =>
    let space := s.target space
    let (result, notes) ← s.store.save s.schema space backup
    match result with
    | .ok () =>
      return (true, s.report (notes ++ [.built space (s.store.artifactPath space) backup]))
    | .error e => return (false, s.report (notes ++ [.buildFailed space e.message]))

/-- Executes the script in a namespace, and writes its artifact before and, with a backup, after. -/
def importTo (s : Session γ) (space : Option String) : m (Bool × Session γ) := do
  let space := s.target space
  let (_, s) ← s.build (some space) false
  if s.script.isEmpty then return (false, s)
  let home := Gateway.current s.gateway
  match s.enter space with
  | (false, s) => return (false, s)
  | (true, s) =>
    let (done, s) := s.executeScript space
    let (returned, s) := s.leave space home
    let (_, s) ← s.build (some space) true
    if done.failure.isNone && returned then
      return (true, s.report [.imported space done.applied])
    else return (false, s)

/-- Writes the artifact and the dump of a namespace; the dump is dated in seconds. -/
def exportTo (s : Session γ) (space : Option String) (seconds : Int) : m (Bool × Session γ) := do
  let space := s.target space
  let (_, s) ← s.build (some space) false
  if s.script.isEmpty then return (false, s)
  let (result, notes) ← s.store.writeDump space s.statements seconds
  match result with
  | .ok () => return (true, s.report (notes ++ [.exported space (s.store.dumpPath space)]))
  | .error e => return (false, s.report (notes ++ [.exportFailed space e.message]))

/-- A session on the artifact of a namespace. -/
def ofArtifact (space : String) (compiler : Compiler) (store : Store) (gateway : γ) :
    m (Except ArtifactError (Session γ)) := do
  match ← store.load space with
  | .error e => return .error e
  | .ok schema =>
    return .ok
      { schema, compiler, store, gateway
        journal := [.loadedArtifact space schema.tables.size] }

end Session

end SchemaDdl
