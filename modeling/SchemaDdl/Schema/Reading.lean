import SchemaDdl.Schema.Basic
import SchemaDdl.Document.Source

/-!
# Schemas out of documents

A schema is a map. The pair `_options` holds its options and every other pair
is a table; in a table the keys `options`, `m:1`, `1:m`, `1:1` and `m:m` are
reserved and every other pair is a field. These two maps are read as free maps
with the reserved keys taken out; everything below them has named members.

The options are read through the questions of their source. A table is first
typed as a whole, by the rules of the document it stands in, and then read
strictly; so are lengths and default values wherever they stand, since their
kind depends on the kind of value that was written.
-/

namespace SchemaDdl

section

variable {τ : Type} [Source τ] {α : Type}

/-! ## Members -/

def optionalMember (read : τ → Except ReadError α) : Option τ → Except ReadError (Option α)
  | none => .ok none
  | some t => if Source.isUnset t then .ok none else some <$> read t

def requiredMember (name : String) (read : τ → Except ReadError α) : Option τ → Except ReadError α
  | none => .error (.missing name)
  | some t => read t

def memberOr (otherwise : α) (read : τ → Except ReadError α) : Option τ → Except ReadError α
  | none => .ok otherwise
  | some t => read t

def readMap (read : τ → Except ReadError α) (t : τ) : Except ReadError (OrderedMap α) := do
  let es ← Source.entries t
  let es ← es.mapM fun e => do return (e.1, ← read e.2)
  return .ofList es

/-! ## Values of several kinds -/

def sizeOfInt (n : Int) : Except ReadError UInt32 :=
  if 0 ≤ n ∧ n < Length.sizeLimit then .ok (.ofNat n.toNat) else .error .outOfRange

def lengthOfNode : Node → Except ReadError Length
  | .int n => .size <$> sizeOfInt n
  | .list [.int p, .int s] => do return .precision (← sizeOfInt p) (← sizeOfInt s)
  | .text s => .ok (.modifier s)
  | _ => .error (.unexpected "a length")

/-- An integer past 64 bits with sign is kept as the nearest double. -/
def defaultOfNode : Node → Except ReadError DefaultValue
  | .bool b => .ok (.bool b)
  | .int n =>
    if Int64.minValue.toInt ≤ n ∧ n ≤ Int64.maxValue.toInt then .ok (.integer (.ofInt n))
    else .ok (.float (.ofInt n))
  | .float d => .ok (.float d)
  | .text s => .ok (.text s)
  | _ => .error (.unexpected "a default value")

def readLength (t : τ) : Except ReadError Length := Source.node t >>= lengthOfNode

def readDefault (t : τ) : Except ReadError DefaultValue := Source.node t >>= defaultOfNode

/-! ## Fields, relations, constraints -/

def Field.memberNames : List String :=
  ["type", "length", "null", "unsigned", "default", "autoinc", "unique"]

def Field.read (t : τ) : Except ReadError Field := do
  match ← Source.members Field.memberNames t with
  | [typeName, length, null, unsigned, default, autoinc, unique] => return {
      typeName := ← requiredMember "type" Source.text typeName
      length := ← optionalMember readLength length
      nullable := ← optionalMember Source.flag null
      unsigned := ← optionalMember Source.flag unsigned
      defaultValue := ← optionalMember readDefault default
      autoIncrement := ← optionalMember Source.flag autoinc
      unique := ← optionalMember Source.flag unique }
  | _ => throw .malformed

def Cascade.read (t : τ) : Except ReadError Cascade :=
  if Source.isUnset t then .ok .setNull
  else do return if ← Source.flag t then .cascade else .restrict

def Relation.memberNames : List String := ["name", "unique", "default", "cascade", "table"]

def Relation.read (t : τ) : Except ReadError Relation := do
  match ← Source.members Relation.memberNames t with
  | [name, unique, default, cascade, table] => return {
      column := ← optionalMember Source.text name
      unique := ← optionalMember Source.flag unique
      defaultValue := ← optionalMember readDefault default
      cascade := ← memberOr .restrict Cascade.read cascade
      joinTable := ← optionalMember Source.text table }
  | _ => throw .malformed

def ReferentialAction.read (t : τ) : Except ReadError ReferentialAction := do
  match ReferentialAction.ofText? (← Source.choice "ReferentialAction" t) with
  | some a => return a
  | none => throw (.unexpected "a referential action")

def Constraint.memberNames : List String :=
  ["name", "fields", "reference_table", "reference_fields", "on_delete", "on_update"]

def Constraint.read (t : τ) : Except ReadError Constraint := do
  match ← Source.members Constraint.memberNames t with
  | [name, fields, table, referenced, onDelete, onUpdate] => return {
      name := ← requiredMember "name" Source.text name
      column := ← requiredMember "fields" Source.text fields
      referencedTable := ← requiredMember "reference_table" Source.text table
      referencedColumn := ← requiredMember "reference_fields" Source.text referenced
      onDelete := ← requiredMember "on_delete" ReferentialAction.read onDelete
      onUpdate := ← requiredMember "on_update" ReferentialAction.read onUpdate }
  | _ => throw .malformed

/-! ## Options -/

def Settings.memberNames : List String :=
  ["timestamps", "constraints", "charset", "collate", "engine"]

def Settings.read (t : τ) : Except ReadError Settings := do
  let standard : Settings := {}
  match ← Source.members Settings.memberNames t with
  | [timestamps, constraints, charset, collate, engine] => return {
      timestamps := ← memberOr standard.timestamps Source.flag timestamps
      constraints := ← memberOr standard.constraints Source.flag constraints
      charset := ← memberOr standard.charset Source.text charset
      collate := ← memberOr standard.collate Source.text collate
      engine := ← memberOr standard.engine Source.text engine }
  | _ => throw .malformed

def KeyIndex.read (t : τ) : Except ReadError KeyIndex := readMap (readMap Field.read) t

def ConstraintIndex.read (t : τ) : Except ReadError ConstraintIndex :=
  readMap (readMap Constraint.read) t

def SchemaOptions.memberNames : List String := Settings.memberNames ++ ["pk", "fkConstraints"]

def SchemaOptions.read (t : τ) : Except ReadError SchemaOptions := do
  match ← Source.members SchemaOptions.memberNames t with
  | [timestamps, constraints, charset, collate, engine, pk, fkConstraints] => return {
      settings := {
        timestamps := ← optionalMember Source.flag timestamps
        constraints := ← optionalMember Source.flag constraints
        charset := ← optionalMember Source.text charset
        collate := ← optionalMember Source.text collate
        engine := ← optionalMember Source.text engine }
      primaryKeys := ← memberOr {} KeyIndex.read pk
      constraints := ← memberOr {} ConstraintIndex.read fkConstraints }
  | _ => throw .malformed

end

/-! ## Tables and schemas -/

def textList : Node → Except ReadError (List String)
  | .list items => items.mapM Node.strictText
  | _ => .error (.unexpected "a list of texts")

def TableOptions.memberNames : List String := "pk" :: Settings.memberNames ++ ["m:m"]

def TableOptions.read (n : Node) : Except ReadError TableOptions := do
  match ← Source.members TableOptions.memberNames n with
  | [pk, timestamps, constraints, charset, collate, engine, joinTable] => return {
      primaryKey := ← optionalMember textList pk
      settings := {
        timestamps := ← optionalMember Source.flag timestamps
        constraints := ← optionalMember Source.flag constraints
        charset := ← optionalMember Source.text charset
        collate := ← optionalMember Source.text collate
        engine := ← optionalMember Source.text engine }
      joinTable := ← optionalMember Source.flag joinTable }
  | _ => throw .malformed

/-- The keys of a table that name no field. -/
def Table.reservedKeys : List String := ["options", "m:1", "1:m", "1:1", "m:m"]

def Table.read (n : Node) : Except ReadError Table := do
  let es ← Source.entries n
  let reserved (name : String) : Except ReadError (Option Node) :=
    Source.uniqueValue name [name] es
  let options ← memberOr {} TableOptions.read (← reserved "options")
  let manyToOne ← memberOr [] textList (← reserved "m:1")
  let oneToMany ← memberOr {} (readMap Relation.read) (← reserved "1:m")
  let oneToOne ← memberOr {} (readMap Relation.read) (← reserved "1:1")
  let manyToMany ← memberOr {} (readMap Relation.read) (← reserved "m:m")
  let fields ← (es.filter fun e => !Table.reservedKeys.contains e.1).mapM fun e => do
    return (e.1, ← Field.read e.2)
  return { options, manyToOne, oneToMany, oneToOne, manyToMany, fields := .ofList fields }

/-- The key of a schema that names no table. -/
def Schema.optionsKey : String := "_options"

def Schema.read {τ : Type} [Source τ] (t : τ) : Except ReadError Schema := do
  let es ← Source.entries t
  let options ← memberOr {} SchemaOptions.read
    (← Source.uniqueValue Schema.optionsKey [Schema.optionsKey] es)
  let tables ← (es.filter fun e => e.1 ≠ Schema.optionsKey).mapM fun e => do
    return (e.1, ← Table.read (← Source.node e.2))
  return { options, tables := .ofList tables }

end SchemaDdl
