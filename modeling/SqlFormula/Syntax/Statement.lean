import SqlFormula.Syntax.Expr

/-!
# Statements

## Main definitions

- `Statement` — creating and dropping tables, and inserting, updating, deleting and selecting rows
- `Column.isPrimaryKey`, `Column.isUnique`, `Column.affinity` — properties of a column that follow from
  its definition
-/

namespace SqlFormula

/-- The columns of another table that a foreign key refers to; none stands for its primary key. -/
structure ForeignKeyTarget where
  table : String
  columns : List String
  deriving DecidableEq

/-- A constraint on one column. -/
inductive ColumnConstraint where
  | primaryKey (descending autoincrement : Bool)
  | unique
  | check (condition : Expr)
  | collate (collation : Collation)
  | references (target : ForeignKeyTarget)

/-- A constraint on a table. -/
inductive TableConstraint where
  | primaryKey (columns : List String)
  | unique (columns : List String)
  | check (condition : Expr)
  | foreignKey (columns : List String) (target : ForeignKeyTarget)

/-- Something that may have a name. -/
structure Named (α : Type) where
  name : Option String
  kind : α

/-- A column of a table. -/
structure Column where
  name : String
  type : Option TypeName
  nullable : Bool
  default : Option Expr
  constraints : List (Named ColumnConstraint)

namespace Column

/-- Whether the column is the primary key. -/
def isPrimaryKey (c : Column) : Bool :=
  c.constraints.any fun constraint =>
    match constraint.kind with
    | .primaryKey .. => true
    | _ => false

/-- Whether the column is declared unique. -/
def isUnique (c : Column) : Bool :=
  c.constraints.any fun constraint =>
    match constraint.kind with
    | .unique => true
    | _ => false

/-- The storage class; that of blobs if no type is declared. -/
def affinity (c : Column) : Affinity :=
  match c.type with
  | some t => t.affinity
  | none => .blob

end Column

/-- `CREATE TABLE`. -/
structure CreateTable where
  name : String
  columns : List Column
  constraints : List (Named TableConstraint)
  ifNotExists : Bool

/-- `DROP TABLE`. -/
structure DropTable where
  name : String
  ifExists : Bool

/-- What to do with a row that breaks a constraint. -/
inductive ConflictResolution where
  | replace | ignore | abort | fail | rollback
  deriving DecidableEq, Repr

/-- The name of the resolution in a syntax tree. -/
def ConflictResolution.tag : ConflictResolution → String
  | .replace => "Replace"
  | .ignore => "Ignore"
  | .abort => "Abort"
  | .fail => "Fail"
  | .rollback => "Rollback"

/-- `INSERT` and `REPLACE`. -/
structure Insert where
  table : String
  columns : List String
  rows : List (List Expr)
  onConflict : Option ConflictResolution

/-- `UPDATE`. -/
structure Update where
  table : String
  assignments : List (String × Expr)
  condition : Option Expr

/-- `DELETE`. -/
structure Delete where
  table : String
  condition : Option Expr

/-- A column of a result. -/
inductive ResultColumn where
  | all
  | expr (e : Expr) (label : Option String)

/-- A key by which rows are ordered. -/
structure OrderingTerm where
  key : Expr
  descending : Bool

/-- `SELECT`. -/
structure Select where
  distinct : Bool
  columns : List ResultColumn
  table : Option String
  condition : Option Expr
  ordering : List OrderingTerm
  limit : Option Expr
  offset : Option Expr

/-- A statement. -/
inductive Statement where
  | createTable (s : CreateTable)
  | dropTable (s : DropTable)
  | insert (s : Insert)
  | update (s : Update)
  | delete (s : Delete)
  | select (s : Select)

end SqlFormula
