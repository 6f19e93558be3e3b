import SqlFormula.Instant.Write
import SqlFormula.Json
import SqlFormula.Syntax.Statement

/-!
# Syntax trees as JSON

Each node is an object with one member, whose name is the kind of the node and whose value holds its
parts; a node without parts is a text. How floats are shown is left open.

## Main definitions

- `Tree.ofValue`, `Tree.ofExpr`, `Tree.ofStatement`
-/

namespace SqlFormula.Tree

/-- A node with its parts. -/
def node (tag : String) (parts : Json) : Json :=
  .object [(tag, parts)]

/-- A list of texts. -/
def texts (items : List String) : Json :=
  .ofList .text items

section Values

variable (float : Float → Json)

mutual

/-- The tree of a value. -/
def ofValue : Value → Json
  | .null => .text "Null"
  | .boolean b => node "Boolean" (.boolean b)
  | .integer i => node "Integer" (.integer i.toInt)
  | .float x => node "Float" (float x)
  | .text s => node "Text" (.text s)
  | .blob bytes => node "Blob" (.ofList (fun b => .ofNat b.toNat) bytes)
  | .dateTime t => node "DateTime" (.text (t.rfc3339 "Z"))
  | .array items => node "Array" (.array (ofValues items))
  | .object entries => node "Object" (.object (ofEntries entries))

/-- The trees of some values. -/
def ofValues : List Value → List Json
  | [] => []
  | v :: vs => ofValue v :: ofValues vs

/-- The trees of the values of some entries. -/
def ofEntries : List (String × Value) → List (String × Json)
  | [] => []
  | (key, v) :: rest => (key, ofValue v) :: ofEntries rest

end

/-- The tree of a declared type. -/
def ofTypeName (t : TypeName) : Json :=
  .object [("name", .text t.name), ("args", .ofList (fun i => .integer i.toInt) t.sizes),
    ("affinity", .text t.affinity.tag)]

mutual

/-- The tree of an expression. -/
def ofExpr : Expr → Json
  | .literal v => node "Literal" (ofValue float v)
  | .field path => node "Field" (.text path)
  | .unary op operand => node "Unary" (.object [("op", .text op.tag), ("operand", ofExpr operand)])
  | .binary op negate left right =>
    node "Binary" (.object [("op", .text op.tag), ("left", ofExpr left), ("right", ofExpr right),
      ("negate", .boolean negate)])
  | .call function args =>
    node "FunctionCall" (.object [("function", .text function.tag), ("args", .array (ofExprs args))])
  | .caseWhen clauses otherwise =>
    node "Case" (.object [("operand", .null), ("when_clauses", .array (ofClauses clauses)),
      ("else_clause", ofExpr otherwise)])
  | .caseOf operand clauses otherwise =>
    node "Case" (.object [("operand", ofExpr operand), ("when_clauses", .array (ofClauses clauses)),
      ("else_clause", ofExpr otherwise)])
  | .between negate operand low high =>
    node "Between" (.object [("expr", ofExpr operand), ("low", ofExpr low), ("high", ofExpr high),
      ("negate", .boolean negate)])
  | .among negate operand candidates =>
    node "In" (.object [("expr", ofExpr operand), ("list", .array (ofExprs candidates)),
      ("negate", .boolean negate)])
  | .cast operand target =>
    node "Cast" (.object [("expr", ofExpr operand), ("target", ofTypeName target)])
  | .collate operand collation =>
    node "Collate" (.object [("expr", ofExpr operand), ("collation", .text collation.tag)])

/-- The trees of some expressions. -/
def ofExprs : List Expr → List Json
  | [] => []
  | e :: es => ofExpr e :: ofExprs es

/-- The trees of the clauses of a `CASE`. -/
def ofClauses : List (Expr × Expr) → List Json
  | [] => []
  | (condition, result) :: rest => .array [ofExpr condition, ofExpr result] :: ofClauses rest

end

/-- The tree of an expression that may be missing. -/
def ofExpr? (e : Option Expr) : Json :=
  .ofOption (e.map (ofExpr float))

/-- The tree of what a foreign key refers to. -/
def ofTarget (t : ForeignKeyTarget) : Json :=
  .object [("table", .text t.table), ("columns", texts t.columns)]

/-- The tree of something that may have a name. -/
def ofNamed {α : Type} (kind : α → Json) (n : Named α) : Json :=
  .object [("name", .ofText? n.name), ("kind", kind n.kind)]

/-- The tree of a constraint on a column. -/
def ofColumnConstraint : ColumnConstraint → Json
  | .primaryKey descending autoincrement =>
    node "PrimaryKey" (.object [("descending", .boolean descending),
      ("autoincrement", .boolean autoincrement)])
  | .unique => .text "Unique"
  | .check condition => node "Check" (ofExpr float condition)
  | .collate collation => node "Collate" (.text collation.tag)
  | .references target => node "References" (ofTarget target)

/-- The tree of a constraint on a table. -/
def ofTableConstraint : TableConstraint → Json
  | .primaryKey columns => node "PrimaryKey" (texts columns)
  | .unique columns => node "Unique" (texts columns)
  | .check condition => node "Check" (ofExpr float condition)
  | .foreignKey columns target =>
    node "ForeignKey" (.object [("columns", texts columns), ("target", ofTarget target)])

/-- The tree of a column. -/
def ofColumn (c : Column) : Json :=
  .object [("name", .text c.name), ("type_name", .ofOption (c.type.map ofTypeName)),
    ("nullable", .boolean c.nullable), ("default", ofExpr? float c.default),
    ("constraints", .ofList (ofNamed (ofColumnConstraint float)) c.constraints)]

/-- The tree of a result column. -/
def ofResultColumn : ResultColumn → Json
  | .all => .text "All"
  | .expr e label =>
    node "Expr" (.object [("expr", ofExpr float e), ("alias", .ofText? label)])

/-- The tree of a key of an ordering. -/
def ofOrderingTerm (t : OrderingTerm) : Json :=
  .object [("expr", ofExpr float t.key), ("descending", .boolean t.descending)]

/-- The tree of an assignment to a column. -/
def ofAssignment (a : String × Expr) : Json :=
  .array [.text a.1, ofExpr float a.2]

/-- The tree of a statement. -/
def ofStatement : Statement → Json
  | .createTable s =>
    node "CreateTable" (.object [("name", .text s.name), ("columns", .ofList (ofColumn float) s.columns),
      ("constraints", .ofList (ofNamed (ofTableConstraint float)) s.constraints),
      ("if_not_exists", .boolean s.ifNotExists)])
  | .dropTable s =>
    node "DropTable" (.object [("name", .text s.name), ("if_exists", .boolean s.ifExists)])
  | .insert s =>
    node "Insert" (.object [("table", .text s.table), ("columns", texts s.columns),
      ("values", .ofList (.ofList (ofExpr float)) s.rows),
      ("on_conflict", .ofText? (s.onConflict.map ConflictResolution.tag))])
  | .update s =>
    node "Update" (.object [("table", .text s.table),
      ("assignments", .ofList (ofAssignment float) s.assignments),
      ("predicate", ofExpr? float s.condition)])
  | .delete s =>
    node "Delete" (.object [("table", .text s.table), ("predicate", ofExpr? float s.condition)])
  | .select s =>
    node "Select" (.object [("distinct", .boolean s.distinct),
      ("columns", .ofList (ofResultColumn float) s.columns), ("table", .ofText? s.table),
      ("predicate", ofExpr? float s.condition), ("ordering", .ofList (ofOrderingTerm float) s.ordering),
      ("limit", ofExpr? float s.limit), ("offset", ofExpr? float s.offset)])

end Values

end SqlFormula.Tree
