import DocumentSearch.Value.Basic

/-!
# Scripts

A script is a list of steps, each a call on a named object. Arguments are expressions, which may
build queries, clauses, aggregations and records on the way.
-/
namespace DocumentSearch.Session

mutual

inductive Expr where
  | value (v : Value)
  | list (items : List Expr)
  | tuple (items : List Expr)
  | map (entries : List (Expr × Expr))
  | point (lat lon : Expr)
  | bounds (topLeft bottomRight : Expr)
  | unit (text : Expr)
  /-- A new builder on which calls are made in order. -/
  | query (calls : List CallExpr)
  | clause (kind : ClauseKind) (fields : List (String × Expr))
  | order (fields : List (String × Expr))
  | aggregation (fields : List (String × Expr))
  /-- An aggregation kept apart from any builder, with the calls that fill the builder inside it. -/
  | preset (key type args : Expr) (calls : List CallExpr)
  /-- An object by its name. -/
  | object (name : String)
  | record (className : String) (attributes : List (String × Expr))
  | response (body : Expr)
  | convertible (target : Expr)

inductive CallExpr where
  | call (method : String) (positional : List Expr) (named : List (String × Expr))

end

structure Step where
  on : String
  method : String
  positional : List Expr
  named : List (String × Expr)
  /-- The name under which the object that is given back is kept. -/
  keepAs : Option String

end DocumentSearch.Session
