import TableGraph.Aggregates

/-!
# Nodes

A node is one field of a document with its arguments and its selection: a root of a query or a
mutation, or a relation inside the selection of another node.

* The kind of a node fixes the type of document that it belongs to; relations belong to none;
* an entry answers under its response key, which is the alias of a node if it has one.
-/

namespace TableGraph

/-- Kinds of documents. -/
inductive OperationType where
  | query
  | mutation
  deriving DecidableEq, Repr, Inhabited

namespace OperationType

/-- The keyword of a document. -/
def keyword : OperationType → String
  | .query => "query"
  | .mutation => "mutation"

/-- The kind that a keyword opens. -/
def ofKeyword? : String → Option OperationType
  | "query" => some .query
  | "mutation" => some .mutation
  | _ => none

/-- The name of the operation in a document. -/
def name : OperationType → String
  | .query => "Query"
  | .mutation => "Mutation"

end OperationType

/-- Kinds of nodes. Database functions are called in queries or in mutations. -/
inductive NodeKind where
  | selectOne
  | selectMany
  | aggregate
  | insertOne
  | insertMany
  | updateOne
  | updateMany
  | updateManyDistinct
  | deleteOne
  | deleteMany
  | functionOne (type : OperationType)
  | functionMany (type : OperationType)
  | functionAggregate
  | relatedOne
  | relatedMany
  | relatedAggregate
  deriving DecidableEq, Repr, Inhabited

namespace NodeKind

/-- The name of a kind in messages. -/
def name : NodeKind → String
  | .selectOne => "select_one"
  | .selectMany => "select_many"
  | .aggregate => "aggregate"
  | .insertOne => "insert_one"
  | .insertMany => "insert_many"
  | .updateOne => "update_one"
  | .updateMany => "update_many"
  | .updateManyDistinct => "update_many_distinct"
  | .deleteOne => "delete_one"
  | .deleteMany => "delete_many"
  | .functionOne _ => "function_one"
  | .functionMany _ => "function_many"
  | .functionAggregate => "function_aggregate"
  | .relatedOne => "include_one"
  | .relatedMany => "include_many"
  | .relatedAggregate => "include_aggregate"

/-- The type of document that holds nodes of a kind; relations are never roots. -/
def type? : NodeKind → Option OperationType
  | .selectOne => some .query
  | .selectMany => some .query
  | .aggregate => some .query
  | .insertOne => some .mutation
  | .insertMany => some .mutation
  | .updateOne => some .mutation
  | .updateMany => some .mutation
  | .updateManyDistinct => some .mutation
  | .deleteOne => some .mutation
  | .deleteMany => some .mutation
  | .functionOne type => some type
  | .functionMany type => some type
  | .functionAggregate => some .query
  | .relatedOne => none
  | .relatedMany => none
  | .relatedAggregate => none

/-- Nodes of the kind are relations. -/
def isRelated (k : NodeKind) : Bool := k.type?.isNone

end NodeKind

mutual

/-- A field with its arguments and its selection. -/
structure Node where
  kind : NodeKind
  table : Table
  /-- The name of the field. -/
  field : String
  «alias» : Option String
  arguments : List Argument
  selection : List Entry

/-- One entry of a selection. -/
inductive Entry where
  /-- A column. -/
  | column (name : String)
  /-- A relation. -/
  | related (node : Node)
  /-- The rows that a mutation touched. -/
  | returning (selection : List Entry)
  /-- The number of rows that a mutation touched. -/
  | affectedRows
  /-- Aggregates over the rows. -/
  | aggregate (requested : Aggregates)
  /-- The rows that an aggregate covers. -/
  | nodes (selection : List Entry)

end

deriving instance BEq for Node, Entry
deriving instance Inhabited for Node, Entry

namespace Node

/-- The key under which a node answers. -/
def responseKey (n : Node) : String := n.alias.getD n.field

/-- The node under another key. -/
def withAlias (n : Node) (key : String) : Node := { n with «alias» := some key }

end Node

/-- The key under which an entry answers. -/
def Entry.responseKey : Entry → String
  | .column name => name
  | .related node => node.responseKey
  | .returning _ => "returning"
  | .affectedRows => "affected_rows"
  | .aggregate _ => "aggregate"
  | .nodes _ => "nodes"

end TableGraph
