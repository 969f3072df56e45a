import TableGraph.Table

/-!
# A sample database

Eight tables of a publishing house: authors with a detail record, articles with comments, signals
that cause each other, memberships with a key of two columns, reviewers with names that are both
columns and relations, and a log without a key.
-/

namespace TableGraph.Sample

/-- The place of authors. -/
def authorsPlace : TableName := ⟨"public", "authors"⟩

/-- The place of the details of authors. -/
def authorDetailsPlace : TableName := ⟨"public", "author_details"⟩

/-- The place of articles. -/
def articlesPlace : TableName := ⟨"public", "articles"⟩

/-- The place of comments. -/
def commentsPlace : TableName := ⟨"public", "comments"⟩

/-- The place of signals, outside the public schema. -/
def signalsPlace : TableName := ⟨"anomaly", "signals"⟩

/-- The place of memberships. -/
def membershipsPlace : TableName := ⟨"crm", "memberships"⟩

/-- Authors. -/
def authors : Table where
  place := authorsPlace
  fields := [⟨"uuid", "uuid"⟩, ⟨"name", "String"⟩, ⟨"age", "Int"⟩]
  relations := [⟨"articles", .many, articlesPlace⟩, ⟨"detail", .one, authorDetailsPlace⟩]
  primaryKey := ["uuid"]

/-- Details of authors. -/
def authorDetails : Table where
  place := authorDetailsPlace
  fields := [⟨"uuid", "uuid"⟩, ⟨"author_uuid", "uuid"⟩, ⟨"bio", "String"⟩]
  relations := [⟨"author", .one, authorsPlace⟩]
  primaryKey := ["uuid"]

/-- Articles. -/
def articles : Table where
  place := articlesPlace
  fields := [⟨"uuid", "uuid"⟩, ⟨"author_uuid", "uuid"⟩, ⟨"title", "String"⟩, ⟨"likes", "Int"⟩]
  relations := [⟨"author", .one, authorsPlace⟩, ⟨"comments", .many, commentsPlace⟩]
  primaryKey := ["uuid"]

/-- Comments. -/
def comments : Table where
  place := commentsPlace
  fields := [⟨"uuid", "uuid"⟩, ⟨"article_uuid", "uuid"⟩, ⟨"body", "String"⟩]
  relations := [⟨"article", .one, articlesPlace⟩]
  primaryKey := ["uuid"]

/-- Signals, related to themselves in two ways. -/
def signals : Table where
  place := signalsPlace
  fields := [⟨"uuid", "uuid"⟩, ⟨"score", "Float"⟩, ⟨"meta", "jsonb"⟩, ⟨"at", "timestamptz"⟩]
  relations := [⟨"members", .many, membershipsPlace⟩, ⟨"cause", .one, signalsPlace⟩,
    ⟨"effects", .many, signalsPlace⟩]
  primaryKey := ["uuid"]

/-- Memberships, known by user and group. -/
def memberships : Table where
  place := membershipsPlace
  fields := [⟨"user_id", "Int"⟩, ⟨"group_id", "Int"⟩, ⟨"role", "String"⟩]
  relations := []
  primaryKey := ["user_id", "group_id"]

/-- Reviewers: `title` is a column and a relation, and two relations lead to many articles. -/
def reviewers : Table where
  place := ⟨"public", "reviewers"⟩
  fields := [⟨"id", "Int"⟩, ⟨"title", "String"⟩, ⟨"title_1", "String"⟩,
    ⟨"articles_aggregate", "jsonb"⟩]
  relations := [⟨"articles", .many, articlesPlace⟩, ⟨"reviewed_articles", .many, articlesPlace⟩,
    ⟨"favorite", .one, articlesPlace⟩, ⟨"title", .one, articlesPlace⟩, ⟨"boss", .one, authorsPlace⟩]
  primaryKey := ["id"]

/-- Lines of a log, without a key. -/
def logs : Table where
  place := ⟨"public", "logs"⟩
  fields := [⟨"line", "String"⟩, ⟨"level", "Int"⟩]
  relations := []
  primaryKey := []

/-- The tables by the names of their records. -/
def tables : OrderedMap Table :=
  [("Author", authors), ("AuthorDetail", authorDetails), ("Article", articles),
    ("Comment", comments), ("Signal", signals), ("Membership", memberships),
    ("Reviewer", reviewers), ("Log", logs)]

end TableGraph.Sample
