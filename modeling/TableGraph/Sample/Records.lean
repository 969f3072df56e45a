import TableGraph.Aggregate.Projection

/-!
# Records of the sample database

The records that rows of the sample tables decode to. Most fields are optional, since a query need
not select them.
-/

namespace TableGraph.Sample

/-- A comment. -/
structure Comment where
  uuid : Option String
  articleUuid : Option String
  body : Option String

instance : Decode Comment where
  decode := decodeRecord "Comment"
    (Comment.mk <$> .optional "uuid" <*> .optional "article_uuid" <*> .optional "body")

instance : Encode Comment where
  encode c := .object [("uuid", encode c.uuid), ("article_uuid", encode c.articleUuid),
    ("body", encode c.body)]

/-- An article, possibly with its comments. -/
structure Article where
  uuid : Option String
  authorUuid : Option String
  title : Option String
  likes : Option Int
  comments : Option (List Comment)

instance : Decode Article where
  decode := decodeRecord "Article"
    (Article.mk <$> .optional "uuid" <*> .optional "author_uuid" <*> .optional "title"
      <*> .optional "likes" <*> .optional "comments")

instance : Encode Article where
  encode a := .object [("uuid", encode a.uuid), ("author_uuid", encode a.authorUuid),
    ("title", encode a.title), ("likes", encode a.likes), ("comments", encode a.comments)]

/-- The details of an author. -/
structure AuthorDetail where
  uuid : Option String
  authorUuid : Option String
  bio : Option String

instance : Decode AuthorDetail where
  decode := decodeRecord "AuthorDetail"
    (AuthorDetail.mk <$> .optional "uuid" <*> .optional "author_uuid" <*> .optional "bio")

instance : Encode AuthorDetail where
  encode d := .object [("uuid", encode d.uuid), ("author_uuid", encode d.authorUuid),
    ("bio", encode d.bio)]

/-- An author, possibly with articles and details. -/
structure Author where
  uuid : Option String
  name : Option String
  age : Option Int
  articles : Option (List Article)
  detail : Option AuthorDetail
  articlesAggregate : Option (AggregateResponse Article OpenRecord OpenRecord)

instance : Decode Author where
  decode := decodeRecord "Author"
    (Author.mk <$> .optional "uuid" <*> .optional "name" <*> .optional "age"
      <*> .optional "articles" <*> .optional "detail" <*> .optional "articles_aggregate")

instance : Encode Author where
  encode a := .object [("uuid", encode a.uuid), ("name", encode a.name), ("age", encode a.age),
    ("articles", encode a.articles), ("detail", encode a.detail),
    ("articles_aggregate", encode a.articlesAggregate)]

/-- The membership of a user in a group. -/
structure Membership where
  userId : Int
  groupId : Int
  role : Option String

instance : Decode Membership where
  decode := decodeRecord "Membership"
    (Membership.mk <$> .required "user_id" <*> .required "group_id" <*> .optional "role")

instance : Encode Membership where
  encode r := .object [("user_id", encode r.userId), ("group_id", encode r.groupId),
    ("role", encode r.role)]

/-- A line of the log. -/
structure Log where
  line : String
  level : Option Int

instance : Decode Log where
  decode := decodeRecord "Log" (Log.mk <$> .required "line" <*> .optional "level")

instance : Encode Log where
  encode l := .object [("line", encode l.line), ("level", encode l.level)]

/-- Values of the columns of articles, of their own types. -/
structure Base where
  likes : Option Int
  title : Option String

instance : Decode Base where
  decode := decodeRecord "Base" (Base.mk <$> .optional "likes" <*> .optional "title")

instance : Encode Base where
  encode b := .object [("likes", encode b.likes), ("title", encode b.title)]

/-- Statistics over the columns of articles. -/
structure Numeric where
  likes : Option Float

instance : Decode Numeric where
  decode := decodeRecord "Numeric" (Numeric.mk <$> .optional "likes")

instance : Encode Numeric where
  encode n := .object [("likes", encode n.likes)]

end TableGraph.Sample
