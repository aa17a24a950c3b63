import Chatflow.Outside

/-! The journal: what left the system, as a document. Every kind of thing has a name of its own, and a name is
there only if there is something to tell under it. -/

namespace Chatflow

/-- The words of a command to the cache. -/
def Cache.Command.toValue : Cache.Command → Value
  | .set key value seconds onlyNew => .list [.str "set", .str key, .str value, .ofAmount seconds, .bool onlyNew]
  | .increment key => .list [.str "incr", .str key]
  | .expire key seconds => .list [.str "expire", .str key, .ofAmount seconds]
  | .readTable key => .list [.str "hgetall", .str key]
  | .writeTable key cells =>
    .list [.str "hset", .str key, .obj (cells.map fun cell => (cell.1, .str cell.2.show))]
  | .dropCell key name => .list [.str "hdel", .str key, .str name]
  | .incrementCell key name step => .list [.str "hincrby", .str key, .str name, .int step]
  | .delete key => .list [.str "delete", .str key]
  | .ping => .list [.str "ping"]
  | .lock name seconds patience => .list [.str "lock", .str name, .ofAmount seconds, .ofAmount patience]
  | .acquire name => .list [.str "acquire", .str name]
  | .release name => .list [.str "release", .str name]

namespace Documents

def Test.toValue : Test → Value
  | .equals v => v
  | .differs v => .obj [("$ne", v)]
  | .reached now => .obj [("$ne", .null), ("$lte", .time now)]

def Filter.toValue (filter : Filter) : Value := .obj (filter.map fun test => (test.1, test.2.toValue))

def keysValue (keys : List (String × Int)) : Value :=
  .list (keys.map fun key => .list [.str key.1, .int key.2])

def Order.direction (order : Order) : Int := if order.descending then -1 else 1

/-- The words of a command to the database. A search is told in several: what is looked for, in what order, up
to how many, and that the results are fetched. -/
def Command.toValues : Command → List Value
  | .findOne name filter order =>
    [.list [.str "find_one", .str name, filter.toValue, match order with
      | some order => keysValue [(order.field, order.direction)]
      | none => .null]]
  | .find name filter order limit =>
    let sorted := order.map fun order => .list [.str "sort", .str order.field, .int order.direction]
    let limited := limit.map fun n => .list [.str "limit", .int n]
    [.list [.str "find", .str name, filter.toValue]] ++ sorted.toList ++ limited.toList ++
      [.list [.str "to_list", (limit.map Value.int).getD .null]]
  | .count name filter limit => [.list [.str "count_documents", .str name, filter.toValue, .int limit]]
  | .insert name document => [.list [.str "insert_one", .str name, .obj document]]
  | .delete name filter many =>
    [.list [.str (if many then "delete_many" else "delete_one"), .str name, filter.toValue]]
  | .update name filter changes many =>
    [.list [.str (if many then "update_many" else "update_one"), .str name, filter.toValue,
      .obj [("$set", .obj changes)]]]
  | .index name keys unique =>
    [.list [.str "create_index", .str name, keysValue keys,
      .obj (if unique then [("unique", .bool true)] else [])]]
  | .ping => [.list [.str "admin", .str "ping"]]
  | .close => [.list [.str "close"]]

end Documents

def Post.toValue (p : Post) : Value := .obj [("url", .str p.url), ("json", p.body)]

def Letter.toValue (l : Letter) : Value :=
  .obj [("url", .str l.url),
    ("json", .obj [("from", .str l.sender), ("to", .str l.recipient), ("subject", .str l.subject),
      ("html", .str l.body), ("sent_at", .time l.sentAt)]),
    ("headers", .obj [("Authorization", .str ("Bearer " ++ l.key.getD "None")),
      ("Content-Type", .str "application/json")])]

def Alert.toValue (a : Alert) : Value :=
  .obj [("severity", .str a.severity), ("error", .str a.error), ("context", .obj a.context)]

/-- A question to a provider, with the settings that go with it. -/
def Inquiry.toValue (settings : Settings) : Inquiry → Value
  | .transcript model contents system =>
    .obj [("provider", .str Provider.gemini.name), ("model", .str model), ("contents", contents),
      ("system", .str system), ("temperature", .float settings.temperature),
      ("max_tokens", .int settings.maxTokens)]
  | .messages model turns =>
    .obj [("provider", .str Provider.openai.name), ("model", .str model),
      ("messages", .list (turns.map .obj)), ("max_tokens", .int settings.maxTokens),
      ("temperature", .float settings.temperature)]

def Pause.toValue : Pause → Value
  | .delay seconds => .int seconds
  | .backoff attempt => .float (Float.ofNat (backoffSeconds attempt))

/-- What left the system since the records were last cleared. -/
def Outside.journal (settings : Settings) (o : Outside) : Fields :=
  [("sent", o.posts.map Post.toValue), ("emails", o.letters.map Letter.toValue),
    ("alerts", o.alerts.map Alert.toValue), ("ai", o.inquiries.map (Inquiry.toValue settings)),
    ("sleeps", o.pauses.map Pause.toValue), ("redis", o.cache.record.map Cache.Command.toValue),
    ("mongo", o.database.record.flatMap Documents.Command.toValues)].filterMap fun (name, items) =>
      if items.isEmpty then none else some (name, Value.list items)

end Chatflow
