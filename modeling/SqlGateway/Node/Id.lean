import SqlGateway.Node.Segment

/-!
# Node ids

A node id is a list of segments joined by points, such as `db:shop.schema:public`. The last
segment that is understood decides what the id refers to. A text without a colon is a table name by
itself.
-/

namespace SqlGateway.Node

def rootId : String := "root"

structure Id where
  text : String
deriving DecidableEq, Repr, Inhabited

/-- The segments of an id text. Tokens that are not understood are left out. -/
def segments (id : String) : Except Failure (List Segment) :=
  if id = "" then .error (.node id .emptyId)
  else if id = rootId then .error (.node id .rootId)
  else if ':' ∉ id.toList then .ok [.table id]
  else .ok ((Text.pieces '.' id.toList).filterMap Segment.ofToken?)

def classify (id : String) : Kind :=
  if id = rootId then .root
  else
    match segments id with
    | .error _ => .unknown
    | .ok segments => (segments.getLast?.map Segment.kind).getD .unknown

namespace Id

def kind (id : Id) : Kind := classify id.text

def ofText (text : String) : Except Failure Id :=
  match segments text with
  | .error failure => .error failure
  | .ok _ => .ok ⟨text⟩

def compose (segments : List Segment) : Except Failure Id :=
  if segments = [] then .error (.node "" .noSegments)
  else
    match segments.forM Segment.check with
    | .error failure => .error failure
    | .ok () => .ok ⟨String.ofList (Text.joinChars '.' (segments.map Segment.tokenChars))⟩

def child (id : Id) (segment : Segment) : Except Failure Id :=
  match segment.check with
  | .error failure => .error failure
  | .ok () => .ok ⟨id.text ++ String.ofList ('.' :: segment.tokenChars)⟩

def under (parent : Option Id) (segment : Segment) : Except Failure Id :=
  match parent with
  | some parent => parent.child segment
  | none => compose [segment]

/-- The ids reached one after the other; a segment that is refused leaves the place unchanged. -/
def walk (id : Id) : List Segment → List (Except Failure Id)
  | [] => []
  | segment :: rest =>
    match id.child segment with
    | .error failure => .error failure :: id.walk rest
    | .ok next => .ok next :: next.walk rest

end Id

/-- The object that an id addresses: the last name of each kind. -/
structure Path where
  database : Option String
  schema : Option String
  folder : Option Folder
  object : Option Segment
  column : Option String
deriving DecidableEq, Repr

namespace Path

def empty : Path := ⟨none, none, none, none, none⟩

def add (path : Path) : Segment → Path
  | .database name => { path with database := some name }
  | .schema name => { path with schema := some name }
  | .folder folder => { path with folder := some folder }
  | .column name => { path with column := some name }
  | .table name => { path with object := some (.table name) }
  | .view name => { path with object := some (.view name) }
  | .function name => { path with object := some (.function name) }

/-- The path with the schema filled in for an object that is addressed without one. -/
def complete (defaultSchema : Option String) (path : Path) : Path :=
  if path.schema.isNone && path.object.isSome then { path with schema := defaultSchema } else path

def ofId (id : String) (defaultSchema : Option String) : Except Failure Path :=
  match segments id with
  | .error failure => .error failure
  | .ok segments => .ok ((segments.foldl add empty).complete defaultSchema)

def objectName (path : Path) : Option String := path.object.map Segment.value

end Path

example : (Id.compose [.database "shop", .schema "public"]).toOption.map Id.text =
    some "db:shop.schema:public" := by decide
example : classify "db:a.index:x.schema:b.folder:triggers" = .schema := by decide
example : classify "foo:bar" = .unknown := by decide

end SqlGateway.Node
