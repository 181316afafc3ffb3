import ContentRouter.Manifest.Declaration
import ContentRouter.Template.Model

/-!
# The registry of templates

A registry gives every pair of authority and normalized path a matcher id and keeps the templates of
each pair in a bucket. Ids count from one in the order in which the pairs first appear.

A request reaches a bucket by its path alone; the templates of a bucket are then tried one after the
other, those with more query pairs first, so that `/notes?archived=true` is tried before `/notes`.
Templates with equally many pairs keep the order in which they came.

A template may join only if no other handler of the same operation already serves exactly its
requests. Templates of different operations live beside each other in one bucket.
-/

namespace ContentRouter

/-- The handler method that a template leads to. -/
structure Handler where
  /-- The qualified name of the provider class. -/
  className : String
  method : String
  /-- The place of the method among those of its declaration. -/
  ordinal : Nat
  operation : Operation
  deriving DecidableEq, Repr

/-- A handler in the words of a message. -/
def Handler.text (handler : Handler) : String :=
  handler.className ++ "#" ++ handler.method

/-- A template and the handler it leads to. -/
structure Registration where
  model : Model
  owner : Handler
  deriving DecidableEq, Repr

/-- The registrations of one authority and one normalized path. -/
structure Bucket where
  id : MatcherId
  authority : String
  normalizedPath : String
  entries : List Registration
  deriving DecidableEq, Repr

namespace Bucket

/-- The bucket of a model's authority and path, without entries. -/
def empty (id : MatcherId) (model : Model) : Bucket :=
  { id, authority := model.authority, normalizedPath := model.normalizedPath, entries := [] }

/-- Whether a model belongs into a bucket. -/
def admits (bucket : Bucket) (model : Model) : Bool :=
  bucket.authority == model.authority && bucket.normalizedPath == model.normalizedPath

/-- The first entry that serves the same operation and the same requests. -/
def conflict? (bucket : Bucket) (model : Model) (operation : Operation) : Option Registration :=
  bucket.entries.find? fun entry =>
    entry.owner.operation == operation && entry.model.fullyEquals model

/-- Puts an entry before the first one with fewer query pairs. -/
def place (entry : Registration) : List Registration → List Registration
  | [] => [entry]
  | existing :: rest =>
      if existing.model.queryCount < entry.model.queryCount then entry :: existing :: rest
      else existing :: place entry rest

/-- Takes an entry into a bucket. -/
def insert (bucket : Bucket) (entry : Registration) : Bucket :=
  { bucket with entries := place entry bucket.entries }

end Bucket

/-- The buckets given out so far, in the order of their ids. -/
structure Registry where
  /-- The id that was given out last. -/
  lastId : MatcherId := 0
  buckets : List Bucket := []
  deriving DecidableEq, Repr

namespace Registry

/-- The bucket that a model belongs into. -/
def bucketFor? (registry : Registry) (model : Model) : Option Bucket :=
  registry.buckets.find? (·.admits model)

/-- The bucket of an id. -/
def bucket? (registry : Registry) (id : MatcherId) : Option Bucket :=
  registry.buckets.find? (·.id == id)

/-- The id of a model's authority and path: that of their bucket, or the next one. -/
def idFor (registry : Registry) (model : Model) : MatcherId :=
  match registry.bucketFor? model with
  | some bucket => bucket.id
  | none => registry.lastId + 1

/-- The registry with a bucket for a model. A new pair of authority and path takes the next id and
an empty bucket. -/
def withBucketFor (registry : Registry) (model : Model) : Registry :=
  match registry.bucketFor? model with
  | some _ => registry
  | none =>
      let id := registry.lastId + 1
      { lastId := id, buckets := registry.buckets ++ [Bucket.empty id model] }

/-- **Registers a model**: the id of its authority and path, which the caller marks the model with,
and the registry with their bucket. -/
def register (registry : Registry) (model : Model) : MatcherId × Registry :=
  (registry.idFor model, registry.withBucketFor model)

/-- The entry whose requests are those of a model, for the same operation. -/
def conflict? (registry : Registry) (model : Model) (operation : Operation) :
    Option Registration :=
  (registry.bucketFor? model).bind (·.conflict? model operation)

/-- Takes an entry into the bucket of an id. -/
def insert (registry : Registry) (id : MatcherId) (entry : Registration) : Registry :=
  { registry with
    buckets := registry.buckets.map fun bucket =>
      if bucket.id == id then bucket.insert entry else bucket }

/-- The fault of a template whose requests are already served. -/
def duplicatePath (model : Model) (existing : Registration) : Fault :=
  .duplicatePath model.text model.authority existing.owner.text

/-- **Registers a template for a handler.** The template is refused if another handler of the same
operation already serves its requests, and enters its bucket otherwise. -/
def registerExact (registry : Registry) (model : Model) (owner : Handler) :
    Except Fault MatcherId × Registry :=
  let (id, registry) := registry.register model
  let model := model.withMatcherId id
  match registry.conflict? model owner.operation with
  | some existing => (.error (duplicatePath model existing), registry)
  | none => (.ok id, registry.insert id { model, owner })

end Registry

end ContentRouter
