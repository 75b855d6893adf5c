import RestTemplates.Client.Send

/-!
# Sessions — clients that share resolvers and a transport

A session starts with one client that has a resolver of its own.  A clone has its own debug level
and shares the rest; a client may go over to the resolver of another client, or to a new one.

This file defines:

* `Session`, with the `Handle`s of its clients,
* `Action`, what a client is told, and `Answer`, what it gives back,
* `Session.step` and `Session.run`.
-/

namespace RestTemplates

/-- A client of a session and the place of its resolver. -/
structure Handle where
  client : Client
  resolver : Nat
  deriving DecidableEq

structure Session (σ : Type) where
  handles : List Handle
  resolvers : List Resolver
  transport : σ

/-! ## Actions -/

inductive Action (α : Type)
  | clone
  | setLevel (level : DebugLevel)
  /-- Goes over to the resolver of another client. -/
  | share (other : Nat)
  | newResolver (policy : MergePolicy)
  | target (template : String) (params : PathParams) (overrides : Query)
  | build (draft : Draft)
  | send (draft : Draft)
  | execute (draft : Draft) (decoder : Decoder α)
  | executeDecoded (draft : Draft) (decoder : Decoder α)

inductive Answer (α : Type)
  | done
  /-- The number of clients after a clone. -/
  | clients (count : Nat)
  | url (url : Url)
  | request (request : Request)
  | response (response : Response Bytes)
  | value (value : α)
  | decoded (response : Response α)
  | failed (error : ClientError)
  | noSuchClient

/-- The answer to an action, and what the sink of the client took down meanwhile. -/
structure Outcome (α : Type) where
  answer : Answer α
  log : Log

/-- An answer that may be an error. -/
def Answer.of {α β : Type} (wrap : β → Answer α) : Except ClientError β → Answer α
  | .ok result => wrap result
  | .error e => .failed e

namespace Session

variable {σ α β : Type}

/-- The session of one client with a resolver of its own. -/
def ofClient (client : Client) (transport : σ) : Session σ :=
  { handles := [⟨client, 0⟩]
    resolvers := [.ofPolicy client.config.mergePolicy]
    transport }

/-- The resolver of a client. -/
def resolverOf (s : Session σ) (h : Handle) : Resolver := s.resolvers.getD h.resolver default

def withResolver (s : Session σ) (h : Handle) (resolver : Resolver) : Session σ :=
  { s with resolvers := s.resolvers.set h.resolver resolver }

def withHandle (s : Session σ) (index : Nat) (h : Handle) : Session σ :=
  { s with handles := s.handles.set index h }

/-- The counters of the cache that a client uses. -/
def stats? (s : Session σ) (index : Nat) : Option TemplateCache.Stats :=
  s.handles[index]?.map fun h => (s.resolverOf h).cache.stats

/-! ## Steps -/

/-- An answer without reports. -/
def quiet (h : Handle) (answer : Answer α) : Outcome α := ⟨answer, h.client.sink.log [] []⟩

def built (s : Session σ) (h : Handle) (wrap : β → Answer α) (b : Build β) :
    Session σ × Outcome α :=
  (s.withResolver h b.resolver, ⟨.of wrap b.result, h.client.sink.log b.lookup.toList []⟩)

def ran (s : Session σ) (h : Handle) (wrap : β → Answer α) (r : Run σ β) : Session σ × Outcome α :=
  ({ s.withResolver h r.resolver with transport := r.transport },
    ⟨.of wrap r.result, h.client.sink.log r.lookup.toList r.diagnostics⟩)

/-- One action of a client. -/
def act [Transport σ] (s : Session σ) (index : Nat) (h : Handle) :
    Action α → Session σ × Outcome α
  | .clone =>
    ({ s with handles := s.handles ++ [h] }, quiet h (.clients (s.handles.length + 1)))
  | .setLevel level =>
    (s.withHandle index { h with client := { h.client with level } }, quiet h .done)
  | .share other =>
    match s.handles[other]? with
    | some source => (s.withHandle index { h with resolver := source.resolver }, quiet h .done)
    | none => (s, quiet h .noSuchClient)
  | .newResolver policy =>
    let extended := { s with resolvers := s.resolvers ++ [Resolver.ofPolicy policy] }
    (extended.withHandle index { h with resolver := s.resolvers.length }, quiet h .done)
  | .target template params overrides =>
    s.built h .url (h.client.target (s.resolverOf h) template params overrides)
  | .build draft => s.built h .request (h.client.build (s.resolverOf h) draft)
  | .send draft => s.ran h .response (h.client.send (s.resolverOf h) s.transport draft)
  | .execute draft decoder =>
    s.ran h .value (h.client.execute (s.resolverOf h) s.transport draft decoder)
  | .executeDecoded draft decoder =>
    s.ran h .decoded (h.client.executeDecoded (s.resolverOf h) s.transport draft decoder)

/-- One action of the client at an index. -/
def step [Transport σ] (s : Session σ) (index : Nat) (action : Action α) :
    Session σ × Outcome α :=
  match s.handles[index]? with
  | some h => s.act index h action
  | none => (s, ⟨.noSuchClient, .nothing⟩)

/-- The session after some actions, and what came of each. -/
def run [Transport σ] (s : Session σ) : List (Nat × Action α) → Session σ × List (Outcome α)
  | [] => (s, [])
  | (index, action) :: rest =>
    let stepped := s.step index action
    let finished := run stepped.1 rest
    (finished.1, stepped.2 :: finished.2)

end Session

end RestTemplates
