import RestTemplates.Proofs.Chunking
import RestTemplates.Proofs.Session

/-!
# Mocks — the record is faithful

A test that asks a mock relies on it: what the mock has recorded is what was sent, in the order in
which it was sent, and each reply has gone to the request at its place in that order.  This holds
whichever clients send the requests, whether they are answered with success, with an error or not at
all, and also after the replies have run out.  A draft that cannot be built is no request, and takes
no reply from another one.

This file defines:

* `Mock.after`, a mock that has been sent some requests,
* `Mock.Answers` and `Mock.outcome`, what a reply is to the transport and to a client,
* `Mock.Faithful`, what a test finds of a mock and may demand of it.

It proves:

* `Mock.foldl_send`, what requests one after the other leave of a mock,
* `Mock.faithful_after`, that it is faithful to them,
* `Session.replayed_and_recorded`, for every run of clients that share a mock.
-/

namespace RestTemplates

open Fallible

namespace Mock

variable {replies : List MockReply} {size : Nat}

/-! ## Requests one after the other -/

/-- Every request is recorded and takes a reply, as long as there are any. -/
def after (m : Mock) (requests : List Request) : Mock :=
  { m with
    recorded := m.recorded ++ requests
    replies := m.replies.drop requests.length }

theorem state_send (m : Mock) (request : Request) :
    (Transport.send m request).2 = m.after [request] := by
  rcases m with ⟨recorded, replies, chunkSize⟩
  cases replies <;> rfl

theorem after_after (m : Mock) (first second : List Request) :
    (m.after first).after second = m.after (first ++ second) := by
  simp only [after, List.append_assoc, List.drop_drop, List.length_append]

theorem foldl_send (m : Mock) (requests : List Request) :
    requests.foldl (fun m request => (Transport.send m request).2) m = m.after requests := by
  induction requests generalizing m with
  | nil => simp only [List.foldl_nil, after, List.append_nil, List.length_nil, List.drop_zero]
  | cons request rest ih =>
      calc
        (request :: rest).foldl (fun m request => (Transport.send m request).2) m
            = rest.foldl (fun m request => (Transport.send m request).2) (m.after [request]) := by
              rw [List.foldl_cons, state_send]
        _ = (m.after [request]).after rest := ih _
        _ = m.after (request :: rest) := after_after m [request] rest

/-! ## Answers -/

/-- The answer to a request for which there is a reply has its status, its headers and all of its
body; without a reply the answer is an error. -/
inductive Answers (request : Request) :
    Option MockReply → Except TransportError Incoming → Prop
  | reply {reply : MockReply} {incoming : Incoming} (status : incoming.status = reply.status)
      (headers : incoming.headers = reply.headers)
      (contentLength : incoming.contentLength = some reply.body.length)
      (body : incoming.body.readAll = .ok reply.body) : Answers request (some reply) (.ok incoming)
  | exhausted : Answers request none (.error (noReply request))

/-- What a client makes of a request for which there is a reply, or none. -/
def outcome (request : Request) : Option MockReply → Except ClientError (Response Bytes)
  | some reply =>
    if reply.status.isSuccess then
      .ok
        { info := request.info
          url := request.url
          status := reply.status
          headers := reply.headers
          body := reply.body }
    else
      .error (.httpStatus reply.status reply.headers
        (BodyText.describe reply.headers (reply.body.take BodyText.limit)
          (some reply.body.length)))
  | none => .error (.transport (noReply request))

/-- The reply that a request gets is the first one that is left. -/
theorem answer_send (m : Mock) (request : Request) :
    (Transport.send m request).1 =
      m.replies.head?.elim (.error (noReply request)) fun reply => .ok (m.respond reply) := by
  rcases m with ⟨recorded, replies, chunkSize⟩
  cases replies <;> rfl

theorem head?_replies_after (requests : List Request) :
    ((ofReplies replies size).after requests).replies.head? = replies[requests.length]? :=
  List.head?_drop

theorem readAll_stream (m : Mock) (body : Bytes) : (m.stream body).readAll = .ok body :=
  BodyStream.readAll_eq_ok_iff.2 ⟨rfl, (flatten_chunksOf _ body).symm⟩

theorem readPreview_stream (m : Mock) (body : Bytes) (limit : Nat) :
    (m.stream body).readPreview limit = .ok (body.take limit) := by
  have hbytes : (m.stream body).chunks.flatten = body := flatten_chunksOf _ body
  exact BodyStream.readPreview_eq_ok_iff.2 ⟨.inl rfl, by rw [hbytes]⟩

/-- All of the body is read after a success, and its start otherwise. -/
theorem read_respond (m : Mock) (reply : MockReply) :
    (m.respond reply).read =
      .ok (if reply.status.isSuccess then reply.body else reply.body.take BodyText.limit) := by
  rw [Incoming.read, respond]
  cases reply.status.isSuccess with
  | true => exact readAll_stream m reply.body
  | false => exact readPreview_stream m reply.body BodyText.limit

/-- A request after some others gets the reply at its place. -/
theorem answers_after (before : List Request) (request : Request) :
    Answers request replies[before.length]?
      (Transport.send ((ofReplies replies size).after before) request).1 := by
  rw [answer_send, head?_replies_after]
  cases replies[before.length]? with
  | none => exact .exhausted
  | some reply => exact .reply rfl rfl rfl (readAll_stream _ reply.body)

theorem result_after (replies : List MockReply) (size : Nat) (before : List Request)
    (s : Sending) :
    (Exchange.of s (Transport.send ((ofReplies replies size).after before) s.request).1).result =
      outcome s.request replies[before.length]? := by
  rw [answer_send, head?_replies_after]
  cases replies[before.length]? with
  | none => rfl
  | some reply =>
      have hread := read_respond ((ofReplies replies size).after before) reply
      have harrival := Exchange.arrival_eq_ok_iff.2 ⟨rfl, hread⟩
      rw [Option.elim_some, Exchange.of_arrival_ok harrival, outcome, Exchange.verdict, respond]
      cases reply.status.isSuccess <;> rfl

/-! ## Demands -/

variable {m : Mock}

theorem single_eq_ok_iff {request : Request} : m.single = .ok request ↔ m.recorded = [request] := by
  rw [single]
  split
  case h_1 found hrecorded => rw [hrecorded, Except.ok.injEq, List.singleton_inj]
  case h_2 hmany =>
    constructor
    · intro h
      cases h
    · intro h
      exact absurd h (hmany request)

theorem demandNoReplies_eq_ok_iff : m.demandNoReplies = .ok () ↔ m.remaining = 0 := by
  rw [demandNoReplies]
  by_cases h : m.remaining = 0
  · simp only [h, if_true]
  · simp only [h, if_false, reduceCtorEq]

theorem drop_eq_error_iff : (∃ complaint, m.drop = .error complaint) ↔ m.remaining ≠ 0 := by
  rw [drop]
  by_cases h : m.remaining = 0
  · simp only [h, if_true, reduceCtorEq, exists_false, ne_eq, not_true_eq_false]
  · simp only [h, if_false, Except.error.injEq, exists_eq', ne_eq, not_false_eq_true]

/-- What a test finds of a mock that was scripted with some replies and has been sent some requests,
and which of its demands are met. -/
structure Faithful (replies : List MockReply) (sent : List Request) (m : Mock) : Prop where
  recorded : m.recorded = sent
  remaining : m.remaining = replies.length - min replies.length sent.length
  single : ∀ request, m.single = .ok request ↔ sent = [request]
  single_iff : (∃ request, m.single = .ok request) ↔ sent.length = 1
  demandNoReplies : m.demandNoReplies = .ok () ↔ replies.length ≤ sent.length
  finish : ∀ isFinished,
    (∃ handle, MockHandle.finish ⟨m, isFinished⟩ = .ok handle) ↔ replies.length ≤ sent.length
  /-- A handle that is given up complains of replies that are left. -/
  drop : ∀ isFinished isFailing,
    (∃ complaint, MockHandle.drop ⟨m, isFinished⟩ isFailing = .error complaint) ↔
      isFinished = false ∧ isFailing = false ∧ sent.length < replies.length

theorem faithful_after (replies : List MockReply) (size : Nat) (sent : List Request) :
    ((ofReplies replies size).after sent).Faithful replies sent := by
  let m := (ofReplies replies size).after sent
  have hremaining : m.remaining = replies.length - sent.length := List.length_drop
  have hsingle : ∀ request, m.single = .ok request ↔ sent = [request] :=
    fun request => single_eq_ok_iff
  have hdemand : m.demandNoReplies = .ok () ↔ replies.length ≤ sent.length := by
    rw [demandNoReplies_eq_ok_iff, hremaining]
    exact Nat.sub_eq_zero_iff_le
  refine ⟨rfl, ?_, hsingle, ?_, hdemand, ?_, ?_⟩
  · calc
      m.remaining = replies.length - sent.length := hremaining
      _ = replies.length - min replies.length sent.length := by omega
  · calc
      (∃ request, m.single = .ok request) ↔ ∃ request, sent = [request] := exists_congr hsingle
      _ ↔ sent.length = 1 := List.length_eq_one_iff.symm
  · intro isFinished
    -- finishing is the demand that no reply is left
    rw [← hdemand]
    simp only [MockHandle.finish, map_eq_ok_iff]
    constructor
    · rintro ⟨-, ⟨⟩, hdemanded, -⟩
      exact hdemanded
    · intro hdemanded
      exact ⟨_, (), hdemanded, rfl⟩
  · intro isFinished isFailing
    cases isFinished with
    | true => simp [MockHandle.drop]
    | false =>
        cases isFailing with
        | true => simp [MockHandle.drop]
        | false =>
            have hleft : m.remaining ≠ 0 ↔ sent.length < replies.length := by
              rw [hremaining]
              omega
            simp only [true_and, ← hleft]
            exact drop_eq_error_iff

end Mock

/-! ## Sessions -/

namespace Session

variable {α : Type}

/-- A mock in the hands of some clients is sent what these hand to it. -/
theorem mock_run (s : Session Mock) (actions : List (Nat × Action α)) :
    (s.run actions).1.transport = s.transport.after (s.handed actions) := by
  rw [transport_run, Mock.foldl_send]

/-- What becomes of an action with something to send, told to a client of a session after some other
actions: a draft that cannot be built leaves the replies alone, and a request gets the reply at its
place among all requests. -/
structure Replays (replies : List MockReply) (s : Session Mock) (before : List (Nat × Action α))
    (index : Nat) (action : Action α) (handle : Handle) (errand : Errand α) : Prop where
  unbuilt :
    ∀ e, (handle.client.build ((s.run before).1.resolverOf handle) errand.draft).result = .error e →
      ((s.run before).1.step index action).1.transport = (s.run before).1.transport ∧
        ((s.run before).1.step index action).2.answer = errand.conclude (.error e)
  sent :
    ∀ request,
      (handle.client.build ((s.run before).1.resolverOf handle) errand.draft).result = .ok request →
        s.handed (before ++ [(index, action)]) = s.handed before ++ [request] ∧
          Mock.Answers request replies[(s.handed before).length]?
            (Transport.send (s.run before).1.transport request).1 ∧
          ((s.run before).1.step index action).2.answer =
            errand.conclude ((Mock.outcome request replies[(s.handed before).length]?).mapError
              (ClientError.tag request.info.operation))

variable {s : Session Mock} {replies : List MockReply} {size : Nat}

theorem replays (hstart : s.transport = .ofReplies replies size)
    (before : List (Nat × Action α)) {index : Nat} {action : Action α} {handle : Handle}
    {errand : Errand α} (hhandle : (s.run before).1.handles[index]? = some handle)
    (herrand : action.errand? = some errand) :
    Replays replies s before index action handle errand := by
  have hmock : (s.run before).1.transport =
      (Mock.ofReplies replies size).after (s.handed before) := by
    rw [mock_run, hstart]
  refine ⟨?_, ?_⟩
  · intro e hbuild
    rw [step_of_errand hhandle herrand, Client.dispatch_of_error hbuild]
    exact ⟨rfl, rfl⟩
  · intro request hbuild
    refine ⟨?_, ?_, ?_⟩
    · have hhanded : (s.run before).1.handed? index action = some request :=
        handed?_eq_some_iff.2 ⟨handle, errand, hhandle, herrand, hbuild⟩
      rw [handed_append, handed, hhanded]
      rfl
    · rw [hmock]
      exact Mock.answers_after (s.handed before) request
    · have hresult := Mock.result_after replies size (s.handed before)
        ⟨request, handle.client.levelOf errand.draft, errand.draft.bodyFormat,
          errand.responseFormat⟩
      rw [step_of_errand hhandle herrand, Client.dispatch_of_ok hbuild,
        Client.operation_of_build hbuild]
      simp only [concluded, hmock, hresult]

/-- Whichever clients share a mock and whatever they do, the mock has recorded exactly the requests
that reached it, in their order; each of them was answered with the reply at its place, and with an
error after the last reply; and the demands of a test are met as the numbers of requests and replies
say.  Nothing but requests takes a reply. -/
theorem replayed_and_recorded (α : Type) (hstart : s.transport = .ofReplies replies size) :
    (∀ actions : List (Nat × Action α),
      (s.run actions).1.transport.Faithful replies (s.handed actions)) ∧
    ∀ (before : List (Nat × Action α)) (index : Nat) (action : Action α)
      (after : List (Nat × Action α)),
      (s.run (before ++ (index, action) :: after)).2[before.length]? =
        some ((s.run before).1.step index action).2 ∧
      (action.errand? = none →
        ((s.run before).1.step index action).1.transport = (s.run before).1.transport) ∧
      ∀ handle errand, (s.run before).1.handles[index]? = some handle →
        action.errand? = some errand → Replays replies s before index action handle errand := by
  constructor
  · intro actions
    rw [mock_run, hstart]
    exact Mock.faithful_after replies size (s.handed actions)
  · intro before index action after
    refine ⟨outcome_run s before after index action, ?_, ?_⟩
    · intro hnone
      rw [transport_step, handed?, hnone]
      cases (s.run before).1.handles[index]? <;> rfl
    · intro handle errand hhandle herrand
      exact replays hstart before hhandle herrand

/-- Two clients with resolvers of their own that share a mock with one reply. -/
def pair : Session Mock where
  handles := [⟨Client.sample, 0⟩, ⟨Client.sample, 1⟩]
  resolvers := [default, default]
  transport := .ofReplies [.okText (Utf8.encode "hi")] 0

/-- The second client comes too late for the reply, but its request is recorded. -/
theorem pair_replayed_and_recorded :
    ∃ request, (Client.sample.build default Client.plainDraft).result = .ok request ∧
      (pair.run [(0, .send Client.plainDraft),
        (1, (.send Client.plainDraft : Action Unit))]).1.transport.recorded = [request, request] ∧
      (pair.run [(0, .send Client.plainDraft),
        (1, (.send Client.plainDraft : Action Unit))]).2[1]?.map (·.answer) =
          some (.failed (.inOperation "Op" (.transport (Mock.noReply request)))) := by
  obtain ⟨request, hbuild⟩ := Client.build_plainDraft
  have hoperation : request.info.operation = "Op" := Client.operation_of_build hbuild
  obtain ⟨hfaithful, hsteps⟩ := replayed_and_recorded Unit (s := pair) rfl
  obtain ⟨-, -, hfirst⟩ := hsteps [] 0 (.send Client.plainDraft) []
  obtain ⟨houtcome, -, hsecond⟩ :=
    hsteps [(0, .send Client.plainDraft)] 1 (.send Client.plainDraft) []
  -- the first request is at place 0, and so the second one is at place 1
  have hone : pair.handed [(0, (.send Client.plainDraft : Action Unit))] = [request] :=
    ((hfirst _ _ rfl rfl).sent request hbuild).1
  obtain ⟨htwo, -, hanswer⟩ := (hsecond _ _ rfl rfl).sent request hbuild
  rw [hone] at htwo hanswer
  rw [hoperation] at hanswer
  refine ⟨request, hbuild, ?_, ?_⟩
  · exact (hfaithful _).recorded.trans htwo
  · exact (congrArg (Option.map (·.answer)) houtcome).trans (congrArg some hanswer)

end Session

end RestTemplates
