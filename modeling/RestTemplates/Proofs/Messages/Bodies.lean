import RestTemplates.Proofs.Json.Objects
import RestTemplates.Proofs.Messages.Addressing

/-!
# Message bodies — a message that is sent is read back

A message is sent as a JSON object with a member for the sender and one for the text.  Whatever
characters these hold, reading the body gives the same two members.  What the body is called is up
to the client, if it has anything to say about it.

This module proves:

* `NewMessage.decode_encode`, a message is read back from its document,
* `MessageCall.message_readable`, the body and the content type of the request that sends it.
-/

namespace RestTemplates

namespace NewMessage

theorem readBack_toJson (message : NewMessage) :
    JsonRead.ReadBack JsonRead.depthLimit message.toJson := by
  refine @JsonRead.readBack_object 126 _ ?_ ?_
  · have hkeys : ["sender", "text"].Pairwise (· < ·) := by
      decide
    exact List.pairwise_map.1 hkeys
  · rintro ⟨key, json⟩ hmember
    simp only [List.mem_cons, List.not_mem_nil, or_false, Prod.mk.injEq] at hmember
    rcases hmember with ⟨-, rfl⟩ | ⟨-, rfl⟩
    · exact JsonRead.readBack_string 126 message.sender
    · exact JsonRead.readBack_string 126 message.text

theorem decode_encode (message : NewMessage) :
    Decoder.json.decode message.toJson.encode =
      .ok (.object [("sender", .string message.sender), ("text", .string message.text)]) := by
  have hdecode (bytes : Bytes) :
      Decoder.json.decode bytes = (Json.parse bytes).mapError .json := rfl
  rw [hdecode, Json.parse_encode message.readBack_toJson]
  rfl

end NewMessage

namespace MessageCall

theorem body_send (mailbox : String) (message : NewMessage) :
    (send mailbox message).draft.body =
      some ⟨message.toJson.encode, some (Utf8.encode "application/json"), .text⟩ := by
  rw [draft, Draft.ofCalls, Draft.applyAll]
  rfl

/-- The content type of a message that is sent. -/
theorem contentType_send (mailbox : String) (message : NewMessage) (c : Client) :
    (c.headersOf (send mailbox message).draft).values HeaderName.contentType =
      if c.config.defaultHeaders.values HeaderName.contentType = [] then
        [Utf8.encode "application/json"]
      else c.config.defaultHeaders.values HeaderName.contentType := by
  have hunasked : (send mailbox message).draft.headers.values HeaderName.contentType = [] := rfl
  rw [Client.values_headersOf, if_neg (not_not_intro hunasked), if_pos rfl, body_send,
    Option.bind_some, Option.toList_some, ite_not]

/-- A message is sent once, as a text from which it is read back, whatever its sender and its text
are; and the request says that this is JSON, unless the client says something else. -/
theorem message_readable {resolver : Resolver} (h : resolver.cache.Reachable) {σ : Type}
    [Transport σ] (c : Client) (before : Recorder σ) {mailbox : String} (hone : mailbox ≠ ".")
    (htwo : mailbox ≠ "..") (message : NewMessage) :
    ∃ (request : Request) (text : String),
      ((send mailbox message).run c resolver before).transport.received =
        before.received ++ [request] ∧
      request.body = some (Utf8.encode text) ∧
      Decoder.json.decode (Utf8.encode text) =
        .ok (.object [("sender", .string message.sender), ("text", .string message.text)]) ∧
      request.headers.values HeaderName.contentType =
        if c.config.defaultHeaders.values HeaderName.contentType = [] then
          [Utf8.encode "application/json"]
        else c.config.defaultHeaders.values HeaderName.contentType := by
  have hname : PathTemplate.isDotSegment (send mailbox message).name = false := by
    simp [PathTemplate.isDotSegment, name, hone, htwo]
  obtain ⟨request, hreceived, -, hsame, hheaders⟩ := exists_sent h hname c before
  refine ⟨request, message.toJson.text, hreceived, ?_, message.decode_encode, ?_⟩
  · have hbody : (send mailbox message).draft.body.map (·.bytes) = some message.toJson.encode := by
      rw [body_send, Option.map_some]
    rw [hsame]
    exact hbody
  · rw [hheaders, if_neg fun hboth => absurd hboth.1 (by decide), contentType_send]

/-- A sender with quotes, and a text with a backslash, a control and a character beyond the first
65536. -/
theorem escaped_message_readable :
    let message : NewMessage := ⟨"\"me\"", "a\\b\x01😀"⟩
    let before : Recorder Script := ⟨[], ⟨[.ok (Client.busy none)]⟩⟩
    ∃ (request : Request) (text : String),
      ((send "inbox" message).run Client.sample default before).transport.received = [request] ∧
      request.body = some (Utf8.encode text) ∧
      Decoder.json.decode (Utf8.encode text) =
        .ok (.object [("sender", .string "\"me\""), ("text", .string "a\\b\x01😀")]) ∧
      request.headers.values HeaderName.contentType = [Utf8.encode "application/json"] := by
  intro message before
  obtain ⟨request, text, hreceived, hbody, hread, htype⟩ :=
    @message_readable _ Client.reachable_default _ _ Client.sample before "inbox" (by decide)
      (by decide) message
  exact ⟨request, text, hreceived, hbody, hread, htype.trans (if_pos rfl)⟩

end MessageCall

end RestTemplates
