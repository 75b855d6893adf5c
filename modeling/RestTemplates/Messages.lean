import RestTemplates.Client.Send

/-!
# Messages — a client of a message service

Mailboxes hold messages, which can be read, listed, sent, deleted and looked for.  Each operation
has one URL template; what does not change is part of the template, and the rest is bound for each
call.

This file defines:

* `Message`, `NewMessage`, `MessagePage` and `ListOptions`,
* `MessageCall` with its draft, and `MessageReply`,
* `MessageCall.run`.
-/

namespace RestTemplates

/-! ## Data -/

structure Message where
  id : String
  sender : String
  text : String
  createdAt : Option String
  deriving DecidableEq, Repr

structure NewMessage where
  sender : String
  text : String
  deriving DecidableEq, Repr

/-- Some messages of a mailbox, and where the next ones start. -/
structure MessagePage where
  items : List Message
  nextToken : Option String
  deriving DecidableEq, Repr

structure ListOptions where
  maxResults : Option Nat
  nextToken : Option String
  filters : List String
  deriving DecidableEq, Repr

namespace Message

def record : JsonRecord Message where
  name := "struct Message"
  fields :=
    [ .of "id" true JsonRead.string fun m id => { m with id },
      .of "sender" true JsonRead.string fun m sender => { m with sender },
      .of "text" true JsonRead.string fun m text => { m with text },
      .of "createdAt" false (JsonRead.optional JsonRead.string) fun m createdAt =>
        { m with createdAt } ]
  deniesUnknown := false

def read (input : Bytes) : Except JsonError (Message × Bytes) :=
  record.read ⟨"", "", "", none⟩ input

def decoder : Decoder Message := .ofJsonReader read

end Message

namespace NewMessage

def toJson (m : NewMessage) : Json :=
  .object [("sender", .string m.sender), ("text", .string m.text)]

end NewMessage

namespace MessagePage

def record : JsonRecord MessagePage where
  name := "struct MessagePage"
  fields :=
    [ .of "items" true (JsonRead.list Message.read) fun page items => { page with items },
      .of "nextToken" false (JsonRead.optional JsonRead.string) fun page nextToken =>
        { page with nextToken } ]
  deniesUnknown := false

def decoder : Decoder MessagePage := .ofJsonReader (record.read ⟨[], none⟩)

end MessagePage

/-! ## Templates -/

namespace MessageTemplate

def get : String := "/apis/v1/messages/\x7bmessage\x7d?Action=GetMessage&Version=2020-01-01"

def delete : String := "/apis/v1/messages/\x7bmessage\x7d?Action=DeleteMessage&Version=2020-01-01"

def probe : String := "/apis/v1/messages/\x7bmessage\x7d"

def list : String :=
  "/apis/v1/mailboxes/\x7bmailbox\x7d/messages?Action=ListMessages&Version=2020-01-01"

def send : String :=
  "/apis/v1/mailboxes/\x7bmailbox\x7d/messages?Action=SendMessage&Version=2020-01-01"

end MessageTemplate

/-! ## Calls -/

inductive MessageCall
  | get (id : String)
  | list (mailbox : String) (options : ListOptions)
  | send (mailbox : String) (message : NewMessage)
  | delete (id : String)
  | probe (id : String)
  deriving DecidableEq, Repr

inductive MessageReply
  | message (message : Message)
  | page (page : MessagePage)
  | done
  | found (isThere : Bool)
  deriving DecidableEq, Repr

namespace ListOptions

/-- The query of a listing; filters come in addition to those of the template. -/
def calls (options : ListOptions) : List Call :=
  [.queryOption "MaxResults" (options.maxResults.map toString),
    .queryOption "NextToken" options.nextToken] ++
  if options.filters = [] then []
  else .policy .append :: options.filters.map (.query "Filter")

end ListOptions

namespace MessageCall

def draft : MessageCall → Draft
  | .get id => .ofCalls .get MessageTemplate.get [.operation "GetMessage", .param "message" id]
  | .list mailbox options =>
    .ofCalls .get MessageTemplate.list
      ([.operation "ListMessages", .param "mailbox" mailbox] ++ options.calls)
  | .send mailbox message =>
    .ofCalls .post MessageTemplate.send
      [.operation "SendMessage", .param "mailbox" mailbox, .json message.toJson]
  | .delete id =>
    .ofCalls .delete MessageTemplate.delete [.operation "DeleteMessage", .param "message" id]
  | .probe id =>
    .ofCalls .head MessageTemplate.probe [.operation "MessageExists", .param "message" id]

def decoder : MessageCall → Decoder MessageReply
  | .get _ => Message.decoder.map .message
  | .list _ _ => MessagePage.decoder.map .page
  | .send _ _ => Message.decoder.map .message
  | .delete _ => Decoder.noContent.map fun _ => .done
  | .probe _ => Decoder.noContent.map fun _ => .found true

/-- A message that is not found does not exist; for the other calls that is an error. -/
def recover (call : MessageCall) (result : Except ClientError MessageReply) :
    Except ClientError MessageReply :=
  match call, result with
  | .probe _, .error e => if e.status? = some ⟨404⟩ then .ok (.found false) else .error e
  | _, result => result

/-- What a call reports before anything is sent. -/
def events : MessageCall → List Event
  | .list mailbox options =>
    [⟨.debug, .messages, "listing messages",
      [("mailbox", .text mailbox),
        ("max_results", .text (Quoted.option (fun n => toString n) options.maxResults))]⟩]
  | _ => []

/-- Makes a call with a client. -/
def run {σ : Type} [Transport σ] (call : MessageCall) (client : Client) (resolver : Resolver)
    (transport : σ) : Run σ MessageReply :=
  let ran := client.execute resolver transport call.draft call.decoder
  { ran with result := call.recover ran.result }

end MessageCall

end RestTemplates
