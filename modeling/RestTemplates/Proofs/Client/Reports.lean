import RestTemplates.Proofs.Client.Calls
import RestTemplates.Proofs.Client.Reading

/-!
# Reports — what a client reports at which level

There is one story to tell of a request that was sent: the request, and then the response once it
has been read.  The level of the request decides how much of the story is told, and appears in every
report; it decides nothing else.  So the levels are nested, and a client without a level and a sink
does the same with a request as any other.

This file defines:

* `Diagnostic.isOutline` and `Diagnostic.atLevel`, to compare what two levels show,
* `Exchange.story`, all there is to report of an exchange,
* `Client.muted` and `Draft.muted`, with everything taken away that is about reports.

It proves:

* `Exchange.diagnostics_of` and `Exchange.story_withLevel`, what is told of the story,
* `Client.dispatch_muted`, what is left of a request without reports,
* `Client.diagnostics_of_veryVerbose` and `Client.diagnostics_of_verbose`, what two levels show,
* `Client.reportsByLevel_dispatch`, what is reported of a request,
* `Client.levelOf_ofCalls` and `Draft.muted_ofCalls`, what calls say about reports.
-/

namespace RestTemplates

open Fallible

/-! ## Levels -/

namespace Diagnostic

/-- The start of a request and the status of its response. -/
def isOutline : Diagnostic → Bool
  | .requestStart .. => true
  | .responseStatus .. => true
  | _ => false

/-- The same report, asked for at another level. -/
def atLevel (level : DebugLevel) : Diagnostic → Diagnostic
  | .requestStart _ method url operation attempt => .requestStart level method url operation attempt
  | .requestHeaders _ headers => .requestHeaders level headers
  | .requestBody _ body format maxChars => .requestBody level body format maxChars
  | .responseStatus _ status url ok => .responseStatus level status url ok
  | .responseHeaders _ headers => .responseHeaders level headers
  | .responseBody _ body format maxChars => .responseBody level body format maxChars
  | .responseBodyPreview _ headers body fullLength =>
    .responseBodyPreview level headers body fullLength

theorem shownAt_none (diagnostics : List Diagnostic) : shownAt .none diagnostics = [] := by
  refine List.filter_eq_nil_iff.2 fun d _ => ?_
  cases d <;> exact Bool.false_ne_true

theorem shownAt_verbose (diagnostics : List Diagnostic) :
    shownAt .verbose diagnostics = diagnostics.filter isOutline := by
  refine List.filter_congr fun d _ => ?_
  cases d <;> rfl

theorem shownAt_veryVerbose (diagnostics : List Diagnostic) :
    shownAt .veryVerbose diagnostics = diagnostics := by
  refine List.filter_eq_self.2 fun d _ => ?_
  cases d <;> rfl

@[simp]
theorem isOutline_atLevel (level : DebugLevel) (d : Diagnostic) :
    (d.atLevel level).isOutline = d.isOutline := by
  cases d <;> rfl

theorem filter_map_atLevel (level : DebugLevel) (diagnostics : List Diagnostic) :
    (diagnostics.map (atLevel level)).filter isOutline =
      (diagnostics.filter isOutline).map (atLevel level) := by
  rw [List.filter_map]
  exact congrArg (List.map (atLevel level))
    (List.filter_congr fun d _ => isOutline_atLevel level d)

end Diagnostic

/-! ## Exchanges -/

namespace Exchange

/-- All there is to report of an exchange, in its order: the request with its body, if it has one,
and then the response, if one has arrived and was read. -/
def story (s : Sending) (answer : Except TransportError Incoming) : List Diagnostic :=
  let info := s.request.info
  let url := s.request.url.text
  [.requestStart s.level info.method url info.operation info.attempt,
    .requestHeaders s.level s.request.headers] ++
  s.request.body.toList.map (fun body => .requestBody s.level body s.requestFormat maxChars) ++
  match arrival answer with
  | .error _ => []
  | .ok (incoming, bytes) =>
    [.responseStatus s.level incoming.status url incoming.status.isSuccess,
      .responseHeaders s.level incoming.headers,
      if incoming.status.isSuccess then .responseBody s.level bytes s.responseFormat maxChars
      else .responseBodyPreview s.level incoming.headers bytes incoming.contentLength]

theorem responseDiagnostics_eq (s : Sending) (incoming : Incoming) (bytes : Bytes) :
    responseDiagnostics s incoming bytes =
      [.responseStatus s.level incoming.status s.request.url.text incoming.status.isSuccess,
        .responseHeaders s.level incoming.headers,
        if incoming.status.isSuccess then .responseBody s.level bytes s.responseFormat maxChars
        else .responseBodyPreview s.level incoming.headers bytes incoming.contentLength] := by
  rw [responseDiagnostics]
  cases incoming.status.isSuccess <;> rfl

theorem diagnostics_of (s : Sending) (answer : Except TransportError Incoming) :
    (Exchange.of s answer).diagnostics = Diagnostic.shownAt s.level (story s answer) := by
  rw [story]
  cases harrival : arrival answer with
  | error e =>
      rw [of_arrival_error harrival, List.append_nil]
      rfl
  | ok arrived =>
      rw [of_arrival_ok harrival, responseDiagnostics_eq]
      rfl

/-- The level appears in every report and decides about none. -/
theorem story_withLevel (s : Sending) (answer : Except TransportError Incoming)
    (level : DebugLevel) :
    story { s with level } answer = (story s answer).map (Diagnostic.atLevel level) := by
  rw [story, story, List.map_append, List.map_append, List.map_map]
  cases arrival answer with
  | error e => rfl
  | ok arrived =>
      -- the last report is of one kind or the other
      obtain ⟨incoming, bytes⟩ := arrived
      simp only
      cases incoming.status.isSuccess <;> rfl

theorem result_withLevel (s : Sending) (answer : Except TransportError Incoming)
    (level : DebugLevel) :
    (Exchange.of { s with level } answer).result = (Exchange.of s answer).result := by
  cases harrival : arrival answer with
  | error e => rw [of_arrival_error harrival, of_arrival_error harrival]
  | ok arrived =>
      obtain ⟨incoming, bytes⟩ := arrived
      rw [of_arrival_ok harrival, of_arrival_ok harrival]

end Exchange

/-! ## Without reports -/

/-- A draft that says nothing about reports. -/
def Draft.muted (d : Draft) : Draft := { d with level := none }

/-- A client that reports nothing, to nobody. -/
def Client.muted (c : Client) : Client :=
  { c with
    config := { c.config with debug := .none }
    level := .none
    sink := .silent }

theorem Draft.muted_accepting (d : Draft) (codec : Codec) :
    (d.accepting codec).muted = d.muted.accepting codec := by
  have hasks : d.muted.asksFor codec = d.asksFor codec := rfl
  rw [accepting, accepting, hasks]
  cases d.asksFor codec <;> rfl

namespace Client

theorem build_muted (c : Client) (resolver : Resolver) (d : Draft) :
    c.muted.build resolver d.muted = c.build resolver d := rfl

theorem build_congr {c c' : Client} {d d' : Draft} (hc : c.muted = c'.muted)
    (hd : d.muted = d'.muted) (resolver : Resolver) :
    c.build resolver d = c'.build resolver d' := by
  rw [← build_muted, hc, hd, build_muted]

variable {σ : Type} [Transport σ]

theorem diagnostics_dispatch_of_ok {c : Client} {resolver : Resolver} {d : Draft}
    {request : Request} (hbuild : (c.build resolver d).result = .ok request) (transport : σ)
    (format : BodyFormat) :
    (c.dispatch resolver transport d format).diagnostics =
      Diagnostic.shownAt (c.levelOf d)
        (Exchange.story ⟨request, c.levelOf d, d.bodyFormat, format⟩
          (Transport.send transport request).1) := by
  rw [dispatch_of_ok hbuild]
  exact Exchange.diagnostics_of _ _

/-- Nothing but the reports is missing from what a client without them does. -/
theorem dispatch_muted (c : Client) (resolver : Resolver) (transport : σ) (d : Draft)
    (format : BodyFormat) :
    c.muted.dispatch resolver transport d.muted format =
      { c.dispatch resolver transport d format with diagnostics := [] } := by
  cases hbuilt : (c.build resolver d).result with
  | error e =>
      have hmuted : (c.muted.build resolver d.muted).result = .error e := hbuilt
      rw [dispatch_of_error hbuilt, dispatch_of_error hmuted]
      rfl
  | ok request =>
      have hmuted : (c.muted.build resolver d.muted).result = .ok request := hbuilt
      let s : Sending := ⟨request, c.levelOf d, d.bodyFormat, format⟩
      let answer := (Transport.send transport request).1
      have hresult : (Exchange.of { s with level := .none } answer).result =
          (Exchange.of s answer).result := Exchange.result_withLevel s answer .none
      have hsilent : (Exchange.of { s with level := .none } answer).diagnostics = [] := by
        rw [Exchange.diagnostics_of]
        exact Diagnostic.shownAt_none _
      rw [dispatch_of_ok hbuilt, dispatch_of_ok hmuted]
      exact congrArg₂ (fun result diagnostics => Run.mk
        (result.mapError (ClientError.tag d.operationName)) (c.build resolver d).resolver
        (Transport.send transport request).2 (c.build resolver d).lookup diagnostics)
        hresult hsilent

/-! ## What is reported -/

section Levels

variable {c : Client} {resolver : Resolver} {d : Draft} {request : Request}

/-- All of the story is told at the full level. -/
theorem diagnostics_of_veryVerbose (hbuild : (c.build resolver d).result = .ok request)
    (hlevel : c.levelOf d = .veryVerbose) (transport : σ) (format : BodyFormat) :
    (c.dispatch resolver transport d format).diagnostics =
      Exchange.story ⟨request, .veryVerbose, d.bodyFormat, format⟩
        (Transport.send transport request).1 := by
  rw [diagnostics_dispatch_of_ok hbuild, hlevel]
  exact Diagnostic.shownAt_veryVerbose _

/-- The outline of that story is told at the level below. -/
theorem diagnostics_of_verbose (hbuild : (c.build resolver d).result = .ok request)
    (hlevel : c.levelOf d = .verbose) (transport : σ) (format : BodyFormat) :
    (c.dispatch resolver transport d format).diagnostics =
      ((Exchange.story ⟨request, .veryVerbose, d.bodyFormat, format⟩
        (Transport.send transport request).1).filter Diagnostic.isOutline).map
          (Diagnostic.atLevel .verbose) := by
  let s : Sending := ⟨request, .veryVerbose, d.bodyFormat, format⟩
  let answer := (Transport.send transport request).1
  calc
    (c.dispatch resolver transport d format).diagnostics
        = Diagnostic.shownAt .verbose (Exchange.story { s with level := .verbose } answer) := by
          rw [diagnostics_dispatch_of_ok hbuild, hlevel]
    _ = (Exchange.story { s with level := .verbose } answer).filter Diagnostic.isOutline :=
          Diagnostic.shownAt_verbose _
    _ = ((Exchange.story s answer).map (Diagnostic.atLevel .verbose)).filter
          Diagnostic.isOutline := by
          rw [Exchange.story_withLevel]
    _ = ((Exchange.story s answer).filter Diagnostic.isOutline).map
          (Diagnostic.atLevel .verbose) := Diagnostic.filter_map_atLevel _ _

end Levels

/-- What a client reports of a request that it sends. -/
structure ReportsByLevel (c : Client) (resolver : Resolver) (transport : σ) (d : Draft)
    (format : BodyFormat) : Prop where
  silent : c.levelOf d = .none → (c.dispatch resolver transport d format).diagnostics = []
  unbuilt : ∀ e, (c.build resolver d).result = .error e →
    (c.dispatch resolver transport d format).diagnostics = []
  all : ∀ request, (c.build resolver d).result = .ok request → c.levelOf d = .veryVerbose →
    (c.dispatch resolver transport d format).diagnostics =
      Exchange.story ⟨request, .veryVerbose, d.bodyFormat, format⟩
        (Transport.send transport request).1
  /-- With all reports asked for, the same request would be reported with the same outline. -/
  outline : c.levelOf d = .verbose → ∀ (c' : Client) (d' : Draft), c'.muted = c.muted →
    d'.muted = d.muted → c'.levelOf d' = .veryVerbose →
      (c.dispatch resolver transport d format).diagnostics =
        ((c'.dispatch resolver transport d' format).diagnostics.filter
          Diagnostic.isOutline).map (Diagnostic.atLevel .verbose)

theorem reportsByLevel_dispatch (c : Client) (resolver : Resolver) (transport : σ) (d : Draft)
    (format : BodyFormat) : ReportsByLevel c resolver transport d format := by
  have hunbuilt : ∀ (c : Client) (d : Draft) e, (c.build resolver d).result = .error e →
      (c.dispatch resolver transport d format).diagnostics = [] := by
    intro c d e hbuild
    rw [dispatch_of_error hbuild]
  refine ⟨?_, hunbuilt c d, ?_, ?_⟩
  · intro hlevel
    cases hbuild : (c.build resolver d).result with
    | error e => exact hunbuilt c d e hbuild
    | ok request =>
        rw [diagnostics_dispatch_of_ok hbuild, hlevel]
        exact Diagnostic.shownAt_none _
  · intro request hbuild hlevel
    exact diagnostics_of_veryVerbose hbuild hlevel transport format
  · intro hlevel c' d' hc hd hlevel'
    have hbuilds : c'.build resolver d' = c.build resolver d := build_congr hc hd resolver
    have hformat : d'.muted.bodyFormat = d.muted.bodyFormat := congrArg Draft.bodyFormat hd
    change d'.bodyFormat = d.bodyFormat at hformat
    cases hbuild : (c.build resolver d).result with
    | error e =>
        have hbuild' : (c'.build resolver d').result = .error e := by
          rw [hbuilds, hbuild]
        rw [hunbuilt c d e hbuild, hunbuilt c' d' e hbuild']
        rfl
    | ok request =>
        -- both are built into the same request, and so their stories are the same
        have hbuild' : (c'.build resolver d').result = .ok request := by
          rw [hbuilds, hbuild]
        rw [diagnostics_of_verbose hbuild hlevel, diagnostics_of_veryVerbose hbuild' hlevel',
          hformat]

end Client

/-! ## Calls -/

namespace Draft

theorem muted_apply (d : Draft) (call : Call) :
    (d.apply call).muted = if call.level?.isNone then d.muted.apply call else d.muted := by
  cases call with
  | queryOption key value => cases value <;> rfl
  | encoded codec encoding => cases encoding <;> rfl
  | _ => rfl

/-- Calls that set a level say nothing about anything but reports. -/
theorem muted_ofCalls (method : Method) (template : String) (calls : List Call) :
    (ofCalls method template calls).muted =
      ofCalls method template (calls.filter fun call => call.level?.isNone) := by
  -- a draft that begins without a level gets none
  have hall : ∀ d : Draft, (d.applyAll calls).muted =
      d.muted.applyAll (calls.filter fun call => call.level?.isNone) := by
    induction calls with
    | nil => exact fun _ => rfl
    | cons call rest ih =>
        intro d
        rw [applyAll_cons, ih, muted_apply, List.filter_cons]
        cases call.level?.isNone <;> rfl
  exact hall (new method template)

theorem level_accepting (d : Draft) (codec : Codec) : (d.accepting codec).level = d.level := by
  rw [accepting]
  cases d.asksFor codec <;> rfl

end Draft

namespace Client

/-- The level of a request is the last one that its calls set, or else that of its client. -/
theorem levelOf_ofCalls (c : Client) (method : Method) (template : String) (calls : List Call) :
    c.levelOf (.ofCalls method template calls) = (Call.lastLevel? calls).getD c.level := by
  rw [levelOf, Draft.level_ofCalls]

/-- The level in the settings is where a client begins; it does not matter otherwise. -/
theorem muted_ofConfig (config : Config) (level : DebugLevel) :
    (ofConfig { config with debug := level }).map muted = (ofConfig config).map muted := by
  have hbase : Config.baseUrl { config with debug := level } = config.baseUrl := rfl
  rw [ofConfig, ofConfig, hbase]
  cases config.baseUrl <;> rfl

end Client

end RestTemplates
