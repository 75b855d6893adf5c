import RestTemplates.Proofs.Client.Reports
import RestTemplates.Proofs.Errand

/-!
# Observation — reports change nothing

Levels and sinks are for those who watch a session.  Take them away from all clients and drafts, and
leave out the actions that set a level: what is left gives the same answers, sends the same requests
to the transport, and leaves resolvers and transport as they would be otherwise.  So two sessions
that differ in nothing else work alike, step by step and over any run.

This file defines:

* `Session.muted` and `Action.mutedAll`, a session and its actions without anything about reports,
* `Session.answers`, what is answered to the other actions,
* `Session.WorksAlike`, two runs that nobody can tell apart but by their reports,
* `Session.levels` and `Session.lastGiven?`, the levels of clients.

It proves:

* `Session.step_muted` and `Session.run_muted`, a run goes on as before without its reports,
* `Session.worksAlike_of_muted`, for two sessions,
* `Session.level_step` and `Session.level_run`, the level of a client is its own,
* `Session.reports_only_observe`, all of it together.
-/

namespace RestTemplates

/-! ## Without reports -/

def Handle.muted (h : Handle) : Handle := { h with client := h.client.muted }

def Errand.muted {α : Type} (errand : Errand α) : Errand α :=
  { errand with draft := errand.draft.muted }

namespace Action

variable {α : Type}

/-- The level that an action sets. -/
def level? : Action α → Option DebugLevel
  | .setLevel level => some level
  | _ => none

/-- The same action with a draft that says nothing about reports. -/
def muted : Action α → Action α
  | .build draft => .build draft.muted
  | .send draft => .send draft.muted
  | .execute draft decoder => .execute draft.muted decoder
  | .executeDecoded draft decoder => .executeDecoded draft.muted decoder
  | action => action

/-- Some actions without anything about reports. -/
def mutedAll (actions : List (Nat × Action α)) : List (Nat × Action α) :=
  (actions.filter fun told => told.2.level?.isNone).map fun told => (told.1, told.2.muted)

theorem errand?_muted (action : Action α) :
    action.muted.errand? = action.errand?.map Errand.muted := by
  cases action with
  | execute draft decoder =>
      rw [muted, errand?, ← Draft.muted_accepting]
      rfl
  | executeDecoded draft decoder =>
      rw [muted, errand?, ← Draft.muted_accepting]
      rfl
  | _ => rfl

end Action

namespace Session

variable {σ α : Type}

def muted (s : Session σ) : Session σ := { s with handles := s.handles.map Handle.muted }

theorem muted_withHandle (s : Session σ) (index : Nat) (handle : Handle) :
    (s.withHandle index handle).muted = s.muted.withHandle index handle.muted := by
  rw [muted, withHandle, List.map_set]
  rfl

/-- A client that is put back as it was. -/
theorem withHandle_self {s : Session σ} {index : Nat} {handle : Handle}
    (h : s.handles[index]? = some handle) : s.withHandle index handle = s := by
  obtain ⟨hindex, rfl⟩ := List.getElem?_eq_some_iff.1 h
  rw [withHandle, List.set_getElem_self hindex]

theorem handles_muted (s : Session σ) (index : Nat) :
    s.muted.handles[index]? = s.handles[index]?.map Handle.muted := List.getElem?_map

theorem stats?_muted (s : Session σ) (index : Nat) : s.muted.stats? index = s.stats? index := by
  rw [stats?, handles_muted, Option.map_map]
  rfl

theorem handed?_muted (s : Session σ) (index : Nat) (action : Action α) :
    s.muted.handed? index action.muted = s.handed? index action := by
  rw [handed?, handed?, handles_muted, Action.errand?_muted]
  cases s.handles[index]? with
  | none => rfl
  | some handle => cases action.errand? <;> rfl

theorem handed?_of_level (s : Session σ) (index : Nat) {action : Action α} {level : DebugLevel}
    (h : action.level? = some level) : s.handed? index action = none := by
  cases action with
  | setLevel level =>
      rw [handed?]
      cases s.handles[index]? <;> rfl
  | _ => cases h

section Muting

variable [Transport σ]

/-- A step that was taken without reports. -/
def mutedStep (stepped : Session σ × Outcome α) : Session σ × Outcome α :=
  (stepped.1.muted, ⟨stepped.2.answer, .nothing⟩)

theorem act_muted (s : Session σ) (index : Nat) (handle : Handle) {action : Action α}
    (h : action.level? = none) :
    s.muted.act index handle.muted action.muted = mutedStep (s.act index handle action) := by
  have herrands := Action.errand?_muted action
  cases herrand : action.errand? with
  | some errand =>
      -- the exchange is the same but for its reports, and the sink takes nothing down
      rw [herrand] at herrands
      have hrun := handle.client.dispatch_muted (s.resolverOf handle) s.transport errand.draft
        errand.responseFormat
      have hconcluded := congrArg (s.muted.concluded handle.muted errand.muted) hrun
      rw [act_of_errand herrand, act_of_errand herrands]
      exact hconcluded
  | none =>
      -- what is left does not look at levels and sinks of clients, but puts them in their places
      cases action with
      | clone =>
          have hhandles : s.muted.handles ++ [handle.muted] =
              (s.handles ++ [handle]).map Handle.muted := by
            rw [List.map_append]
            rfl
          have hcount : s.muted.handles.length = s.handles.length := List.length_map _
          change s.muted.act index handle.muted .clone = _
          rw [act, hhandles, hcount]
          rfl
      | setLevel level => cases h
      | share other =>
          change s.muted.act index handle.muted (.share other) = _
          rw [act, handles_muted, act]
          cases s.handles[other]? with
          | none => rfl
          | some source =>
              rw [mutedStep, muted_withHandle]
              rfl
      | newResolver policy =>
          change s.muted.act index handle.muted (.newResolver policy) = _
          rw [act, act, mutedStep, muted_withHandle]
          rfl
      | target template params overrides => rfl
      | build draft => rfl
      | _ => cases herrand

theorem step_muted (s : Session σ) (index : Nat) {action : Action α} (h : action.level? = none) :
    s.muted.step index action.muted = mutedStep (s.step index action) := by
  rw [step, step, handles_muted]
  cases s.handles[index]? with
  | none => rfl
  | some handle => exact act_muted s index handle h

/-- Setting a level is nothing but a matter of reports. -/
theorem muted_step_of_level (s : Session σ) (index : Nat) {action : Action α} {level : DebugLevel}
    (h : action.level? = some level) : (s.step index action).1.muted = s.muted := by
  cases action with
  | setLevel level =>
      rw [step]
      cases hhandle : s.handles[index]? with
      | none => rfl
      | some handle =>
          change (s.withHandle index _).muted = s.muted
          rw [muted_withHandle]
          -- without its level the handle is the one that was there
          change s.muted.withHandle index handle.muted = s.muted
          rw [← muted_withHandle, withHandle_self hhandle]
  | _ => cases h

/-! ## Runs -/

/-- The answers to some actions, but for those that set a level. -/
def answers (s : Session σ) (actions : List (Nat × Action α)) : List (Answer α) :=
  ((actions.zip (s.run actions).2).filter fun told => told.1.2.level?.isNone).map (·.2.answer)

theorem answers_cons (s : Session σ) (index : Nat) (action : Action α)
    (rest : List (Nat × Action α)) :
    s.answers ((index, action) :: rest) =
      match action.level? with
      | some _ => (s.step index action).1.answers rest
      | none => (s.step index action).2.answer :: (s.step index action).1.answers rest := by
  rw [answers, run, List.zip_cons_cons, List.filter_cons]
  cases action.level? <;> rfl

theorem mutedAll_cons (index : Nat) (action : Action α) (rest : List (Nat × Action α)) :
    Action.mutedAll ((index, action) :: rest) =
      match action.level? with
      | some _ => Action.mutedAll rest
      | none => (index, action.muted) :: Action.mutedAll rest := by
  rw [Action.mutedAll, List.filter_cons]
  cases action.level? <;> rfl

/-- A run without reports answers the same and ends in the same place. -/
theorem run_muted (s : Session σ) (actions : List (Nat × Action α)) :
    (s.muted.run (Action.mutedAll actions)).1 = (s.run actions).1.muted ∧
      (s.muted.run (Action.mutedAll actions)).2.map (·.answer) = s.answers actions := by
  -- an action that sets a level is left out, and leaves the session without reports as it was
  induction actions generalizing s with
  | nil => exact ⟨rfl, rfl⟩
  | cons told rest ih =>
      obtain ⟨index, action⟩ := told
      obtain ⟨hsession, hanswers⟩ := ih (s.step index action).1
      rw [mutedAll_cons, answers_cons, run]
      cases hlevel : action.level? with
      | some level =>
          rw [muted_step_of_level s index hlevel] at hsession hanswers
          exact ⟨hsession, hanswers⟩
      | none =>
          simp only [run, step_muted s index hlevel, mutedStep, List.map_cons]
          exact ⟨hsession, congrArg _ hanswers⟩

/-- A run without reports hands the transport the same requests. -/
theorem handed_muted (s : Session σ) (actions : List (Nat × Action α)) :
    s.muted.handed (Action.mutedAll actions) = s.handed actions := by
  induction actions generalizing s with
  | nil => rfl
  | cons told rest ih =>
      obtain ⟨index, action⟩ := told
      have hrest := ih (s.step index action).1
      rw [mutedAll_cons, handed]
      cases hlevel : action.level? with
      | some level =>
          rw [muted_step_of_level s index hlevel] at hrest
          rw [handed?_of_level s index hlevel]
          exact hrest
      | none =>
          simp only [handed, handed?_muted, step_muted s index hlevel, mutedStep]
          rw [hrest]

/-- Two runs that give the same answers, send the transport the same requests, and leave it and the
counters of the caches the same. -/
structure WorksAlike (s : Session σ) (actions : List (Nat × Action α)) (s' : Session σ)
    (actions' : List (Nat × Action α)) : Prop where
  answers : s.answers actions = s'.answers actions'
  handed : s.handed actions = s'.handed actions'
  transport : (s.run actions).1.transport = (s'.run actions').1.transport
  stats : ∀ index, (s.run actions).1.stats? index = (s'.run actions').1.stats? index

/-- Sessions and actions that differ in nothing but levels and sinks. -/
theorem worksAlike_of_muted {s s' : Session σ} {actions actions' : List (Nat × Action α)}
    (hsession : s.muted = s'.muted)
    (hactions : Action.mutedAll actions = Action.mutedAll actions') :
    WorksAlike s actions s' actions' := by
  -- without reports there is only one run
  obtain ⟨hend, hanswers⟩ := run_muted s actions
  obtain ⟨hend', hanswers'⟩ := run_muted s' actions'
  have hruns : (s.run actions).1.muted = (s'.run actions').1.muted := by
    rw [← hend, ← hend', hsession, hactions]
  have htransport : (s.run actions).1.muted.transport = (s'.run actions').1.muted.transport := by
    rw [hruns]
  refine ⟨?_, ?_, htransport, ?_⟩
  · calc
      s.answers actions = (s.muted.run (Action.mutedAll actions)).2.map (·.answer) :=
        hanswers.symm
      _ = (s'.muted.run (Action.mutedAll actions')).2.map (·.answer) := by
        rw [hsession, hactions]
      _ = s'.answers actions' := hanswers'
  · calc
      s.handed actions = s.muted.handed (Action.mutedAll actions) := (handed_muted s actions).symm
      _ = s'.muted.handed (Action.mutedAll actions') := by rw [hsession, hactions]
      _ = s'.handed actions' := handed_muted s' actions'
  · intro index
    calc
      (s.run actions).1.stats? index = (s.run actions).1.muted.stats? index :=
        (stats?_muted _ index).symm
      _ = (s'.run actions').1.muted.stats? index := by rw [hruns]
      _ = (s'.run actions').1.stats? index := stats?_muted _ index

end Muting

/-! ## Levels -/

/-- The levels of all clients. -/
def levels (s : Session σ) : List DebugLevel := s.handles.map (·.client.level)

theorem levels_withHandle (s : Session σ) (index : Nat) (handle : Handle) :
    (s.withHandle index handle).levels = s.levels.set index handle.client.level := by
  rw [levels, withHandle, List.map_set]
  rfl

/-- A client that is put back with its level. -/
theorem levels_withHandle_of_eq {s : Session σ} {index : Nat} {handle handle' : Handle}
    (hhandle : s.handles[index]? = some handle)
    (hlevel : handle'.client.level = handle.client.level) :
    (s.withHandle index handle').levels = s.levels := by
  rw [levels_withHandle, hlevel, ← levels_withHandle, withHandle_self hhandle]

/-- The level that a client is given by an action. -/
def given? (index : Nat) (told : Nat × Action α) : Option DebugLevel :=
  if told.1 = index then told.2.level? else none

/-- The level that a client is given last. -/
def lastGiven? (index : Nat) (actions : List (Nat × Action α)) : Option DebugLevel :=
  (actions.filterMap (given? index)).getLast?

variable [Transport σ]

/-- A clone starts with the level of its source, and a level is set for the client that is told to
and for no other. -/
theorem levels_step {s : Session σ} {index : Nat} {handle : Handle}
    (hhandle : s.handles[index]? = some handle) (action : Action α) :
    (s.step index action).1.levels =
      match action with
      | .clone => s.levels ++ [handle.client.level]
      | .setLevel level => s.levels.set index level
      | _ => s.levels := by
  rw [step, hhandle]
  cases action with
  | clone => exact List.map_append
  | setLevel level => exact levels_withHandle s index _
  | share other =>
      change (s.act index handle (.share other)).1.levels = s.levels
      rw [act]
      cases s.handles[other]? with
      | none => rfl
      | some source => exact levels_withHandle_of_eq hhandle rfl
  | newResolver policy =>
      let extended := { s with resolvers := s.resolvers ++ [Resolver.ofPolicy policy] }
      have hextended : extended.handles[index]? = some handle := hhandle
      exact levels_withHandle_of_eq hextended rfl
  | _ => rfl

theorem level_step (s : Session σ) {index : Nat} (hindex : index < s.levels.length)
    (told : Nat × Action α) :
    (s.step told.1 told.2).1.levels[index]? = (given? index told).or s.levels[index]? := by
  obtain ⟨other, action⟩ := told
  cases hhandle : s.handles[other]? with
  | none =>
      -- a client that does not exist is not the one at the index
      have hlength : s.handles.length ≤ other := List.getElem?_eq_none_iff.1 hhandle
      have hne : other ≠ index := by
        rw [levels, List.length_map] at hindex
        omega
      rw [step, hhandle, given?, if_neg hne, Option.none_or]
  | some handle =>
      rw [levels_step hhandle, given?]
      cases action with
      | clone =>
          simp only
          rw [List.getElem?_append_left hindex]
          simp [Action.level?]
      | setLevel level =>
          simp only
          rw [List.getElem?_set]
          by_cases hother : other = index
          · rw [if_pos hother, if_pos hother, hother, if_pos hindex]
            rfl
          · rw [if_neg hother, if_neg hother, Option.none_or]
      | _ => simp [Action.level?]

theorem length_levels_step (s : Session σ) (told : Nat × Action α) :
    s.levels.length ≤ (s.step told.1 told.2).1.levels.length := by
  obtain ⟨index, action⟩ := told
  cases hhandle : s.handles[index]? with
  | none => rw [step, hhandle]
  | some handle =>
      rw [levels_step hhandle]
      cases action with
      | clone => simp
      | setLevel level => simp
      | _ => exact Nat.le_refl _

/-- Whatever else is done, a client has the level that it was given last. -/
theorem level_run (s : Session σ) {index : Nat} (hindex : index < s.levels.length)
    (actions : List (Nat × Action α)) :
    (s.run actions).1.levels[index]? = (lastGiven? index actions).or s.levels[index]? := by
  induction actions generalizing s with
  | nil => rfl
  | cons told rest ih =>
      have hrest := ih (s.step told.1 told.2).1 (hindex.trans_le (length_levels_step s told))
      rw [level_step s hindex] at hrest
      rw [run, hrest, lastGiven?, lastGiven?, List.filterMap_cons, ← Option.or_assoc]
      -- a level that is given later takes the place of an earlier one
      cases given? index told with
      | none => rw [Option.or_none]
      | some level =>
          rw [List.getLast?_cons]
          cases (rest.filterMap (given? index)).getLast? <;> rfl

theorem levels_clone (s : Session σ) (index : Nat) :
    (s.step index (.clone : Action α)).1.levels = s.levels ++ s.levels[index]?.toList := by
  have hlevel : s.levels[index]? = s.handles[index]?.map (·.client.level) := List.getElem?_map
  rw [hlevel]
  cases hhandle : s.handles[index]? with
  | none =>
      rw [step, hhandle]
      exact (List.append_nil _).symm
  | some handle => exact levels_step hhandle .clone

/-! ## Nothing but reports -/

/-- Levels and sinks decide what is reported and nothing else.  Two sessions that differ in nothing
but these, and in the actions and calls that set levels, work alike.  A request without a level is
not reported; one at the full level is reported in the order of its story, as far as it got; and the
level between them shows the outline of that.  The level of a request is the one that was set last
for it, or else the one of the client that sends it, which is the one that was set last for this
very client, or else the one it began with; a clone begins with the level of its source. -/
theorem reports_only_observe (σ α : Type) [Transport σ] :
    -- nothing else depends on levels and sinks
    (∀ (s s' : Session σ) (actions actions' : List (Nat × Action α)), s.muted = s'.muted →
      Action.mutedAll actions = Action.mutedAll actions' → WorksAlike s actions s' actions') ∧
    (∀ (method : Method) (template : String) (calls : List Call),
      (Draft.ofCalls method template calls).muted =
        Draft.ofCalls method template (calls.filter fun call => call.level?.isNone)) ∧
    (∀ (config : Config) (level : DebugLevel),
      (Client.ofConfig { config with debug := level }).map Client.muted =
        (Client.ofConfig config).map Client.muted) ∧
    -- what is reported at which level
    (∀ (s : Session σ) (index : Nat) (action : Action α) (handle : Handle) (errand : Errand α),
      s.handles[index]? = some handle → action.errand? = some errand →
        handle.client.ReportsByLevel (s.resolverOf handle) s.transport errand.draft
          errand.responseFormat ∧
        ∃ lookups, (s.step index action).2.log =
          handle.client.sink.log lookups (handle.client.dispatch (s.resolverOf handle) s.transport
            errand.draft errand.responseFormat).diagnostics) ∧
    -- whose level it is
    (∀ (c : Client) (method : Method) (template : String) (calls : List Call) (codec : Codec),
      c.levelOf (.ofCalls method template calls) = (Call.lastLevel? calls).getD c.level ∧
        c.levelOf ((Draft.ofCalls method template calls).accepting codec) =
          (Call.lastLevel? calls).getD c.level) ∧
    (∀ (s : Session σ) (actions : List (Nat × Action α)) (index : Nat), index < s.levels.length →
      (s.run actions).1.levels[index]? = (lastGiven? index actions).or s.levels[index]?) ∧
    ∀ (s : Session σ) (index : Nat),
      (s.step index (.clone : Action α)).1.levels = s.levels ++ s.levels[index]?.toList := by
  refine ⟨?_, Draft.muted_ofCalls, Client.muted_ofConfig, ?_, ?_, ?_, levels_clone⟩
  · intro s s' actions actions' hsession hactions
    exact worksAlike_of_muted hsession hactions
  · intro s index action handle errand hhandle herrand
    refine ⟨Client.reportsByLevel_dispatch _ _ _ _ _, ?_⟩
    rw [step_of_errand hhandle herrand]
    exact ⟨_, rfl⟩
  · intro c method template calls codec
    have hlevel := c.levelOf_ofCalls method template calls
    refine ⟨hlevel, ?_⟩
    rw [Client.levelOf, Draft.level_accepting]
    exact hlevel
  · intro s actions index hindex
    exact level_run s hindex actions

/-- A client that reports in some detail, to a sink that keeps the reports. -/
def talkative (level : DebugLevel) : Client := { Client.sample with level, sink := .reports }

/-- A service that is busy. -/
def busyScript : Script := ⟨[.ok (Client.busy none)]⟩

/-- A request of a talkative client, and of one that is made talkative, for this request only. -/
theorem talkative_only_observes :
    WorksAlike (ofClient (talkative .verbose) busyScript)
      [(0, (.send (.ofCalls .get "/x" [.operation "Op"]) : Action Unit))]
      (ofClient Client.sample busyScript)
      [(0, .setLevel .none),
        (0, .send (.ofCalls .get "/x" [.level .veryVerbose, .operation "Op"]))] ∧
    ((ofClient (talkative .verbose) busyScript).step 0
      (.send Client.plainDraft : Action Unit)).2.log =
        .reports ((((talkative .veryVerbose).send (.ofPolicy .replace) busyScript
          Client.plainDraft).diagnostics.filter Diagnostic.isOutline).map
            (Diagnostic.atLevel .verbose)) ∧
    ((ofClient Client.sample busyScript).run
      [(0, (.setLevel .verbose : Action Unit)), (0, .clone)]).1.levels[0]? = some .verbose := by
  obtain ⟨hworks, -, -, hreports, -, hlevels, -⟩ := reports_only_observe Script Unit
  refine ⟨hworks _ _ _ _ rfl rfl, ?_, hlevels _ _ 0 Nat.one_pos⟩
  obtain ⟨hlevel, lookups, hlog⟩ := hreports (ofClient (talkative .verbose) busyScript) 0
    (.send Client.plainDraft) _ _ rfl rfl
  have houtline := hlevel.outline rfl (talkative .veryVerbose) Client.plainDraft rfl rfl rfl
  rw [hlog]
  exact congrArg Log.reports houtline

end Session

end RestTemplates
