/-
Starting a project (`workflows/start_workflow.py`): look for a session that can be reused, resolve
the target, open a Discord thread, write the session.  Each wait lets other requests run; between
two waits a request runs alone.
-/
import OpsCure.SessionService

namespace OpsCure.StartWorkflow

open Fallible Table Text SessionService

/-! ## Requests, profiles and sessions -/

structure StartRequest where
  projectName : String
  targetProjectName : Option String
  preset : Option String
  userId : String
  guildId : String
  parentChannelId : String
  workdirOverride : Option String
deriving DecidableEq, Repr

structure StartKey where
  projectName : String
  targetProjectName : Option String
  preset : Option String
  guildId : String
  parentChannelId : String
deriving DecidableEq, Repr

def StartRequest.key (request : StartRequest) : StartKey where
  projectName := request.projectName
  targetProjectName := request.targetProjectName
  preset := request.preset
  guildId := request.guildId
  parentChannelId := request.parentChannelId

/-- A registered profile, as far as a start reads it. -/
structure Manifest where
  profileName : String
  guildId : String
  parentChannelId : String
  allowedUserIds : List String
  resolvedDefaultTargetName : String
  defaultWorkdir : String
  finderRoots : List String
deriving DecidableEq, Repr

/-- The profiles the launchers have registered, by name. -/
abbrev Registry := List (String × Manifest)

/-- A row of `sessions`.  `openedFor` is no column: it names the start that wrote the row. -/
structure ProjectSession where
  projectName : String
  targetProjectName : String
  preset : String
  guildId : String
  parentChannelId : String
  workdir : String
  status : SessionStatus
  createdBy : String
  createdAt : Time
  closedAt : Option Time
  openedFor : StartKey
deriving DecidableEq, Repr

structure ProjectFind where
  status : String
  selectedPath : Option String
  selectedName : Option String
  reason : Option String
deriving DecidableEq, Repr

inductive StartError where
  | noProfiles
  | unknownProfile (preset : String) (available : List String)
  | severalProfiles (available : List String)
  | wrongGuild
  | wrongChannel
  | notAllowed
  | noFinderRoots (target preset : String)
  | stillRunning (target : String)
  | unresolved (target preset reason : String)
  | backToDefault (target workdir : String)
  | emptyWorkdir
  | external (text : String)
deriving DecidableEq, Repr

/-- `", ".join(sorted(available_presets)) or "(none)"`. -/
def renderAvailable (available : List String) : String :=
  let joined := ", ".intercalate (available.insertionSort (· ≤ ·))
  if joined = "" then "(none)" else joined

def StartError.text : StartError → String
  | noProfiles => "No profiles are currently registered by any launcher. " ++
      "Start the PC launcher first, then run /project start again."
  | unknownProfile preset available =>
      s!"Profile '{preset}' is not currently registered by any launcher. " ++
        s!"Available profiles: {renderAvailable available}"
  | severalProfiles available => "Multiple profiles are registered. Please provide " ++
      s!"/project start profile:<name>. Available profiles: {renderAvailable available}"
  | wrongGuild => "This project can only be started in its configured Discord guild."
  | wrongChannel => "This project can only be started from its configured parent channel."
  | notAllowed => "You are not allowed to start sessions for this project."
  | noFinderRoots target preset => s!"Target \x60{target}\x60 does not match profile " ++
      s!"\x60{preset}\x60 and this profile does not expose any finder roots for resolution."
  | stillRunning target => s!"Target resolution for \x60{target}\x60 is still running on the " ++
      "PC launcher. Try \x60/project start\x60 again in a moment."
  | unresolved target preset reason => s!"Opscure could not safely resolve \x60{target}\x60 " ++
      s!"with profile \x60{preset}\x60: {reason}"
  | backToDefault target workdir => s!"Target \x60{target}\x60 resolved back to the profile " ++
      s!"default workdir \x60{workdir}\x60. Refusing to start because the requested target and " ++
      "profile default still look mismatched."
  | emptyWorkdir => "Resolved workdir cannot be empty."
  | external text => text

/-- Python's own functions on texts and paths. -/
structure Paths where
  casefold : String → String
  basename : String → String
  /-- `_normalize_path_for_comparison`. -/
  normalize : String → String
  /-- `_canonical_workdir_value`. -/
  canonical : String → String

/-! ## Before the first wait -/

/-- `_resolve_manifest`. -/
def resolveManifest (registry : Registry) (preset : Option String) :
    Except StartError (Manifest × String) :=
  let available := registry.map Prod.fst
  match registry, Text.present preset with
  | [], _ => .error .noProfiles
  | _, true =>
      let name := preset.getD ""
      match registry.lookup name with
      | none => .error (.unknownProfile name available)
      | some manifest => .ok (manifest, name)
  | [(name, manifest)], false => .ok (manifest, name)
  | _, false =>
      match registry.lookup "sample" with
      | some manifest => .ok (manifest, "sample")
      | none => .error (.severalProfiles available)

/-- `_validate_session_start`. -/
def validateSessionStart (manifest : Manifest) (request : StartRequest) :
    Except StartError PUnit.{1} := do
  require (manifest.guildId = request.guildId) .wrongGuild
  require (manifest.parentChannelId = request.parentChannelId) .wrongChannel
  require (request.userId ∈ manifest.allowedUserIds) .notAllowed

/-- `(target_project_name or project_name).strip()`. -/
def StartRequest.requestedTarget (request : StartRequest) : String :=
  Text.strip (Text.orElse request.targetProjectName request.projectName)

/-- The session is in the request's channel, of the profile if one is known, and open. -/
def inReach (request : StartRequest) (selectedPreset : Option String) (row : ProjectSession) :
    Bool :=
  row.guildId = request.guildId ∧ row.parentChannelId = request.parentChannelId ∧
    row.closedAt = none ∧ selectedPreset.all (row.preset = ·)

def isSought (request : StartRequest) (selectedPreset : Option String) (row : ProjectSession) :
    Bool :=
  row.projectName = request.projectName ∧ row.targetProjectName = request.requestedTarget ∧
    inReach request selectedPreset row

/-- `START_REUSE_SESSION_STATUSES`. -/
def startReuseSessionStatuses : List SessionStatus :=
  [.requested, .wakingExecutionPlane, .awaitingLauncher, .waitingForWorkers, .launching,
    .restartingWorkers, .resumingJobs, .ready, .paused]

/-- The session has the target of the request, under whatever title, and can be reused. -/
def isReusable (request : StartRequest) (selectedPreset : Option String) (row : ProjectSession) :
    Bool :=
  row.targetProjectName = request.requestedTarget ∧ inReach request selectedPreset row ∧
    row.status ∈ startReuseSessionStatuses

/-- `created_at.desc()`. -/
def createdLater (left right : ProjectSession) : Bool := right.createdAt ≤ left.createdAt

/-- `_find_existing_session_id`. -/
def findExistingSessionId (sessions : List ProjectSession) (request : StartRequest)
    (selectedPreset : Option String) : Option Id :=
  let sought := firstBy createdLater (selectWhere (isSought request selectedPreset) sessions)
  let reusable := firstBy createdLater (selectWhere (isReusable request selectedPreset) sessions)
  (sought.or reusable).map (·.2)

section Resolving

variable (paths : Paths)

/-- `_matches_manifest_default_target`. -/
def matchesManifestDefaultTarget (manifest : Manifest) (requestedTarget : String) : Bool :=
  paths.casefold requestedTarget ∈
    [paths.casefold manifest.resolvedDefaultTargetName,
      paths.casefold (paths.basename manifest.defaultWorkdir),
      paths.casefold (paths.normalize manifest.defaultWorkdir),
      paths.casefold manifest.profileName]

/-- What is left to write when the Discord thread is there. -/
structure NewSession where
  manifest : Manifest
  preset : String
  targetProjectName : String
  workdir : String
deriving DecidableEq, Repr

/-- `_create_session_with_manifest`, up to its wait for the thread. -/
def newSession (manifest : Manifest) (preset targetProjectName : String)
    (workdirOverride : Option String) : Except StartError NewSession :=
  let resolvedWorkdir := Text.strip (Text.orElse workdirOverride manifest.defaultWorkdir)
  if resolvedWorkdir = "" then .error .emptyWorkdir
  else .ok ⟨manifest, preset, targetProjectName, resolvedWorkdir⟩

/-- What a start waits for next. -/
inductive Stage where
  | finding (manifest : Manifest) (preset : String)
  | threading (session : NewSession)
  | returning (session : Id)
  | returned (session : Id)
  | raised (error : StartError)
deriving DecidableEq, Repr

/-- A request that goes on to write a session, or fails. -/
def threadingOrRaised : Except StartError NewSession → Stage
  | .ok session => .threading session
  | .error error => .raised error

/-- `_resolve_target_workdir`, up to its wait for the finder. -/
def resolveTargetWorkdir (manifest : Manifest) (selectedPreset : String)
    (request : StartRequest) : Stage :=
  let requestedTarget := request.requestedTarget
  if Text.present request.workdirOverride then
    threadingOrRaised (newSession manifest selectedPreset requestedTarget request.workdirOverride)
  else if matchesManifestDefaultTarget paths manifest requestedTarget then
    threadingOrRaised (newSession manifest selectedPreset manifest.resolvedDefaultTargetName
      (some manifest.defaultWorkdir))
  else if manifest.finderRoots = [] then
    .raised (.noFinderRoots requestedTarget selectedPreset)
  else
    -- `enqueue_project_find` validates the request once more
    match validateSessionStart manifest request with
    | .error error => .raised error
    | .ok _ => .finding manifest selectedPreset

/-- `run`, up to its first wait.  A request that is not valid for its profile leaves the profile
chosen, and goes on. -/
def firstStage (sessions : List ProjectSession) (request : StartRequest) (registry : Registry) :
    Option String × Stage :=
  match resolveManifest registry request.preset with
  | .ok (manifest, selectedPreset) =>
      (some selectedPreset,
        match findExistingSessionId sessions request (some selectedPreset) with
        | some session => .returning session
        | none => resolveTargetWorkdir paths manifest selectedPreset request)
  | .error error =>
      (request.preset,
        match findExistingSessionId sessions request request.preset with
        | some session => .returning session
        | none => .raised error)

/-! ## After a wait -/

/-- The rest of `_resolve_target_workdir`, when the finder has answered or the wait is over. -/
def resolveFound (manifest : Manifest) (selectedPreset : String) (request : StartRequest)
    (answer : Option ProjectFind) : Except StartError NewSession :=
  let requestedTarget := request.requestedTarget
  match answer with
  | none => .error (.stillRunning requestedTarget)
  | some find =>
      if find.status ≠ "selected" ∨ ¬ Text.present find.selectedPath then
        .error (.unresolved requestedTarget selectedPreset
          (Text.orElse find.reason "no matching project path was selected"))
      else
        let path := find.selectedPath.getD ""
        if paths.casefold requestedTarget ≠ paths.casefold manifest.resolvedDefaultTargetName ∧
            paths.normalize path = paths.normalize manifest.defaultWorkdir then
          .error (.backToDefault requestedTarget manifest.defaultWorkdir)
        else newSession manifest selectedPreset (Text.orElse find.selectedName requestedTarget)
          (some (paths.canonical path))

/-- The row `_create_session_with_manifest` writes. -/
def createdRow (request : StartRequest) (session : NewSession) (now : Time) : ProjectSession where
  projectName := request.projectName
  targetProjectName := session.targetProjectName
  preset := session.preset
  guildId := session.manifest.guildId
  parentChannelId := session.manifest.parentChannelId
  workdir := session.workdir
  status := .requested
  createdBy := request.userId
  createdAt := now
  closedAt := none
  openedFor := request.key

/-! ## Runs -/

/-- A request under way.  `searched` counts the sessions there were when it looked for one, and
`selectedPreset` is the profile it looked for. -/
structure Start where
  request : StartRequest
  searched : Nat
  selectedPreset : Option String
  stage : Stage
deriving DecidableEq, Repr

structure State where
  sessions : List ProjectSession
  starts : List Start

def State.empty : State := ⟨[], []⟩

/-- What happens next: a request arrives; the finder answers one, or lets it wait too long; the
Discord thread of one is there, or is refused; one is through with recovery and announcements, or
they raise; a session is closed, or changes its status. -/
inductive Event where
  | arrive (request : StartRequest) (registry : Registry)
  | found (start : Id) (answer : Option ProjectFind)
  | threaded (start : Id) (refused : Option String) (now : Time)
  | finish (start : Id) (refused : Option String)
  | close (session : Id) (now : Time)
  | setStatus (session : Id) (status : SessionStatus)

def State.setStage (s : State) (start : Id) (under : Start) (stage : Stage) : State :=
  { s with starts := update s.starts start { under with stage := stage } }

def arrive (s : State) (request : StartRequest) (registry : Registry) : State :=
  let next := firstStage paths s.sessions request registry
  { s with
    starts := s.starts ++ [{
      request := request
      searched := s.sessions.length
      selectedPreset := next.1
      stage := next.2 }] }

def found (s : State) (start : Id) (answer : Option ProjectFind) : State :=
  match s.starts[start]? with
  | some under =>
      match under.stage with
      | .finding manifest preset =>
          s.setStage start under
            (threadingOrRaised (resolveFound paths manifest preset under.request answer))
      | _ => s
  | none => s

def threaded (s : State) (start : Id) (refused : Option String) (now : Time) : State :=
  match s.starts[start]? with
  | some under =>
      match under.stage, refused with
      | .threading session, none =>
          { s with sessions := s.sessions ++ [createdRow under.request session now] }.setStage start
            under (.returning s.sessions.length)
      | .threading _, some text => s.setStage start under (.raised (.external text))
      | _, _ => s
  | none => s

def finish (s : State) (start : Id) (refused : Option String) : State :=
  match s.starts[start]? with
  | some under =>
      match under.stage, refused with
      | .returning session, none => s.setStage start under (.returned session)
      | .returning _, some text => s.setStage start under (.raised (.external text))
      | _, _ => s
  | none => s

def close (s : State) (session : Id) (now : Time) : State :=
  match s.sessions[session]? with
  | some row =>
      { s with sessions := update s.sessions session { row with
          closedAt := row.closedAt.or (some now) } }
  | none => s

def setStatus (s : State) (session : Id) (status : SessionStatus) : State :=
  match s.sessions[session]? with
  | some row => { s with sessions := update s.sessions session { row with status := status } }
  | none => s

def step (s : State) : Event → State
  | .arrive request registry => arrive paths s request registry
  | .found start answer => found paths s start answer
  | .threaded start refused now => threaded s start refused now
  | .finish start refused => finish s start refused
  | .close session now => close s session now
  | .setStatus session status => setStatus s session status

end Resolving

end OpsCure.StartWorkflow
