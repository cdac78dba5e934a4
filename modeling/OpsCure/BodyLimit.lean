/-
The cap on request bodies (`security/bounds.py`, `BodySizeLimitMiddleware`): a wrapper around what
an application receives and sends.  The two streams interleave as the application likes; the
wrapper answers for it when the body has passed the cap before a response was started.
-/
import OpsCure.Library.Run
import OpsCure.Library.Text
import Mathlib.Algebra.GroupWithZero.Nat

namespace OpsCure.Bounds

open Run

/-! ## Messages -/

abbrev Bytes := List UInt8

/-- What the server hands to the application. -/
inductive Received where
  | request (body : Option Bytes) (moreBody : Bool)
  | other (type : String)
deriving DecidableEq, Repr

/-- What the application sends to the client. -/
inductive Sent where
  | responseStart (status : Nat) (headers : List (String × String))
  | responseBody (body : Bytes) (moreBody : Bool)
  | other (type : String)
deriving DecidableEq, Repr

/-- `len(message.get("body", b""))`. -/
def Received.size : Received → Nat
  | .request body _ => (body.getD []).length
  | .other _ => 0

def Sent.isStart : Sent → Bool
  | .responseStart _ _ => true
  | _ => false

structure Scope where
  type : String
  headers : List (String × String)
deriving DecidableEq, Repr

/-- A step of the application: a receive of it ends with a message of the server, or it sends. -/
inductive AppStep where
  | receive (message : Received)
  | send (message : Sent)
deriving DecidableEq, Repr

inductive Ending where
  | returns
  | raises (error : String)
deriving DecidableEq, Repr

/-! ## The middleware -/

structure BodySizeLimit where
  maxBytes : Nat
  logOnly : Bool
deriving DecidableEq, Repr

/-- The first `content-length` header, if it is a number. -/
def declared (scope : Scope) : Option Int :=
  (scope.headers.lookup "content-length").bind Text.parseInt

def bodyTooLargeBody : Bytes :=
  ("\x7b\"detail\":\"request body exceeds the configured maximum\"," ++
    "\"code\":\"body.too_large\"\x7d").toList.map fun c => c.toNat.toUInt8

/-- `_reject`. -/
def reject : List Sent :=
  [.responseStart 413 [("content-type", "application/json"),
      ("content-length", toString bodyTooLargeBody.length)],
    .responseBody bodyTooLargeBody false]

/-- The variables of one call, with what was handed to the application and sent to the client. -/
structure Guard where
  bytesSeen : Nat
  rejected : Bool
  appStarted : Bool
  handed : List Received
  sent : List Sent
deriving DecidableEq, Repr

def Guard.start : Guard := ⟨0, false, false, [], []⟩

def endOfStream : Received := .request (some []) false

/-- `bounded_receive`, when the receive of the server ends. -/
def boundedReceive (maxBytes : Nat) (guard : Guard) (message : Received) : Guard :=
  if guard.rejected then { guard with handed := guard.handed ++ [endOfStream] }
  else match message with
    | .other _ => { guard with handed := guard.handed ++ [message] }
    | .request body _ =>
        let bytesSeen := guard.bytesSeen + (body.getD []).length
        if maxBytes < bytesSeen then
          { guard with bytesSeen, rejected := true, handed := guard.handed ++ [endOfStream] }
        else { guard with bytesSeen, handed := guard.handed ++ [message] }

/-- `guard_send`. -/
def guardSend (guard : Guard) (message : Sent) : Guard :=
  if guard.rejected then guard
  else { guard with appStarted := true, sent := guard.sent ++ [message] }

def guarded (maxBytes : Nat) (guard : Guard) : AppStep → Guard
  | .receive message => boundedReceive maxBytes guard message
  | .send message => guardSend guard message

/-- What the application was handed, and what the client was sent. -/
structure Exchange where
  handed : List Received
  sent : List Sent
  raised : Option String
deriving DecidableEq, Repr

def Ending.raised : Ending → Option String
  | .returns => none
  | .raises error => some error

def received? : AppStep → Option Received
  | .receive message => some message
  | .send _ => none

def sent? : AppStep → Option Sent
  | .receive _ => none
  | .send message => some message

def receivedIn (steps : List AppStep) : List Received := steps.filterMap received?

def sentIn (steps : List AppStep) : List Sent := steps.filterMap sent?

/-- The application without a wrapper. -/
def passThrough (steps : List AppStep) (ending : Ending) : Exchange :=
  ⟨receivedIn steps, sentIn steps, ending.raised⟩

/-- `__call__`, on an application that behaves like this.  An error of the application passes. -/
def call (config : BodySizeLimit) (scope : Scope) (steps : List AppStep) (ending : Ending) :
    Exchange :=
  if scope.type ≠ "http" then passThrough steps ending
  else if (declared scope).any fun length => (config.maxBytes : Int) < length then
    if config.logOnly then passThrough steps ending else ⟨[], reject, none⟩
  else if config.logOnly then passThrough steps ending
  else
    let guard := run (guarded config.maxBytes) .start steps
    match ending with
    | .raises error => ⟨guard.handed, guard.sent, some error⟩
    | .returns =>
        ⟨guard.handed, guard.sent ++ (if guard.rejected ∧ ¬ guard.appStarted then reject else []),
          none⟩

/-! ## An airtight cap -/

def bytesIn (messages : List Received) : Nat := (messages.map Received.size).sum

def startsIn (messages : List Sent) : Nat := messages.countP Sent.isStart

/-- The steps before the receive that takes the body past what is left of the cap. -/
def beforeOverflow (room : Nat) : List AppStep → List AppStep
  | [] => []
  | .send message :: rest => .send message :: beforeOverflow room rest
  | .receive message :: rest =>
      if room < message.size then []
      else .receive message :: beforeOverflow (room - message.size) rest

/-- The body that the application receives passes the cap. -/
def Overflows (maxBytes : Nat) (steps : List AppStep) : Prop :=
  maxBytes < bytesIn (receivedIn steps)

instance (maxBytes : Nat) (steps : List AppStep) : Decidable (Overflows maxBytes steps) :=
  inferInstanceAs (Decidable (maxBytes < bytesIn (receivedIn steps)))

def answers413 (messages : List Sent) : Prop :=
  ∃ headers, Sent.responseStart 413 headers ∈ messages

/-- The application gets no more body than the cap, the client no second start of a response, and
a body that passes the cap before a response has started is answered. -/
structure Airtight (config : BodySizeLimit) (scope : Scope) (steps : List AppStep)
    (ending : Ending) : Prop where
  capped : bytesIn (call config scope steps ending).handed ≤ config.maxBytes
  oneStart : startsIn (call config scope steps ending).sent ≤ 1
  answered : Overflows config.maxBytes steps →
    startsIn (sentIn (beforeOverflow config.maxBytes steps)) = 0 →
    answers413 (call config scope steps ending).sent

def BodySizeLimit.enforces (config : BodySizeLimit) (scope : Scope) : Prop :=
  scope.type = "http" ∧ config.logOnly = false

/-- The header alone tells that the body is too large. -/
def BodySizeLimit.refusesUnread (config : BodySizeLimit) (scope : Scope) : Prop :=
  (declared scope).any (fun length => (config.maxBytes : Int) < length) = true

/-- What the wrapper does where it enforces the cap.  Of what the application sends it keeps back
what comes after the body has passed the cap, and no more. -/
structure Enforced (config : BodySizeLimit) (scope : Scope) (steps : List AppStep)
    (ending : Ending) : Prop where
  capped : bytesIn (call config scope steps ending).handed ≤ config.maxBytes
  starts : startsIn (call config scope steps ending).sent ≤
    max 1 (startsIn (sentIn (beforeOverflow config.maxBytes steps)))
  unread : config.refusesUnread scope → (call config scope steps ending).handed = [] ∧
    answers413 (call config scope steps ending).sent
  answered : Overflows config.maxBytes steps → sentIn (beforeOverflow config.maxBytes steps) = [] →
    ending = .returns → answers413 (call config scope steps ending).sent

/-! ## The wrapper in step with the application -/

section
variable {maxBytes : Nat}

theorem bytesIn_concat (messages : List Received) (message : Received) :
    bytesIn (messages ++ [message]) = bytesIn messages + message.size := by
  simp [bytesIn]

theorem receivedIn_receive (message : Received) (rest : List AppStep) :
    receivedIn (.receive message :: rest) = message :: receivedIn rest := rfl

theorem receivedIn_send (message : Sent) (rest : List AppStep) :
    receivedIn (.send message :: rest) = receivedIn rest := rfl

theorem sentIn_receive (message : Received) (rest : List AppStep) :
    sentIn (.receive message :: rest) = sentIn rest := rfl

theorem sentIn_send (message : Sent) (rest : List AppStep) :
    sentIn (.send message :: rest) = message :: sentIn rest := rfl

theorem boundedReceive_within {guard : Guard} (hopen : guard.rejected = false)
    {message : Received}
    (hwithin : guard.bytesSeen + message.size ≤ maxBytes) :
    boundedReceive maxBytes guard message =
      { guard with
        bytesSeen := guard.bytesSeen + message.size
        handed := guard.handed ++ [message] } := by
  cases message with
  | other => simp [boundedReceive, hopen, Received.size]
  | request body =>
      have hfits : ¬ maxBytes < guard.bytesSeen + (body.getD []).length := Nat.not_lt.mpr hwithin
      simp [boundedReceive, hopen, Received.size, hfits]

theorem boundedReceive_past {guard : Guard} (hopen : guard.rejected = false)
    {message : Received} (hseen : guard.bytesSeen ≤ maxBytes)
    (hpast : maxBytes < guard.bytesSeen + message.size) :
    boundedReceive maxBytes guard message =
      { guard with
        bytesSeen := guard.bytesSeen + message.size
        rejected := true
        handed := guard.handed ++ [endOfStream] } := by
  cases message with
  | other => exact absurd hseen (Nat.not_le.mpr hpast)
  | request body =>
      have hlarge : maxBytes < guard.bytesSeen + (body.getD []).length := hpast
      simp [boundedReceive, hopen, Received.size, hlarge]

theorem run_rejected {guard : Guard} (hrejected : guard.rejected = true) (steps : List AppStep) :
    (run (guarded maxBytes) guard steps).rejected = true ∧
      (run (guarded maxBytes) guard steps).sent = guard.sent ∧
      (run (guarded maxBytes) guard steps).appStarted = guard.appStarted ∧
      bytesIn (run (guarded maxBytes) guard steps).handed = bytesIn guard.handed := by
  induction steps generalizing guard with
  | nil => exact ⟨hrejected, rfl, rfl, rfl⟩
  | cons step rest ih =>
      cases step with
      | send message =>
          have hsame : guarded maxBytes guard (.send message) = guard := if_pos hrejected
          rw [run_cons, hsame]
          exact ih hrejected
      | receive message =>
          have hnext : guarded maxBytes guard (.receive message) =
              { guard with handed := guard.handed ++ [endOfStream] } := if_pos hrejected
          rw [run_cons, hnext]
          obtain ⟨hstays, hsent, hstarted, hhanded⟩ :=
            @ih { guard with handed := guard.handed ++ [endOfStream] } hrejected
          exact ⟨hstays, hsent, hstarted, hhanded.trans (bytesIn_concat _ endOfStream)⟩

/-- Before it, everything gets through up to the receive that passes the cap. -/
theorem run_open {guard : Guard} (hopen : guard.rejected = false)
    (hseen : guard.bytesSeen ≤ maxBytes) (hhanded : bytesIn guard.handed = guard.bytesSeen)
    (steps : List AppStep) :
    let after := run (guarded maxBytes) guard steps
    let early := sentIn (beforeOverflow (maxBytes - guard.bytesSeen) steps)
    (after.rejected = true ↔ maxBytes < guard.bytesSeen + bytesIn (receivedIn steps)) ∧
      after.sent = guard.sent ++ early ∧
      (after.appStarted = true ↔ guard.appStarted = true ∨ early ≠ []) ∧
      bytesIn after.handed ≤ maxBytes := by
  induction steps generalizing guard with
  | nil =>
      refine ⟨?_, (List.append_nil _).symm, ?_, ?_⟩
      · rw [run_nil, hopen]
        simp [receivedIn, bytesIn]
        exact hseen
      · simp [beforeOverflow, sentIn]
      · rw [run_nil, hhanded]
        exact hseen
  | cons step rest ih =>
      cases step with
      | send message =>
          have hnext : guarded maxBytes guard (.send message) =
              { guard with appStarted := true, sent := guard.sent ++ [message] } :=
            if_neg (by simp [hopen])
          obtain ⟨hrejected, hsent, hstarted, hbytes⟩ :=
            @ih { guard with appStarted := true, sent := guard.sent ++ [message] } hopen hseen
              hhanded
          simp only [run_cons, hnext, beforeOverflow, sentIn_send, receivedIn_send]
          refine ⟨hrejected, ?_, ?_, hbytes⟩
          · rw [hsent, List.append_assoc]
            rfl
          · rw [hstarted]
            simp
      | receive message =>
          by_cases hpast : maxBytes < guard.bytesSeen + message.size
          · have hnext := boundedReceive_past hopen hseen hpast
            have hroom : maxBytes - guard.bytesSeen < message.size := by omega
            obtain ⟨hstays, hsent, hstarted, hbytes⟩ :=
              @run_rejected maxBytes (boundedReceive maxBytes guard message)
                (by rw [hnext]) rest
            have hguarded : guarded maxBytes guard (.receive message) =
                boundedReceive maxBytes guard message := rfl
            simp only [run_cons, hguarded, beforeOverflow, if_pos hroom, receivedIn_receive]
            refine ⟨?_, ?_, ?_, ?_⟩
            · refine iff_of_true hstays ?_
              simp only [bytesIn, List.map_cons, List.sum_cons] at *
              omega
            · rw [hsent, hnext]
              exact (List.append_nil _).symm
            · rw [hstarted, hnext]
              simp [sentIn]
            · rw [hbytes, hnext, bytesIn_concat, hhanded]
              exact hseen
          · have hwithin : guard.bytesSeen + message.size ≤ maxBytes := Nat.not_lt.mp hpast
            have hnext := boundedReceive_within hopen hwithin
            have hroom : ¬ maxBytes - guard.bytesSeen < message.size := by omega
            have hguarded : guarded maxBytes guard (.receive message) =
                boundedReceive maxBytes guard message := rfl
            obtain ⟨hrejected, hsent, hstarted, hbytes⟩ :=
              @ih (boundedReceive maxBytes guard message) (by rw [hnext]; exact hopen)
                (by rw [hnext]; exact hwithin)
                (by rw [hnext]; exact (bytesIn_concat _ _).trans (by rw [hhanded]))
            rw [hnext] at hrejected hsent hstarted hbytes
            have hleft : maxBytes - (guard.bytesSeen + message.size) =
                maxBytes - guard.bytesSeen - message.size := by omega
            rw [hleft] at hsent hstarted
            simp only [run_cons, hguarded, beforeOverflow, if_neg hroom, receivedIn_receive,
              sentIn_receive, hnext]
            refine ⟨?_, hsent, hstarted, hbytes⟩
            rw [hrejected]
            simp only [bytesIn, List.map_cons, List.sum_cons]
            omega

theorem run_start (steps : List AppStep) :
    let after := run (guarded maxBytes) .start steps
    let early := sentIn (beforeOverflow maxBytes steps)
    (after.rejected = true ↔ Overflows maxBytes steps) ∧ after.sent = early ∧
      (after.appStarted = true ↔ early ≠ []) ∧ bytesIn after.handed ≤ maxBytes := by
  obtain ⟨hrejected, hsent, hstarted, hbytes⟩ :=
    @run_open maxBytes .start rfl (Nat.zero_le _) rfl steps
  simp only [Guard.start, Nat.sub_zero, Nat.zero_add, List.nil_append, Bool.false_eq_true,
    false_or] at hrejected hsent hstarted hbytes
  exact ⟨hrejected, hsent, hstarted, hbytes⟩

end

theorem answers413_reject : answers413 reject := by
  refine ⟨_, List.mem_cons_self⟩

theorem startsIn_append (first second : List Sent) :
    startsIn (first ++ second) = startsIn first + startsIn second :=
  List.countP_append

section
variable {config : BodySizeLimit} {scope : Scope} {steps : List AppStep}

theorem call_passThrough (hpasses : ¬ config.enforces scope) (ending : Ending) :
    call config scope steps ending = passThrough steps ending := by
  by_cases hhttp : scope.type = "http"
  · have hlogOnly : config.logOnly = true := by
      by_contra henforced
      exact hpasses ⟨hhttp, Bool.not_eq_true _ ▸ henforced⟩
    simp [call, hhttp, hlogOnly]
  · simp [call, hhttp]

theorem call_unread (henforced : config.enforces scope) (hunread : config.refusesUnread scope)
    (ending : Ending) : call config scope steps ending = ⟨[], reject, none⟩ := by
  obtain ⟨hhttp, hlogOnly⟩ := henforced
  have hlarge : (declared scope).any (fun length => (config.maxBytes : Int) < length) = true :=
    hunread
  simp only [call, hhttp, hlarge, hlogOnly, ne_eq, not_true_eq_false, if_false, if_true,
    Bool.false_eq_true]

theorem call_guarded (henforced : config.enforces scope) (hread : ¬ config.refusesUnread scope)
    (ending : Ending) :
    let guard := run (guarded config.maxBytes) .start steps
    (call config scope steps ending).handed = guard.handed ∧
      (call config scope steps ending).sent = guard.sent ++
        (if ending = .returns ∧ guard.rejected = true ∧ guard.appStarted = false then reject
          else []) := by
  obtain ⟨hhttp, hlogOnly⟩ := henforced
  have hsmall : (declared scope).any (fun length => (config.maxBytes : Int) < length) = false :=
    Bool.not_eq_true _ ▸ hread
  simp only [call, hhttp, hsmall, hlogOnly, ne_eq, not_true_eq_false, if_false,
    Bool.false_eq_true]
  cases ending with
  | returns => simp
  | raises => simp

theorem enforced_of_unread (henforced : config.enforces scope)
    (hunread : config.refusesUnread scope) (ending : Ending) :
    Enforced config scope steps ending := by
  have hcall := @call_unread config scope steps henforced hunread ending
  constructor
  · rw [hcall]
    exact Nat.zero_le _
  · rw [hcall]
    exact Nat.le_max_left 1 _
  · intro _
    rw [hcall]
    exact ⟨rfl, answers413_reject⟩
  · intro _ _ _
    rw [hcall]
    exact answers413_reject

theorem enforced_of_read (henforced : config.enforces scope)
    (hread : ¬ config.refusesUnread scope) (ending : Ending) :
    Enforced config scope steps ending := by
  obtain ⟨hhanded, hsent⟩ := @call_guarded config scope steps henforced hread ending
  obtain ⟨hrejected, hearly, hstarted, hbytes⟩ := @run_start config.maxBytes steps
  constructor
  · rw [hhanded]
    exact hbytes
  · rw [hsent, startsIn_append, hearly]
    by_cases hanswers : ending = .returns ∧
        (run (guarded config.maxBytes) .start steps).rejected = true ∧
        (run (guarded config.maxBytes) .start steps).appStarted = false
    · -- The wrapper's own start comes only where the application has sent nothing.
      have hnothing : sentIn (beforeOverflow config.maxBytes steps) = [] := by
        by_contra hsomething
        exact Bool.false_ne_true (hanswers.2.2.symm.trans (hstarted.mpr hsomething))
      rw [if_pos hanswers, hnothing]
      exact Nat.le_max_left 1 _
    · rw [if_neg hanswers]
      exact Nat.le_max_right 1 _
  · intro hunread
    exact absurd hunread hread
  · intro hoverflows hnothing hreturns
    have hquiet : (run (guarded config.maxBytes) .start steps).appStarted = false := by
      by_contra hnoisy
      exact hstarted.mp (Bool.not_eq_false _ ▸ hnoisy) hnothing
    rw [hsent, if_pos ⟨hreturns, hrejected.mpr hoverflows, hquiet⟩, hearly, hnothing]
    exact answers413_reject

end

/-- The cap holds wherever it is enforced.  With `log_only`, and on a scope that is not HTTP, the
wrapper changes nothing. -/
theorem call_enforced (config : BodySizeLimit) (scope : Scope) (steps : List AppStep)
    (ending : Ending) :
    (config.enforces scope → Enforced config scope steps ending) ∧
      (¬ config.enforces scope → call config scope steps ending = passThrough steps ending) := by
  constructor
  · intro henforced
    by_cases hunread : config.refusesUnread scope
    · exact enforced_of_unread henforced hunread ending
    · exact enforced_of_read henforced hunread ending
  · intro hpasses
    exact call_passThrough hpasses ending

def twoBytes : AppStep := .receive (.request (some [0, 0]) false)

/-- A cap of one byte lets two pass where it only logs, and does not keep an application from
starting its response twice.  Two bytes stay unanswered when the application raises, or has pushed
a resource before. -/
theorem not_airtight :
    ¬ Airtight ⟨1, true⟩ ⟨"http", []⟩ [twoBytes] .returns ∧
      ¬ Airtight ⟨1, false⟩ ⟨"http", []⟩
        [.send (.responseStart 200 []), .send (.responseStart 200 [])] .returns ∧
      ¬ Airtight ⟨1, false⟩ ⟨"http", []⟩ [twoBytes] (.raises "RuntimeError") ∧
      ¬ Airtight ⟨1, false⟩ ⟨"http", []⟩ [.send (.other "http.response.push"), twoBytes]
        .returns := by
  refine ⟨?_, ?_, ?_, ?_⟩
  · intro hairtight
    exact absurd hairtight.capped (by decide)
  · intro hairtight
    exact absurd hairtight.oneStart (by decide)
  · intro hairtight
    obtain ⟨headers, hanswer⟩ := hairtight.answered (by decide) (by decide)
    simp [call, declared, twoBytes, guarded, boundedReceive, Guard.start] at hanswer
  · intro hairtight
    obtain ⟨headers, hanswer⟩ := hairtight.answered (by decide) (by decide)
    simp [call, declared, twoBytes, guarded, boundedReceive, guardSend, Guard.start] at hanswer

end OpsCure.Bounds
