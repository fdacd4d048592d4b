import Minghe.Sip.Components
import Minghe.Sip.Delivered
import Minghe.Sip.Entries
import Minghe.Sip.Responses

/-!
# Jobs and their responses

What an event of the whole server is for the executions of `process_sip_message`: one begins, or one goes on.

* `Answers`: a text is a response to a request, with a status that its branch has and the reason for it, and
  it reads as one.
* `Pc.Fits`, `CallPc.Fits`: an execution of a handler is at a place of the handler.
* `Stands`, `Given`: a job is at a place of its branch, and has had the response that is owed there.
* `left`: how often a job has to go on before it is at its end.
* `Accounted`: the jobs and the responses of a state match.
* `job_step`: all that an event does to the jobs: none moves, one begins or one goes on.
* `run_accounted`: in every run every job is where its execution in the router or the message service is.
-/

namespace Minghe.Sip

open Minghe.Lib
open Minghe.Media.Relay (MediaRelayManager)
open Minghe.Media.Srtp (Base64)

/-- What a handler of the router returns: statuses, with their reasons. -/
def Handler.outcomes : Handler → List (Nat × Str)
  | .invite => [(100, "Trying".toList), (403, "Forbidden".toList), (404, "Not Found".toList),
      (480, "Temporarily Unavailable".toList), (488, "Not Acceptable Here".toList),
      (500, "Internal Server Error".toList), (503, "Service Unavailable".toList)]
  | .response | .ack => []
  | .bye | .cancel => [(200, "OK".toList), (481, "Call/Transaction Does Not Exist".toList)]

/-- What a branch of `process_sip_message` responds. -/
def Branch.outcomes : Branch → List (Nat × Str)
  | .ignore => []
  | .register => [(200, "OK".toList), (400, "Bad Request".toList), (401, "Unauthorized".toList),
      (403, "Forbidden".toList)]
  | .route handler => handler.outcomes
  | .message => (200, "OK".toList) :: (503, "Service Unavailable".toList) :: MessageConfig.refusals
  | .options => [(200, "OK".toList)]
  | .unsupported => [(405, "Method Not Allowed".toList)]

/-- The headers that a response has besides those of the request. -/
def ownNames : List Str :=
  ["WWW-Authenticate".toList, "Contact".toList, "Expires".toList, "Allow".toList, "Accept".toList]

/-- A text is a response to a request, with one of some statuses and the reason for it, and without other
headers of its own than these. It reads as one, too. -/
def Answers (outcomes : List (Nat × Str)) (request response : Str) : Prop :=
  ∃ outcome ∈ outcomes, RespondsTo request outcome.1 response ∧ ∃ extraHeaders random,
    (∀ h ∈ extraHeaders, h.1 ∈ ownNames) ∧
      response = buildResponseWithHeaders request outcome.1 outcome.2 extraHeaders (generateTag random)

/-- A reason is one line, and a status a `u16`. -/
theorem Branch.outcomes_spec (branch : Branch) :
    ∀ outcome ∈ branch.outcomes, '\n' ∉ outcome.2 ∧ outcome.1 < 2 ^ 16 := by
  cases branch with
  | route handler => cases handler <;> decide
  | _ => decide

/-- **What a branch builds** is such a response. -/
theorem answers_of_built {branch : Branch} {statusCode : Nat} {reason : Str}
    (h : (statusCode, reason) ∈ branch.outcomes) (request : Str) {extraHeaders : List (Str × Str)}
    (hown : ∀ h ∈ extraHeaders, h.1 ∈ ownNames) (random : Vector UInt8 8) :
    Answers branch.outcomes request
      (buildResponseWithHeaders request statusCode reason extraHeaders (generateTag random)) := by
  obtain ⟨hreason, hstatus⟩ := branch.outcomes_spec _ h
  refine ⟨_, h, ?_, _, _, hown, rfl⟩
  rw [buildResponseWithHeaders_eq]
  exact respondsTo_buildResponseWithBody hreason hstatus

/-- Without headers of its own as well. -/
theorem answers_buildResponse {branch : Branch} {statusCode : Nat} {reason : Str}
    (h : (statusCode, reason) ∈ branch.outcomes) (request : Str) (random : Vector UInt8 8) :
    Answers branch.outcomes request (buildResponse request statusCode reason (generateTag random)) := by
  rw [buildResponse_eq, ← buildResponseWithHeaders_eq]
  exact answers_of_built h request (fun h hh => absurd hh List.not_mem_nil) random

/-! ## The handlers of the router -/

/-- The places of the executions of a handler, with a result that it may have. -/
def Pc.Fits (handler : Handler) (text : Str) : Pc → Prop
  | .invite _ _ => handler = .invite
  | .reject _ _ | .forward _ _ _ => handler = .response
  | .ack _ => handler = .ack
  | .bye _ _ => handler = .bye
  | .cancel _ _ _ _ | .terminate _ _ => handler = .cancel
  | .done none => handler = .response ∨ handler = .ack
  | .done (some (_, response)) => Answers handler.outcomes text response
  | .panicked => True

/-- How many sends there may be before the end. -/
def Pc.sends : Pc → Nat
  | .cancel _ _ _ _ => 2
  | .invite _ _ | .reject _ _ | .forward _ _ _ | .ack _ | .bye _ _ | .terminate _ _ => 1
  | .done _ | .panicked => 0

theorem Pc.sends_le (pc : Pc) : pc.sends ≤ 2 := by
  cases pc <;> simp [sends]

namespace Router

variable {cfg : RouterConfig} {B : Base64}

theorem fits_reply {handler : Handler} {statusCode : Nat} {reason : String}
    (h : (statusCode, reason.toList) ∈ handler.outcomes) (msg : Incoming) (d : Draw) :
    (Pc.done (reply msg d statusCode reason)).Fits handler msg.text :=
  answers_buildResponse (show (statusCode, reason.toList) ∈ (Branch.route handler).outcomes from h)
    msg.text d.tag

theorem fits_cleanupThen {handler : Handler} {text : Str} {result : Option (Nat × Str)}
    (h : (Pc.done result).Fits handler text) (callId : Str) (s : Router) :
    (cleanupThen callId result s).1.Fits handler text := by
  unfold cleanupThen
  split
  · trivial
  · exact h

theorem sends_cleanupThen (callId : Str) (result : Option (Nat × Str)) (s : Router) :
    (cleanupThen callId result s).1.sends = 0 := by
  unfold cleanupThen
  split <;> rfl

/-- What the checks of `handle_invite` on the callee and the SDP refuse with. -/
theorem outcome_of_planInvite {calleeExt text : Str} {now : Nat} {s : Router} {statusCode : Nat}
    {reason : String} (h : planInvite cfg B calleeExt text now s = .ok (.error (statusCode, reason))) :
    (statusCode, reason.toList) ∈ Handler.invite.outcomes := by
  have hcode : ∀ {code : Nat} {why : String}, (code, why.toList) ∈ Handler.invite.outcomes →
      (Except.ok (.error (code, why)) : Checked (Except (Nat × String) InvitePlan)) =
        .ok (.error (statusCode, reason)) → (statusCode, reason.toList) ∈ Handler.invite.outcomes := by
    rintro code why hcode ⟨⟩
    exact hcode
  unfold planInvite at h
  split at h
  · obtain ⟨_, -, h⟩ := Res.bind_eq_ok.mp h
    exact hcode (by decide) h
  split at h
  · exact hcode (by decide) h
  obtain ⟨body, -, h⟩ := Res.bind_eq_ok.mp h
  split at h
  · exact hcode (by decide) h
  split at h
  · exact hcode (by decide) h
  · cases h

theorem fits_openCall (id : Nat) (msg : Incoming) (d : Draw) (callerExt calleeExt callId callerTag : Str)
    (plan : InvitePlan) (session : Minghe.Media.Relay.RelaySession) (s : Router) :
    (openCall cfg B id msg d callerExt calleeExt callId callerTag plan session s).1.Fits .invite msg.text := by
  unfold openCall
  split
  · trivial
  · split
    · trivial
    · exact rfl

theorem fits_acceptInvite (id : Nat) (msg : Incoming) (d : Draw) (callerExt calleeExt callId callerTag : Str)
    (s : Router) :
    (s.acceptInvite cfg B id msg d callerExt calleeExt callId callerTag).1.Fits .invite msg.text := by
  unfold acceptInvite
  split
  · trivial
  dsimp only
  split
  · trivial
  · rename_i hplan
    exact fits_reply (outcome_of_planInvite hplan) msg d
  · split
    · exact fits_reply (by decide) msg d
    · exact fits_openCall ..

theorem fits_handleInvite (id : Nat) (msg : Incoming) (d : Draw) (s : Router) :
    (s.handleInvite cfg B id msg d).1.Fits .invite msg.text := by
  have hforbidden : (Pc.done (reply msg d 403 "Forbidden")).Fits .invite msg.text :=
    fits_reply (by decide) msg d
  unfold handleInvite
  split
  · exact hforbidden
  split
  · split
    · split
      · exact fits_acceptInvite ..
      · trivial
    · exact hforbidden
  · trivial

theorem fits_passOn (callId : Str) (statusCode : Nat) (msg : Incoming) (d : Draw) (c : CallInfo) :
    (passOn cfg B callId statusCode msg d c).Fits .response msg.text := by
  unfold passOn
  dsimp only
  split
  · exact rfl
  split
  · trivial
  · exact rfl
  · exact rfl

theorem fits_handleCalleeResponse (msg : Incoming) (d : Draw) (s : Router) :
    (s.handleCalleeResponse cfg B msg d).1.Fits .response msg.text := by
  unfold handleCalleeResponse
  split
  · trivial
  · exact .inl rfl
  split
  · exact .inl rfl
  split
  · trivial
  split
  · exact .inl rfl
  dsimp only
  split
  · trivial
  · exact fits_passOn ..

theorem fits_handleAck (msg : Incoming) (d : Draw) (s : Router) :
    (s.handleAck cfg msg d).1.Fits .ack msg.text := by
  unfold handleAck
  split
  · trivial
  · exact .inr rfl
  split
  · trivial
  split
  · exact .inr rfl
  split
  · exact .inr rfl
  · split
    · trivial
    · exact rfl

theorem fits_handleBye (msg : Incoming) (d : Draw) (s : Router) :
    (s.handleBye cfg msg d).1.Fits .bye msg.text := by
  have hnone : (Pc.done (noCall msg d)).Fits .bye msg.text := fits_reply (by decide) msg d
  unfold handleBye
  split
  · trivial
  · exact hnone
  split
  · trivial
  split
  · trivial
  split
  · exact hnone
  dsimp only
  split
  · exact hnone
  split
  · trivial
  split
  · exact fits_cleanupThen (fits_reply (by decide) msg d) _ _
  · split
    · trivial
    · exact rfl

theorem fits_handleCancel (msg : Incoming) (d : Draw) (s : Router) :
    (s.handleCancel cfg msg d).1.Fits .cancel msg.text := by
  have hnone : (Pc.done (noCall msg d)).Fits .cancel msg.text := fits_reply (by decide) msg d
  unfold handleCancel
  split
  · trivial
  · exact hnone
  split
  · trivial
  split
  · exact hnone
  split
  · trivial
  split
  · exact hnone
  dsimp only
  split
  · exact fits_cleanupThen (fits_reply (by decide) msg d) _ _
  · split
    · trivial
    · exact rfl

/-- **A handler stops at one of its places.** -/
theorem fits_handle (cfg : RouterConfig) (B : Base64) (id : Nat) (handler : Handler) (msg : Incoming) (d : Draw)
    (s : Router) : (s.handle cfg B id handler msg d).1.Fits handler msg.text := by
  cases handler with
  | invite => exact fits_handleInvite id msg d s
  | response => exact fits_handleCalleeResponse msg d s
  | ack => exact fits_handleAck msg d s
  | bye => exact fits_handleBye msg d s
  | cancel => exact fits_handleCancel msg d s

/-- **And goes on to one**, with fewer sends to come. -/
theorem fits_proceed {task : Task} (hfits : task.pc.Fits task.handler task.msg.text) {out : Outgoing}
    (hsending : task.pc.sending = some out) (taken : Bool) (d : Draw) (s : Router) :
    (s.proceed task taken d).1.Fits task.handler task.msg.text ∧
      (s.proceed task taken d).1.sends < task.pc.sends := by
  obtain ⟨handler, msg, pc⟩ := task
  unfold proceed
  cases pc with
  | invite callId out =>
    obtain rfl : handler = .invite := hfits
    dsimp only
    split
    · exact ⟨fits_reply (by decide) msg d, Nat.one_pos⟩
    · refine ⟨fits_cleanupThen (fits_reply (by decide) msg d) _ _, ?_⟩
      rw [sends_cleanupThen]
      exact Nat.one_pos
  | reject callId out =>
    have hdone : (Pc.done none).Fits handler msg.text := Or.inl hfits
    refine ⟨fits_cleanupThen hdone _ _, ?_⟩
    rw [sends_cleanupThen]
    exact Nat.one_pos
  | forward callId statusCode out =>
    have hdone : (Pc.done none).Fits handler msg.text := Or.inl hfits
    dsimp only
    split
    · refine ⟨fits_cleanupThen hdone _ _, ?_⟩
      rw [sends_cleanupThen]
      exact Nat.one_pos
    split
    · split
      · exact ⟨trivial, Nat.one_pos⟩
      · exact ⟨hdone, Nat.one_pos⟩
    · exact ⟨hdone, Nat.one_pos⟩
  | ack out => exact ⟨.inr hfits, Nat.one_pos⟩
  | bye callId out =>
    obtain rfl : handler = .bye := hfits
    have hok := fits_reply (show (200, "OK".toList) ∈ Handler.bye.outcomes by decide) msg d
    refine ⟨fits_cleanupThen hok _ _, ?_⟩
    rw [sends_cleanupThen]
    exact Nat.one_pos
  | cancel callId originalInvite invite out =>
    obtain rfl : handler = .cancel := hfits
    dsimp only
    unfold sendTerminated
    split
    · exact ⟨trivial, Nat.two_pos⟩
    split
    · refine ⟨fits_cleanupThen (fits_reply (by decide) msg d) _ _, ?_⟩
      rw [sends_cleanupThen]
      exact Nat.two_pos
    · exact ⟨rfl, Nat.one_lt_two⟩
  | terminate callId out =>
    obtain rfl : handler = .cancel := hfits
    have hok := fits_reply (show (200, "OK".toList) ∈ Handler.cancel.outcomes by decide) msg d
    refine ⟨fits_cleanupThen hok _ _, ?_⟩
    rw [sends_cleanupThen]
    exact Nat.one_pos
  | done result => cases hsending
  | panicked => cases hsending

end Router

/-! ## REGISTER -/

/-- **Whatever `handle_register` decides** is a response to the request. -/
theorem RegistrarService.answers_handleRegister (cfg : RegistrarConfig) (md5 : List UInt8 → Vector UInt8 16)
    (req : Register) (s : RegistrarService) {response : Str}
    (h : (s.handleRegister cfg md5 req).1 = .ok response) :
    Answers Branch.register.outcomes req.text response := by
  have hrespond : ∀ {statusCode reason}, (statusCode, reason) ∈ Branch.register.outcomes →
      respond req statusCode reason = .ok response → Answers Branch.register.outcomes req.text response := by
    rintro statusCode reason houtcome ⟨⟩
    exact answers_buildResponse houtcome req.text req.tag
  have hchallenge : ∀ {s' : RegistrarService}, (s'.digestChallenge cfg req).1 = .ok response →
      Answers Branch.register.outcomes req.text response := by
    rintro s' ⟨⟩
    exact answers_of_built (by decide) req.text (by simp; decide) req.tag
  unfold handleRegister at h
  split at h
  · exact hrespond (by decide) h
  split at h
  · cases h
  · exact hrespond (by decide) h
  split at h
  · exact hrespond (by decide) h
  split at h
  · exact hrespond (by decide) h
  split at h
  · exact hrespond (by decide) h
  split at h
  · cases h
  · exact hchallenge h
  split at h
  · exact hchallenge h
  -- the request has credentials
  unfold authenticate at h
  split at h
  · exact hrespond (by decide) h
  dsimp only at h
  split at h
  · exact hchallenge h
  split at h
  · exact hrespond (by decide) h
  unfold updateRegistration at h
  split at h
  · cases h
  dsimp only at h
  split at h
  · cases h
    exact answers_of_built (by decide) req.text (by simp; decide) req.tag
  · split at h
    · cases h
    · cases h
      exact answers_of_built (by decide) req.text (by simp; decide) req.tag

/-! ## MESSAGE -/

/-- How often a call of `handle_message` has to go on before it is at its end. -/
def CallPc.steps : CallPc → Nat
  | .looking => 5
  | .targeting _ => 4
  | .sending _ _ _ => 3
  | .storing => 2
  | .queueing _ => 1
  | .answered _ _ | .panicked => 0

/-- The response of a call, if it has answered, is one to its request. -/
def CallPc.Fits (text : Str) : CallPc → Prop
  | .answered _ response => Answers Branch.message.outcomes text response
  | _ => True

namespace MessageService

variable {cfg : MessageConfig}

theorem fits_answer (c : Call) {status : Nat} {reason : Str}
    (h : (status, reason) ∈ Branch.message.outcomes) : (c.answer status reason).pc.Fits c.text :=
  answers_buildResponse h c.text c.tag

/-- **A new call.** -/
theorem submit_calls (cfg : MessageConfig) (id : Nat) (text fromExt : Str) (tag : Vector UInt8 8)
    (s : MessageService) : ∃ c, (s.submit cfg id text fromExt tag).calls = s.calls.insert id c ∧
      c.text = text ∧ c.pc.Fits text := by
  unfold submit
  split
  · exact ⟨_, rfl, rfl, trivial⟩
  · rename_i status reason hcheck
    exact ⟨_, rfl, rfl, fits_answer ⟨text, fromExt, tag, [], .looking⟩
      (List.mem_cons_of_mem _ (List.mem_cons_of_mem _ (MessageConfig.checkMessage_refused hcheck).1))⟩
  · exact ⟨_, rfl, rfl, trivial⟩

/-- **A call that goes on** has fewer steps to come. -/
theorem callStep_calls (cfg : MessageConfig) (id : Nat) (c : Call) (env : Env) (branch : Vector UInt8 8)
    (taken : Bool) (s : MessageService) (hrunning : c.pc.steps ≠ 0) :
    ∃ c', (s.callStep cfg id c env branch taken).calls = s.calls.insert id c' ∧
      c'.text = c.text ∧ c'.pc.Fits c.text ∧ c'.pc.steps < c.pc.steps := by
  have h200 := fits_answer c (show (200, "OK".toList) ∈ Branch.message.outcomes by decide)
  have h503 := fits_answer c (show (503, "Service Unavailable".toList) ∈ Branch.message.outcomes by decide)
  unfold callStep
  cases hpc : c.pc with
  | looking =>
    dsimp only
    split
    · exact ⟨_, rfl, rfl, trivial, by simp [CallPc.steps]⟩
    · exact ⟨_, rfl, rfl, trivial, by simp [CallPc.steps]⟩
  | targeting sink =>
    dsimp only
    split
    · exact ⟨_, rfl, rfl, trivial, by simp [CallPc.steps]⟩
    · exact ⟨_, rfl, rfl, trivial, by simp [CallPc.steps]⟩
  | sending sink targetUri forwarded =>
    dsimp only
    split
    · exact ⟨_, rfl, rfl, h200, by simp [CallPc.steps, Call.answer]⟩
    · exact ⟨_, rfl, rfl, trivial, by simp [CallPc.steps]⟩
  | storing =>
    dsimp only
    split
    · exact ⟨_, rfl, rfl, trivial, by simp [CallPc.steps]⟩
    · exact ⟨_, rfl, rfl, h503, by simp [CallPc.steps, Call.answer]⟩
  | queueing now =>
    dsimp only
    unfold queueCall
    dsimp only
    split
    · exact ⟨_, rfl, rfl, h200, by simp [CallPc.steps, Call.answer]⟩
    · exact ⟨_, rfl, rfl, h503, by simp [CallPc.steps, Call.answer]⟩
  | answered status response =>
    rw [hpc] at hrunning
    exact absurd rfl hrunning
  | panicked =>
    rw [hpc] at hrunning
    exact absurd rfl hrunning

end MessageService

namespace System

/-! ## Jobs -/

/-- The responses of a job. -/
def responsesTo (id : Nat) (s : System) : List Str :=
  (s.responses.filter fun r => decide (r.1 = id)).map Prod.snd

/-- Its reader. -/
def readerOf (id : Nat) (s : System) : Option Reader := (s.jobs.lookup id).map Job.reader

/-- A job in a handler has an execution that is not at its end, for the same text. -/
def Stands (s : System) (id : Nat) (job : Job) : Prop :=
  match job.pc with
  | .routing => ∃ task, s.router.tasks.lookup id = some task ∧
      branchOf job.text = .ok (.route task.handler) ∧ task.msg.text = job.text ∧
      task.pc.Fits task.handler job.text ∧ task.pc.sends ≠ 0
  | .messaging => ∃ c, s.service.calls.lookup id = some c ∧ branchOf job.text = .ok .message ∧
      c.text = job.text ∧ c.pc.steps ≠ 0
  | .responding .. | .done | .panicked => True

/-- **The responses to a text** whose job is at some place: none while it runs or if it has panicked; later
one, if its branch owes one. -/
def Given (text : Str) (replies : List Str) : JobPc → Prop
  | .routing | .messaging | .panicked => replies = []
  | .responding response _ => replies = [response] ∧
      ∃ branch, branchOf text = .ok branch ∧ branch.answers = true ∧ Answers branch.outcomes text response
  | .done => ∃ branch, branchOf text = .ok branch ∧
      if branch.answers then ∃ response, replies = [response] ∧ Answers branch.outcomes text response
      else replies = []

/-- How often a job at a place has to go on before it is at its end. -/
def leftAt (id : Nat) (s : System) : JobPc → Nat
  | .routing => ((s.router.tasks.lookup id).map fun task => task.pc.sends).getD 0 + 1
  | .messaging => ((s.service.calls.lookup id).map fun c => c.pc.steps).getD 0 + 1
  | .responding .. => 1
  | .done | .panicked => 0

/-- How often it has to from where it is. -/
def left (id : Nat) (s : System) : Nat := ((s.jobs.lookup id).map fun job => s.leftAt id job.pc).getD 0

/-- The jobs and the responses match. Jobs of one reader end in their order, and so do their responses. -/
structure Accounted (s : System) : Prop where
  fresh : ∀ id, s.nextJob ≤ id → s.jobs.lookup id = none ∧ s.router.tasks.lookup id = none ∧
    s.service.calls.lookup id = none
  job : ∀ id job, s.jobs.lookup id = some job →
    Stands s id job ∧ Given job.text (s.responsesTo id) job.pc
  known : ∀ r ∈ s.responses, s.jobs.lookup r.1 ≠ none
  newest : ∀ id id' job job', s.jobs.lookup id = some job → s.jobs.lookup id' = some job' → id < id' →
    job.reader = job'.reader → job.pc.ended = true
  order : s.responses.Pairwise fun r r' => s.readerOf r.1 = s.readerOf r'.1 → r.1 < r'.1

/-- A job moves to a place, perhaps with a response, and no other one does. -/
structure Turned (id : Nat) (job : Job) (pc : JobPc) (replies : List Str) (s s' : System) : Prop where
  nextJob : s'.nextJob = s.nextJob
  jobs : s'.jobs = s.jobs.insert id { job with pc }
  responses : s'.responses = s.responses ++ replies.map fun response => (id, response)
  tasks : ∀ id', id' ≠ id → s'.router.tasks.lookup id' = s.router.tasks.lookup id'
  calls : ∀ id', id' ≠ id → s'.service.calls.lookup id' = s.service.calls.lookup id'
  stands : Stands s' id { job with pc }
  given : Given job.text (s.responsesTo id ++ replies) pc

/-- Nothing about the jobs changes. -/
structure Still (s s' : System) : Prop where
  nextJob : s'.nextJob = s.nextJob
  jobs : s'.jobs = s.jobs
  responses : s'.responses = s.responses
  tasks : s'.router.tasks = s.router.tasks
  calls : s'.service.calls = s.service.calls

theorem Accounted.still {s s' : System} (h : Accounted s) (hstill : Still s s') : Accounted s' := by
  obtain ⟨server, router, service, jobs, nextJob, responses⟩ := s'
  obtain ⟨rfl, rfl, rfl, htasks, hcalls⟩ := hstill
  dsimp only at htasks hcalls
  refine ⟨fun id hid => ?_, fun id job hjob => ?_, h.known, h.newest, h.order⟩
  · dsimp only
    rw [htasks, hcalls]
    exact h.fresh id hid
  · obtain ⟨hstands, hgiven⟩ := h.job id job hjob
    refine ⟨?_, hgiven⟩
    unfold Stands at hstands ⊢
    dsimp only
    rwa [htasks, hcalls]

/-- An idle reader has no job that is not at its end. -/
theorem ended_of_idle {s : System} {reader : Reader} (h : s.busy reader = false) {id : Nat} {job : Job}
    (hjob : s.jobs.lookup id = some job) (hreader : job.reader = reader) : job.pc.ended = true := by
  by_contra hended
  have hmem : ⟨id, job⟩ ∈ s.jobs.entries := AList.mem_lookup_iff.mp hjob
  have hbusy : s.busy reader = true :=
    List.any_eq_true.mpr ⟨⟨id, job⟩, hmem, by simp [hreader, hended]⟩
  exact Bool.false_ne_true (h.symm.trans hbusy)

theorem responsesTo_append (id id' : Nat) (replies : List Str) (responses : List (Nat × Str)) :
    ((responses ++ replies.map fun response => (id, response)).filter fun r =>
        decide (r.1 = id')).map Prod.snd =
      ((responses.filter fun r => decide (r.1 = id')).map Prod.snd) ++ if id' = id then replies else [] := by
  rw [List.filter_append, List.map_append]
  congr 1
  split
  · rename_i he
    subst he
    rw [List.filter_eq_self.mpr (by simp), List.map_map]
    exact List.map_id _
  · rename_i hne
    rw [List.filter_eq_nil_iff.mpr]
    · rfl
    · intro r hr
      obtain ⟨response, -, rfl⟩ := List.mem_map.mp hr
      simpa using fun he => hne he.symm

/-- There is at most one response. -/
theorem length_of_given {text : Str} {replies : List Str} {pc : JobPc} (h : Given text replies pc) :
    replies.length ≤ 1 := by
  unfold Given at h
  cases pc with
  | responding response pendingDelivery => rw [h.1]; exact Nat.le_refl _
  | done =>
    obtain ⟨branch, -, h⟩ := h
    split at h
    · obtain ⟨response, rfl, -⟩ := h
      exact Nat.le_refl _
    · rw [h]
      exact Nat.zero_le _
  | _ => rw [h]; exact Nat.zero_le _

/-- It is as its branch owes it. -/
theorem of_given {text response : Str} {replies : List Str} {pc : JobPc} (h : Given text replies pc)
    (hmem : response ∈ replies) : ∃ branch, branchOf text = .ok branch ∧ branch.answers = true ∧
      Answers branch.outcomes text response := by
  unfold Given at h
  cases pc with
  | responding reply pendingDelivery =>
    obtain ⟨rfl, hrest⟩ := h
    cases List.mem_singleton.mp hmem
    exact hrest
  | done =>
    obtain ⟨branch, hbranch, h⟩ := h
    split at h
    · rename_i howed
      obtain ⟨reply, rfl, hanswers⟩ := h
      cases List.mem_singleton.mp hmem
      exact ⟨branch, hbranch, howed, hanswers⟩
    · rw [h] at hmem
      cases hmem
  | _ =>
    rw [h] at hmem
    cases hmem

/-- A job moves that is not at its end, or a new one of a reader that waits for none. -/
def Movable (s : System) (id : Nat) (job : Job) : Prop :=
  s.jobs.lookup id = some job ∧ job.pc.ended = false ∨
    s.jobs.lookup id = none ∧ ∀ id' job', s.jobs.lookup id' = some job' →
      id' < id ∧ (job'.reader = job.reader → job'.pc.ended = true)

/-- No job of the same reader is newer, and the older ones are at their end. -/
theorem Movable.newest {s : System} (h : Accounted s) {id : Nat} {job : Job} (hopen : Movable s id job)
    {id' : Nat} {job' : Job} (hjob' : s.jobs.lookup id' = some job') (hreader : job'.reader = job.reader) :
    ¬ id < id' ∧ (id' < id → job'.pc.ended = true) := by
  rcases hopen with ⟨hjob, hrunning⟩ | ⟨-, hold⟩
  · refine ⟨fun hlt => ?_, fun hlt => h.newest id' id job' job hjob' hjob hlt hreader⟩
    exact Bool.false_ne_true (hrunning.symm.trans (h.newest id id' job job' hjob hjob' hlt hreader.symm))
  · obtain ⟨hlt, hended⟩ := hold id' job' hjob'
    exact ⟨Nat.lt_asymm hlt, fun _ => hended hreader⟩

section

variable {s s' : System} {id : Nat} {job : Job} {pc : JobPc} {replies : List Str}

theorem Turned.lookup (h : Turned id job pc replies s s') (id' : Nat) :
    s'.jobs.lookup id' = if id' = id then some { job with pc } else s.jobs.lookup id' := by
  rw [h.jobs]
  exact Table.lookup_insert_eq ..

/-- A job that is there keeps its reader. -/
theorem Turned.readerOf (h : Turned id job pc replies s s') (hopen : Movable s id job) {id' : Nat}
    (hknown : s.jobs.lookup id' ≠ none) : s'.readerOf id' = s.readerOf id' := by
  unfold System.readerOf
  rw [h.lookup]
  split
  · rename_i he
    subst he
    rcases hopen with ⟨hjob, -⟩ | ⟨hnone, -⟩
    · rw [hjob]
      rfl
    · exact absurd hnone hknown
  · rfl

/-- The responses to a job, with those that are new. -/
theorem Turned.responsesTo (h : Turned id job pc replies s s') (id' : Nat) :
    s'.responsesTo id' = s.responsesTo id' ++ if id' = id then replies else [] := by
  unfold System.responsesTo
  rw [h.responses]
  exact responsesTo_append id id' replies s.responses

/-- The responses stay in the order of the messages of their reader. -/
theorem Turned.order (h : Turned id job pc replies s s') (haccounted : Accounted s)
    (hopen : Movable s id job) :
    s'.responses.Pairwise fun r r' => s'.readerOf r.1 = s'.readerOf r'.1 → r.1 < r'.1 := by
  have hnow : s'.readerOf id = some job.reader := by
    unfold System.readerOf
    rw [h.lookup, if_pos rfl]
    rfl
  have hlength := length_of_given h.given
  rw [List.length_append] at hlength
  rw [h.responses, List.pairwise_append]
  refine ⟨?_, ?_, ?_⟩
  · refine haccounted.order.imp_of_mem fun {r r'} hr hr' hlt hsame => hlt ?_
    rwa [h.readerOf hopen (haccounted.known r hr), h.readerOf hopen (haccounted.known r' hr')] at hsame
  · cases replies with
    | nil => exact .nil
    | cons response rest =>
      cases rest with
      | nil => exact List.pairwise_singleton _ _
      | cons =>
        rw [List.length_cons, List.length_cons] at hlength
        omega
  · rintro r hr r' hr' hsame
    obtain ⟨response, hresponse, rfl⟩ := List.mem_map.mp hr'
    rw [h.readerOf hopen (haccounted.known r hr), hnow] at hsame
    obtain ⟨job', hjob', hreader'⟩ := Option.map_eq_some_iff.mp hsame
    refine Nat.lt_of_le_of_ne (Nat.not_lt.mp (hopen.newest haccounted hjob' hreader').1) fun he => ?_
    -- else there would be two
    have hold : r.2 ∈ s.responsesTo id :=
      List.mem_map.mpr ⟨r, List.mem_filter.mpr ⟨hr, decide_eq_true he⟩, rfl⟩
    have := List.length_pos_of_mem hold
    have := List.length_pos_of_mem hresponse
    omega

end

/-- **A job that moves** keeps the account. -/
theorem Accounted.turned {s s' : System} (h : Accounted s) {id : Nat} {job : Job} {pc : JobPc}
    {replies : List Str} (hturned : Turned id job pc replies s s') (hid : id < s.nextJob)
    (hopen : Movable s id job) : Accounted s' := by
  refine ⟨fun id' hid' => ?_, fun id' job' hjob' => ?_, fun r hr => ?_, ?_, hturned.order h hopen⟩
  · rw [hturned.nextJob] at hid'
    have hne : id' ≠ id := by omega
    rw [hturned.lookup, if_neg hne, hturned.tasks id' hne, hturned.calls id' hne]
    exact h.fresh id' hid'
  · rw [hturned.lookup] at hjob'
    rw [hturned.responsesTo]
    split at hjob'
    · rename_i he
      subst he
      cases hjob'
      rw [if_pos rfl]
      exact ⟨hturned.stands, hturned.given⟩
    · rename_i hne
      obtain ⟨hstands, hgiven⟩ := h.job id' job' hjob'
      rw [if_neg hne, List.append_nil]
      refine ⟨?_, hgiven⟩
      unfold Stands at hstands ⊢
      rwa [hturned.tasks id' hne, hturned.calls id' hne]
  · rw [hturned.lookup]
    split
    · exact Option.some_ne_none _
    · rename_i hne
      rw [hturned.responses] at hr
      rcases List.mem_append.mp hr with hr | hr
      · exact h.known r hr
      · obtain ⟨response, -, rfl⟩ := List.mem_map.mp hr
        exact absurd rfl hne
  · intro id₁ id₂ job₁ job₂ h₁ h₂ hlt hsame
    rw [hturned.lookup] at h₁ h₂
    split at h₁
    · cases h₁
      rw [if_neg (by omega)] at h₂
      exact absurd (‹id₁ = id› ▸ hlt) (hopen.newest h h₂ hsame.symm).1
    · split at h₂
      · cases h₂
        exact (hopen.newest h h₁ hsame).2 (‹id₂ = id› ▸ hlt)
      · exact h.newest id₁ id₂ job₁ job₂ h₁ h₂ hlt hsame

/-! ## Steps -/

variable {cfg : SystemConfig} {md5 : List UInt8 → Vector UInt8 16} {B : Base64}

/-- What is done to the components for a job that moves then. -/
structure Onward (id : Nat) (s s' : System) : Prop where
  nextJob : s'.nextJob = s.nextJob
  jobs : s'.jobs = s.jobs
  responses : s'.responses = s.responses
  tasks : ∀ id', id' ≠ id → s'.router.tasks.lookup id' = s.router.tasks.lookup id'
  calls : ∀ id', id' ≠ id → s'.service.calls.lookup id' = s.service.calls.lookup id'

theorem Onward.turned {id : Nat} {job : Job} {pc : JobPc} {replies : List Str} {s s₁ s' : System}
    (h : Onward id s s₁) (hturned : Turned id job pc replies s₁ s') : Turned id job pc replies s s' where
  nextJob := hturned.nextJob.trans h.nextJob
  jobs := hturned.jobs.trans (by rw [h.jobs])
  responses := hturned.responses.trans (by rw [h.responses])
  tasks id' hne := (hturned.tasks id' hne).trans (h.tasks id' hne)
  calls id' hne := (hturned.calls id' hne).trans (h.calls id' hne)
  stands := hturned.stands
  given := by
    have hgiven := hturned.given
    unfold responsesTo at hgiven ⊢
    rwa [h.responses] at hgiven

theorem turned_setJob {id : Nat} (s : System) (job : Job) (pc : JobPc) (hstands : Stands s id { job with pc })
    (hgiven : Given job.text (s.responsesTo id) pc) : Turned id job pc [] s (s.setJob id job pc) where
  nextJob := rfl
  jobs := rfl
  responses := (List.append_nil _).symm
  tasks _ _ := rfl
  calls _ _ := rfl
  stands := hstands
  given := by rwa [List.append_nil]

theorem turned_respond {id : Nat} {job : Job} {s : System} {response : Str} {branch : Branch}
    (hfirst : s.responsesTo id = []) (hbranch : branchOf job.text = .ok branch) (howed : branch.answers = true)
    (hanswers : Answers branch.outcomes job.text response) (pendingDelivery : Option Str) :
    Turned id job (.responding response pendingDelivery) [response] s
      (s.respond id job response pendingDelivery) where
  nextJob := rfl
  jobs := rfl
  responses := rfl
  tasks _ _ := rfl
  calls _ _ := rfl
  stands := trivial
  given := by
    rw [hfirst]
    exact ⟨rfl, branch, hbranch, howed, hanswers⟩

theorem turned_crash (cfg : SystemConfig) (md5 : List UInt8 → Vector UInt8 16) {id : Nat} (job : Job)
    {s : System} (hfirst : s.responsesTo id = []) :
    Turned id job .panicked [] s (s.crash cfg md5 id job) where
  nextJob := rfl
  jobs := rfl
  responses := (List.append_nil _).symm
  tasks _ _ := rfl
  calls _ _ := rfl
  stands := trivial
  given := by
    rw [hfirst]
    exact rfl

/-- What is left is known from the place. -/
theorem Turned.left_eq {id : Nat} {job : Job} {pc : JobPc} {replies : List Str} {s s' : System}
    (h : Turned id job pc replies s s') : s'.left id = s'.leftAt id pc := by
  unfold left
  rw [h.jobs, AList.lookup_insert]
  rfl

/-- The others have left what they had. -/
theorem Turned.left_of_ne {id id' : Nat} {job : Job} {pc : JobPc} {replies : List Str} {s s' : System}
    (h : Turned id job pc replies s s') (hne : id' ≠ id) : s'.left id' = s.left id' := by
  unfold left leftAt
  rw [h.jobs, AList.lookup_insert_ne hne, h.tasks id' hne, h.calls id' hne]

/-- **A job whose handler of the router has stopped.** -/
theorem turned_afterRouter (cfg : SystemConfig) (md5 : List UInt8 → Vector UInt8 16) {id : Nat} {job : Job}
    {task : Task} {s : System} (hfirst : s.responsesTo id = [])
    (hrunning : s.router.tasks.lookup id = some task)
    (hbranch : branchOf job.text = .ok (.route task.handler)) (htext : task.msg.text = job.text)
    (hfits : task.pc.Fits task.handler job.text) :
    ∃ pc replies, Turned id job pc replies s (s.afterRouter cfg md5 id job) ∧
      (s.afterRouter cfg md5 id job).left id ≤ task.pc.sends + 1 := by
  unfold afterRouter
  rw [hrunning, Option.map_some]
  have hwaiting : task.pc.sends ≠ 0 →
      ∃ pc replies, Turned id job pc replies s (s.setJob id job .routing) ∧
        (s.setJob id job .routing).left id ≤ task.pc.sends + 1 := by
    intro hsends
    have hgiven : Given job.text (s.responsesTo id) .routing := hfirst
    have hturned := turned_setJob s job .routing ⟨task, hrunning, hbranch, htext, hfits, hsends⟩ hgiven
    refine ⟨_, _, hturned, ?_⟩
    rw [hturned.left_eq]
    change ((s.router.tasks.lookup id).map _).getD 0 + 1 ≤ _
    rw [hrunning]
    exact Nat.le_refl _
  cases hpc : task.pc with
  | done result =>
    rw [hpc] at hfits
    cases result with
    | none =>
      have hturned := turned_setJob s job .done trivial
        ⟨_, hbranch, by rw [hfirst]; rcases hfits with he | he <;> rw [he] <;> exact rfl⟩
      refine ⟨_, _, hturned, ?_⟩
      rw [hturned.left_eq]
      exact Nat.zero_le _
    | some result =>
      obtain ⟨statusCode, response⟩ := result
      have howed : Branch.answers (.route task.handler) = true := by
        obtain ⟨status, hstatus, -⟩ := hfits
        cases hhandler : task.handler with
        | response => rw [hhandler] at hstatus; cases hstatus
        | ack => rw [hhandler] at hstatus; cases hstatus
        | _ => rfl
      have hturned := turned_respond hfirst hbranch howed hfits none
      refine ⟨_, _, hturned, ?_⟩
      rw [hturned.left_eq]
      exact Nat.le_add_left _ _
  | panicked =>
    have hturned := turned_crash cfg md5 job hfirst
    refine ⟨_, _, hturned, ?_⟩
    rw [hturned.left_eq]
    exact Nat.zero_le _
  | _ =>
    rw [hpc] at hwaiting
    exact hwaiting (by simp [Pc.sends])

/-- **A job whose `handle_message` has.** -/
theorem turned_afterService (cfg : SystemConfig) (md5 : List UInt8 → Vector UInt8 16) {id : Nat} {job : Job}
    {c : Call} {s : System} (hfirst : s.responsesTo id = []) (hrunning : s.service.calls.lookup id = some c)
    (hbranch : branchOf job.text = .ok .message)
    (htext : c.text = job.text) (hfits : c.pc.Fits job.text) :
    ∃ pc replies, Turned id job pc replies s (s.afterService cfg md5 id job) ∧
      (s.afterService cfg md5 id job).left id ≤ c.pc.steps + 1 := by
  unfold afterService
  rw [hrunning, Option.map_some]
  have hwaiting : c.pc.steps ≠ 0 →
      ∃ pc replies, Turned id job pc replies s (s.setJob id job .messaging) ∧
        (s.setJob id job .messaging).left id ≤ c.pc.steps + 1 := by
    intro hsteps
    have hgiven : Given job.text (s.responsesTo id) .messaging := hfirst
    have hturned := turned_setJob s job .messaging ⟨c, hrunning, hbranch, htext, hsteps⟩ hgiven
    refine ⟨_, _, hturned, ?_⟩
    rw [hturned.left_eq]
    change ((s.service.calls.lookup id).map _).getD 0 + 1 ≤ _
    rw [hrunning]
    exact Nat.le_refl _
  cases hpc : c.pc with
  | answered status response =>
    rw [hpc] at hfits
    have hturned := turned_respond hfirst hbranch rfl hfits none
    refine ⟨_, _, hturned, ?_⟩
    rw [hturned.left_eq]
    exact Nat.le_add_left _ _
  | panicked =>
    have hturned := turned_crash cfg md5 job hfirst
    refine ⟨_, _, hturned, ?_⟩
    rw [hturned.left_eq]
    exact Nat.zero_le _
  | _ =>
    rw [hpc] at hwaiting
    exact hwaiting (by simp [CallPc.steps])

/-- **A REGISTER.** -/
theorem turned_processRegister {id : Nat} {job : Job} (req : Register) {s : System}
    (hfirst : s.responsesTo id = []) (hbranch : branchOf job.text = .ok .register)
    (htext : req.text = job.text) :
    ∃ pc replies, Turned id job pc replies s (s.processRegister cfg md5 id job req) := by
  unfold processRegister
  dsimp only
  generalize (s.server.processSipMessage cfg.server md5 req job.sink).2 = server
  have honward : Onward id s { s with server } := ⟨rfl, rfl, rfl, fun _ _ => rfl, fun _ _ => rfl⟩
  split
  · rename_i response _ hresponse
    have hanswers := RegistrarService.answers_handleRegister cfg.registrar md5 req s.server.registrar hresponse
    rw [htext] at hanswers
    have hturned := turned_respond (s := { s with server }) hfirst hbranch rfl hanswers
    exact ⟨_, _, honward.turned (hturned _)⟩
  · exact ⟨_, _, honward.turned (turned_crash cfg md5 job hfirst)⟩

/-- The router, for a job. -/
theorem onward_onRouter (cfg : SystemConfig) (B : Base64) (s : System) {id : Nat} {x : RouterEvent}
    {handler : Handler} {msg : Incoming} {pc : Pc} {r : Router}
    (hstep : (s.router.step cfg.router B s.world).step cfg.router B x = r.settle id handler msg pc)
    (hframe : r.tasks = s.router.tasks) :
    Onward id s (s.onRouter cfg B x) ∧
      (s.onRouter cfg B x).router.tasks.lookup id = some ⟨handler, msg, pc⟩ := by
  have hrouter : (s.onRouter cfg B x).router = r.settle id handler msg pc := hstep
  refine ⟨⟨rfl, rfl, rfl, fun id' hne => ?_, fun _ _ => rfl⟩, ?_⟩
  · rw [hrouter, Router.settle_tasks, if_neg hne, hframe]
  · rw [hrouter, Router.settle_tasks, if_pos rfl]

/-- **A new job**, up to the first place where it stops. -/
theorem turned_process (cfg : SystemConfig) (md5 : List UInt8 → Vector UInt8 16) (B : Base64) {id : Nat}
    (job : Job) (st : Stimulus) {s : System} (hfirst : s.responsesTo id = []) (htext : job.text = st.text)
    (htask : s.router.tasks.lookup id = none) (hcall : s.service.calls.lookup id = none) :
    ∃ pc replies, Turned id job pc replies s (s.process cfg md5 B id job st) := by
  unfold process
  rw [← htext]
  rcases hbranch : branchOf job.text with e | branch
  · exact ⟨_, _, turned_crash cfg md5 job hfirst⟩
  cases branch with
  | ignore =>
    have hnone : Given job.text (s.responsesTo id) .done := ⟨_, hbranch, hfirst⟩
    exact ⟨_, _, turned_setJob s job .done trivial hnone⟩
  | register =>
    exact turned_processRegister (st.register job.reader job.peer) hfirst hbranch htext.symm
  | route handler =>
    dsimp only
    rw [htext]
    generalize hmsg : (⟨st.text, job.sink, job.peer,
      s.server.getConnectionExtension job.peer⟩ : Incoming) = msg
    have hmsgText : msg.text = job.text := by rw [htext, ← hmsg]
    have hfits := Router.fits_handle cfg.router B id handler msg st.draw (s.router.step cfg.router B s.world)
    rcases hhandle : (s.router.step cfg.router B s.world).handle cfg.router B id handler msg st.draw with
      ⟨pc, r⟩
    rw [hhandle] at hfits
    have hworld : (s.router.step cfg.router B s.world).tasks.lookup id = none := htask
    have hstep : (s.router.step cfg.router B s.world).step cfg.router B (.receive id handler msg st.draw) = _ :=
      Router.step_receive hworld
    rw [hhandle] at hstep
    obtain ⟨honward, hrunning⟩ := onward_onRouter cfg B s hstep (Router.handled hhandle).frame.1
    have hfirst' : (s.onRouter cfg B (.receive id handler msg st.draw)).responsesTo id = [] := hfirst
    obtain ⟨pc', replies, hturned, -⟩ := turned_afterRouter cfg md5 hfirst' hrunning hbranch hmsgText
      (hmsgText ▸ hfits)
    exact ⟨pc', replies, honward.turned hturned⟩
  | message =>
    dsimp only
    rw [htext]
    obtain ⟨c, hcalls, hc, hfits⟩ := MessageService.submit_calls cfg.message id st.text
      (s.server.fromExt job.peer) st.draw.tag s.service
    generalize he : MessageEvent.submit id st.text (s.server.fromExt job.peer) st.draw.tag = event
    have hservice : (s.onService cfg event).service.calls = s.service.calls.insert id c := by
      rw [← he, onService, ← hcalls]
      unfold MessageService.step
      dsimp only
      rw [hcall]
    have honward : Onward id s (s.onService cfg event) := by
      refine ⟨rfl, rfl, rfl, fun _ _ => rfl, fun id' hne => ?_⟩
      rw [hservice]
      exact AList.lookup_insert_ne hne
    have hfirst' : (s.onService cfg event).responsesTo id = [] := hfirst
    have hrunning : (s.onService cfg event).service.calls.lookup id = some c := by
      rw [hservice]
      exact AList.lookup_insert _
    obtain ⟨pc', replies, hturned, -⟩ := turned_afterService cfg md5 hfirst' hrunning hbranch
      (hc.trans htext.symm) (htext ▸ hfits)
    exact ⟨pc', replies, honward.turned hturned⟩
  | options =>
    have hanswers := answers_of_built (show (200, "OK".toList) ∈ Branch.options.outcomes by decide) job.text
      (show ∀ h ∈ optionsHeaders, h.1 ∈ ownNames by decide) st.draw.tag
    exact ⟨_, _, turned_respond hfirst hbranch rfl hanswers none⟩
  | unsupported =>
    have hanswers := answers_buildResponse
      (show (405, "Method Not Allowed".toList) ∈ Branch.unsupported.outcomes by decide) job.text st.draw.tag
    exact ⟨_, _, turned_respond hfirst hbranch rfl hanswers none⟩

/-- The execution in the router goes on. -/
theorem turned_routing (cfg : SystemConfig) (md5 : List UInt8 → Vector UInt8 16) (B : Base64) {s : System}
    {id : Nat} {job : Job} (hpc : job.pc = .routing) (hstands : Stands s id job)
    (hfirst : s.responsesTo id = []) (taken : Bool) (d : Draw) :
    ∃ pc replies, Turned id job pc replies s (s.proceed cfg md5 B id job taken d) ∧
      (s.proceed cfg md5 B id job taken d).left id < s.leftAt id .routing := by
  unfold Stands at hstands
  rw [hpc] at hstands
  obtain ⟨task, htask, hbranch, htext, hfits, hsends⟩ := hstands
  obtain ⟨out, hsending⟩ : ∃ out, task.pc.sending = some out := by
    revert hsends
    cases task.pc <;> simp [Pc.sends, Pc.sending]
  have hworld : (s.router.step cfg.router B s.world).tasks.lookup id = some task := htask
  have hstep : (s.router.step cfg.router B s.world).step cfg.router B (.resume id taken d) = _ :=
    Router.step_resume hworld hsending
  rw [← htext] at hfits
  have hnext := Router.fits_proceed hfits hsending taken d
    { s.router.step cfg.router B s.world with
      sent := (s.router.step cfg.router B s.world).sent ++ if taken then [out] else [] }
  dsimp only at hstep
  rcases hproceed : Router.proceed task taken d { s.router.step cfg.router B s.world with
      sent := (s.router.step cfg.router B s.world).sent ++ if taken then [out] else [] } with ⟨pc, r⟩
  rw [hproceed] at hstep hnext
  obtain ⟨honward, hrunning⟩ := onward_onRouter cfg B s hstep (Router.proceeded hsending hproceed).frame.1
  have hfirst' : (s.onRouter cfg B (.resume id taken d)).responsesTo id = [] := hfirst
  obtain ⟨pc', replies, hturned, hle⟩ := turned_afterRouter cfg md5 hfirst' hrunning hbranch htext
    (htext ▸ hnext.1)
  unfold System.proceed
  rw [hpc]
  refine ⟨pc', replies, honward.turned hturned, hle.trans_lt ?_⟩
  unfold leftAt
  rw [htask]
  exact Nat.add_lt_add_right hnext.2 1

/-- The one in the message service goes on. -/
theorem turned_messaging (cfg : SystemConfig) (md5 : List UInt8 → Vector UInt8 16) (B : Base64) {s : System}
    {id : Nat} {job : Job} (hpc : job.pc = .messaging) (hstands : Stands s id job)
    (hfirst : s.responsesTo id = []) (taken : Bool) (d : Draw) :
    ∃ pc replies, Turned id job pc replies s (s.proceed cfg md5 B id job taken d) ∧
      (s.proceed cfg md5 B id job taken d).left id < s.leftAt id .messaging := by
  unfold Stands at hstands
  rw [hpc] at hstands
  obtain ⟨c, hcall, hbranch, htext, hsteps⟩ := hstands
  obtain ⟨c', hcalls, htext', hfits, hlt⟩ := MessageService.callStep_calls cfg.message id c (s.env d.now)
    d.branch taken s.service hsteps
  unfold System.proceed
  rw [hpc]
  dsimp only
  generalize he : MessageEvent.call id (s.env d.now) d.branch taken = event
  have hservice : (s.onService cfg event).service.calls = s.service.calls.insert id c' := by
    rw [← he, onService, ← hcalls]
    unfold MessageService.step
    dsimp only
    rw [hcall]
  have honward : Onward id s (s.onService cfg event) := by
    refine ⟨rfl, rfl, rfl, fun _ _ => rfl, fun id' hne => ?_⟩
    rw [hservice]
    exact AList.lookup_insert_ne hne
  have hrunning : (s.onService cfg event).service.calls.lookup id = some c' := by
    rw [hservice]
    exact AList.lookup_insert _
  have hfirst' : (s.onService cfg event).responsesTo id = [] := hfirst
  obtain ⟨pc', replies, hturned, hle⟩ := turned_afterService cfg md5 hfirst' hrunning hbranch
    (htext'.trans htext) (htext ▸ hfits)
  refine ⟨pc', replies, honward.turned hturned, hle.trans_lt ?_⟩
  unfold leftAt
  rw [hcall]
  exact Nat.add_lt_add_right hlt 1

/-- A job that has sent its response is done. -/
theorem turned_responding {s s₁ : System} {id : Nat} {job : Job} {response : Str}
    {pendingDelivery : Option Str}
    (hgiven : Given job.text (s.responsesTo id) (.responding response pendingDelivery))
    (honward : Onward id s s₁) : ∃ pc replies, Turned id job pc replies s (s₁.setJob id job .done) ∧
      (s₁.setJob id job .done).left id < 1 := by
  obtain ⟨he, branch, hbranch, howed, hanswers⟩ := hgiven
  have hto : s₁.responsesTo id = [response] := by
    unfold System.responsesTo at he ⊢
    rw [honward.responses, he]
  have hturned := turned_setJob s₁ job .done trivial
    ⟨branch, hbranch, by rw [if_pos howed]; exact ⟨response, hto, hanswers⟩⟩
  refine ⟨_, _, honward.turned hturned, ?_⟩
  rw [hturned.left_eq]
  exact Nat.one_pos

/-- **A job that goes on** has less left. -/
theorem turned_proceed (cfg : SystemConfig) (md5 : List UInt8 → Vector UInt8 16) (B : Base64) {s : System}
    (h : Accounted s) {id : Nat} {job : Job}
    (hjob : s.jobs.lookup id = some job) (hrunning : job.pc.ended = false) (taken : Bool) (d : Draw) :
    ∃ pc replies, Turned id job pc replies s (s.proceed cfg md5 B id job taken d) ∧
      (s.proceed cfg md5 B id job taken d).left id < s.left id := by
  obtain ⟨hstands, hgiven⟩ := h.job id job hjob
  have hleft : s.left id = s.leftAt id job.pc := by
    unfold left
    rw [hjob]
    rfl
  rw [hleft]
  cases hpc : job.pc with
  | routing =>
    rw [hpc] at hgiven
    exact turned_routing cfg md5 B hpc hstands hgiven taken d
  | messaging =>
    rw [hpc] at hgiven
    exact turned_messaging cfg md5 B hpc hstands hgiven taken d
  | responding response pendingDelivery =>
    rw [hpc] at hgiven
    unfold System.proceed
    rw [hpc]
    cases pendingDelivery with
    | none => exact turned_responding hgiven ⟨rfl, rfl, rfl, fun _ _ => rfl, fun _ _ => rfl⟩
    | some extension =>
      refine turned_responding hgiven ⟨rfl, rfl, rfl, fun _ _ => rfl, fun _ _ => ?_⟩
      unfold onService MessageService.step
      dsimp only
      split <;> rfl
  | done =>
    rw [hpc] at hrunning
    cases hrunning
  | panicked =>
    rw [hpc] at hrunning
    cases hrunning

/-- All that an event is for the jobs: one begins, or one goes on, or nothing. -/
inductive JobStep (cfg : SystemConfig) (s : System) (event : SystemEvent) (s' : System) : Prop
  | began {reader : Reader} {peer : SocketAddr} {st : Stimulus} {pc : JobPc} {replies : List Str}
      (event_eq : event = .message reader peer st) (reads : s.reads cfg reader peer = true)
      (idle : s.busy reader = false)
      (turned : Turned s.nextJob ⟨reader, peer, st.text, .done⟩ pc replies
        { s with nextJob := s.nextJob + 1 } s')
  | went {id : Nat} {taken : Bool} {d : Draw} {job : Job} {pc : JobPc} {replies : List Str}
      (event_eq : event = .resume id taken d) (found : s.jobs.lookup id = some job)
      (running : job.pc.ended = false) (turned : Turned id job pc replies s s')
      (left_lt : s'.left id < s.left id)
  | still (still : Still s s') (ended : ∀ id taken d, event = .resume id taken d → s.left id = 0)
      (unread : ∀ reader peer st, event = .message reader peer st →
        s.reads cfg reader peer = false ∨ s.busy reader = true)

theorem left_of_ended {s : System} {id : Nat}
    (h : ∀ job, s.jobs.lookup id = some job → job.pc.ended = true) : s.left id = 0 := by
  unfold left
  cases hjob : s.jobs.lookup id with
  | none => rfl
  | some job =>
    have hended := h job hjob
    rw [Option.map_some]
    cases hpc : job.pc with
    | done => rfl
    | panicked => rfl
    | _ =>
      rw [hpc] at hended
      cases hended

/-- **What an event is for the jobs.** -/
theorem job_step (cfg : SystemConfig) (md5 : List UInt8 → Vector UInt8 16) (B : Base64) {s : System}
    (h : Accounted s) (event : SystemEvent) : JobStep cfg s event (s.step cfg md5 B event) := by
  have hserver : ∀ server, Still s { s with server } := fun server => ⟨rfl, rfl, rfl, rfl, rfl⟩
  cases event with
  | message reader peer st =>
    unfold step
    dsimp only
    split
    · rename_i henabled
      obtain ⟨hreads, hidle⟩ := Bool.and_eq_true_iff.mp henabled
      obtain ⟨hnone, htask, hcall⟩ := h.fresh s.nextJob (Nat.le_refl _)
      have hfirst : ({ s with nextJob := s.nextJob + 1 } : System).responsesTo s.nextJob = [] := by
        unfold responsesTo
        rw [List.map_eq_nil_iff, List.filter_eq_nil_iff]
        intro r hr he
        exact h.known r hr (of_decide_eq_true he ▸ hnone)
      obtain ⟨pc, replies, hturned⟩ :=
        turned_process cfg md5 B ⟨reader, peer, st.text, .done⟩ st hfirst rfl htask hcall
      exact .began rfl hreads (by simpa using hidle) hturned
    · rename_i hdisabled
      refine .still ⟨rfl, rfl, rfl, rfl, rfl⟩ nofun fun _ _ _ he => ?_
      cases he
      rw [Bool.and_eq_true_iff, not_and_or] at hdisabled
      exact hdisabled.imp Bool.eq_false_iff.mpr fun hbusy => by simpa using hbusy
  | resume id taken d =>
    unfold step
    dsimp only
    split
    · rename_i job hjob
      cases hended : job.pc.ended with
      | false =>
        obtain ⟨pc, replies, hturned, hleft⟩ := turned_proceed cfg md5 B h hjob hended taken d
        exact .went rfl hjob hended hturned hleft
      | true =>
        have hleft : s.left id = 0 := left_of_ended fun job' hjob' => by
          cases hjob.symm.trans hjob'
          exact hended
        have hsame : s.proceed cfg md5 B id job taken d = s := by
          unfold proceed
          cases hpc : job.pc with
          | done => rfl
          | panicked => rfl
          | _ =>
            rw [hpc] at hended
            cases hended
        rw [hsame]
        exact .still ⟨rfl, rfl, rfl, rfl, rfl⟩ (fun _ _ _ he => by cases he; exact hleft) nofun
    · rename_i hnone
      refine .still ⟨rfl, rfl, rfl, rfl, rfl⟩ (fun _ _ _ he => ?_) nofun
      cases he
      exact left_of_ended fun job hjob => by cases hnone.symm.trans hjob
  | delivery id taken d =>
    refine .still ⟨rfl, rfl, rfl, rfl, ?_⟩ nofun nofun
    change (s.service.step cfg.message (.delivery id (s.env d.now) d.branch taken)).calls = _
    unfold MessageService.step
    dsimp only
    split
    · exact MessageService.deliveryStep_calls ..
    · rfl
  | close channel =>
    unfold step
    dsimp only
    split
    · exact .still ⟨rfl, rfl, rfl, rfl, rfl⟩ nofun nofun
    · exact .still (hserver _) nofun nofun
  | accept addr => exact .still (hserver _) nofun nofun
  | handshake addr completed => exact .still (hserver _) nofun nofun
  | udpCleanup now => exact .still (hserver _) nofun nofun
  | cleanup now => exact .still (hserver _) nofun nofun

/-- **An event keeps the account.** -/
theorem Accounted.step {s : System} (h : Accounted s) (event : SystemEvent) :
    Accounted (s.step cfg md5 B event) := by
  have hstep := job_step cfg md5 B h event
  revert hstep
  generalize s.step cfg md5 B event = s'
  intro hstep
  cases hstep with
  | still still => exact h.still still
  | @went id taken d job pc replies event_eq found running turned =>
    refine h.turned turned ?_ (.inl ⟨found, running⟩)
    by_contra hle
    cases found.symm.trans (h.fresh id (Nat.le_of_not_lt hle)).1
  | @began reader peer st pc replies event_eq reads idle turned =>
    have hnext : Accounted { s with nextJob := s.nextJob + 1 } :=
      { h with fresh := fun id hid => h.fresh id (Nat.le_of_succ_le hid) }
    refine hnext.turned turned (Nat.lt_succ_self _)
      (.inr ⟨(h.fresh _ (Nat.le_refl _)).1, fun id job hjob => ⟨?_, ?_⟩⟩)
    · by_contra hle
      cases (h.fresh id (Nat.le_of_not_lt hle)).1.symm.trans hjob
    · exact ended_of_idle idle hjob

theorem accounted_start (media : MediaRelayManager) : Accounted { router := .start media } where
  fresh _ _ := ⟨rfl, rfl, rfl⟩
  job id _ hjob := by cases (AList.lookup_empty id).symm.trans hjob
  known r hr := by cases hr
  newest id _ _ _ hjob := by cases (AList.lookup_empty id).symm.trans hjob
  order := .nil

theorem run_accounted (cfg : SystemConfig) (md5 : List UInt8 → Vector UInt8 16) (B : Base64)
    (media : MediaRelayManager) (events : List SystemEvent) : Accounted (run cfg md5 B media events) := by
  induction events using List.reverseRecOn with
  | nil => exact accounted_start media
  | append_singleton events event ih =>
    rw [run_append]
    exact ih.step event

end System

end Minghe.Sip
