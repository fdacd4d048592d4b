import Minghe.Sip.Jobs

/-!
# What a peer gets back

In a run of the whole server: which response there is to a message that was read, whether there is one, and
when.

* `Recorded`: the jobs are those of the messages that were read.
* `Served`: each of these has the response that it is owed, and no other one.
* `served`: each message is given the one response that it is owed, none while its job routes it and none when
  its job panics; the responses of a reader come in the order of its messages.
* `job_ends`: a job that has gone on six times is done or has panicked.
-/

namespace Minghe.Sip

open Minghe.Lib
open Minghe.Media.Relay (MediaRelayManager)
open Minghe.Media.Srtp (Base64)

namespace System

/-! ## Runs -/

section

variable (cfg : SystemConfig) (md5 : List UInt8 → Vector UInt8 16) (B : Base64) (media : MediaRelayManager)

/-- The jobs are those of the messages that were read. -/
structure Recorded (events : List SystemEvent) : Prop where
  kept : ∀ done id reader peer st branch, Started cfg md5 B media events done id reader peer st branch →
    ∃ pc, (run cfg md5 B media events).jobs.lookup id = some ⟨reader, peer, st.text, pc⟩
  read : ∀ id job branch, (run cfg md5 B media events).jobs.lookup id = some job →
    branchOf job.text = .ok branch → ∃ done st, st.text = job.text ∧
      Started cfg md5 B media events done id job.reader job.peer st branch

/-- **What the peers get back**: each message that was read is given what its branch and its place say, no
response is for anything else, and those of one reader come in the order of its messages. -/
structure Served (events : List SystemEvent) : Prop where
  message : ∀ done id reader peer st branch, Started cfg md5 B media events done id reader peer st branch →
    ∃ pc, (run cfg md5 B media events).jobs.lookup id = some ⟨reader, peer, st.text, pc⟩ ∧
      Given st.text ((run cfg md5 B media events).responsesTo id) pc
  response : ∀ r ∈ (run cfg md5 B media events).responses, ∃ done reader peer st branch,
    Started cfg md5 B media events done r.1 reader peer st branch ∧ branch.answers = true ∧
      Answers branch.outcomes st.text r.2
  order : (run cfg md5 B media events).responses.Pairwise fun r r' =>
    (run cfg md5 B media events).readerOf r.1 = (run cfg md5 B media events).readerOf r'.1 → r.1 < r'.1
  numbered : ∀ done id reader peer st branch done' id' reader' peer' st' branch',
    Started cfg md5 B media events done id reader peer st branch →
    Started cfg md5 B media events done' id' reader' peer' st' branch' →
      done.length < done'.length → id < id'

end

variable {cfg : SystemConfig} {md5 : List UInt8 → Vector UInt8 16} {B : Base64} {media : MediaRelayManager}

/-- A message that was read in a longer run. -/
theorem started_append {events done : List SystemEvent} {event : SystemEvent} {id : Nat} {reader : Reader}
    {peer : SocketAddr} {st : Stimulus} {branch : Branch}
    (h : Started cfg md5 B media (events ++ [event]) done id reader peer st branch) :
    Started cfg md5 B media events done id reader peer st branch ∨
      done = events ∧ event = .message reader peer st := by
  rcases List.prefix_concat_iff.mp h.within with he | hwithin
  · obtain ⟨hdone, hevent⟩ := List.append_inj' he rfl
    exact .inr ⟨hdone, (List.singleton_inj.mp hevent).symm⟩
  · exact .inl ⟨hwithin, h.read, h.id_eq⟩

theorem Recorded.step {events : List SystemEvent} (h : Recorded cfg md5 B media events) (event : SystemEvent) :
    Recorded cfg md5 B media (events ++ [event]) := by
  have haccounted := run_accounted cfg md5 B media events
  have hstep := job_step cfg md5 B haccounted event
  have hold : ∀ id job branch, (run cfg md5 B media events).jobs.lookup id = some job →
      branchOf job.text = .ok branch → ∃ done st, st.text = job.text ∧
        Started cfg md5 B media (events ++ [event]) done id job.reader job.peer st branch := by
    intro id job branch hjob hbranch
    obtain ⟨done, st, htext, hstarted⟩ := h.read id job branch hjob hbranch
    exact ⟨done, st, htext, hstarted.mono event⟩
  refine ⟨fun done id reader peer st branch hstarted => ?_, fun id job branch hjob hbranch => ?_⟩
  · rw [run_append]
    rcases started_append hstarted with hbefore | ⟨rfl, rfl⟩
    · obtain ⟨pc, hjob⟩ := h.kept done id reader peer st branch hbefore
      cases hstep with
      | still still => exact ⟨pc, by rw [still.jobs]; exact hjob⟩
      | @went id' taken d job pc' replies event_eq found running turned =>
        rw [turned.jobs, Table.lookup_insert_eq]
        split
        · rename_i he
          subst he
          cases found.symm.trans hjob
          exact ⟨pc', rfl⟩
        · exact ⟨pc, hjob⟩
      | @began reader' peer' st' pc' replies event_eq reads idle turned =>
        rw [turned.jobs, Table.lookup_insert_eq]
        split
        · rename_i he
          subst he
          cases (haccounted.fresh _ (Nat.le_refl _)).1.symm.trans hjob
        · exact ⟨pc, hjob⟩
    · -- the message that is read now
      cases hstep with
      | still still ended unread =>
        rcases unread reader peer st rfl with hreads | hbusy
        · exact absurd hstarted.read.reads (Bool.eq_false_iff.mp hreads)
        · exact absurd hbusy (Bool.eq_false_iff.mp hstarted.read.idle)
      | went event_eq => cases event_eq
      | @began reader' peer' st' pc' replies event_eq reads idle turned =>
        cases event_eq
        rw [turned.jobs, hstarted.id_eq]
        exact ⟨pc', AList.lookup_insert _⟩
  · rw [run_append] at hjob
    cases hstep with
    | still still =>
      rw [still.jobs] at hjob
      exact hold id job branch hjob hbranch
    | @went id' taken d job' pc' replies event_eq found running turned =>
      rw [turned.jobs] at hjob
      rcases Table.lookup_insert_eq_some hjob with ⟨rfl, rfl⟩ | ⟨-, hjob⟩
      · exact hold _ job' branch found hbranch
      · exact hold id job branch hjob hbranch
    | @began reader' peer' st' pc' replies event_eq reads idle turned =>
      rw [turned.jobs] at hjob
      rcases Table.lookup_insert_eq_some hjob with ⟨rfl, rfl⟩ | ⟨-, hjob⟩
      · exact ⟨events, st', rfl, started_last ⟨event_eq, reads, idle, hbranch⟩⟩
      · exact hold id job branch hjob hbranch

theorem run_recorded (cfg : SystemConfig) (md5 : List UInt8 → Vector UInt8 16) (B : Base64)
    (media : MediaRelayManager) (events : List SystemEvent) : Recorded cfg md5 B media events := by
  induction events using List.reverseRecOn with
  | nil =>
    refine ⟨fun done id reader peer st branch hstarted => ?_, fun id job branch hjob => ?_⟩
    · have := List.prefix_nil.mp hstarted.within
      simp at this
    · cases (AList.lookup_empty id).symm.trans hjob
  | append_singleton events event ih => exact ih.step event

theorem nextJob_run (events late : List SystemEvent) :
    (run cfg md5 B media events).nextJob ≤ (run cfg md5 B media (events ++ late)).nextJob := by
  induction late using List.reverseRecOn with
  | nil => rw [List.append_nil]
  | append_singleton late event ih =>
    rw [← List.append_assoc, run_append]
    refine ih.trans ?_
    cases job_step cfg md5 B (run_accounted cfg md5 B media (events ++ late)) event with
    | still still => exact Nat.le_of_eq still.nextJob.symm
    | went _ _ _ turned => exact Nat.le_of_eq turned.nextJob.symm
    | began _ _ _ turned => exact (Nat.le_succ _).trans (Nat.le_of_eq turned.nextJob.symm)

/-- What is read later has a larger number. -/
theorem Started.lt {events done done' : List SystemEvent} {id id' : Nat} {reader reader' : Reader}
    {peer peer' : SocketAddr} {st st' : Stimulus} {branch branch' : Branch}
    (h : Started cfg md5 B media events done id reader peer st branch)
    (h' : Started cfg md5 B media events done' id' reader' peer' st' branch')
    (hlt : done.length < done'.length) : id < id' := by
  have hbefore : done ++ [.message reader peer st] <+: done' := by
    refine List.prefix_of_prefix_length_le h.within ((List.prefix_append _ _).trans h'.within) ?_
    rw [List.length_append]
    exact hlt
  obtain ⟨late, rfl⟩ := hbefore
  rw [h.id_eq, h'.id_eq]
  refine Nat.lt_of_lt_of_le ?_ (nextJob_run _ late)
  rw [run_append]
  cases job_step cfg md5 B (run_accounted cfg md5 B media done) (.message reader peer st) with
  | still _ _ unread =>
    rcases unread reader peer st rfl with hreads | hbusy
    · exact absurd h.read.reads (Bool.eq_false_iff.mp hreads)
    · exact absurd hbusy (Bool.eq_false_iff.mp h.read.idle)
  | went event_eq => cases event_eq
  | began _ _ _ turned => exact Nat.lt_of_lt_of_eq (Nat.lt_succ_self _) turned.nextJob.symm

/-- **Every request is answered once, by the server itself, and in order.** In every run of the whole server,
whatever else goes on in between: a message that was read has no response while its job routes it, and one,
made of its own headers and with a status of its branch, from the send of it on. An ACK, a response and what
is no message at all have none, nor has a job that panicked. -/
theorem served (cfg : SystemConfig) (md5 : List UInt8 → Vector UInt8 16) (B : Base64)
    (media : MediaRelayManager) (events : List SystemEvent) : Served cfg md5 B media events := by
  have haccounted := run_accounted cfg md5 B media events
  have hrecorded := run_recorded cfg md5 B media events
  refine ⟨fun done id reader peer st branch hstarted => ?_, fun r hr => ?_, haccounted.order,
    fun _ _ _ _ _ _ _ _ _ _ _ _ h h' hlt => h.lt h' hlt⟩
  · obtain ⟨pc, hjob⟩ := hrecorded.kept done id reader peer st branch hstarted
    exact ⟨pc, hjob, (haccounted.job id _ hjob).2⟩
  · obtain ⟨job, hjob⟩ := Option.ne_none_iff_exists'.mp (haccounted.known r hr)
    have hmem : r.2 ∈ (run cfg md5 B media events).responsesTo r.1 :=
      List.mem_map.mpr ⟨r, List.mem_filter.mpr ⟨hr, decide_eq_true rfl⟩, rfl⟩
    obtain ⟨branch, hbranch, howed, hanswers⟩ := of_given (haccounted.job r.1 job hjob).2 hmem
    obtain ⟨done, st, htext, hstarted⟩ := hrecorded.read r.1 job branch hjob hbranch
    exact ⟨done, _, _, st, branch, hstarted, howed, htext ▸ hanswers⟩

/-! ## The end of a job -/

/-- The event lets a job go on. -/
def resumes (id : Nat) : SystemEvent → Bool
  | .resume id' _ _ => decide (id' = id)
  | _ => false

theorem Accounted.left_le {s : System} (h : Accounted s) (id : Nat) : s.left id ≤ 6 := by
  unfold left
  cases hjob : s.jobs.lookup id with
  | none => exact Nat.zero_le _
  | some job =>
    have hstands := (h.job id job hjob).1
    unfold Stands at hstands
    rw [Option.map_some]
    cases hpc : job.pc with
    | routing =>
      rw [hpc] at hstands
      obtain ⟨task, htask, -⟩ := hstands
      have := task.pc.sends_le
      simp only [leftAt, htask, Option.map_some, Option.getD_some]
      omega
    | messaging =>
      rw [hpc] at hstands
      obtain ⟨c, hc, -⟩ := hstands
      have : c.pc.steps ≤ 5 := by cases c.pc <;> simp [CallPc.steps]
      simp only [leftAt, hc, Option.map_some, Option.getD_some]
      omega
    | responding response pendingDelivery => exact Nat.le_add_left _ _
    | done => exact Nat.zero_le _
    | panicked => exact Nat.zero_le _

/-- **What is left of a job** only gets less, and by one with each step of its own. -/
theorem left_step (cfg : SystemConfig) (md5 : List UInt8 → Vector UInt8 16) (B : Base64) {s : System}
    (h : Accounted s) {id : Nat} (hid : s.jobs.lookup id ≠ none)
    (event : SystemEvent) : (s.step cfg md5 B event).left id ≤ s.left id - (resumes id event).toNat := by
  have hstep := job_step cfg md5 B h event
  revert hstep
  generalize s.step cfg md5 B event = s'
  intro hstep
  cases hstep with
  | still still ended =>
    have hsame : s'.left id = s.left id := by
      unfold left leftAt
      rw [still.jobs, still.tasks, still.calls]
    rw [hsame]
    cases event with
    | resume id' taken d =>
      by_cases he : id' = id
      · subst he
        rw [ended id' taken d rfl]
        exact Nat.zero_le _
      · simp [resumes, he]
    | _ => exact Nat.le_refl _
  | @went id' taken d job pc replies event_eq found running turned left_lt =>
    subst event_eq
    by_cases he : id' = id
    · subst he
      rw [resumes, decide_eq_true rfl]
      exact Nat.le_sub_one_of_lt left_lt
    · have hsame : s'.left id = s.left id := turned.left_of_ne (Ne.symm he)
      simp [resumes, he, hsame]
  | @began reader peer st pc replies event_eq reads idle turned =>
    subst event_eq
    have hne : id ≠ s.nextJob := by
      rintro rfl
      exact hid (h.fresh _ (Nat.le_refl _)).1
    exact Nat.le_of_eq (turned.left_of_ne hne)

theorem left_run (cfg : SystemConfig) (md5 : List UInt8 → Vector UInt8 16) (B : Base64)
    (media : MediaRelayManager) (events late : List SystemEvent) {id : Nat} {job : Job}
    (hjob : (run cfg md5 B media events).jobs.lookup id = some job) :
    (∃ pc, (run cfg md5 B media (events ++ late)).jobs.lookup id = some { job with pc }) ∧
      (run cfg md5 B media (events ++ late)).left id ≤ 6 - late.countP (resumes id) := by
  induction late using List.reverseRecOn with
  | nil =>
    rw [List.append_nil]
    exact ⟨⟨job.pc, hjob⟩, (run_accounted cfg md5 B media events).left_le id⟩
  | append_singleton late event ih =>
    obtain ⟨⟨pc, hlate⟩, hleft⟩ := ih
    have haccounted := run_accounted cfg md5 B media (events ++ late)
    rw [← List.append_assoc, run_append]
    refine ⟨?_, ?_⟩
    · have hstep := job_step cfg md5 B haccounted event
      cases hstep with
      | still still => exact ⟨pc, by rw [still.jobs, hlate]⟩
      | @went id' taken d job' pc' replies event_eq found running turned =>
        rw [turned.jobs, Table.lookup_insert_eq]
        split
        · rename_i he
          subst he
          cases found.symm.trans hlate
          exact ⟨pc', rfl⟩
        · exact ⟨pc, hlate⟩
      | @began reader peer st pc' replies event_eq reads idle turned =>
        rw [turned.jobs, Table.lookup_insert_eq]
        split
        · rename_i he
          subst he
          cases (haccounted.fresh _ (Nat.le_refl _)).1.symm.trans hlate
        · exact ⟨pc, hlate⟩
    · have hknown : (run cfg md5 B media (events ++ late)).jobs.lookup id ≠ none := by
        rw [hlate]
        exact Option.some_ne_none _
      have hstep := left_step cfg md5 B haccounted hknown event
      have hcount : (late ++ [event]).countP (resumes id) =
          late.countP (resumes id) + (resumes id event).toNat := by
        rw [List.countP_append, List.countP_singleton]
        cases resumes id event <;> rfl
      omega

theorem ended_of_left {s : System} {id : Nat} {job : Job} (hjob : s.jobs.lookup id = some job)
    (h : s.left id = 0) : job.pc.ended = true := by
  unfold left at h
  rw [hjob, Option.map_some] at h
  cases hpc : job.pc with
  | done => rfl
  | panicked => rfl
  | _ =>
    rw [hpc] at h
    cases h

/-- **A job comes to its end.** Whatever else happens in between, and whether its sends succeed or not, a job
that has gone on six times is done, and is given what its branch owes, or has panicked, with no response. -/
theorem job_ends (cfg : SystemConfig) (md5 : List UInt8 → Vector UInt8 16) (B : Base64)
    (media : MediaRelayManager) (events late : List SystemEvent) {id : Nat} {job : Job}
    (hjob : (run cfg md5 B media events).jobs.lookup id = some job) (hlate : 6 ≤ late.countP (resumes id)) :
    ∃ pc, (run cfg md5 B media (events ++ late)).jobs.lookup id = some { job with pc } ∧ pc.ended = true ∧
      Given job.text ((run cfg md5 B media (events ++ late)).responsesTo id) pc := by
  obtain ⟨⟨pc, hend⟩, hleft⟩ := left_run cfg md5 B media events late hjob
  have hzero : (run cfg md5 B media (events ++ late)).left id = 0 := by omega
  exact ⟨pc, hend, ended_of_left hend hzero,
    ((run_accounted cfg md5 B media (events ++ late)).job id _ hend).2⟩

/-- A stranger asks for the options over UDP. -/
theorem job_ends_concrete :
    let cfg : SystemConfig := ⟨Router.phoneConfig.registrar, Router.phoneConfig.mediaAddr, true⟩
    let md5 : List UInt8 → Vector UInt8 16 := fun _ => Vector.replicate 16 0
    let st : Stimulus := ⟨"OPTIONS sip:example.com SIP/2.0\r\nCSeq: 1 OPTIONS\r\n\r\n".toList,
      Router.phoneDraw, Vector.replicate 16 0⟩
    let events := [SystemEvent.message .listener (Router.phoneAddr 1) st]
    let late := List.replicate 6 (SystemEvent.resume 0 true Router.phoneDraw)
    ∃ (job : Job) (pc : JobPc), job.text = st.text ∧
      (run cfg md5 .standard Router.phoneManager (events ++ late)).jobs.lookup 0 = some { job with pc } ∧
      pc.ended = true ∧
      Given job.text ((run cfg md5 .standard Router.phoneManager (events ++ late)).responsesTo 0) pc := by
  intro cfg md5 st events late
  have hread : ((run cfg md5 .standard Router.phoneManager events).jobs.lookup 0).map Job.text =
      some st.text := by decide +kernel
  obtain ⟨job, hjob, htext⟩ := Option.map_eq_some_iff.mp hread
  obtain ⟨pc, hend⟩ := job_ends cfg md5 .standard Router.phoneManager events late hjob (by decide)
  exact ⟨job, pc, htext, hend⟩

end System

end Minghe.Sip
