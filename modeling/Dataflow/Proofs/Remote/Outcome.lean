import Dataflow.Proofs.Execution.Payload
import Dataflow.Proofs.Journal.Run
import Dataflow.Proofs.Journal.Traced

set_option autoImplicit false

/-! # What comes of a run on a remote runtime

A run posts one request, if it can be made (`RemoteClient.posted?`), and looks at the answer that
ends the exchange, if there is one (`answer?`). `run_eq` takes the run apart there: nothing else of
the other machine matters, and without a request nothing of it matters at all. `Outcome` lists what
can come of an answer. Its cases exclude each other, so that `run_outcomes` can say of each kind of
outcome exactly when it comes about; a fault of the result is never reported unless an answer came
that is not that of an error.

An engine in remote mode hands the result on with the types of the outputs and three timings of its
own.
-/

namespace Dataflow

/-! ## Answers -/

namespace Response

/-- The status is that of an error. -/
def Fails (r : Response) : Prop := 400 ≤ r.status ∧ r.status ≤ 599

/-- The body that is received. -/
def received (r : Response) : Body := if hasNoBody r.status then ⟨.empty⟩ else r.body

/-- The body that is received is that of a result. -/
def Holds (r : Response) (result : ExecutionResult) : Prop :=
  RemoteClient.decode (.record ExecutionResult.parts) ExecutionResult.ofJson? r.received =
    .ok result

theorem Holds.unique {r : Response} {result result' : ExecutionResult} (h : r.Holds result)
    (h' : r.Holds result') : result = result' :=
  Except.ok.inj (h.symm.trans h')

theorem isFailure_eq_true_iff {r : Response} : isFailure r.status = true ↔ r.Fails := by
  rw [isFailure, Bool.and_eq_true, decide_eq_true_eq, decide_eq_true_eq, Fails]
  omega

/-- An answer that ends the exchange is received unless it is that of an error. -/
theorem content?_of_final {r : Response} (h : isFinal r.status = true) :
    r.content? = if isFailure r.status then none else some r.received := by
  rw [content?, h, Bool.not_true, Bool.false_or]
  rfl

theorem content?_of_not_final {r : Response} (h : isFinal r.status = false) :
    r.content? = none := by
  rw [content?, h, Bool.not_false, Bool.true_or, if_pos rfl]

end Response

/-- The requests among entries. -/
def requests (l : List Entry) : List Request :=
  l.filterMap fun
    | .requested q => some q
    | _ => none

namespace RemoteClient

/-! ## The request -/

/-- The credentials can be had, if only to say that none are needed. -/
def HasToken (c : RemoteClient) : Prop := ∃ token, c.credentials.obtain = .ok token

/-- The request that posts an input to a URL with an authorization. -/
def posting (c : RemoteClient) (x : ExecutionInput) (url : Url) (authorization : Option String) :
    Request where
  method := "POST"
  url := url.withoutUser
  authorization := (basicAuthorization? url).or authorization
  userAgent := c.config.effectiveUserAgent
  contentType := some "application/json"
  body := some x.toJson.render

/-- The request that posts an input, if one can be made. -/
def posted? (c : RemoteClient) (x : ExecutionInput) : Option Request :=
  match c.baseUrl.sibling? "runtime", c.authorization with
  | .ok url, .ok authorization =>
      if url.takesRequests then some (c.posting x url authorization) else none
  | _, _ => none

/-- The answer that ends the exchange, if there is one. -/
def answer? (c : RemoteClient) (x : ExecutionInput) : Option Response :=
  ((c.posted? x).bind c.transport).filter fun response => Response.isFinal response.status

/-- What an exchange yields of an answer to its request. -/
def receive (q : Request) : Option Response → Traced ExecutionError Response.Body
  | none => disconnect .unreachable
  | some response => do
      Traced.leave (.requested q)
      match response.content? with
      | some body => return body
      | none => disconnect .http

/-- What a run makes of the body of an answer. -/
def accept (x : ExecutionInput) (body : Response.Body) : Traced ExecutionError ExecutionResult := do
  let result ← Traced.ofExcept
    (decode (.record ExecutionResult.parts) ExecutionResult.ofJson? body)
  if result.jobId = x.jobId then return result
  else Traced.fail (.resultValidation (.otherJob result.jobId x.jobId))

variable {c : RemoteClient} {x : ExecutionInput}

/-- Without credentials there is no request. -/
theorem posted?_of_not_hasToken (h : ¬ c.HasToken) : c.posted? x = none := by
  have hnone : ∃ fault, c.authorization = .error fault := by
    rw [authorization]
    cases hobtain : c.credentials.obtain with
    | error cause => exact ⟨_, rfl⟩
    | ok token => exact absurd ⟨token, hobtain⟩ h
  obtain ⟨fault, hfault⟩ := hnone
  rw [posted?, hfault]
  cases c.baseUrl.sibling? "runtime" <;> rfl

/-- With a URL that takes requests and credentials that fit into a header there is one. -/
theorem exists_posted? {url : Url} (hurl : c.baseUrl.sibling? "runtime" = .ok url)
    (htakes : url.takesRequests = true) {token : Option String}
    (htoken : c.credentials.obtain = .ok token)
    (hfits : ∀ t ∈ token, isHeaderValue ("Bearer " ++ t) = true) :
    ∃ authorization, c.posted? x = some (c.posting x url authorization) := by
  have hauthorization : ∃ authorization, c.authorization = .ok authorization := by
    rw [authorization, htoken]
    cases token with
    | none => exact ⟨none, rfl⟩
    | some t => exact ⟨_, if_pos (hfits t rfl)⟩
  obtain ⟨authorization, hauthorization⟩ := hauthorization
  refine ⟨authorization, ?_⟩
  rw [posted?, hurl, hauthorization]
  exact if_pos htakes

/-- **What a run is**: a fault of the connection without a request, or what it makes of the answer
to its one request. Of the other machine only the answer to that request matters. -/
theorem run_eq (c : RemoteClient) (x : ExecutionInput) :
    (c.posted? x = none ∧ ∃ entries fault, requests entries = [] ∧
        ∀ transport, ({ c with transport } : RemoteClient).run x =
          ⟨entries, .error (.runtimeConnection fault)⟩) ∨
      ∃ q event, c.posted? x = some q ∧ ∀ transport, ({ c with transport } : RemoteClient).run x =
        Traced.log event >>= fun _ => receive q (transport q) >>= accept x := by
  -- a request is not made without a URL or credentials, nor to a URL that takes no requests
  cases hurl : c.baseUrl.sibling? "runtime" with
  | error fault =>
      refine .inl ⟨by rw [posted?, hurl], [], .invalidUrl fault, rfl, fun transport => ?_⟩
      rw [run, endpoint, hurl]
      rfl
  | ok url =>
      have hrun : ∀ transport, ({ c with transport } : RemoteClient).run x =
          Traced.log (.inputPosted (toString url) x.jobId) >>= fun _ =>
            ({ c with transport } : RemoteClient).exchange "POST" url (some x.toJson) >>=
              accept x := by
        intro transport
        rw [run, endpoint, hurl]
        exact pure_bind _ _
      have hsame : ∀ transport, ({ c with transport } : RemoteClient).authorization =
          c.authorization := fun _ => rfl
      cases hauthorization : c.authorization with
      | error fault =>
          refine .inl ⟨by rw [posted?, hurl, hauthorization],
            [.event (.inputPosted (toString url) x.jobId)], fault, rfl, fun transport => ?_⟩
          rw [hrun, exchange, hsame, hauthorization]
          rfl
      | ok authorization =>
          cases htakes : url.takesRequests with
          | false =>
              refine .inl ⟨by simp [posted?, hurl, hauthorization, htakes],
                [.event (.inputPosted (toString url) x.jobId)], .http, rfl, fun transport => ?_⟩
              rw [hrun, exchange, hsame, hauthorization, htakes]
              rfl
          | true =>
              refine .inr ⟨c.posting x url authorization, .inputPosted (toString url) x.jobId,
                by simp [posted?, hurl, hauthorization, htakes], fun transport => ?_⟩
              rw [hrun, exchange, hsame, hauthorization, htakes]
              rfl

/-! ## The outcome -/

/-- What can come of an answer, or of none. -/
inductive Outcome (x : ExecutionInput) :
    Option Response → Except ExecutionError ExecutionResult → Prop
  | unanswered (fault : ConnectionFault) : Outcome x none (.error (.runtimeConnection fault))
  | failed {response : Response} (hfails : response.Fails) :
      Outcome x (some response) (.error (.runtimeConnection .http))
  | unreadable {response : Response} (hfine : ¬ response.Fails)
      (hholds : ∀ r, ¬ response.Holds r) :
      Outcome x (some response) (.error (.resultValidation .invalidResponse))
  | otherJob {response : Response} {r : ExecutionResult} (hfine : ¬ response.Fails)
      (hholds : response.Holds r) (hjob : r.jobId ≠ x.jobId) :
      Outcome x (some response) (.error (.resultValidation (.otherJob r.jobId x.jobId)))
  | returned {response : Response} {r : ExecutionResult} (hfine : ¬ response.Fails)
      (hholds : response.Holds r) (hjob : r.jobId = x.jobId) : Outcome x (some response) (.ok r)

section Outcome

variable {answer : Option Response} {outcome : Except ExecutionError ExecutionResult}

theorem Outcome.eq_ok_iff (h : Outcome x answer outcome) {r : ExecutionResult} :
    outcome = .ok r ↔ ∃ response, answer = some response ∧ ¬ response.Fails ∧
      response.Holds r ∧ r.jobId = x.jobId := by
  cases h with
  | unanswered => simp
  | failed hfails => simp [hfails]
  | unreadable _ hnone => simp [hnone]
  | otherJob _ hholds hother =>
      refine iff_of_false nofun ?_
      rintro ⟨response, ⟨⟩, -, hholds', hjob⟩
      exact hother (hholds.unique hholds' ▸ hjob)
  | returned hfine hholds hjob =>
      constructor
      · rintro ⟨⟩
        exact ⟨_, rfl, hfine, hholds, hjob⟩
      · rintro ⟨response, ⟨⟩, -, hholds', -⟩
        rw [hholds.unique hholds']

theorem Outcome.eq_connection_iff (h : Outcome x answer outcome) :
    (∃ fault, outcome = .error (.runtimeConnection fault)) ↔
      answer = none ∨ ∃ response, answer = some response ∧ response.Fails := by
  cases h with
  | unanswered => simp
  | failed hfails => simp [hfails]
  | unreadable hfine => simp [hfine]
  | otherJob hfine => simp [hfine]
  | returned hfine => simp [hfine]

theorem Outcome.eq_validation_iff (h : Outcome x answer outcome) :
    (∃ fault, outcome = .error (.resultValidation fault)) ↔
      ∃ response, answer = some response ∧ ¬ response.Fails ∧
        ((∀ r, ¬ response.Holds r) ∨ ∃ r, response.Holds r ∧ r.jobId ≠ x.jobId) := by
  cases h with
  | unanswered => simp
  | failed hfails => simp [hfails]
  | unreadable hfine hnone => simp [hfine, hnone]
  | otherJob hfine hholds hother =>
      simp only [Except.error.injEq, ExecutionError.resultValidation.injEq, exists_eq', true_iff]
      exact ⟨_, rfl, hfine, .inr ⟨_, hholds, hother⟩⟩
  | returned hfine hholds hjob =>
      refine iff_of_false nofun ?_
      rintro ⟨response, ⟨⟩, -, hnone | ⟨r', hholds', hother⟩⟩
      · exact hnone _ hholds
      · exact hother (hholds.unique hholds' ▸ hjob)

/-- There are two kinds of errors. -/
theorem Outcome.kind_of_eq_error (h : Outcome x answer outcome) {e : ExecutionError}
    (he : outcome = .error e) : e.kind = .runtimeConnection ∨ e.kind = .resultValidation := by
  cases h with
  | unanswered => exact .inl (Except.error.inj he ▸ rfl)
  | failed => exact .inl (Except.error.inj he ▸ rfl)
  | unreadable => exact .inr (Except.error.inj he ▸ rfl)
  | otherJob => exact .inr (Except.error.inj he ▸ rfl)
  | returned => cases he

end Outcome

/-- What a body holds that is a text. -/
theorem toOption_decode_text {α : Type} (o : Json.Outline) (read : Json → Option α) (s : String) :
    (decode o read s).toOption = (Json.parseOutline? o s).bind read := by
  rw [decode, Json.parseBytes?_toUTF8]
  cases (Json.parseOutline? o s).bind read <;> rfl

/-- A body is that of a result, or fails to be that of any. -/
theorem decode_cases (response : Response) :
    (∃ r, response.Holds r) ∨ (∀ r, ¬ response.Holds r) ∧
      decode (.record ExecutionResult.parts) ExecutionResult.ofJson? response.received =
        .error (.resultValidation .invalidResponse) := by
  simp only [Response.Holds, decode]
  cases (Json.parseBytes? (.record ExecutionResult.parts) response.received.bytes).bind
    ExecutionResult.ofJson? with
  | some r => exact .inl ⟨r, rfl⟩
  | none => exact .inr ⟨fun r => nofun, rfl⟩

theorem outcome_accept {response : Response} (hfine : ¬ response.Fails) :
    Outcome x (some response) (accept x response.received).result := by
  rcases decode_cases response with ⟨r, hr⟩ | ⟨hnone, hdecode⟩
  · rw [accept, show decode _ _ response.received = .ok r from hr, Traced.ofExcept_ok_bind]
    by_cases hjob : r.jobId = x.jobId
    · rw [if_pos hjob]
      exact .returned hfine hr hjob
    · rw [if_neg hjob]
      exact .otherJob hfine hr hjob
  · rw [accept, hdecode, Traced.ofExcept_error_bind]
    exact .unreadable hfine hnone

/-- An answer that does not end the exchange is none. -/
theorem outcome_receive (x : ExecutionInput) (q : Request) (answer : Option Response) :
    Outcome x (answer.filter fun response => Response.isFinal response.status)
      (receive q answer >>= accept x).result := by
  cases answer with
  | none => exact .unanswered .unreachable
  | some response =>
      rw [Traced.result_bind, receive, Traced.result_bind]
      cases hfinal : Response.isFinal response.status with
      | false =>
          -- the request shows in the journal, but nothing has answered it for good
          rw [Response.content?_of_not_final hfinal, Option.filter_some, hfinal]
          exact .unanswered .http
      | true =>
          rw [Response.content?_of_final hfinal, Option.filter_some, hfinal]
          cases hfails : Response.isFailure response.status with
          | true => exact .failed (Response.isFailure_eq_true_iff.1 hfails)
          | false =>
              have hfine : ¬ response.Fails := by
                rw [← Response.isFailure_eq_true_iff, hfails]
                exact Bool.false_ne_true
              exact outcome_accept hfine

/-- **Every run has an outcome**, which is that of the answer. -/
theorem outcome_run (c : RemoteClient) (x : ExecutionInput) :
    Outcome x (c.answer? x) (c.run x).result := by
  rcases c.run_eq x with ⟨hposted, entries, fault, -, hrun⟩ | ⟨q, event, hposted, hrun⟩
  · rw [answer?, hposted, show c.run x = _ from hrun c.transport]
    exact .unanswered fault
  · rw [answer?, hposted, show c.run x = _ from hrun c.transport, Traced.result_bind]
    exact outcome_receive x q (c.transport q)

/-- Without credentials there is no answer either. -/
theorem answer?_of_not_hasToken (h : ¬ c.HasToken) : c.answer? x = none := by
  rw [answer?, posted?_of_not_hasToken h]
  rfl

/-! ## Requests -/

theorem entries_accept (x : ExecutionInput) (body : Response.Body) :
    (accept x body).entries = [] := by
  rw [accept]
  cases decode (.record ExecutionResult.parts) ExecutionResult.ofJson? body with
  | error cause =>
      rw [Traced.ofExcept_error_bind]
      rfl
  | ok r =>
      rw [Traced.ofExcept_ok_bind]
      split <;> rfl

theorem entries_receive (x : ExecutionInput) (q : Request) (answer : Option Response) :
    (receive q answer >>= accept x).entries =
      (answer.map fun _ => Entry.requested q).toList := by
  cases answer with
  | none => rfl
  | some response =>
      rw [receive]
      cases response.content? with
      | none => rfl
      | some body => exact congrArg ([.requested q] ++ ·) (entries_accept x body)

/-- The only request is the one that posts the input, and it shows if anything answers. -/
theorem requests_run (c : RemoteClient) (x : ExecutionInput) :
    requests (c.run x).entries =
      ((c.posted? x).filter fun q => (c.transport q).isSome).toList := by
  rcases c.run_eq x with ⟨hposted, entries, fault, hnone, hrun⟩ | ⟨q, event, hposted, hrun⟩
  · rw [hposted, show c.run x = _ from hrun c.transport]
    exact hnone
  · have hentries : requests (c.run x).entries =
        requests (receive q (c.transport q) >>= accept x).entries := by
      rw [show c.run x = _ from hrun c.transport]
      rfl
    rw [hentries, entries_receive, hposted, Option.filter_some]
    cases c.transport q <;> rfl

/-- Of the other machine only the answer to that request matters. -/
theorem run_congr {transport : Request → Option Response}
    (h : ∀ q ∈ c.posted? x, transport q = c.transport q) :
    ({ c with transport } : RemoteClient).run x = c.run x := by
  rcases c.run_eq x with ⟨-, entries, fault, -, hrun⟩ | ⟨q, event, hposted, hrun⟩
  · exact (hrun transport).trans (hrun c.transport).symm
  · rw [hrun transport, h q hposted]
    exact (hrun c.transport).symm

end RemoteClient

/-! ## The engine -/

namespace ExecutionMode

variable {c : RemoteClient} {x : ExecutionInput}

theorem resume_run_of_error {cause : ExecutionError} (h : (c.run x).result = .error cause)
    (s : Supply) (j : Journal) :
    ∃ j', ((remote c).run x).resume s j = (.error cause, j') := by
  rw [run, Attempt.resume_ofRun_bind]
  exact ⟨_, Attempt.resume_ofTraced_bind_of_error h _⟩

theorem resume_run_of_ok {r : ExecutionResult} (h : (c.run x).result = .ok r) (s : Supply)
    (j : Journal) :
    ∃ j', ((remote c).run x).resume s j = (.ok (r.record .runExecutionInput
      (.between (s.clock j.readings) (s.clock (j.readings + 1)))), j') ∧
        j'.readings = j.readings + 2 := by
  rw [run, Attempt.resume_ofRun_bind]
  exact ⟨_, Attempt.resume_ofTraced_bind_of_ok h _, rfl⟩

end ExecutionMode

namespace Engine

/-- What an engine reports of the result of a remote run. -/
theorem execute_remote {e : Engine} {c : RemoteClient} (hmode : e.mode = .remote c)
    (q : ExecutionRequest) (s : Supply) (j : Journal) :
    let t := fun i => s.clock (j.readings + i)
    ((e.execute q).resume s j).1 = (e.prepare q).result >>= fun x =>
      (c.run x).result.map fun r =>
        { r with
          outputTypes := x.workflow.interface.outputTypes
          measuredSteps := ((r.measuredSteps.insert MeasuredStep.runExecutionInput.name
            (.between (t 2) (t 3))).insert MeasuredStep.prepareExecutionInput.name
              (.between (t 0) (t 1))).insert MeasuredStep.internalFull.name
                (.between (t 0) (t 4)) } := by
  intro t
  rw [execute, Attempt.resume_log_bind, Attempt.resume_ofRun_bind, hmode]
  cases hprepare : (e.prepare q).result with
  | error cause =>
      rw [Attempt.resume_ofTraced_bind_of_error hprepare]
      rfl
  | ok x =>
      rw [Attempt.resume_ofTraced_bind_of_ok hprepare, Attempt.resume_ofRun_bind]
      cases hrun : (c.run x).result with
      | error cause =>
          obtain ⟨j', hj'⟩ := ExecutionMode.resume_run_of_error hrun s _
          rw [Attempt.resume_bind_of_error hj']
          exact (congrArg (Except.map _) hrun).symm
      | ok r =>
          obtain ⟨j', hj', hreadings⟩ := ExecutionMode.resume_run_of_ok hrun s _
          rw [Attempt.resume_bind_of_ok hj']
          have hlast : s.clock j'.readings = t 4 := congrArg s.clock hreadings
          show Except.ok (ExecutionResult.record _ .internalFull
            (.between (t 0) (s.clock j'.readings))) = Except.map _ (c.run x).result
          rw [hlast, hrun]
          rfl

end Engine

namespace RemoteClient

/-- **When a remote run returns what, and when it fails how.** It returns the result that the answer
holds, as it is, if that is one for the job that was asked for; it reports a fault of the connection
without credentials, without an answer, and over an answer that fails; it reports a fault of the
result over every other answer. It makes at most one request, none without credentials, and one if
the URL takes requests and the credentials fit into a header. An engine changes the types of the
outputs and three timings, and nothing else. -/
theorem run_outcomes (c : RemoteClient) :
    (∀ x : ExecutionInput,
      (∀ r, (c.run x).result = .ok r ↔
        c.HasToken ∧ ∃ response, c.answer? x = some response ∧ ¬ response.Fails ∧
          response.Holds r ∧ r.jobId = x.jobId) ∧
      ((∃ fault, (c.run x).result = .error (.runtimeConnection fault)) ↔
        ¬ c.HasToken ∨ c.answer? x = none ∨
          ∃ response, c.answer? x = some response ∧ response.Fails) ∧
      ((∃ fault, (c.run x).result = .error (.resultValidation fault)) ↔
        ∃ response, c.answer? x = some response ∧ ¬ response.Fails ∧
          ((∀ r, ¬ response.Holds r) ∨ ∃ r, response.Holds r ∧ r.jobId ≠ x.jobId)) ∧
      (∀ e, (c.run x).result = .error e →
        e.kind = .runtimeConnection ∨ e.kind = .resultValidation) ∧
      requests (c.run x).entries =
        ((c.posted? x).filter fun q => (c.transport q).isSome).toList ∧
      (∀ transport, (∀ q ∈ c.posted? x, transport q = c.transport q) →
        ({ c with transport } : RemoteClient).run x = c.run x) ∧
      (¬ c.HasToken → c.posted? x = none) ∧
      ∀ url token, c.baseUrl.sibling? "runtime" = .ok url → url.takesRequests = true →
        c.credentials.obtain = .ok token →
          (∀ t ∈ token, isHeaderValue ("Bearer " ++ t) = true) →
            ∃ authorization, c.posted? x = some (c.posting x url authorization)) ∧
      ∀ (e : Engine) (q : ExecutionRequest) (s : Supply) (j : Journal), e.mode = .remote c →
        let t := fun i => s.clock (j.readings + i)
        ((e.execute q).resume s j).1 = (e.prepare q).result >>= fun x =>
          (c.run x).result.map fun r =>
            { r with
              outputTypes := x.workflow.interface.outputTypes
              measuredSteps := ((r.measuredSteps.insert MeasuredStep.runExecutionInput.name
                (.between (t 2) (t 3))).insert MeasuredStep.prepareExecutionInput.name
                  (.between (t 0) (t 1))).insert MeasuredStep.internalFull.name
                    (.between (t 0) (t 4)) } := by
  refine ⟨fun x => ⟨fun r => ?_, ?_, (c.outcome_run x).eq_validation_iff,
    fun e => (c.outcome_run x).kind_of_eq_error, c.requests_run x, fun transport => run_congr,
    posted?_of_not_hasToken, fun url token hurl htakes htoken =>
      exists_posted? hurl htakes htoken⟩,
    fun e q s j hmode => Engine.execute_remote hmode q s j⟩
  · rw [(c.outcome_run x).eq_ok_iff, iff_and_self]
    rintro ⟨response, hanswer, -⟩
    by_contra htoken
    rw [answer?_of_not_hasToken htoken] at hanswer
    cases hanswer
  · rw [(c.outcome_run x).eq_connection_iff, iff_or_self]
    exact fun htoken => .inl (answer?_of_not_hasToken htoken)

/-- The text of a result that reports a failure of what was executed. -/
def sampleText : String :=
  "\x7b\"job_id\":\"00000000-0000-0000-0000-00000000000a\",\"error\":\"no\"\x7d"

/-- An answer with this text. -/
def sampleResponse : Response := ⟨200, sampleText⟩

/-- A client of a runtime that answers to one token. -/
def sampleClient : RemoteClient where
  config := .standard
  baseUrl := ⟨"http", some ⟨[], ['h'], none⟩, .segments [[]], none, none⟩
  credentials := .token "secret"
  transport := fun q =>
    if q.authorization = some "Bearer secret" then some sampleResponse else some ⟨401, ""⟩

/-- The client with a token that the runtime does not know. -/
def strangerClient : RemoteClient := { sampleClient with credentials := .token "other" }

/-- An engine over the sample store that sends executions to that runtime. -/
def sampleEngine : Engine := { Engine.sampleEngine with mode := .remote sampleClient }

/-- A failure of what was executed is returned word for word, by the client and by an engine. With
another token there is a fault of the connection. -/
theorem run_outcomes_sample :
    ∃ x r r', (sampleEngine.prepare Engine.sampleRequest).result = .ok x ∧
      (sampleClient.run x).result = .ok r ∧ r.error = some "no" ∧
      (requests (sampleClient.run x).entries).length = 1 ∧
      (∃ fault, (strangerClient.run x).result = .error (.runtimeConnection fault)) ∧
      ((sampleEngine.execute Engine.sampleRequest).resume ⟨.ofNat, .ofNat, fun _ => ⟨0⟩⟩
        .empty).1 = .ok r' ∧ r'.error = some "no" := by
  have hjob : (sampleEngine.prepare Engine.sampleRequest).result.toOption.map (·.jobId) =
      some (.ofNat 10) := rfl
  cases hprepare : (sampleEngine.prepare Engine.sampleRequest).result with
  | error cause =>
      rw [hprepare] at hjob
      cases hjob
  | ok x =>
      rw [hprepare] at hjob
      have hdecoded : (decode (.record ExecutionResult.parts) ExecutionResult.ofJson?
          sampleResponse.received).toOption.map (fun r => (r.error, r.jobId)) =
            some (some "no", .ofNat 10) := by
        have hbody : sampleResponse.received = (sampleText : Response.Body) := rfl
        rw [hbody, toOption_decode_text]
        decide +kernel
      cases hholds : decode (.record ExecutionResult.parts) ExecutionResult.ofJson?
          sampleResponse.received with
      | error cause =>
          rw [hholds] at hdecoded
          cases hdecoded
      | ok r =>
          rw [hholds] at hdecoded
          obtain ⟨herror, hid⟩ := Prod.mk.inj (Option.some.inj hdecoded)
          have hfine : ¬ sampleResponse.Fails := by
            rw [Response.Fails]
            decide
          obtain ⟨hruns, hengine⟩ := run_outcomes sampleClient
          have hrun : (sampleClient.run x).result = .ok r :=
            ((hruns x).1 r).2 ⟨⟨_, rfl⟩, sampleResponse, rfl, hfine, hholds,
              hid.trans (Option.some.inj hjob).symm⟩
          have hrefused : ∃ fault, (strangerClient.run x).result =
              .error (.runtimeConnection fault) :=
            (((run_outcomes strangerClient).1 x).2.1).2
              (.inr (.inr ⟨⟨401, ""⟩, rfl, by rw [Response.Fails]; decide⟩))
          have hexecuted := hengine sampleEngine Engine.sampleRequest
            ⟨.ofNat, .ofNat, fun _ => ⟨0⟩⟩ .empty rfl
          rw [hprepare] at hexecuted
          have hreported := hexecuted.trans (congrArg (Except.map _) hrun)
          refine ⟨x, r, _, rfl, hrun, herror, ?_, hrefused, hreported, herror⟩
          rw [(hruns x).2.2.2.2.1]
          rfl

end RemoteClient

end Dataflow
