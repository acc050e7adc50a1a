import ConsentGate.Proofs.Endpoint.SessionState
import ConsentGate.Proofs.Server.Responses
import ConsentGate.Proofs.Server.Run

namespace ConsentGate

/-- The redirects that deliver what is issued in a step, where the step is answered. -/
inductive Endpoint.Succeeds (e : Endpoint) (c : Collaborators) (m : Moment) (step : Step) :
    Redirect → Prop
  | intro {request : Request} {target : Url} {grant : GrantType} {issued : Issued}
      {session : Option String} (answers : Answers e c step request target grant) :
      Succeeds e c m step (.success e.approval.status m.now target request issued session)

theorem Endpoint.Succeeds.status {e : Endpoint} {c : Collaborators} {m : Moment} {step : Step}
    {r : Redirect} (h : Succeeds e c m step r) : r.status = e.approval.status := by
  cases h
  rfl

/-- At the URL where a step is answered, what reports an error delivers nothing. -/
theorem Endpoint.Succeeds.ne_failure {e : Endpoint} {c : Collaborators} {m : Moment} {step : Step}
    {r : Redirect} {target : Url} (h : Succeeds e c m step r) (answered : AnsweredAt e c step target)
    (status : RedirectStatus) (grant : GrantType) (error : AuthError) (state : Option String) :
    r ≠ .failure status target grant error state := by
  cases h with
  | intro answers =>
    obtain rfl := answered.unique answers.answeredAt
    exact Redirect.success_ne_failure answers.wellFormed _ _ _ _ _ _

theorem Redirect.eq_of_uri {r r' : Redirect} (huri : r.uri = r'.uri) (hstatus : r.status = r'.status) :
    r = r' := by
  cases r
  cases r'
  exact (mk.injEq ..).mpr ⟨huri, hstatus⟩

namespace Handlers

variable {e : Endpoint} {c : Collaborators} {m : Moment} {store : SnapshotStore} {p : Principal}
  {parameters form : TextMap String}

/-! ## Stores -/

/-- The stores that the handlers and the cleanup leave behind, whatever the collaborators answer in each
step. -/
inductive Reached (e : Endpoint) : SnapshotStore → Prop
  | start : Reached e .empty
  | authorize {store : SnapshotStore} (reached : Reached e store) (c : Collaborators) (m : Moment)
      (parameters : TextMap String) (p : Principal) :
      Reached e (authorize e c m store parameters p).value.2
  | approve {store : SnapshotStore} (reached : Reached e store) (c : Collaborators) (m : Moment)
      (form : TextMap String) (p : Principal) : Reached e (approve e c m store form p).value.2
  | cleanup {store left : SnapshotStore} {now : Timestamp} {maxAge : Int} {n : Nat}
      (reached : Reached e store) (cleaned : store.cleanup? now maxAge = some (n, left)) :
      Reached e left

/-- No page is held for a request that rules out questions. -/
theorem Reached.promptNone (h : Reached e store) :
    ∀ held ∈ store.held, held.snapshot.request.promptNone = false := by
  induction h with
  | start => exact fun held hm => absurd hm List.not_mem_nil
  | authorize reached c m parameters p ih =>
    intro held hm
    obtain hm | ⟨page, hpage, rfl⟩ := mem_authorize hm
    · exact ih held hm
    · obtain ⟨request, _, _, _, _, _, _, hprompt, rfl⟩ := Endpoint.authorize_approval hpage
      exact hprompt
  | approve reached c m form p ih => exact fun held hm => ih held (mem_approve hm)
  | cleanup reached cleaned ih =>
    exact fun held hm => ih held (SnapshotStore.mem_cleanup? cleaned hm)

/-! ## Answers -/

/-- What is promised to a request that rules out any question to the user: it gets no page, and leaves
none behind. If it is answered with what was issued, the session state was asked for first, and goes with
it. If the session state fails nothing is issued, and the client is told of a fault of the server. -/
structure Unprompted (e : Endpoint) (c : Collaborators) (m : Moment) (store : SnapshotStore)
    (parameters : TextMap String) (p : Principal) (run : Traced (HttpResponse × SnapshotStore)) :
    Prop where
  unasked : ∀ page, run.value.1 ≠ .ofApprovalPage page
  unchanged : run.value.2 = store
  success : ∀ r, Endpoint.Succeeds e c m (.request parameters) r → run.value.1.location = some r.uri →
    ∃ request client target session issuing pairs inFragment,
      Endpoint.Received e c parameters request client target ∧
      run.calls = .client request.clientId (.ok (some client)) ::
        .sessionState p.subjectId request.clientId target.origin (.ok session) :: issuing ∧
      (∀ call ∈ issuing, call.request? = some { request with approved := true }) ∧
      r.Delivers target pairs inFragment ∧ ("session_state", session) ∈ pairs
  failure : ∀ subjectId clientId origin error,
    .sessionState subjectId clientId origin (.error error) ∈ run.calls →
    ∃ request client target, ∃ r : Redirect, ∃ pairs inFragment,
      Endpoint.Received e c parameters request client target ∧
      run.calls = [.client request.clientId (.ok (some client)),
        .sessionState p.subjectId request.clientId target.origin (.error error)] ∧
      run.value.1 = ⟨r.status.code, some r.uri, none⟩ ∧
      r.Delivers target pairs inFragment ∧ ("error", "server_error") ∈ pairs ∧
      "session_state" ∉ pairs.map Prod.fst ∧ (target.isReadable = true →
        r.parameter? "session_state" = target.queryPairs.lookup "session_state")

/-- What is promised elsewhere: no session state is asked for, and none is added to the URL at which the
answer is. -/
structure Unattested (place : Url → Prop) (run : Traced (HttpResponse × SnapshotStore)) : Prop where
  calls : ∀ call ∈ run.calls, call.isSessionState = false
  redirect : ∀ uri, run.value.1.location = some uri →
    ∃ target status pairs inFragment, place target ∧
      Redirect.Delivers ⟨uri, status⟩ target pairs inFragment ∧ "session_state" ∉ pairs.map Prod.fst

open Endpoint in
theorem success_of_attested {request : Request} {client : Client} {target : Url} {calls : List Call}
    {r r' : Redirect} (hreceived : Received e c parameters request client target)
    (h : Attested e m p request client target calls r) (hr : Succeeds e c m (.request parameters) r')
    (huri : r.uri = r'.uri) :
    ∃ session issuing pairs inFragment,
      calls = .client request.clientId (.ok (some client)) ::
        .sessionState p.subjectId request.clientId target.origin (.ok session) :: issuing ∧
      (∀ call ∈ issuing, call.request? = some { request with approved := true }) ∧
      r'.Delivers target pairs inFragment ∧ ("session_state", session) ∈ pairs := by
  obtain rfl := Redirect.eq_of_uri huri (h.status.trans hr.status.symm)
  have hfailure := fun grant error =>
    hr.ne_failure (.request hreceived) e.approval.status grant error request.state
  cases h with
  | unasked | failed | unissued _ => exact absurd rfl (hfailure _ _)
  | issued issues =>
    refine ⟨_, _, _, _, rfl, issues,
      Redirect.delivers_success _ _ (wellFormed_of_target hreceived.target) _ _ _, ?_⟩
    rw [Redirect.successPairs_some]
    exact List.mem_append_right _ (List.mem_singleton_self _)

open Endpoint in
theorem failure_of_attested {request : Request} {client : Client} {target : Url} {calls : List Call}
    {r : Redirect} (h : Attested e m p request client target calls r)
    {subjectId clientId origin : String} {error : AuthError}
    (hcall : .sessionState subjectId clientId origin (.error error) ∈ calls) :
    calls = [.client request.clientId (.ok (some client)),
        .sessionState p.subjectId request.clientId target.origin (.error error)] ∧
      ∃ grant, r = .failure e.approval.status target grant .notIssued request.state := by
  cases h with
  | unasked => simp at hcall
  | failed =>
    simp only [List.mem_cons, reduceCtorEq, Call.sessionState.injEq, Except.error.injEq,
      List.not_mem_nil, or_false, false_or] at hcall
    obtain ⟨_, _, _, rfl⟩ := hcall
    exact ⟨rfl, _, rfl⟩
  | unissued issues | issued issues =>
    simp only [List.mem_cons, reduceCtorEq, Call.sessionState.injEq, and_false, false_or] at hcall
    cases issues _ hcall

theorem unprompted (e : Endpoint) (c : Collaborators) (m : Moment) (store : SnapshotStore)
    (p : Principal) (h : "none" ∈ Request.items parameters "prompt") :
    Unprompted e c m store parameters p (authorize e c m store parameters p) := by
  have hcalls : (authorize e c m store parameters p).calls = (e.authorize c m parameters p).calls :=
    calls_authorize parameters
  obtain ⟨error, hvalue, hclient⟩ | ⟨request, client, target, r, hreceived, hvalue, hattested⟩ :=
    Endpoint.authorize_of_promptNone e c m p h
  · have hresponse : (authorize e c m store parameters p).value.1 = .ofAuthError error :=
      response_of_error hvalue
    have hstore : (authorize e c m store parameters p).value.2 = store := by
      rw [authorize_store, hvalue]
    refine ⟨fun page hpage => ?_, hstore, fun r _ hr => ?_, fun _ _ _ _ hcall => ?_⟩
    · exact HttpResponse.ofAuthError_ne_ofApprovalPage error page (hresponse.symm.trans hpage)
    · simp [hresponse] at hr
    · rw [hcalls] at hcall
      obtain ⟨_, _, heq⟩ := hclient _ hcall
      cases heq
  · have hresponse : (authorize e c m store parameters p).value.1 = ⟨r.status.code, some r.uri, none⟩ :=
      (response_of_ok hvalue).trans (Endpoint.ofRedirect_of_outcome (.request parameters) hvalue)
    have hstore : (authorize e c m store parameters p).value.2 = store := by
      rw [authorize_store, hvalue]
    refine ⟨fun page hpage => ?_, hstore, fun r' hr' huri => ?_, fun _ _ _ error hcall => ?_⟩
    · simpa using congrArg HttpResponse.location (hresponse.symm.trans hpage)
    · rw [hresponse, Option.some.injEq] at huri
      obtain ⟨session, issuing, pairs, inFragment, hsession⟩ :=
        success_of_attested hreceived hattested hr' huri
      rw [hcalls]
      exact ⟨request, client, target, session, issuing, pairs, inFragment, hreceived, hsession⟩
    · rw [hcalls] at hcall ⊢
      obtain ⟨hasked, grant, rfl⟩ := failure_of_attested hattested hcall
      have ht := Endpoint.wellFormed_of_target hreceived.target
      have hnone := Redirect.session_not_mem_errorPairs .notIssued request.state
      exact ⟨request, client, target, _, _, _, hreceived, hasked, hresponse,
        Redirect.delivers_failure _ ht _ _ _, List.mem_append_left _ (List.mem_cons_self ..), hnone,
        fun hr => Redirect.parameter?_failure _ ht hr _ _ _ hnone⟩

theorem unattested_authorize (e : Endpoint) (c : Collaborators) (m : Moment) (store : SnapshotStore)
    (p : Principal) (h : "none" ∉ Request.items parameters "prompt") :
    Unattested (fun target => ∃ request client, Endpoint.Received e c parameters request client target)
      (authorize e c m store parameters p) := by
  obtain ⟨hsilent, hbare⟩ := Endpoint.authorize_of_not_promptNone e c m p h
  refine ⟨by rwa [calls_authorize], fun uri huri => ?_⟩
  obtain ⟨r, hvalue, rfl⟩ := redirect_of_location huri
  obtain ⟨request, client, target, hreceived, hr⟩ := hbare r hvalue
  obtain ⟨pairs, inFragment, hdelivers, hnone⟩ :=
    hr.delivers (Endpoint.wellFormed_of_target hreceived.target)
  exact ⟨target, r.status, pairs, inFragment, ⟨request, client, hreceived⟩, hdelivers, hnone⟩

theorem unattested_approve (e : Endpoint) (c : Collaborators) (m : Moment) (p : Principal)
    (form : TextMap String)
    (h : ∀ held ∈ store.held, held.snapshot.request.promptNone = false) :
    Unattested (fun target => ∃ id held, snapshotId? form = some id ∧ store.find? id = some held ∧
      Redirect.target held.snapshot.request = .ok target) (approve e c m store form p) := by
  constructor
  · obtain ⟨hcalls, _⟩ | ⟨id, held, _, hfind, _, hcalls, _⟩ := approve_cases e c m p store form
    · simp [hcalls]
    · rw [hcalls]
      exact (Endpoint.approve_of_not_promptNone e c m p form _
        (h held (List.mem_of_find?_eq_some hfind))).1
  · intro uri huri
    obtain ⟨id, held, r, hid, hfind, hvalue, rfl⟩ := redirect_of_location_approve huri
    obtain ⟨target, htarget, hr⟩ := (Endpoint.approve_of_not_promptNone e c m p form _
      (h held (List.mem_of_find?_eq_some hfind))).2 r hvalue
    obtain ⟨pairs, inFragment, hdelivers, hnone⟩ := hr.delivers (Endpoint.wellFormed_of_target htarget)
    exact ⟨target, r.status, pairs, inFragment, ⟨id, held, hid, hfind, htarget⟩, hdelivers, hnone⟩

/-- In every run of the handlers, whatever their collaborators do: a request whose `prompt` holds `none` gets
what it is promised, and neither any other request nor any form leads to a session state. -/
theorem prompt_none (e : Endpoint) (store : SnapshotStore) (hreached : Reached e store)
    (c : Collaborators) (m : Moment) (p : Principal) :
    (∀ parameters, "none" ∈ Request.items parameters "prompt" →
      Unprompted e c m store parameters p (authorize e c m store parameters p)) ∧
    (∀ parameters, "none" ∉ Request.items parameters "prompt" →
      Unattested (fun target => ∃ request client, Endpoint.Received e c parameters request client target)
        (authorize e c m store parameters p)) ∧
    ∀ form, Unattested (fun target => ∃ id held, snapshotId? form = some id ∧
      store.find? id = some held ∧ Redirect.target held.snapshot.request = .ok target)
      (approve e c m store form p) :=
  ⟨fun _ h => unprompted e c m store p h, fun _ h => unattested_authorize e c m store p h,
    fun form => unattested_approve e c m p form hreached.promptNone⟩

/-- The service is a case of this: its stores are among those that the handlers lead to. -/
theorem reached_run (s : Server) (inputs : List Server.Input) :
    Reached s.endpoint (s.run inputs).snapshots := by
  refine @Server.run_invariant s (fun _ state => Reached s.endpoint state.snapshots) .start ?_ inputs
  intro _ state input h
  cases input with
  | get d parameters p => exact h.authorize (s.collaborators d) d.moment parameters p
  | post d form p => exact h.approve (s.collaborators d) d.moment form p
  | redeem now code => rwa [(Server.redeem_cases now code state).1]
  | tick now settings =>
    rw [Server.advance, Server.tick]
    split
    · exact h
    split
    · exact h
    next n swept hsnapshots =>
    obtain ⟨⟨n', left⟩, hleft, heq⟩ := Option.map_eq_some_iff.mp hsnapshots
    obtain rfl := (Prod.mk.inj heq).2
    -- A tick that cannot sweep the codes has swept the snapshots all the same.
    cases hcodes : s.cleanupCodes? now { state with snapshots := left } with
    | none => exact h.cleanup hleft
    | some r =>
      obtain ⟨_, _, rfl⟩ := Option.map_eq_some_iff.mp hcodes
      exact h.cleanup hleft

def silentCode : TextMap String :=
  .ofList [("client_id", "foo"), ("response_type", "code"), ("scope", "read"),
    ("prompt", "login none")]

def silentRequest : Request where
  clientId := "foo"
  redirectUri := some "https://good.com/cb"
  state := none
  scope := .ofList ["read"]
  responseTypes := .ofList ["code"]
  approved := false
  resourceIds := .empty
  authorities := .empty
  parameters := silentCode
  extensions := .empty

def goodTarget : Url :=
  ⟨"https".toList, some ⟨[], none, some (.name "good.com".toList), none⟩, .segments ["cb".toList], none,
    none⟩

def stateless : Collaborators :=
  { Endpoint.oneCode with sessionState := fun _ _ _ => .error ⟨.storage, "down"⟩ }

theorem received_silentCode {c : Collaborators}
    (h : c.findClient "foo" = Endpoint.oneCode.findClient "foo") :
    ∃ client, Endpoint.Received Endpoint.standard c silentCode silentRequest client goodTarget := by
  refine ⟨_, ⟨{ silentRequest with redirectUri := none }, "https://good.com/cb", rfl, ?_, rfl⟩,
    h.trans rfl, by decide +kernel⟩
  decide +kernel

def isFailedState : Call → Bool
  | .sessionState _ _ _ (.error _) => true
  | _ => false

theorem exists_failed_of_any {calls : List Call} (h : calls.any isFailedState = true) :
    ∃ subjectId clientId origin error,
      .sessionState subjectId clientId origin (.error error) ∈ calls := by
  obtain ⟨call, hm, hfailed⟩ := List.any_eq_true.mp h
  unfold isFailedState at hfailed
  split at hfailed
  · exact ⟨_, _, _, _, hm⟩
  · cases hfailed

def silentAnswer : Redirect :=
  .success .found Server.oneDraw.moment.now goodTarget { silentRequest with approved := true } (.code "c")
    (some "s")

/-- The user is asked about one request, and approves it. Meanwhile a code is asked for that needs no
question, once where the session state can be calculated and once where it cannot. -/
theorem prompt_none_silentCode :
    let store := (Server.oneClient.run (Server.oneApproval.take 1)).snapshots
    let p : Principal := ⟨"marissa", "marissa", none⟩
    let silent := fun c => authorize Endpoint.standard c Server.oneDraw.moment store silentCode p
    let form := TextMap.ofList [("snapshot_id", "00000000000000000000000000000001"),
      ("user_oauth_approval", "true")]
    let answer := approve Endpoint.standard Endpoint.oneCode Server.oneDraw.moment store form p
    Reached Endpoint.standard store ∧ "none" ∈ Request.items silentCode "prompt" ∧
      ((silent Endpoint.oneCode).value.1.location = some silentAnswer.uri ∧
        silentAnswer.uri = "https://good.com/cb?code=c&session_state=s" ∧
        ∃ (request : Request) (client : Client) (target : Url) (session : String) (issuing : List Call),
          (silent Endpoint.oneCode).calls = .client request.clientId (.ok (some client)) ::
            .sessionState "marissa" request.clientId target.origin (.ok session) :: issuing) ∧
      (∃ (request : Request) (client : Client) (target : Url) (error : AuthError),
        (silent stateless).calls = [.client request.clientId (.ok (some client)),
          .sessionState "marissa" request.clientId target.origin (.error error)]) ∧
      answer.value.1.location = some "https://a.example/cb?code=c" ∧
      ∀ call ∈ answer.calls, call.isSessionState = false := by
  intro store p silent form answer
  have hreached : Reached Endpoint.standard store := reached_run Server.oneClient _
  have hnone : "none" ∈ Request.items silentCode "prompt" := by decide +kernel
  have hlocation : (silent Endpoint.oneCode).value.1.location = some silentAnswer.uri := by
    decide +kernel
  have hsucceeds : Endpoint.Succeeds Endpoint.standard Endpoint.oneCode Server.oneDraw.moment
      (.request silentCode) silentAnswer :=
    have ⟨_, hreceived⟩ := received_silentCode rfl
    .intro (.request hreceived rfl)
  have hany : (silent stateless).calls.any isFailedState = true := by decide +kernel
  obtain ⟨_, _, _, _, hfailed⟩ := exists_failed_of_any hany
  have hlaw := fun c => prompt_none Endpoint.standard store hreached c Server.oneDraw.moment p
  obtain ⟨request, client, target, session, issuing, _, _, _, hcalls, _⟩ :=
    ((hlaw Endpoint.oneCode).1 silentCode hnone).success silentAnswer hsucceeds hlocation
  obtain ⟨request', client', target', _, _, _, _, hasked, _⟩ :=
    ((hlaw stateless).1 silentCode hnone).failure _ _ _ _ hfailed
  exact ⟨hreached, hnone,
    ⟨hlocation, by decide +kernel, request, client, target, session, issuing, hcalls⟩,
    ⟨request', client', target', _, hasked⟩, by decide +kernel,
    ((hlaw Endpoint.oneCode).2.2 form).calls⟩

end Handlers

end ConsentGate
