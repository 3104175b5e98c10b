import StakingGateway.Proofs.Gateway.Admission

/-!
# Requests that are guarded

A request for a network that is not served ends in a failure, and the node is asked at most what
opens a connection.  Only a request to submit something submits anything: what is in its text, once
at most, and only after its network was accepted.

Both hold of what one request sends (`guarded_handle`), for every node whose questions are recorded,
and so of all that is sent while requests are served in a row (`guarded_of_mem_serveAll`).  The main
statement is `guarded_serveAll`, on the gateway to a node that others use as well.
-/

namespace StakingGateway

open Api Json

section

variable {m : Type → Type} [Monad m] {τ : Type} [Stateful m τ]

theorem logs_lift_run {log : τ → List Exchange} {P : List Exchange → Prop} {ε ε' α : Type}
    {question : ExceptT ε m α} (h : Logs log P question) :
    Logs log P (liftM question.run : ExceptT ε' m (Except ε α)) := by
  intro t
  rw [act_lift_snd]
  exact h t

namespace Gateway

/-- A transaction is submitted behind what else was asked.  It is the one in the text, and the
network was accepted before: what was asked for that comes first. -/
structure HandsOver (gateway : Gateway m) (log : τ → List Exchange)
    (submission : ConstructionSubmitRequest) (t : τ) (before : List Exchange)
    (exchange : Exchange) : Prop where
  accepted : ∃ chainId t' opened, gateway.Accepts submission.networkIdentifier t chainId t' ∧
    log t' = log t ++ opened ∧ opened <+: before
  decoded : ∃ signed, SignedTransaction.ofBase64 submission.signedTransaction = .ok signed ∧
    exchange.request = signed.encode
  reads : Reads before

/-- What is submitted is handed over, and nothing is asked behind it. -/
def SubmitsOnly (gateway : Gateway m) (log : τ → List Exchange)
    (submission : ConstructionSubmitRequest) (t : τ) (asked : List Exchange) : Prop :=
  ∀ exchange ∈ asked, exchange.method = .submitTxNoWait →
    ∃ before, asked = before ++ [exchange] ∧ gateway.HandsOver log submission t before exchange

/-- What a request may come to that was handled from a state, and may have sent. -/
structure Guarded (gateway : Gateway m) (log : τ → List Exchange) (request : Request) (t : τ)
    (outcome : Option (Except Failure Json)) (asked : List Exchange) : Prop where
  refused : ∀ network, request.network? = some network →
    (∀ chainId t', ¬ gateway.Accepts network t chainId t') →
      (∃ failure, outcome = some (.error failure)) ∧ Opens asked
  submitted : ∀ exchange ∈ asked, exchange.method = .submitTxNoWait →
    ∃ submission before, request = .constructionSubmit submission ∧ asked = before ++ [exchange] ∧
      gateway.HandsOver log submission t before exchange

variable {gateway : Gateway m} {log : τ → List Exchange}

section

variable [Suite]

theorem logs_submit {node : Node m} (h : node.Recorded log) (signed : SignedTransaction) :
    Logs log (Calls .submitTxNoWait signed.encode) (do
      match ← (node.submit signed).run with
      | .ok () => return signed.identifier
      | .error .duplicateTransaction => return signed.identifier
      | .error reason => throw ⟨.unableToSubmitTransaction, some reason.message⟩ :
        Handler m TransactionIdentifierResponse) := by
  refine (logs_lift_run (h.submit signed)).bind_silent fun outcome => ?_
  split
  next => exact silent_pure _
  next => exact silent_pure _
  next => exact logs_throw (P := Silent) rfl _

omit [Suite] in
theorem submitsOnly_of_reads {submission : ConstructionSubmitRequest} {t : τ}
    {asked : List Exchange} (h : Reads asked) : gateway.SubmitsOnly log submission t asked :=
  fun exchange hexchange hmethod => (h exchange hexchange hmethod).elim

omit [Suite] in
theorem submitsOnly_of_calls {submission : ConstructionSubmitRequest} {chainId : String}
    {t t' : τ} {opened sent : List Exchange} {signed : SignedTransaction}
    (haccepted : gateway.Accepts submission.networkIdentifier t chainId t')
    (hlog : log t' = log t ++ opened) (hopened : Opens opened)
    (hsigned : SignedTransaction.ofBase64 submission.signedTransaction = .ok signed)
    (hsent : Calls .submitTxNoWait signed.encode sent) :
    gateway.SubmitsOnly log submission t (opened ++ sent) := by
  obtain ⟨opening, last, rfl, hopening, hlast⟩ := hsent
  rw [← List.append_assoc]
  have hreads : Reads (opened ++ opening) := hopened.reads.append hopening.reads
  rcases hlast with rfl | ⟨answer, rfl⟩
  · rw [List.append_nil]
    exact submitsOnly_of_reads hreads
  · intro exchange hexchange hmethod
    rcases List.mem_append.mp hexchange with hmem | hmem
    · exact (hreads exchange hmem hmethod).elim
    · obtain rfl := List.mem_singleton.mp hmem
      exact ⟨opened ++ opening, rfl, ⟨chainId, t', opened, haccepted, hlog,
        List.prefix_append ..⟩, ⟨signed, hsigned, rfl⟩, hreads⟩

theorem submitsOnly_of_constructionSubmit (h : gateway.Recorded log)
    (submission : ConstructionSubmitRequest) (t : τ) :
    ∃ asked, log (Stateful.act (gateway.constructionSubmit submission).run t).2 = log t ++ asked ∧
      gateway.SubmitsOnly log submission t asked := by
  rw [constructionSubmit]
  cases gateway with
  | offline chainId =>
      rw [act_node_bind_offline]
      exact ⟨[], (List.append_nil _).symm, submitsOnly_of_reads reads_nil⟩
  | online node =>
      rw [act_node_bind_online]
      obtain ⟨opened, hopened, hopens⟩ := logs_checkNetwork h submission.networkIdentifier t
      rcases hcheck : Stateful.act ((Gateway.online node).checkNetwork
        submission.networkIdentifier).run t with ⟨_ | failure | chainId, t'⟩
      · rw [hcheck] at hopened
        rw [act_run_bind_of_abort hcheck]
        exact ⟨opened, hopened, submitsOnly_of_reads hopens.reads⟩
      · rw [hcheck] at hopened
        rw [act_run_bind_of_error hcheck]
        exact ⟨opened, hopened, submitsOnly_of_reads hopens.reads⟩
      rw [hcheck] at hopened
      rw [act_run_bind_of_ok hcheck]
      rcases hsigned : readSigned submission.signedTransaction with failure | signed
      · rw [act_run_bind_of_error (Handler.act_of _ t')]
        exact ⟨opened, hopened, submitsOnly_of_reads hopens.reads⟩
      rw [act_run_bind_of_ok (Handler.act_of _ t')]
      obtain ⟨sent, hsent, hcalls⟩ := logs_submit (h node rfl) signed t'
      refine ⟨opened ++ sent, ?_, submitsOnly_of_calls (succeeds_checkNetwork_iff.mp hcheck) hopened
        hopens (readSigned_eq_ok_iff.mp hsigned) hcalls⟩
      refine hsent.trans ?_
      rw [hopened, List.append_assoc]

theorem guarded_handle (h : gateway.Recorded log) (request : Request) (t : τ) :
    ∃ asked, log (Stateful.act (gateway.handle request).run t).2 = log t ++ asked ∧
      gateway.Guarded log request t (Stateful.act (gateway.handle request).run t).1 asked := by
  have hguarded {asked : List Exchange}
      (hlog : log (Stateful.act (gateway.handle request).run t).2 = log t ++ asked)
      (hsubmitted : ∀ exchange ∈ asked, exchange.method = .submitTxNoWait →
        ∃ submission before, request = .constructionSubmit submission ∧
          asked = before ++ [exchange] ∧ gateway.HandsOver log submission t before exchange) :
      gateway.Guarded log request t (Stateful.act (gateway.handle request).run t).1 asked := by
    refine ⟨fun network hnetwork hother => ?_, hsubmitted⟩
    obtain ⟨hfailure, opened, hopened, hopens⟩ := refuses_handle h hnetwork hother
    obtain rfl := List.append_cancel_left (hlog.symm.trans hopened)
    exact ⟨hfailure, hopens⟩
  by_cases hsubmission : ∃ submission, request = .constructionSubmit submission
  · obtain ⟨submission, rfl⟩ := hsubmission
    obtain ⟨asked, hlog, hsubmitted⟩ := submitsOnly_of_constructionSubmit h submission t
    rw [← act_inJson] at hlog
    refine ⟨asked, hlog, hguarded hlog fun exchange hexchange hmethod => ?_⟩
    obtain ⟨before, hlast, hhands⟩ := hsubmitted exchange hexchange hmethod
    exact ⟨submission, before, rfl, hlast, hhands⟩
  · obtain ⟨asked, hlog, hreads⟩ := reads_handle h (not_exists.mp hsubmission) t
    refine ⟨asked, hlog, hguarded hlog fun exchange hexchange hmethod => ?_⟩
    exact (hreads exchange hexchange hmethod).elim

end

/-! ## Requests in a row -/

/-- A request that was handled, from one state to another.  It has no outcome if it was cut short. -/
structure Served (τ : Type) where
  request : Request
  start : τ
  outcome : Option (Except Failure Json)
  stop : τ

def Served.asked (log : τ → List Exchange) (served : Served τ) : List Exchange :=
  (log served.stop).drop (log served.start).length

def serveAll [Suite] (gateway : Gateway m) : List Request → τ → List (Served τ) × τ
  | [], t => ([], t)
  | request :: rest, t =>
    let (outcome, next) := Stateful.act (gateway.handle request).run t
    let (served, last) := serveAll gateway rest next
    (⟨request, t, outcome, next⟩ :: served, last)

variable [Suite]

theorem map_request_serveAll (requests : List Request) (t : τ) :
    (gateway.serveAll requests t).1.map (·.request) = requests := by
  induction requests generalizing t with
  | nil => rfl
  | cons request rest ih => exact congrArg (request :: ·) (ih _)

omit [Suite] in
theorem asked_eq_of_log_eq {served : Served τ} {asked : List Exchange}
    (h : log served.stop = log served.start ++ asked) : served.asked log = asked := by
  rw [Served.asked, h, List.drop_left]

/-- Nothing is sent between the requests. -/
theorem log_serveAll (h : gateway.Recorded log) (requests : List Request) (t : τ) :
    log (gateway.serveAll requests t).2 =
      log t ++ (gateway.serveAll requests t).1.flatMap (Served.asked log) := by
  induction requests generalizing t with
  | nil => exact (List.append_nil _).symm
  | cons request rest ih =>
      obtain ⟨asked, hlog, _⟩ := guarded_handle h request t
      rw [serveAll, List.flatMap_cons, asked_eq_of_log_eq hlog, ← List.append_assoc, ← hlog]
      exact ih _

theorem guarded_of_mem_serveAll (h : gateway.Recorded log) {requests : List Request} {t : τ}
    {served : Served τ} (hserved : served ∈ (gateway.serveAll requests t).1) :
    gateway.Guarded log served.request served.start served.outcome (served.asked log) := by
  induction requests generalizing t with
  | nil => cases hserved
  | cons request rest ih =>
      obtain rfl | hrest := List.mem_cons.mp hserved
      · obtain ⟨asked, hlog, hguarded⟩ := guarded_handle h request t
        rw [asked_eq_of_log_eq hlog]
        exact hguarded
      · exact ih hrest

end Gateway

end

/-! ## A node that others use -/

namespace Client

variable {σ : Type}

/-- What others do to a client and to its node. -/
def meanwhile (others : ClientState × σ → ClientState × σ) :
    Effect (StateM (σ × List Exchange)) Unit :=
  OptionT.mk fun client (node, log) =>
    let (client, node) := others (client, node)
    ((some (), client), (node, log))

theorem record_meanwhile (others : ClientState × σ → ClientState × σ)
    (state : ClientState × σ × List Exchange) :
    ∃ state', Stateful.act (meanwhile others) state = (some (), state') ∧
      record state' = record state :=
  ⟨_, rfl, rfl⟩

end Client

namespace Gateway

variable {σ : Type}

/-- A gateway without a node, or to a node that others use by the same client. -/
def shared (offline : Option String) (transport : Transport (StateM σ)) (address : String)
    (others : ClientState × σ → ClientState × σ) :
    Gateway (Client.Effect (StateM (σ × List Exchange))) :=
  match offline with
  | some chainId => .offline chainId
  | none => .online ((Client.node transport.recorded address).amid (Client.meanwhile others))

theorem recorded_shared (offline : Option String) (transport : Transport (StateM σ))
    (address : String) (others : ClientState × σ → ClientState × σ) :
    (shared offline transport address others).Recorded Client.record := by
  rintro _ honline
  cases offline with
  | some chainId => cases honline
  | none =>
      cases honline
      exact (Client.recorded_node transport address).amid (Client.record_meanwhile others)

/-- Whatever is asked for, whatever the node answers, and whatever others do before a question. -/
theorem guarded_serveAll [Suite] (offline : Option String) (transport : Transport (StateM σ))
    (address : String) (others : ClientState × σ → ClientState × σ) (requests : List Request)
    (start : ClientState × σ × List Exchange) :
    let gateway := shared offline transport address others
    let run := gateway.serveAll requests start
    run.1.map (·.request) = requests ∧
    Client.record run.2 = Client.record start ++ run.1.flatMap (Served.asked Client.record) ∧
    ∀ served ∈ run.1, gateway.Guarded Client.record served.request served.start served.outcome
      (served.asked Client.record) := by
  have hrecorded := recorded_shared offline transport address others
  refine ⟨map_request_serveAll _ _, log_serveAll hrecorded _ _, fun served hserved => ?_⟩
  exact guarded_of_mem_serveAll hrecorded hserved

-- A submission for another network opens the connection that the next one is sent on.
example :
    let submit network := Request.constructionSubmit
      ⟨some (.of blockchain network), disorderedText⟩
    ((shared none takingNode "node:1" id).serveAll [submit "other", submit "chain"]
      (.initial, (), [])).1.map (fun served =>
        (served.outcome.map Except.isOk, (served.asked Client.record).map (·.method))) =
      [(some false, [.getStatus, .getChainContext]), (some true, [.submitTxNoWait])] :=
  rfl

end Gateway

end StakingGateway
