import LedgerClient.Proofs.Network.Connect

/-!
# The life of a link

What a link goes through when it is connected, used and disconnected any number of times, over
any outside world. Beside the run a ledger is kept of the clients that were handed out, closed
and asked for something; it changes nothing about the run. One step lemma for each call gives an
invariant of all runs, in which each client that was handed out is closed or installed, and the
link is connected or not as the marks of the calls tell.

## Main results

* `Link.connect_logged`: all ways in which a connection attempt can end, with what it does to
  clients on the way.
* `LinkRun.sound_run`: the invariant of all runs.
* `LinkRun.lifecycle`: the life of a link, from any sequence of calls on.
-/

namespace LedgerClient

variable {σ γ : Type}

/-! ### A ledger beside the world -/

/-- What is done with the clients of a service. -/
inductive Errand (γ : Type) where
  /-- A client is asked of a connector. -/
  | dialled (e : Endpoint) (reply : Reply γ)
  | closed (client : γ)
  /-- A client is used for a request. -/
  | asked (client : γ)

/-- The same outside world with a ledger in which errands are noted. -/
def Transport.logged {log : Type} (note : log → Errand γ → log) (t : Transport σ γ) :
    Transport (σ × log) γ where
  dial e w := ((t.dial e w.1).1, (t.dial e w.1).2, note w.2 (.dialled e (t.dial e w.1).1))
  ready client w := t.ready client w.1
  close client w := (t.close client w.1, note w.2 (.closed client))
  elapse ms w := (t.elapse ms w.1, w.2)

/-- The same request with the client noted in the ledger. -/
def logRequest {log α : Type} (note : log → Errand γ → log) (request : γ → σ → Reply α × σ)
    (client : γ) (w : σ × log) : Reply α × (σ × log) :=
  ((request client w.1).1, (request client w.1).2, note w.2 (.asked client))

namespace Link

/-- The ways in which an attempt to connect a link to an endpoint can end: the errands on the
way, the result, and the link afterwards. -/
inductive Connects (l : Link γ) (e : Endpoint) :
    List (Errand γ) → Except ServiceError Unit → Link γ → Prop
  | already (client : γ) (hl : l.client = some client) :
      Connects l e [] (.error (.alreadyConnected (l.infoAt e.url))) l
  | refused (reason : String) (hl : l.client = none) :
      Connects l e [.dialled e (.fail reason)]
        (.error (.connectFailed (l.infoAt e.url) reason)) l
  | unanswered (hl : l.client = none) :
      Connects l e [.dialled e .hang]
        (.error (.timeout (l.infoAt e.url) .connect e.options.connectTimeout)) l
  | notReady (client : γ) (reason : String) (hl : l.client = none) :
      Connects l e [.dialled e (.ok client), .closed client]
        (.error (.connectFailed (l.infoAt e.url) reason)) l
  | neverReady (client : γ) (hl : l.client = none) :
      Connects l e [.dialled e (.ok client), .closed client]
        (.error (.timeout (l.infoAt e.url) .waitForReady e.options.connectTimeout)) l
  | ready (client : γ) (hl : l.client = none) :
      Connects l e [.dialled e (.ok client)] (.ok ())
        { l with endpoint := some e, client := some client }

/-- What an attempt comes to with a ledger is what it comes to without, and the ledger notes the
errands of the way it ends in. -/
theorem connect_logged {log : Type} (note : log → Errand γ → log) (t : Transport σ γ)
    (e : Endpoint) (l : Link γ) (s : σ) (noted : log) :
    ∃ errands result l' s', l.connect t e s = (result, l', s') ∧
      l.connect (t.logged note) e (s, noted) =
        (result, l', s', errands.foldl note noted) ∧
      l.Connects e errands result l' := by
  cases hl : l.client with
  | some client =>
      refine ⟨[], _, l, s, ?_, ?_, .already client hl⟩ <;> simp [connect, isConnected, hl]
  | none =>
      obtain ⟨reply, s', hdial⟩ : ∃ reply s', t.dial e s = (reply, s') := ⟨_, _, rfl⟩
      have hlogged : (t.logged note).dial e (s, noted) =
          (reply, s', note noted (.dialled e reply)) := by simp [Transport.logged, hdial]
      cases reply with
      | fail reason =>
          exact ⟨[_], _, _, _, connect_of_dial_fail hl hdial, connect_of_dial_fail hl hlogged,
            .refused reason hl⟩
      | hang =>
          exact ⟨[_], _, _, _, connect_of_dial_hang hl hdial, connect_of_dial_hang hl hlogged,
            .unanswered hl⟩
      | ok client =>
          cases hready : t.ready client s' with
          | ok =>
              exact ⟨[_], _, _, _, connect_of_ready hl hdial hready,
                connect_of_ready hl hlogged hready, .ready client hl⟩
          | fail reason =>
              exact ⟨[_, _], _, _, _, connect_of_ready_fail hl hdial hready,
                connect_of_ready_fail hl hlogged hready, .notReady client reason hl⟩
          | hang =>
              exact ⟨[_, _], _, _, _, connect_of_ready_hang hl hdial hready,
                connect_of_ready_hang hl hlogged hready, .neverReady client hl⟩

/-- A request reaches the installed client, and no client if there is none. -/
theorem call_logged {log α : Type} (note : log → Errand γ → log) (operation : Operation)
    (timeout : Option Nat) (request : γ → σ → Reply α × σ) (l : Link γ) (s : σ) (noted : log) :
    l.call operation timeout (logRequest note request) (s, noted) =
      ((l.call operation timeout request s).1, (l.call operation timeout request s).2,
        l.client.elim noted fun client => note noted (.asked client)) := by
  cases hl : l.client with
  | none => simp [call, service, hl]
  | some client =>
      obtain ⟨reply, s', hrequest⟩ : ∃ reply s', request client s = (reply, s') := ⟨_, _, rfl⟩
      cases reply <;> simp [call, service, hl, logRequest, hrequest]

/-- A link is disconnected with its endpoint kept. -/
theorem disconnect_fst (t : Transport σ γ) (l : Link γ) (s : σ) :
    (l.disconnect t s).1 = { l with client := none } := by
  obtain ⟨name, kind, mspid, endpoint, client⟩ := l
  cases client <;> rfl

end Link

/-! ### Calls and what is known of them -/

/-- What may be done with a link, with any outside world at each call. -/
inductive LinkCall (σ γ : Type) : Type 1 where
  | connect (t : Transport σ γ) (e : Endpoint)
  | call {α : Type} (operation : Operation) (timeout : Option Nat)
      (request : γ → σ → Reply α × σ)
  | disconnect (t : Transport σ γ)

/-- What a call on a link has come to. -/
inductive LinkMark where
  | connected (e : Endpoint)
  | failed (error : ServiceError)
  | called
  | disconnected
  deriving DecidableEq, Repr

/-- The mark of an attempt to connect. -/
def LinkMark.ofResult (e : Endpoint) : Except ServiceError Unit → LinkMark
  | .ok () => .connected e
  | .error error => .failed error

/-- The endpoint that was connected to. -/
def LinkMark.endpoint? : LinkMark → Option Endpoint
  | .connected e => some e
  | .failed _ | .called | .disconnected => none

/-- The endpoint of the last connect that succeeded. -/
def lastConnected (marks : List LinkMark) : Option Endpoint :=
  (marks.filterMap LinkMark.endpoint?).getLast?

/-- A connect succeeded after the last disconnect. -/
def Attached (marks : List LinkMark) : Prop :=
  ∃ before e after, marks = before ++ .connected e :: after ∧ .disconnected ∉ after

/-- The clients that connectors handed out, those that were closed and those that requests were
made with, each in order. -/
structure Clients (γ : Type) where
  handedOut : List γ := []
  closed : List γ := []
  asked : List γ := []
  deriving DecidableEq

/-- Notes an errand. -/
def Clients.note (c : Clients γ) : Errand γ → Clients γ
  | .dialled _ (.ok client) => { c with handedOut := c.handedOut ++ [client] }
  | .dialled _ (.fail _) | .dialled _ .hang => c
  | .closed client => { c with closed := c.closed ++ [client] }
  | .asked client => { c with asked := c.asked ++ [client] }

/-- A run of calls on a link: the link and the world after them, and what is known of the clients
and of the calls. -/
structure LinkRun (σ γ : Type) where
  link : Link γ
  world : σ
  clients : Clients γ := {}
  marks : List LinkMark := []

namespace LinkRun

/-- A link that was never connected. -/
def fresh (name : String) (kind : ServiceKind) (mspid : Option String) (world : σ) :
    LinkRun σ γ :=
  { link := { name, kind, mspid }, world }

/-- The run after one more call. -/
def after (r : LinkRun σ γ) : LinkCall σ γ → LinkRun σ γ
  | .connect t e =>
    let (result, link, world, clients) :=
      r.link.connect (t.logged Clients.note) e (r.world, r.clients)
    { link, world, clients, marks := r.marks ++ [.ofResult e result] }
  | .call operation timeout request =>
    let (_, world, clients) :=
      r.link.call operation timeout (logRequest Clients.note request) (r.world, r.clients)
    { r with world, clients, marks := r.marks ++ [.called] }
  | .disconnect t =>
    let (link, world, clients) := r.link.disconnect (t.logged Clients.note) (r.world, r.clients)
    { link, world, clients, marks := r.marks ++ [.disconnected] }

/-- The run after some more calls. -/
def run (calls : List (LinkCall σ γ)) (r : LinkRun σ γ) : LinkRun σ γ :=
  calls.foldl after r

end LinkRun

/-! ### What an attempt leaves behind -/

namespace Link.Connects

variable {l l' : Link γ} {e : Endpoint} {errands : List (Errand γ)}

/-- An attempt that failed has closed what it was handed, and that was nothing if a client is
installed. -/
theorem note_of_error {error : ServiceError} (h : l.Connects e errands (.error error) l')
    (c : Clients γ) :
    l' = l ∧ ∃ vain, (vain = [] ∨ l.client = none) ∧ errands.foldl Clients.note c =
      { c with handedOut := c.handedOut ++ vain, closed := c.closed ++ vain } := by
  cases h with
  | already client hl => exact ⟨rfl, [], .inl rfl, by simp⟩
  | refused reason hl => exact ⟨rfl, [], .inl rfl, by simp [Clients.note]⟩
  | unanswered hl => exact ⟨rfl, [], .inl rfl, by simp [Clients.note]⟩
  | notReady client reason hl => exact ⟨rfl, [client], .inr hl, rfl⟩
  | neverReady client hl => exact ⟨rfl, [client], .inr hl, rfl⟩

/-- An attempt that succeeded has installed the client that it was handed. -/
theorem note_of_ok (h : l.Connects e errands (.ok ()) l') (c : Clients γ) :
    l.client = none ∧ ∃ client, l' = { l with endpoint := some e, client := some client } ∧
      errands.foldl Clients.note c = { c with handedOut := c.handedOut ++ [client] } := by
  cases h with
  | ready client hl => exact ⟨hl, client, rfl, rfl⟩

end Link.Connects

/-! ### Marks -/

theorem lastConnected_append (marks : List LinkMark) (mark : LinkMark) :
    lastConnected (marks ++ [mark]) = mark.endpoint?.or (lastConnected marks) := by
  cases h : mark.endpoint? <;> simp [lastConnected, h]

theorem not_attached_disconnected (marks : List LinkMark) :
    ¬ Attached (marks ++ [.disconnected]) := by
  rintro ⟨before, e, after, heq, hafter⟩
  obtain rfl | ⟨after, last, rfl⟩ := List.eq_nil_or_concat after
  · cases (List.append_inj' heq rfl).2
  · rw [List.concat_eq_append, ← List.cons_append, ← List.append_assoc] at heq
    obtain rfl := List.singleton_inj.mp (List.append_inj' heq rfl).2
    exact hafter (by simp)

theorem attached_connected (marks : List LinkMark) (e : Endpoint) :
    Attached (marks ++ [.connected e]) :=
  ⟨marks, e, [], rfl, List.not_mem_nil⟩

/-- Failed attempts and requests neither attach nor detach. -/
theorem attached_append_iff {marks : List LinkMark} {mark : LinkMark}
    (hconnected : mark.endpoint? = none) (hdisconnected : mark ≠ .disconnected) :
    Attached (marks ++ [mark]) ↔ Attached marks := by
  constructor
  · rintro ⟨before, e, after, heq, hafter⟩
    obtain rfl | ⟨after, last, rfl⟩ := List.eq_nil_or_concat after
    · obtain rfl := List.singleton_inj.mp (List.append_inj' heq rfl).2
      cases hconnected
    · rw [List.concat_eq_append, ← List.cons_append, ← List.append_assoc] at heq
      refine ⟨before, e, after, (List.append_inj' heq rfl).1, fun h => hafter ?_⟩
      simp [h]
  · rintro ⟨before, e, after, rfl, hafter⟩
    exact ⟨before, e, after ++ [mark], by simp, by simp [hafter, hdisconnected.symm]⟩

/-! ### The invariant -/

namespace LinkRun

/-- What holds in every run of a link. -/
structure Sound (name : String) (kind : ServiceKind) (mspid : Option String)
    (r : LinkRun σ γ) : Prop where
  name_eq : r.link.name = name
  kind_eq : r.link.kind = kind
  mspid_eq : r.link.mspid = mspid
  endpoint_eq : r.link.endpoint = lastConnected r.marks
  attached : r.link.isConnected = true ↔ Attached r.marks
  /-- Those that are not closed are installed. -/
  handedOut_eq : r.clients.handedOut = r.clients.closed ++ r.link.client.toList

variable {name : String} {kind : ServiceKind} {mspid : Option String} {r : LinkRun σ γ}

/-- An attempt to connect: it is the attempt that would be made without a ledger, and the ledger
tells the errands of the way it ends in. -/
theorem after_connect (t : Transport σ γ) (e : Endpoint) (r : LinkRun σ γ) :
    ∃ errands result link world, r.link.connect t e r.world = (result, link, world) ∧
      r.link.Connects e errands result link ∧
      r.after (.connect t e) =
        { link, world
          clients := errands.foldl Clients.note r.clients
          marks := r.marks ++ [.ofResult e result] } := by
  obtain ⟨errands, result, link, world, hplain, hlogged, hconnects⟩ :=
    Link.connect_logged Clients.note t e r.link r.world r.clients
  exact ⟨errands, result, link, world, hplain, hconnects, by simp only [after, hlogged]⟩

theorem after_call {α : Type} (operation : Operation) (timeout : Option Nat)
    (request : γ → σ → Reply α × σ) (r : LinkRun σ γ) :
    r.after (.call operation timeout request) =
      { r with
        world := (r.link.call operation timeout request r.world).2
        clients := { r.clients with asked := r.clients.asked ++ r.link.client.toList }
        marks := r.marks ++ [.called] } := by
  rw [after, Link.call_logged]
  cases r.link.client <;> simp [Clients.note]

theorem after_disconnect (t : Transport σ γ) (r : LinkRun σ γ) :
    r.after (.disconnect t) =
      { link := { r.link with client := none }
        world := (r.link.disconnect t r.world).2
        clients := { r.clients with closed := r.clients.closed ++ r.link.client.toList }
        marks := r.marks ++ [.disconnected] } := by
  obtain ⟨⟨name, kind, mspid, endpoint, client⟩, world, clients, marks⟩ := r
  cases client <;> simp [after, Link.disconnect, Transport.logged, Clients.note]

theorem sound_fresh (name : String) (kind : ServiceKind) (mspid : Option String) (world : σ) :
    (fresh name kind mspid world : LinkRun σ γ).Sound name kind mspid where
  name_eq := rfl
  kind_eq := rfl
  mspid_eq := rfl
  endpoint_eq := rfl
  attached := by simp [fresh, Link.isConnected, Attached]
  handedOut_eq := rfl

/-- Each call preserves the invariant. -/
theorem Sound.after (h : r.Sound name kind mspid) (call : LinkCall σ γ) :
    (r.after call).Sound name kind mspid := by
  cases call with
  | connect t e =>
      obtain ⟨errands, result, link, world, -, hconnects, hafter⟩ := after_connect t e r
      rw [hafter]
      cases result with
      | error error =>
          obtain ⟨rfl, vain, hvain, hclients⟩ := hconnects.note_of_error r.clients
          rw [hclients]
          refine { h with endpoint_eq := ?_, attached := ?_, handedOut_eq := ?_ }
          · rw [lastConnected_append, h.endpoint_eq]
            rfl
          · have hfailed : LinkMark.failed error ≠ .disconnected := nofun
            exact h.attached.trans (attached_append_iff rfl hfailed).symm
          · dsimp only
            rw [h.handedOut_eq]
            -- Where a client is installed nothing was handed out in vain.
            obtain rfl | hl := hvain
            · simp
            · simp [hl]
      | ok _ =>
          obtain ⟨hl, client, rfl, hclients⟩ := hconnects.note_of_ok r.clients
          rw [hclients]
          refine { h with endpoint_eq := ?_, attached := ?_, handedOut_eq := ?_ }
          · rw [lastConnected_append]
            rfl
          · exact iff_of_true rfl (attached_connected _ e)
          · dsimp only
            rw [h.handedOut_eq, hl]
            simp
  | call operation timeout request =>
      rw [after_call]
      exact
        { h with
          endpoint_eq := by rw [lastConnected_append, h.endpoint_eq]; rfl
          attached := by rw [attached_append_iff rfl (by simp), h.attached]
          handedOut_eq := h.handedOut_eq }
  | disconnect t =>
      rw [after_disconnect]
      exact
        { h with
          endpoint_eq := by rw [lastConnected_append, ← h.endpoint_eq]; rfl
          attached := iff_of_false (by simp [Link.isConnected]) (not_attached_disconnected _)
          handedOut_eq := by simp [h.handedOut_eq] }

/-- The invariant holds in all runs. -/
theorem sound_run (calls : List (LinkCall σ γ)) (h : r.Sound name kind mspid) :
    (r.run calls).Sound name kind mspid := by
  induction calls generalizing r with
  | nil => exact h
  | cons call calls ih => exact ih (h.after call)

/-- The life of a link, after any calls with any outside world at each of them. It is connected
exactly if a connect succeeded after the last disconnect, and its endpoint is that of the last
connect that succeeded. Each client that was handed out is closed or installed. A connect ends in
one of its ways, and if it failed it has left the link as it was and closed what it was handed.
A disconnect closes what is installed and keeps the endpoint. A request is made with the installed
client only, and if there is none it reaches no client in any world, but fails with the details
of the link at the last url, which is empty if there is none. -/
theorem lifecycle (name : String) (kind : ServiceKind) (mspid : Option String) (world : σ)
    (calls : List (LinkCall σ γ)) :
    let r := (fresh name kind mspid world).run calls
    (r.link.isConnected = true ↔ Attached r.marks) ∧
      r.link.endpoint = lastConnected r.marks ∧
      r.clients.handedOut = r.clients.closed ++ r.link.client.toList ∧
      (∀ t e, ∃ errands result link s, r.link.connect t e r.world = (result, link, s) ∧
        r.link.Connects e errands result link ∧
        r.after (.connect t e) =
          { link
            world := s
            clients := errands.foldl Clients.note r.clients
            marks := r.marks ++ [.ofResult e result] } ∧
        ∀ error, result = .error error → link = r.link ∧ ∃ vain,
          errands.foldl Clients.note r.clients =
            { r.clients with
              handedOut := r.clients.handedOut ++ vain
              closed := r.clients.closed ++ vain }) ∧
      (∀ t, (r.after (.disconnect t)).link = { r.link with client := none } ∧
        (r.after (.disconnect t)).clients =
          { r.clients with closed := r.clients.closed ++ r.link.client.toList }) ∧
      (∀ {α : Type} operation timeout (request : γ → σ → Reply α × σ),
        (r.after (.call operation timeout request)).link = r.link ∧
        (r.after (.call operation timeout request)).clients =
          { r.clients with asked := r.clients.asked ++ r.link.client.toList }) ∧
      (r.link.isConnected = false →
        ∀ {σ' α : Type} operation timeout (request : γ → σ' → Reply α × σ') (s : σ'),
          r.link.call operation timeout request s =
            ((.error (.notConnected
              { name, url := ((lastConnected r.marks).map Endpoint.url).getD "", mspid }), 0),
              s)) := by
  intro r
  have hsound : r.Sound name kind mspid := sound_run calls (sound_fresh name kind mspid world)
  refine ⟨hsound.attached, hsound.endpoint_eq, hsound.handedOut_eq, fun t e => ?_, fun t => ?_,
    fun operation timeout request => ?_, fun hdetached σ' α operation timeout request s => ?_⟩
  · obtain ⟨errands, result, link, s, hplain, hconnects, hafter⟩ := after_connect t e r
    refine ⟨errands, result, link, s, hplain, hconnects, hafter, ?_⟩
    rintro error rfl
    obtain ⟨hlink, vain, -, hclients⟩ := hconnects.note_of_error r.clients
    exact ⟨hlink, vain, hclients⟩
  · rw [after_disconnect]
    exact ⟨rfl, rfl⟩
  · rw [after_call]
    exact ⟨rfl, rfl⟩
  · have hclient : r.link.client = none := by simpa [Link.isConnected] using hdetached
    rw [Link.call, Link.service, hclient, ← hsound.endpoint_eq, ← hsound.name_eq,
      ← hsound.mspid_eq]
    rfl

/-- A client that never becomes ready is closed, the next one is installed, a third is not even
asked for, and after the disconnect a request fails with the url of the second. -/
theorem lifecycle_three_attempts :
    let e : Endpoint := { protocol := .grpc, host := "peer", port := 7051 }
    let t (client : Nat) (ready : Reply Unit) : Transport Unit Nat :=
      { dial := fun _ s => (.ok client, s), ready := fun _ _ => ready
        close := fun _ s => s, elapse := fun _ s => s }
    let r := (fresh "peer" .endorser (some "Org1") ()).run
      [.connect (t 1 .hang) e, .connect (t 2 (.ok ())) e, .connect (t 3 (.ok ())) e]
    let r' := r.after (.disconnect (t 4 .hang))
    (r.link.isConnected = true ∧ r.clients = { handedOut := [1, 2], closed := [1] }) ∧
      r'.link.isConnected = false ∧ r'.clients = { handedOut := [1, 2], closed := [1, 2] } ∧
      r'.link.call .sendProposal none (fun client s => (.ok client, s)) () =
        ((.error (.notConnected { name := "peer", url := e.url, mspid := some "Org1" }), 0),
          ()) := by
  intro e t r r'
  obtain ⟨-, -, -, -, -, -, hdetached⟩ := lifecycle "peer" .endorser (some "Org1") ()
    [.connect (t 1 .hang) e, .connect (t 2 (.ok ())) e, .connect (t 3 (.ok ())) e,
      .disconnect (t 4 .hang)]
  exact ⟨⟨rfl, rfl⟩, rfl, rfl, hdetached rfl .sendProposal none _ ()⟩

end LinkRun

end LedgerClient
