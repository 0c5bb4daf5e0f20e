import LedgerClient.Discovery.Commit
import LedgerClient.Discovery.Query
import LedgerClient.Proofs.Discovery.Send

/-!
# Keeping and refreshing discovery results

A discovery keeps the results of its last successful send, and the settings of the last send
that got past the checks of its parameters and its signature. The two need not belong to the
same send. Whoever follows the sends of a discovery from outside knows both, and so knows what
the results are at any time, whether they will be renewed, and with which settings.

A run is followed by its marks, the latest first: one for each send that was attempted, and one
for each that succeeded, with the time at which it was over.

## Main results

* `ChannelDiscovery.Run.kept`: what a discovery keeps is told by the marks of its run.
* `ChannelDiscovery.getResults_of_run`: what asking for its results comes to.
-/

namespace LedgerClient

/-! ### The marks of a run -/

/-- What can be noted about a send from outside. -/
inductive SendMark where
  /-- A send had targets and a signed request. -/
  | attempted (settings : SendSettings)
  /-- A send returned results at a time. -/
  | succeeded (results : DiscoveryResults) (time : Nat)

namespace SendMark

/-- The settings of an attempt. -/
def settings? : SendMark → Option SendSettings
  | attempted settings => some settings
  | succeeded _ _ => none

/-- The results of a success, and its time. -/
def results? : SendMark → Option (DiscoveryResults × Nat)
  | attempted _ => none
  | succeeded results time => some (results, time)

/-- The settings of the last attempt. -/
def lastAttempt (marks : List SendMark) : Option SendSettings :=
  marks.findSome? settings?

/-- The results of the last success, and its time. -/
def lastSuccess (marks : List SendMark) : Option (DiscoveryResults × Nat) :=
  marks.findSome? results?

/-- The settings to send with again, if the results of the last success are older than the
refresh age of the last attempt. -/
def due (marks : List SendMark) (now : Nat) : Option SendSettings := do
  let (_, time) ← lastSuccess marks
  let settings ← lastAttempt marks
  if time + settings.refreshAge < now then some settings else none

end SendMark

namespace ChannelDiscovery

open SendMark

/-- The marks that a send leaves. -/
def marksOf (r : DiscoverRequest) (d : ChannelDiscovery) (w : World) : List SendMark :=
  if r.targets = [] then []
  else
    match d.request.signed, d.send r w with
    | .error _, _ => []
    | .ok _, (.error _, _, _) => [.attempted (r.settings d.config)]
    | .ok _, (.ok results, _, w') =>
      [.succeeded results w'.network.clock, .attempted (r.settings d.config)]

end ChannelDiscovery

/-- What is done with a discovery. -/
inductive DiscoveryCall where
  | build (signer : Signer) (wish : DiscoveryWish)
  | sign (signer : Signer)
  | signWith (signature : Bytes)
  | send (request : DiscoverRequest)
  | results (refresh : Bool)
  | endorse (proposal : SignedProposal) (request : EndorseRequest)
      (shuffle : String → List DiscoveredPeer → List DiscoveredPeer)
  | commit (timeout : Option Nat) (mspid : Option String)
      (shuffle : List OrdererId → List OrdererId)
  | query (proposal : SignedProposal) (timeout : Option Nat)

namespace DiscoveryCall

/-- The discovery and the world that a call leaves behind, if it comes to an end. -/
def perform : DiscoveryCall → ChannelDiscovery → World → Option (ChannelDiscovery × World)
  | build signer wish, d, w => some (((ChannelDiscovery.building signer wish w).perform d).2, w)
  | sign signer, d, w => some (((ChannelDiscovery.signing signer).perform d).2, w)
  | signWith signature, d, w => some (((ChannelDiscovery.attaching signature).perform d).2, w)
  | send r, d, w => some (d.send r w).2
  | results refresh, d, w => some (d.getResults refresh w).2
  | endorse proposal r shuffle, d, w => (d.endorse proposal r shuffle w).map Prod.snd
  | commit timeout mspid shuffle, d, w => some (d.commit timeout mspid shuffle w).2
  | query proposal timeout, d, w => some (d.query proposal timeout w).2

/-- Whether a call asks for results that are not too old. -/
def refreshes : DiscoveryCall → Bool
  | build _ _ | sign _ | signWith _ | send _ => false
  | results refresh => refresh
  | endorse _ _ _ | commit _ _ _ | query _ _ => true

/-- The request that a call sends, if it sends one. -/
def sends (c : DiscoveryCall) (marks : List SendMark) (now : Nat) : Option DiscoverRequest :=
  match c with
  | send r => some r
  | c => if c.refreshes then (SendMark.due marks now).map ChannelDiscovery.SendSettings.toRequest
    else none

end DiscoveryCall

namespace ChannelDiscovery

open SendMark

/-- The runs of a discovery, with their marks. Between calls anything may happen to the world. -/
inductive Run : ChannelDiscovery → World → List SendMark → Prop where
  | start (name : String) (channel : ChannelId) (config : DiscoveryConfig) (w : World) :
      Run { name, channel, config } w []
  | elapse {d : ChannelDiscovery} {w : World} {marks : List SendMark} (h : Run d w marks)
      (w' : World) : Run d w' marks
  | call {d d' : ChannelDiscovery} {w w' : World} {marks : List SendMark} (h : Run d w marks)
      (c : DiscoveryCall) (hc : c.perform d w = some (d', w')) :
      Run d' w' (((c.sends marks w.network.clock).map fun r => d.marksOf r w).getD [] ++ marks)

/-- What a discovery keeps is told by marks. -/
structure Kept (d : ChannelDiscovery) (marks : List SendMark) : Prop where
  results : d.results = (lastSuccess marks).map Prod.fst
  last : d.last = lastAttempt marks
  stamped : ∀ results time, lastSuccess marks = some (results, time) → results.timestamp = time
  /-- Nothing succeeds without an attempt. -/
  attempted : (lastSuccess marks).isSome → (lastAttempt marks).isSome
  /-- The settings of an attempt are complete, so that sending with them again needs nothing of
  the configuration. -/
  complete : ∀ settings, lastAttempt marks = some settings →
    settings.targets ≠ [] ∧ (SendSettings.toRequest settings).settings d.config = settings

/-- The results that marks tell of. -/
def resultsOf (marks : List SendMark) : Except DiscoveryError DiscoveryResults :=
  match lastSuccess marks with
  | some (results, _) => .ok results
  | none => .error .noResults

variable {d d' : ChannelDiscovery} {w w' : World} {marks : List SendMark}

/-! ### What a discovery keeps -/

/-- Settings that a configuration has completed are not changed by it any more. -/
theorem settings_toRequest_settings (config : DiscoveryConfig) (r : DiscoverRequest) :
    (SendSettings.toRequest (r.settings config)).settings config = r.settings config := by
  simp only [DiscoverRequest.settings, SendSettings.toRequest, Option.getD_some]
  cases r.timeout <;> cases config.requestTimeout <;> rfl

/-- At the start nothing is kept. -/
theorem Kept.start (name : String) (channel : ChannelId) (config : DiscoveryConfig) :
    Kept { name, channel, config } [] where
  results := rfl
  last := rfl
  stamped := nofun
  attempted := id
  complete := nofun

/-- A change of the request does not touch what is kept. -/
theorem Kept.of_request (h : d.Kept marks) (request : QueryList) : Kept { d with request } marks :=
  ⟨h.results, h.last, h.stamped, h.attempted, h.complete⟩

/-- An attempt is remembered by its settings. -/
theorem Kept.attempt (h : d.Kept marks) {r : DiscoverRequest} (hr : r.targets ≠ []) :
    Kept { d with last := some (r.settings d.config) }
      (.attempted (r.settings d.config) :: marks) where
  results := h.results
  last := rfl
  stamped := h.stamped
  attempted := fun _ => rfl
  complete := by
    intro settings hsettings
    obtain rfl := Option.some.inj hsettings
    exact ⟨hr, settings_toRequest_settings d.config r⟩

/-- After an attempt, a success is remembered by its results. -/
theorem Kept.succeed (h : d.Kept marks) (hattempt : (lastAttempt marks).isSome)
    (results : DiscoveryResults) :
    Kept { d with results := some results } (.succeeded results results.timestamp :: marks) where
  results := rfl
  last := h.last
  stamped := by
    intro results' time hsuccess
    obtain ⟨rfl, rfl⟩ := Prod.mk.inj (Option.some.inj hsuccess)
    rfl
  attempted := fun _ => hattempt
  complete := h.complete

/-- After a send a discovery keeps what the marks of the send tell. -/
theorem Kept.send (h : d.Kept marks) (r : DiscoverRequest) (w : World) :
    (d.send r w).2.1.Kept (d.marksOf r w ++ marks) := by
  have hsent := send_spec r d w
  rw [marksOf]
  generalize d.send r w = sent at hsent ⊢
  cases hsent with
  | noTargets htargets =>
      rw [if_pos htargets]
      exact h
  | unsigned htargets hsigned =>
      rw [if_neg htargets, hsigned]
      exact h
  | unanswered _ htargets hsigned _ =>
      rw [if_neg htargets, hsigned]
      exact h.attempt htargets
  | unreadable htargets hsigned _ _ =>
      rw [if_neg htargets, hsigned]
      exact h.attempt htargets
  | @processed _ _ _ _ _ results htargets hsigned _ _ _ htime =>
      have hkept := (h.attempt htargets).succeed rfl results
      rw [htime] at hkept
      rw [if_neg htargets, hsigned]
      exact hkept

/-- Results are stale if more than the refresh age has passed since they were processed. -/
theorem isStale_iff (r : DiscoveryResults) (age now : Nat) :
    r.isStale age now = true ↔ r.timestamp + age < now := by
  rw [DiscoveryResults.isStale, decide_eq_true_iff]
  omega

/-- Asking for results comes to a send if one is due, and otherwise to the results there are. -/
theorem Kept.getResults_eq (h : d.Kept marks) (refresh : Bool) (w : World) :
    d.getResults refresh w =
      match if refresh then due marks w.network.clock else none with
      | some settings => d.send (SendSettings.toRequest settings) w
      | none => (resultsOf marks, d, w) := by
  rw [getResults, h.results, h.last, due, resultsOf]
  cases hsuccess : lastSuccess marks with
  | none => cases refresh <;> rfl
  | some success =>
      obtain ⟨results, time⟩ := success
      obtain ⟨settings, hsettings⟩ :=
        Option.isSome_iff_exists.mp (h.attempted (by rw [hsuccess]; rfl))
      have hstale : results.isStale settings.refreshAge w.network.clock = true ↔
          time + settings.refreshAge < w.network.clock :=
        h.stamped results time hsuccess ▸ isStale_iff results _ _
      rw [hsettings]
      cases refresh with
      | false => rfl
      | true =>
          simp only [Option.map_some, Bool.true_and, hstale]
          by_cases hdue : time + settings.refreshAge < w.network.clock
          · simp [hdue]
          · simp [hdue]

/-! ### What calls do -/

/-- Asking for results keeps what the marks of the send tell that is due. -/
theorem Kept.getResults (h : d.Kept marks) (refresh : Bool) (w : World) :
    (d.getResults refresh w).2.1.Kept
      (((if refresh then (due marks w.network.clock).map SendSettings.toRequest else none).map
        fun r => d.marksOf r w).getD [] ++ marks) := by
  rw [h.getResults_eq]
  cases refresh with
  | false => exact h
  | true =>
      simp only [if_true]
      cases due marks w.network.clock with
      | none => exact h
      | some settings => exact h.send _ w

/-- Endorsing does nothing to a discovery but refresh it. -/
theorem eq_of_endorse {proposal : SignedProposal} {r : EndorseRequest}
    {shuffle : String → List DiscoveredPeer → List DiscoveredPeer}
    {out : Except ActionError ProposalResults}
    (h : d.endorse proposal r shuffle w = some (out, d', w')) : d' = (d.refreshed w).2.1 := by
  rw [endorse] at h
  generalize d.refreshed w = refreshed at h ⊢
  rcases refreshed with ⟨_ | results, d₁, w₁⟩
  · cases h
    rfl
  · simp only at h
    split at h
    · cases h
      rfl
    · obtain ⟨_, -, h⟩ := Option.bind_eq_some_iff.mp h
      cases h
      rfl

/-- So does committing. -/
theorem commit_discovery (timeout : Option Nat) (mspid : Option String)
    (shuffle : List OrdererId → List OrdererId) :
    (d.commit timeout mspid shuffle w).2.1 = (d.refreshed w).2.1 := by
  rw [commit, commitBy]
  rcases d.refreshed w with ⟨_ | _, d₁, w₁⟩
  · rfl
  · simp only
    split <;> rfl

/-- So does querying. -/
theorem query_discovery (proposal : SignedProposal) (timeout : Option Nat) :
    (d.query proposal timeout w).2.1 = (d.refreshed w).2.1 := by
  rw [query]
  rcases d.refreshed w with ⟨_ | _, d₁, w₁⟩
  · rfl
  · simp only
    split <;> rfl

/-- A call that needs results leaves the discovery as asking for them does. -/
theorem eq_of_refreshes {c : DiscoveryCall} (hrefresh : c.refreshes = true)
    (hc : c.perform d w = some (d', w')) : d' = (d.getResults true w).2.1 := by
  cases c with
  | build | sign | signWith | send => cases hrefresh
  | results refresh =>
      obtain rfl : refresh = true := hrefresh
      exact (congrArg Prod.fst (Option.some.inj hc)).symm
  | endorse proposal r shuffle =>
      obtain ⟨⟨out, _, _⟩, hout, heq⟩ := Option.map_eq_some_iff.mp hc
      cases heq
      exact eq_of_endorse hout
  | commit timeout mspid shuffle =>
      exact (congrArg Prod.fst (Option.some.inj hc)).symm.trans (commit_discovery ..)
  | query proposal timeout =>
      exact (congrArg Prod.fst (Option.some.inj hc)).symm.trans (query_discovery ..)

/-- A call keeps what the marks of the run tell after it. -/
theorem Kept.call (h : d.Kept marks) {c : DiscoveryCall} (hc : c.perform d w = some (d', w')) :
    d'.Kept (((c.sends marks w.network.clock).map fun r => d.marksOf r w).getD [] ++ marks) := by
  cases c with
  | build =>
      obtain ⟨request, rfl⟩ :=
        exists_request_of_building (congrArg Prod.fst (Option.some.inj hc))
      exact h.of_request request
  | sign | signWith =>
      obtain ⟨request, rfl⟩ :=
        exists_request_of_onRequest (congrArg Prod.fst (Option.some.inj hc))
      exact h.of_request request
  | send r =>
      obtain rfl := congrArg Prod.fst (Option.some.inj hc)
      exact h.send r w
  | results refresh =>
      obtain rfl := congrArg Prod.fst (Option.some.inj hc)
      exact h.getResults refresh w
  | endorse | commit | query => exact eq_of_refreshes rfl hc ▸ h.getResults true w

/-- What a discovery keeps is told by the marks of its run. -/
theorem Run.kept (h : Run d w marks) : d.Kept marks := by
  induction h with
  | start name channel config w => exact .start name channel config
  | elapse _ _ ih => exact ih
  | call _ c hc ih => exact ih.call hc

/-- Sending again with complete settings asks their targets, if the request is signed now. -/
theorem send_toRequest {settings : SendSettings} (htargets : settings.targets ≠ [])
    (hcomplete : (SendSettings.toRequest settings).settings d.config = settings) (w : World) :
    d.send (SendSettings.toRequest settings) w =
      match d.request.signed with
      | .error e => (.error e, d, w)
      | .ok signed =>
        { d with last := some settings }.askInOrder signed settings (.missingParameter "targets")
          settings.targets w := by
  have hne : ¬ (SendSettings.toRequest settings).targets.isEmpty = true :=
    mt List.isEmpty_iff.mp htargets
  rw [send, if_neg hne]
  simp only [DiscoverRequest.settings] at hcomplete
  simp only [hcomplete]
  rfl

/-- Without a refresh the results are those that are kept. -/
theorem getResults_false {results : DiscoveryResults} (h : d.results = some results) (w : World) :
    d.getResults false w = (.ok results, d, w) := by
  rw [getResults, h]
  cases d.last <;> rfl

/-- A refresh that fails leaves the results as they were. -/
theorem getResults_error {e : DiscoveryError} (h : d.getResults true w = (.error e, d', w')) :
    d'.results = d.results := by
  rw [getResults] at h
  split at h
  · cases h
    rfl
  split at h
  · split at h
    · obtain ⟨_, rfl⟩ := discovery_of_send_error h
      rfl
    · cases h
  · cases h

/-- What asking for the results of a discovery comes to, at any point of a run. As long as no
send has succeeded there are none. Afterwards they are those of the last success, and nothing is
done, unless they are to be refreshed and more time than the refresh age of the last attempt has
passed since they were processed. Then the request is sent as it is signed now, with the settings
of that attempt. If that fails, the results stay what they were. The calls that need results, to
endorse, to commit and to query, leave the discovery as refreshing them does. -/
theorem getResults_of_run (h : Run d w marks) :
    (match lastSuccess marks with
    | none => ∀ refresh, d.getResults refresh w = (.error .noResults, d, w)
    | some (results, time) => ∃ settings, lastAttempt marks = some settings ∧
        d.getResults false w = (.ok results, d, w) ∧
        d.getResults true w =
          (if time + settings.refreshAge < w.network.clock then
            match d.request.signed with
            | .error e => (.error e, d, w)
            | .ok signed =>
              { d with last := some settings }.askInOrder signed settings
                (.missingParameter "targets") settings.targets w
          else (.ok results, d, w)) ∧
        ∀ e d' w', d.getResults true w = (.error e, d', w') →
          ∀ w'', d'.getResults false w'' = (.ok results, d', w'')) ∧
      ∀ (c : DiscoveryCall) d' w', c.refreshes = true → c.perform d w = some (d', w') →
        d' = (d.getResults true w).2.1 := by
  have hkept := h.kept
  refine ⟨?_, fun c d' w' => eq_of_refreshes⟩
  cases hsuccess : lastSuccess marks with
  | none =>
      intro refresh
      rw [ChannelDiscovery.getResults, hkept.results, hsuccess]
      rfl
  | some success =>
      obtain ⟨results, time⟩ := success
      obtain ⟨settings, hsettings⟩ :=
        Option.isSome_iff_exists.mp (hkept.attempted (by rw [hsuccess]; rfl))
      obtain ⟨htargets, hcomplete⟩ := hkept.complete settings hsettings
      have hresults : d.results = some results := by rw [hkept.results, hsuccess]; rfl
      refine ⟨settings, hsettings, getResults_false hresults w, ?_, ?_⟩
      · have hdue : due marks w.network.clock =
            if time + settings.refreshAge < w.network.clock then some settings else none := by
          rw [due, hsuccess, hsettings]
          rfl
        rw [hkept.getResults_eq, if_pos rfl, hdue, resultsOf, hsuccess,
          ← send_toRequest htargets hcomplete w]
        by_cases hlt : time + settings.refreshAge < w.network.clock
        · rw [if_pos hlt, if_pos hlt]
        · rw [if_neg hlt, if_neg hlt]
      · intro e d' w' herror w''
        exact getResults_false ((getResults_error herror).trans hresults) w''

/-- After the refresh age a refresh asks again. The new answer cannot be read, and the results
of the first one stay. -/
theorem getResults_of_run_stale :
    ∃ d w results,
      Run d w [.succeeded results 0, .attempted
        { targets := [⟨1⟩], timeout := none, asLocalhost := false, refreshAge := 10 }] ∧
      w.network.clock = 11 ∧ d.getResults false w = (.ok results, d, w) ∧
      ∃ d' w', d.getResults true w =
          (.error (.invalidPeer "p2:1" "missing state info"), d', w') ∧
        ∀ w'', d'.getResults false w'' = (.ok results, d', w'') := by
  have hbuilt := (Run.start "d" ⟨0⟩ {} (.answering { results := [.config {}] })).call
    (.build .sample {}) rfl
  have hsigned := hbuilt.call (.sign .sample) rfl
  have hsent := hsigned.call (.send { targets := [⟨1⟩], refreshAge := some 10 }) rfl
  let later : World := .answering .stateless
  have hrun := hsent.elapse { later with network := { later.network with clock := 11 } }
  obtain ⟨settings, -, hresults, -, herror⟩ := (getResults_of_run hrun).1
  exact ⟨_, _, _, hrun, rfl, hresults, _, _, rfl, herror _ _ _ rfl⟩

end ChannelDiscovery

end LedgerClient
