import LedgerClient.Request.Commit

/-!
# One orderer after another

A transaction is sent to one orderer after another until one accepts it. So it has been sent to
the first orderers of the list, and all of them but the last have refused it. The last of them
either has accepted it, and its answer is the result, or nobody is left, and its refusal is.

## Main results

* `broadcast_contacts`: whom a transaction is sent to, and what comes of it.
-/

namespace LedgerClient

/-- What an orderer answers, with its details. -/
abbrev OrdererAnswer := Except ServiceError BroadcastResponse × ConnectionInfo

namespace OrdererAnswer

/-- The response of an orderer that accepts. -/
def accepted? : OrdererAnswer → Option BroadcastResponse
  | (.ok response, _) => if response.status.isSuccess then some response else none
  | (.error _, _) => none

/-- What is reported of an orderer that does not accept: its own error, or the status that it
answers, with its info. -/
def refusal : OrdererAnswer → ActionError
  | (.ok response, connection) =>
    .service (.remote connection response.status.label response.info)
  | (.error e, _) => .service e

end OrdererAnswer

section Broadcast

variable {σ ο : Type} {send : ο → σ → OrdererAnswer × σ}

/-- Orderers are sent to one after another, and this is what they answer. -/
inductive Contacts (send : ο → σ → OrdererAnswer × σ) : List (ο × OrdererAnswer) → σ → σ → Prop
  | nil (s : σ) : Contacts send [] s s
  | cons {orderer : ο} {answer : OrdererAnswer} {rest : List (ο × OrdererAnswer)} {s s₁ s' : σ}
      (h : send orderer s = (answer, s₁)) (hrest : Contacts send rest s₁ s') :
      Contacts send ((orderer, answer) :: rest) s s'

/-- The answer of one orderer decides whether it is the last one. -/
theorem broadcastFirstSuccess_cons {orderer : ο} {answer : OrdererAnswer} {s s₁ : σ}
    (h : send orderer s = (answer, s₁)) (lastError : ActionError) (rest : List ο) :
    broadcastFirstSuccess send lastError (orderer :: rest) s =
      match answer.accepted? with
      | some response => (.ok response, s₁)
      | none => broadcastFirstSuccess send answer.refusal rest s₁ := by
  rw [broadcastFirstSuccess, h]
  rcases answer with ⟨e | response, connection⟩
  · rfl
  · simp only [OrdererAnswer.accepted?]
    split <;> rfl

/-- A transaction is sent to the first orderers of a list: to some that refuse, and to a last one
that accepts, or that refuses as well and has no other one after it. -/
theorem broadcast_contacts {orderers : List ο} (horderers : orderers ≠ []) (s : σ) :
    ∃ refused last rest result s',
      orderers = (refused ++ [last]).map Prod.fst ++ rest ∧
        Contacts send (refused ++ [last]) s s' ∧
        (∀ x ∈ refused, x.2.accepted? = none) ∧
        broadcast send orderers s = (result, s') ∧
        match last.2.accepted? with
        | some response => result = .ok response
        | none => result = .error last.2.refusal ∧ rest = [] := by
  rw [broadcast]
  -- The error to begin with is replaced by the first refusal.
  generalize ActionError.missingParameter "targets" = lastError
  induction orderers generalizing lastError s with
  | nil => exact absurd rfl horderers
  | cons orderer rest ih =>
      rcases hsend : send orderer s with ⟨answer, s₁⟩
      rw [broadcastFirstSuccess_cons hsend]
      cases haccepted : answer.accepted? with
      | some response =>
          refine ⟨[], (orderer, answer), rest, .ok response, s₁, rfl, .cons hsend (.nil s₁),
            List.forall_mem_nil _, rfl, ?_⟩
          simp only [haccepted]
      | none =>
          cases rest with
          | nil =>
              refine ⟨[], (orderer, answer), [], .error answer.refusal, s₁, rfl,
                .cons hsend (.nil s₁), List.forall_mem_nil _, rfl, ?_⟩
              simp only [haccepted, and_self]
          | cons next rest =>
              obtain ⟨refused, last, left, result, s', horder, hcontacts, hrefused, hresult,
                hlast⟩ := ih (List.cons_ne_nil next rest) s₁ answer.refusal
              refine ⟨(orderer, answer) :: refused, last, left, result, s', ?_,
                .cons hsend hcontacts, ?_, hresult, hlast⟩
              · rw [horder]
                rfl
              · exact List.forall_mem_cons.mpr ⟨haccepted, hrefused⟩

end Broadcast

end LedgerClient
