import Ads.Client.CutReplies

/-!
# Refused and sent

Whether a request goes out is decided by the numbers that have to fit its length fields,
whatever the server would answer.
-/

namespace Ads.Client

open Ads.Bytes Ads.Control

namespace Operation

variable {S α β : Type}

/-- The operation reports an overflow, and the server has seen nothing of it. -/
def Refuses (operation : Operation S α) (link : Link S) : Prop :=
  (operation link).1 = .err .overflow ∧ (operation link).2.seen = link.seen

/-- The server has seen this command of the operation, and no other. -/
def Sent (operation : Operation S α) (link : Link S) (cmd : Command) (payload : List UInt8) :
    Prop :=
  (operation link).2.seen = link.seen ++ [(cmd, payload)]

theorem ofOutcome_ok_bind (value : α) (next : α → Operation S β) :
    (ofOutcome (.ok value) >>= next) = next value :=
  rfl

/-- What is computed from the result of an operation sends nothing more. -/
theorem Sent.bind_ofOutcome {operation : Operation S α} {link : Link S} {cmd : Command}
    {payload : List UInt8} (sent : operation.Sent link cmd payload)
    (next : α → Outcome Error β) :
    (operation >>= fun value => ofOutcome (next value)).Sent link cmd payload := by
  rcases ran : operation link with ⟨outcome, after⟩
  rw [Sent, ran] at sent
  cases outcome with
  | ok value =>
      rw [Sent, bind_run_ok ran]
      exact sent
  | err error =>
      rw [Sent, bind_run_err ran]
      exact sent
  | panic =>
      rw [Sent, bind_run_panic ran]
      exact sent

theorem Refuses.bind {operation : Operation S α} {link : Link S}
    (refuses : operation.Refuses link) (next : α → Operation S β) :
    (operation >>= next).Refuses link := by
  rcases ran : operation link with ⟨outcome, after⟩
  rw [Refuses, ran] at refuses
  rcases refuses with ⟨rfl, unseen⟩
  rw [Refuses, bind_run_err ran]
  exact ⟨rfl, unseen⟩

/-- A computation that overflows first. -/
theorem refuses_of_overflow {outcome : Outcome Error α} (overflow : outcome = .err .overflow)
    (next : α → Operation S β) (link : Link S) : (ofOutcome outcome >>= next).Refuses link := by
  subst overflow
  exact ⟨rfl, rfl⟩

/-- What is sent is not refused. -/
theorem Sent.not_refuses {operation : Operation S α} {link : Link S} {cmd : Command}
    {payload : List UInt8} (sent : operation.Sent link cmd payload) :
    ¬operation.Refuses link := by
  rintro ⟨-, unseen⟩
  have longer := congrArg List.length (sent.symm.trans unseen)
  rw [List.length_append, List.length_singleton] at longer
  omega

theorem Sent.unique {operation : Operation S α} {link : Link S} {cmd other : Command}
    {payload payload' : List UInt8} (sent : operation.Sent link cmd payload)
    (also : operation.Sent link other payload') : payload = payload' := by
  have same := List.append_cancel_left (sent.symm.trans also)
  rw [List.singleton_inj, Prod.mk.injEq] at same
  exact same.2

end Operation

theorem tryInto_of_lt {value : Nat} (fits : value < 2 ^ 32) :
    tryInto value = .ok (UInt32.ofNat value) :=
  if_pos fits

theorem tryInto_of_not_lt {value : Nat} (long : ¬value < 2 ^ 32) :
    tryInto value = .err .overflow :=
  if_neg long

variable {S : Type} {server : Server S} {device : Device} {link : Link S}

/-- A command goes out exactly as it is. -/
theorem communicate_sent {cmd : Command} {payloadBufs resultBufs : List (List UInt8)}
    (short : amsHeaderSize + payloadBufs.flatten.length < 2 ^ 32) :
    (communicate server device cmd payloadBufs resultBufs).Sent link cmd
      payloadBufs.flatten := by
  rw [Operation.Sent, communicate_run short rfl]
  rfl

theorem communicate_refuses {cmd : Command} {payloadBufs resultBufs : List (List UInt8)}
    (long : ¬amsHeaderSize + payloadBufs.flatten.length < 2 ^ 32) :
    (communicate server device cmd payloadBufs resultBufs).Refuses link := by
  rw [Operation.Refuses, communicate_refused long]
  exact ⟨rfl, rfl⟩

section SumUp

variable {indexGroup : UInt32} {nreq rlen wlen : Nat} {wBuffers rBuffers : List (List UInt8)}

/-- A sum-up request whose lengths fit goes out with the lengths in its header. -/
theorem sumUp_sent (size : wBuffers.flatten.length = wlen) (sends : Sends rlen wlen) :
    (sumUp server device indexGroup nreq rlen wlen wBuffers rBuffers).Sent link .readWrite
      (IndexLengthRW.asBytes ⟨indexGroup, UInt32.ofNat nreq, UInt32.ofNat rlen,
        UInt32.ofNat wlen⟩ ++ wBuffers.flatten) := by
  rcases sends with ⟨reads, short⟩
  have writes : wlen < 2 ^ 32 := by omega
  rw [sumUp, tryInto_of_lt reads, tryInto_of_lt writes, Operation.ofOutcome_ok_bind,
    Operation.ofOutcome_ok_bind]
  refine Operation.Sent.bind_ofOutcome (communicate_sent ?_)
    fun received => .ok received.bufs.tail
  rw [List.flatten_cons, List.length_append, IndexLengthRW.length_asBytes, size]
  exact short

/-- A sum-up request one of whose lengths does not fit is refused. -/
theorem sumUp_refuses (size : wBuffers.flatten.length = wlen) (long : ¬Sends rlen wlen) :
    (sumUp server device indexGroup nreq rlen wlen wBuffers rBuffers).Refuses link := by
  rw [sumUp]
  by_cases reads : rlen < 2 ^ 32
  · by_cases writes : wlen < 2 ^ 32
    · rw [tryInto_of_lt reads, tryInto_of_lt writes, Operation.ofOutcome_ok_bind,
        Operation.ofOutcome_ok_bind]
      apply Operation.Refuses.bind
      apply communicate_refuses
      intro short
      rw [List.flatten_cons, List.length_append, IndexLengthRW.length_asBytes, size] at short
      exact long ⟨reads, short⟩
    · rw [tryInto_of_lt reads, Operation.ofOutcome_ok_bind, tryInto_of_not_lt writes]
      exact Operation.refuses_of_overflow rfl _ link
  · exact Operation.refuses_of_overflow (tryInto_of_not_lt reads) _ link

end SumUp

end Ads.Client
