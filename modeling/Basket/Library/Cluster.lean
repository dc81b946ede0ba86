import Mathlib.Logic.Function.Basic
import Mathlib.Data.List.Basic
import Mathlib.Tactic.Lemma

/-! An object spread over servers. A client either works on the server it is attached to in one
atomic step, or sends a request, which its server handles in one atomic step before it replies. -/

namespace Basket.Library.Cluster

variable {Client Server Op Res σ : Type*}

inductive Dispatch (Server : Type*)
  | here
  | rpc (s : Server)
  deriving DecidableEq, Repr

structure Service (Client Server Op Res σ : Type*) where
  attached : Client → Server
  dispatch : Client → Op → Dispatch Server
  handle : Op → σ → Res × σ

namespace Service

variable (S : Service Client Server Op Res σ)

def server (c : Client) (o : Op) : Server :=
  match S.dispatch c o with
  | .here => S.attached c
  | .rpc s => s

def answer (o : Op) (s : Server) (shard : Server → σ) : Res :=
  (S.handle o (shard s)).1

def apply [DecidableEq Server] (o : Op) (s : Server) (shard : Server → σ) : Server → σ :=
  Function.update shard s (S.handle o (shard s)).2

lemma server_here {c : Client} {o : Op} (h : S.dispatch c o = .here) :
    S.server c o = S.attached c := by
  simp [server, h]

lemma server_rpc {c : Client} {o : Op} {s : Server} (h : S.dispatch c o = .rpc s) :
    S.server c o = s := by
  simp [server, h]

@[simp] lemma apply_same [DecidableEq Server] (o : Op) (s : Server) (shard : Server → σ) :
    S.apply o s shard s = (S.handle o (shard s)).2 := by
  simp [apply]

lemma apply_other [DecidableEq Server] (o : Op) {s t : Server} (h : t ≠ s) (shard : Server → σ) :
    S.apply o s shard t = shard t := by
  simp [apply, h]

end Service

/-- A client has at most one call in the network: its request or the reply to it. -/
inductive Flight (Server Op Res : Type*)
  | idle
  | request (i : ℕ) (s : Server) (o : Op)
  | reply (i : ℕ) (r : Res)

structure State (Client Server Op Res σ : Type*) where
  shard : Server → σ
  flight : Client → Flight Server Op Res
  calls : ℕ

def State.Quiescent (st : State Client Server Op Res σ) : Prop :=
  ∀ c, st.flight c = .idle

inductive Event (Client Server Op Res : Type*)
  | invoke (i : ℕ) (c : Client) (o : Op)
  | handle (i : ℕ) (c : Client) (s : Server) (o : Op) (r : Res)
  | respond (i : ℕ) (c : Client) (r : Res)

abbrev Trace (Client Server Op Res : Type*) := List (Event Client Server Op Res)

variable [DecidableEq Client] [DecidableEq Server]

inductive Step (S : Service Client Server Op Res σ) : State Client Server Op Res σ →
    Trace Client Server Op Res → State Client Server Op Res σ → Prop
  | here {st : State Client Server Op Res σ} {c : Client} {o : Op} (hf : st.flight c = .idle)
      (hd : S.dispatch c o = .here) :
      Step S st
        [.invoke st.calls c o,
          .handle st.calls c (S.attached c) o (S.answer o (S.attached c) st.shard),
          .respond st.calls c (S.answer o (S.attached c) st.shard)]
        { st with shard := S.apply o (S.attached c) st.shard, calls := st.calls + 1 }
  | request {st : State Client Server Op Res σ} {c : Client} {o : Op} {s : Server}
      (hf : st.flight c = .idle) (hd : S.dispatch c o = .rpc s) :
      Step S st [.invoke st.calls c o]
        { st with
          flight := Function.update st.flight c (.request st.calls s o)
          calls := st.calls + 1 }
  | serve {st : State Client Server Op Res σ} {c : Client} {i : ℕ} {s : Server} {o : Op}
      (hf : st.flight c = .request i s o) :
      Step S st [.handle i c s o (S.answer o s st.shard)]
        { st with
          shard := S.apply o s st.shard
          flight := Function.update st.flight c (.reply i (S.answer o s st.shard)) }
  | reply {st : State Client Server Op Res σ} {c : Client} {i : ℕ} {r : Res}
      (hf : st.flight c = .reply i r) :
      Step S st [.respond i c r] { st with flight := Function.update st.flight c .idle }

inductive Run (S : Service Client Server Op Res σ) (init : Server → σ) :
    Trace Client Server Op Res → State Client Server Op Res σ → Prop
  | nil : Run S init [] ⟨init, fun _ => .idle, 0⟩
  | snoc {tr es : Trace Client Server Op Res} {st st' : State Client Server Op Res σ} :
      Run S init tr st → Step S st es st' → Run S init (tr ++ es) st'

lemma Run.call {S : Service Client Server Op Res σ} {init : Server → σ}
    {tr : Trace Client Server Op Res} {st : State Client Server Op Res σ}
    (h : Run S init tr st) (c : Client) (o : Op) (hf : st.flight c = .idle) :
    Run S init
      (tr ++ [.invoke st.calls c o,
        .handle st.calls c (S.server c o) o (S.answer o (S.server c o) st.shard),
        .respond st.calls c (S.answer o (S.server c o) st.shard)])
      { st with shard := S.apply o (S.server c o) st.shard, calls := st.calls + 1 } := by
  cases hd : S.dispatch c o with
  | here =>
    rw [S.server_here hd]
    exact h.snoc (.here hf hd)
  | rpc s =>
    rw [S.server_rpc hd]
    have hr := h.snoc (.request hf hd)
    have hs := hr.snoc (.serve (Function.update_self c _ st.flight))
    have hh := hs.snoc (.reply (Function.update_self c _ _))
    have he : Function.update st.flight c .idle = st.flight :=
      Function.update_eq_self_iff.mpr hf.symm
    simpa [he] using hh

def Settled (S : Service Client Server Op Res σ) (init shard : Server → σ) : Prop :=
  ∃ tr st, Run S init tr st ∧ st.Quiescent ∧ st.shard = shard

namespace Settled

variable {S : Service Client Server Op Res σ} {init shard : Server → σ}

lemma nil : Settled S init init :=
  ⟨_, _, .nil, fun _ => rfl, rfl⟩

lemma call (h : Settled S init shard) (c : Client) (o : Op) :
    Settled S init (S.apply o (S.server c o) shard) := by
  obtain ⟨tr, st, hr, hq, rfl⟩ := h
  exact ⟨_, _, hr.call c o (hq c), hq, rfl⟩

end Settled

end Basket.Library.Cluster
