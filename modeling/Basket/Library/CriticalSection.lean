import Basket.Library.Linearizability

/-! Operations whose bodies take many steps, each body between the lock and the unlock of one mutex.
What the callers see is what they would see if every body were one step. -/

namespace Basket.Library.CriticalSection

open Cluster Linearizability

inductive Code (σ Res : Type*)
  | ret (r : Res)
  | step (change : σ → σ) (next : σ → Code σ Res)

namespace Code

variable {σ : Type*} {α β : Type*}

def run : Code σ α → σ → α × σ
  | ret r, s => (r, s)
  | step change next, s => (next s).run (change s)

def bind : Code σ α → (α → Code σ β) → Code σ β
  | ret a, f => f a
  | step change next, f => step change (fun s => (next s).bind f)

def read (f : σ → α) : Code σ α := step id (fun s => ret (f s))

def update (change : σ → σ) : Code σ PUnit := step change (fun _ => ret ⟨⟩)

/-- A call that changes the data and answers from what it found. -/
def change (f : σ → α × σ) : Code σ α := step (fun s => (f s).2) (fun s => ret (f s).1)

instance instMonad : Monad (Code σ) where
  pure := ret
  bind := bind

variable {s : σ}

@[simp] lemma run_pure {a : α} : (pure a : Code σ α).run s = (a, s) := rfl

@[simp] lemma run_read {f : σ → α} : (read f).run s = (f s, s) := rfl

@[simp] lemma run_update {f : σ → σ} : (update f).run s = (⟨⟩, f s) := rfl

@[simp] lemma run_change {f : σ → α × σ} : (change f).run s = f s := rfl

lemma run_bind' {x : Code σ α} {f : α → Code σ β} :
    (x.bind f).run s = (f (x.run s).1).run (x.run s).2 := by
  induction x generalizing s with
  | ret a => rfl
  | step change next ih => exact ih s

@[simp] lemma run_bind {σ α β : Type} {s : σ} {x : Code σ α} {f : α → Code σ β} :
    (x >>= f).run s = (f (x.run s).1).run (x.run s).2 :=
  run_bind'

end Code

/-- The data of a server is in parts, each under a mutex of its own. -/
structure Program (Client Server Op Res : Type*) {Lock : Type*} (σ : Lock → Type*) where
  attached : Client → Server
  dispatch : Client → Op → Dispatch Server
  lock : Op → Lock
  body : (o : Op) → Code (σ (lock o)) Res

variable {Client Server Op Res Lock : Type*} {σ : Lock → Type*}

/-- What a call is doing. A request is carried out by a worker thread of its server, a call on the
client's own node by the client. -/
inductive Phase (P : Program Client Server Op Res σ) (w : ℕ)
  | idle
  | request (i : ℕ) (s : Server) (o : Op)
  | entering (i : ℕ) (s : Server) (o : Op) (j : Option (Fin w))
  | inside (i : ℕ) (s : Server) (o : Op) (j : Option (Fin w)) (rest : Code (σ (P.lock o)) Res)
  | reply (i : ℕ) (r : Res)

namespace Phase

variable {P : Program Client Server Op Res σ} {w : ℕ}

def thread : Phase P w → Option (Server × Fin w)
  | idle => none
  | request _ _ _ => none
  | entering _ s _ j => j.map (Prod.mk s)
  | inside _ s _ j _ => j.map (Prod.mk s)
  | reply _ _ => none

def held : Phase P w → Option (Server × Lock)
  | idle => none
  | request _ _ _ => none
  | entering _ _ _ _ => none
  | inside _ s o _ _ => some (s, P.lock o)
  | reply _ _ => none

def flight : Phase P w → Flight Server Op Res
  | idle => .idle
  | request i s o => .request i s o
  | entering i s o _ => .request i s o
  | inside i s o _ _ => .request i s o
  | reply i r => .reply i r

end Phase

structure State (P : Program Client Server Op Res σ) (w : ℕ) where
  shard : Server → ∀ l, σ l
  mutex : Server → Lock → Option Client
  phase : Client → Phase P w
  calls : ℕ

variable {P : Program Client Server Op Res σ} {w : ℕ}

namespace State

def initial (P : Program Client Server Op Res σ) (w : ℕ) (init : Server → ∀ l, σ l) : State P w where
  shard := init
  mutex _ _ := none
  phase _ := .idle
  calls := 0

def Quiescent (st : State P w) : Prop := ∀ c, st.phase c = .idle

section Phases

variable [DecidableEq Client]

def setPhase (st : State P w) (c : Client) (p : Phase P w) : State P w :=
  { st with phase := Function.update st.phase c p }

def newCall (st : State P w) (c : Client) (p : Phase P w) : State P w :=
  { st.setPhase c p with calls := st.calls + 1 }

@[simp] lemma setPhase_self (st : State P w) (c : Client) (p : Phase P w) :
    (st.setPhase c p).phase c = p := by
  simp [setPhase]

lemma setPhase_other (st : State P w) {c d : Client} (p : Phase P w) (hd : d ≠ c) :
    (st.setPhase c p).phase d = st.phase d := by
  simp [setPhase, hd]

end Phases

section Parts

variable [DecidableEq Server] [DecidableEq Lock]

def setMutex (st : State P w) (s : Server) (l : Lock) (m : Option Client) : State P w :=
  { st with mutex := Function.update st.mutex s (Function.update (st.mutex s) l m) }

def setShard (st : State P w) (s : Server) (l : Lock) (x : σ l) : State P w :=
  { st with shard := Function.update st.shard s (Function.update (st.shard s) l x) }

lemma mutex_setMutex (st : State P w) (s t : Server) (l k : Lock) (m : Option Client) :
    (st.setMutex s l m).mutex t k = if t = s ∧ k = l then m else st.mutex t k := by
  by_cases ht : t = s
  · subst ht
    by_cases hk : k = l <;> simp [setMutex, hk]
  · simp [setMutex, ht]

@[simp] lemma setShard_self (st : State P w) (s : Server) (l : Lock) (x : σ l) :
    (st.setShard s l x).shard s l = x := by
  simp [setShard]

lemma setShard_other (st : State P w) {s t : Server} {l k : Lock} (x : σ l) (h : ¬(t = s ∧ k = l)) :
    (st.setShard s l x).shard t k = st.shard t k := by
  by_cases ht : t = s
  · subst ht
    have hk : k ≠ l := fun hk => h ⟨rfl, hk⟩
    simp [setShard, hk]
  · simp [setShard, ht]

end Parts

end State

section Steps

variable [DecidableEq Client] [DecidableEq Server] [DecidableEq Lock]

/-- The history holds what the clients see: which client calls which operation, and its results. -/
inductive Step (P : Program Client Server Op Res σ) (w : ℕ) : State P w →
    List (Linearizability.Event ℕ (Client × Op) Res) → State P w → Prop
  | here {st : State P w} {c : Client} {o : Op} (hp : st.phase c = .idle)
      (hd : P.dispatch c o = .here) :
      Step P w st [.invoke st.calls (c, o)] (st.newCall c (.entering st.calls (P.attached c) o none))
  | request {st : State P w} {c : Client} {o : Op} {s : Server} (hp : st.phase c = .idle)
      (hd : P.dispatch c o = .rpc s) :
      Step P w st [.invoke st.calls (c, o)] (st.newCall c (.request st.calls s o))
  | take {st : State P w} {c : Client} {i : ℕ} {s : Server} {o : Op} {j : Fin w}
      (hp : st.phase c = .request i s o) (hj : ∀ d, (st.phase d).thread ≠ some (s, j)) :
      Step P w st [] (st.setPhase c (.entering i s o (some j)))
  | lock {st : State P w} {c : Client} {i : ℕ} {s : Server} {o : Op} {j : Option (Fin w)}
      (hp : st.phase c = .entering i s o j) (hm : st.mutex s (P.lock o) = none) :
      Step P w st []
        ((st.setMutex s (P.lock o) (some c)).setPhase c (.inside i s o j (P.body o)))
  | work {st : State P w} {c : Client} {i : ℕ} {s : Server} {o : Op} {j : Option (Fin w)}
      {change : σ (P.lock o) → σ (P.lock o)} {next : σ (P.lock o) → Code (σ (P.lock o)) Res}
      (hp : st.phase c = .inside i s o j (.step change next)) :
      Step P w st []
        ((st.setShard s (P.lock o) (change (st.shard s (P.lock o)))).setPhase c
          (.inside i s o j (next (st.shard s (P.lock o)))))
  | unlock {st : State P w} {c : Client} {i : ℕ} {s : Server} {o : Op} {j : Option (Fin w)} {r : Res}
      (hp : st.phase c = .inside i s o j (.ret r)) :
      Step P w st [] ((st.setMutex s (P.lock o) none).setPhase c (.reply i r))
  | reply {st : State P w} {c : Client} {i : ℕ} {r : Res} (hp : st.phase c = .reply i r) :
      Step P w st [.respond i r] (st.setPhase c .idle)

inductive Run (P : Program Client Server Op Res σ) (w : ℕ) (init : Server → ∀ l, σ l) :
    List (Linearizability.Event ℕ (Client × Op) Res) → State P w → Prop
  | nil : Run P w init [] (.initial P w init)
  | snoc {h es : List (Linearizability.Event ℕ (Client × Op) Res)} {st st' : State P w} :
      Run P w init h st → Step P w st es st' → Run P w init (h ++ es) st'

end Steps

end Basket.Library.CriticalSection
