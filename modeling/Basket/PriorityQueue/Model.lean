import Basket.Communication.Deployment
import Basket.Library.PriorityQueue

/-! The distributed priority queue: the heap of one server, and where the calls of a client go. -/

namespace Basket.PriorityQueue

open Library Cluster Communication

variable {MappedType Client : Type*} {Compare : MappedType → MappedType → Prop}

inductive Op (MappedType : Type*)
  | push (data : MappedType) (key_int : UInt16)
  | pop (key_int : UInt16)
  | top (key_int : UInt16)
  | size (key_int : UInt16)
  deriving DecidableEq, Repr

def Op.key_int : Op MappedType → UInt16
  | push _ key_int => key_int
  | pop key_int => key_int
  | top key_int => key_int
  | size key_int => key_int

inductive Reply (MappedType : Type*)
  | push (success : Bool)
  | pop (found : Bool × MappedType)
  | top (found : Bool × MappedType)
  | size (value : ℕ)
  deriving DecidableEq, Repr

section Local

variable (Q : StdPriorityQueue MappedType Compare)

def localPush (data : MappedType) (queue : Q.Carrier) : Bool × Q.Carrier :=
  (true, Q.push data queue)

def localPop [Inhabited MappedType] (queue : Q.Carrier) : (Bool × MappedType) × Q.Carrier :=
  if h : Q.size queue > 0 then ((true, Q.top queue h), Q.pop queue h)
  else ((false, default), queue)

def localTop [Inhabited MappedType] (queue : Q.Carrier) : Bool × MappedType :=
  if h : Q.size queue > 0 then (true, Q.top queue h) else (false, default)

def localSize (queue : Q.Carrier) : ℕ := Q.size queue

def handle [Inhabited MappedType] : Op MappedType → Q.Carrier → Reply MappedType × Q.Carrier
  | .push data _, queue => (localPush Q data queue).map .push id
  | .pop _, queue => (localPop Q queue).map .pop id
  | .top _, queue => (.top (localTop Q queue), queue)
  | .size _, queue => (.size (localSize Q queue), queue)

end Local

section Calls

variable (D : Deployment Client) (c : Client) (key_int : UInt16)

def push : Dispatch UInt16 := (D.process c).callServer key_int

def pop : Dispatch UInt16 := (D.process c).callServer key_int

def top : Dispatch UInt16 := (D.process c).callServer key_int

def size : Dispatch UInt16 := (D.process c).callServer key_int

variable [Inhabited MappedType] (Q : StdPriorityQueue MappedType Compare)

def service : Service Client UInt16 (Op MappedType) (Reply MappedType) Q.Carrier where
  attached c := (D.process c).my_server
  dispatch c
    | .push _ key_int => push D c key_int
    | .pop key_int => pop D c key_int
    | .top key_int => top D c key_int
    | .size key_int => size D c key_int
  handle := handle Q

lemma service_server (o : Op MappedType) : (service D Q).server c o = o.key_int := by
  cases o <;> exact Deployment.server_callServer rfl rfl

end Calls

section Specs

variable [Inhabited MappedType] {Q : StdPriorityQueue MappedType Compare} {queue : Q.Carrier}

lemma localTop_eq : localTop Q queue = (localPop Q queue).1 := by
  rw [localTop, localPop]
  split_ifs <;> rfl

lemma localPop_fails : (localPop Q queue).1.1 = false ↔ Q.contents queue = 0 := by
  rw [← not_iff_not, ← ne_eq, ← ne_eq, ← Q.size_pos_iff]
  rw [localPop]
  split_ifs with h <;> simp [h]

lemma localPop_unchanged (h : (localPop Q queue).1.1 = false) : (localPop Q queue).2 = queue := by
  rw [localPop] at h ⊢
  split_ifs at h ⊢
  rfl

lemma localPop_contents (h : (localPop Q queue).1.1 = true) :
    (localPop Q queue).1.2 ::ₘ Q.contents (localPop Q queue).2 = Q.contents queue ∧
      ∀ x ∈ Q.contents queue, ¬Compare (localPop Q queue).1.2 x := by
  rw [localPop] at h ⊢
  split_ifs at h ⊢ with hs
  · exact ⟨Q.contents_pop queue hs, Q.not_top_lt queue hs⟩

end Specs

end Basket.PriorityQueue
