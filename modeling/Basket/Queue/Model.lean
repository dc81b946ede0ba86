import Basket.Communication.Deployment

/-! The distributed queue: the deque of one server, and where the calls of a client go. -/

namespace Basket.Queue

open Library Cluster Communication

variable {MappedType Client : Type*}

inductive Op (MappedType : Type*)
  | push (data : MappedType) (key_int : UInt16)
  | pop (key_int : UInt16)
  | size (key_int : UInt16)
  deriving DecidableEq, Repr

def Op.key_int : Op MappedType → UInt16
  | push _ key_int => key_int
  | pop key_int => key_int
  | size key_int => key_int

inductive Reply (MappedType : Type*)
  | push (success : Bool)
  | pop (found : Bool × MappedType)
  | size (value : ℕ)
  deriving DecidableEq, Repr

def localPush (data : MappedType) (my_queue : List MappedType) : Bool × List MappedType :=
  (true, my_queue ++ [data])

def localPop [Inhabited MappedType] (my_queue : List MappedType) :
    (Bool × MappedType) × List MappedType :=
  if h : my_queue.length > 0 then
    ((true, my_queue.head (List.ne_nil_of_length_pos h)), my_queue.tail)
  else ((false, default), my_queue)

def localSize (my_queue : List MappedType) : ℕ := my_queue.length

def handle [Inhabited MappedType] : Op MappedType → List MappedType → Reply MappedType × List MappedType
  | .push data _, my_queue => (localPush data my_queue).map .push id
  | .pop _, my_queue => (localPop my_queue).map .pop id
  | .size _, my_queue => (.size (localSize my_queue), my_queue)

section Calls

variable (D : Deployment Client) (c : Client) (key_int : UInt16)

def push : Dispatch UInt16 := (D.process c).callServer key_int

def pop : Dispatch UInt16 := (D.process c).callServer key_int

def size : Dispatch UInt16 := (D.process c).callServer key_int

def service [Inhabited MappedType] :
    Service Client UInt16 (Op MappedType) (Reply MappedType) (List MappedType) where
  attached c := (D.process c).my_server
  dispatch c
    | .push _ key_int => push D c key_int
    | .pop key_int => pop D c key_int
    | .size key_int => size D c key_int
  handle := handle

lemma service_server [Inhabited MappedType] (o : Op MappedType) :
    (service D).server c o = o.key_int := by
  cases o <;> exact Deployment.server_callServer rfl rfl

end Calls

variable [Inhabited MappedType]

lemma localPop_nil : localPop ([] : List MappedType) = ((false, default), []) := by
  simp [localPop]

lemma localPop_cons {v : MappedType} {l : List MappedType} : localPop (v :: l) = ((true, v), l) := by
  simp [localPop]

lemma localPop_fails {l : List MappedType} : (localPop l).1.1 = false ↔ l = [] := by
  cases l with
  | nil => simp [localPop_nil]
  | cons v l => simp [localPop_cons]

end Basket.Queue
