import Basket.Communication.Deployment

/-! The global sequence: the counter of one server, and where the calls of a client go. -/

namespace Basket.Sequencer

open Library Cluster Communication

variable {Client : Type*}

inductive Op
  | getNextSequence
  | getNextSequenceServer (server : UInt16)
  deriving DecidableEq, Repr

/-- `return ++*value`, with the new value of the counter. -/
def localGetNextSequence (value : UInt64) : UInt64 × UInt64 :=
  (value + 1, value + 1)

def handle : Op → UInt64 → UInt64 × UInt64
  | .getNextSequence, value => localGetNextSequence value
  | .getNextSequenceServer _, value => localGetNextSequence value

variable (D : Deployment Client) (c : Client)

def getNextSequence : Dispatch UInt16 := (D.process c).callOwn

def getNextSequenceServer (server : UInt16) : Dispatch UInt16 := (D.process c).callServer server

/-- Every server has a counter of its own, which its constructor sets to 0. -/
def service : Service Client UInt16 Op UInt64 UInt64 where
  attached c := (D.process c).my_server
  dispatch c
    | .getNextSequence => getNextSequence D c
    | .getNextSequenceServer server => getNextSequenceServer D c server
  handle := handle

def counter : Op → UInt16
  | .getNextSequence => (D.process c).my_server
  | .getNextSequenceServer server => server

lemma service_server (o : Op) : (service D).server c o = counter D c o := by
  cases o with
  | getNextSequence => exact Deployment.server_callOwn rfl rfl
  | getNextSequenceServer server => exact Deployment.server_callServer rfl rfl

lemma service_handle (o : Op) (value : UInt64) : (service D).handle o value = (value + 1, value + 1) := by
  cases o <;> rfl

end Basket.Sequencer
