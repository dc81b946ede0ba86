import Basket.Communication.Deployment

/-! The global clock: the time since the constructor of a server, and where the calls of a client go. -/

namespace Basket.GlobalClock

open Library Cluster Communication

variable {Client : Type*}

inductive Op
  | getTime
  | getTimeServer (server : UInt16)
  deriving DecidableEq, Repr

/-- `later` is what `high_resolution_clock::now()` will show the server next, in nanoseconds. -/
structure Clock where
  start : ℤ
  later : ℕ → ℤ

def Clock.tick (clock : Clock) : Clock := { clock with later := fun n => clock.later (n + 1) }

/-- `duration_cast` to microseconds truncates; its count is returned as an unsigned number. -/
def microseconds (t : ℤ) : UInt64 := .ofBitVec (.ofInt 64 (t.tdiv 1000))

def localGetTime (clock : Clock) : UInt64 × Clock :=
  let t2 := clock.later 0
  (microseconds (t2 - clock.start), clock.tick)

/-- The constructor takes the first reading. -/
def constructed (readings : ℕ → ℤ) : Clock where
  start := readings 0
  later n := readings (n + 1)

def handle : Op → Clock → UInt64 × Clock
  | .getTime, clock => localGetTime clock
  | .getTimeServer _, clock => localGetTime clock

variable (D : Deployment Client) (c : Client)

def getTime : Dispatch UInt16 := (D.process c).callOwn

def getTimeServer (server : UInt16) : Dispatch UInt16 := (D.process c).callServer server

def service : Service Client UInt16 Op UInt64 Clock where
  attached c := (D.process c).my_server
  dispatch c
    | .getTime => getTime D c
    | .getTimeServer server => getTimeServer D c server
  handle := handle

def timekeeper : Op → UInt16
  | .getTime => (D.process c).my_server
  | .getTimeServer server => server

lemma service_server (o : Op) : (service D).server c o = timekeeper D c o := by
  cases o with
  | getTime => exact Deployment.server_callOwn rfl rfl
  | getTimeServer server => exact Deployment.server_callServer rfl rfl

lemma service_handle (o : Op) (clock : Clock) : (service D).handle o clock = localGetTime clock := by
  cases o <;> rfl

lemma microseconds_toNat {t : ℤ} (h : 0 ≤ t) (hb : t < 2 ^ 63) : ((microseconds t).toNat : ℤ) = t / 1000 := by
  have hd : t.tdiv 1000 = t / 1000 := Int.tdiv_eq_ediv_of_nonneg h
  rw [microseconds, UInt64.toNat_ofBitVec, BitVec.toNat_ofInt, hd, Int.toNat_of_nonneg (by omega)]
  omega

end Basket.GlobalClock
