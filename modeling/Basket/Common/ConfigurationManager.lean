import Basket.Common.CharStruct

/-! The configuration of a process, how it loads its server list, and the objects it can share. -/

namespace Basket.Common

inductive RPCImplementation
  | RPCLIB
  | THALLIUM_TCP
  | THALLIUM_ROCE
  deriving DecidableEq, Repr

inductive Kind
  | map
  | multimap
  | set
  | unordered_map
  | queue
  | priority_queue
  | global_sequence
  | global_clock
  deriving DecidableEq, Repr

structure ConfigurationManager where
  RPC_PORT : UInt16
  RPC_THREADS : UInt16
  RPC_IMPLEMENTATION : RPCImplementation
  MPI_RANK : ℕ
  TCP_CONF : CharStruct
  VERBS_CONF : CharStruct
  VERBS_DOMAIN : CharStruct
  IS_SERVER : Bool
  MY_SERVER : UInt16
  NUM_SERVERS : Int32
  SERVER_ON_NODE : Bool
  SERVER_LIST_PATH : CharStruct
  SERVER_LIST : List CharStruct
  BACKED_FILE_DIR : CharStruct
  deriving DecidableEq

def isSpace (c : Char) : Bool := c = ' ' || (9 ≤ c.toNat && c.toNat ≤ 13)

/-- `atoi`: blanks, a sign and the digits that follow it. Nothing when the value is not an `int`. -/
def atoi (text : Text) : Option ℤ :=
  let rest := text.dropWhile isSpace
  let negative := rest.head? = some '-'
  let unsigned := if rest.head? = some '-' ∨ rest.head? = some '+' then rest.tail else rest
  let n : ℤ := Nat.ofDigitChars 10 (unsigned.takeWhile Char.isDigit) 0
  let value := if negative then -n else n
  if -2 ^ 31 ≤ value ∧ value < 2 ^ 31 then some value else none

def getlines (file : Text) : List Text :=
  let lines := file.splitOn '\n'
  if lines.getLast? = some [] then lines.dropLast else lines

def npos : ℕ := 2 ^ 64 - 1

/-- An `int` where a `size_t` is expected. -/
def toSize (i : Int32) : ℕ := i.toInt64.toUInt64.toNat

/-- `int split_loc = file_line.find(':')`, where `npos` becomes -1. -/
def splitLoc (file_line : Text) : Int32 :=
  Int32.ofInt (if ':' ∈ file_line then file_line.idxOf ':' else -1)

/-- `substr`, which throws when `pos` lies past the end; `npos` stands for all that follows. -/
def substr (text : Text) (pos count : ℕ) : Option Text :=
  if text.length < pos then none
  else if count = npos then some (text.drop pos)
  else some ((text.drop pos).take count)

/-- Nothing also where `split_loc+1` overflows. -/
def splitLine (file_line : Text) : Option (Text × ℤ) :=
  let split_loc := splitLoc file_line
  if toSize split_loc ≠ npos then do
    let server_node_name ← substr file_line 0 (toSize split_loc)
    let next ← if split_loc = Int32.maxValue then none else some (split_loc + 1)
    let count ← atoi (cStr (← substr file_line (toSize next) npos))
    return (server_node_name, count)
  else some (file_line, 1)

def loadLine (SERVER_LIST : List CharStruct) (file_line : Text) : Option (List CharStruct) := do
  let (server_node_name, count) ← splitLine file_line
  if count ≤ 0 then return SERVER_LIST
  else do
    let server ← CharStruct.ofText? server_node_name
    return SERVER_LIST ++ List.replicate count.toNat server

def serverList (file : Text) : Option (List CharStruct) := (getlines file).foldlM loadLine []

abbrev Files := CharStruct → Option Text

namespace ConfigurationManager

def initial (implementation : RPCImplementation) (MPI_RANK : ℕ) : ConfigurationManager where
  RPC_PORT := 8080
  RPC_THREADS := 1
  RPC_IMPLEMENTATION := implementation
  MPI_RANK := MPI_RANK
  TCP_CONF := ⟨"ofi+tcp".toList, by decide, by decide⟩
  VERBS_CONF := ⟨"verbs".toList, by decide, by decide⟩
  VERBS_DOMAIN := ⟨"mlx5_0".toList, by decide, by decide⟩
  IS_SERVER := false
  MY_SERVER := 0
  NUM_SERVERS := 1
  SERVER_ON_NODE := true
  SERVER_LIST_PATH := ⟨"./server_list".toList, by decide, by decide⟩
  SERVER_LIST := []
  BACKED_FILE_DIR := ⟨"/dev/shm".toList, by decide, by decide⟩

def setServers (conf : ConfigurationManager) (list : List CharStruct) : ConfigurationManager :=
  { conf with SERVER_LIST := list, NUM_SERVERS := Int32.ofNat list.length }

/-- Nothing when the process exits because the file cannot be opened, or when it writes past the
end of a buffer or of an `int`. -/
def loadServers (files : Files) (conf : ConfigurationManager) : Option ConfigurationManager := do
  let file ← files conf.SERVER_LIST_PATH
  let list ← serverList file
  return conf.setServers list

def serverListPath (server_list_path : Text) (conf : ConfigurationManager) : Option CharStruct :=
  if server_list_path = [] then some conf.SERVER_LIST_PATH else CharStruct.ofText? server_list_path

/-- The common part of `ConfigureDefaultClient` and `ConfigureDefaultServer`. Nothing also when
`MPI_RANK%NUM_SERVERS` divides by zero. -/
def configureDefault (files : Files) (server_list_path : Text) (conf : ConfigurationManager) :
    Option ConfigurationManager := do
  let path ← serverListPath server_list_path conf
  let conf ← loadServers files { conf with SERVER_LIST_PATH := path }
  if conf.NUM_SERVERS = 0 then none
  else return { conf with MY_SERVER := UInt16.ofInt ((conf.MPI_RANK : ℤ).tmod conf.NUM_SERVERS.toInt) }

def configureDefaultClient (files : Files) (server_list_path : Text) (conf : ConfigurationManager) :
    Option ConfigurationManager := do
  let conf ← configureDefault files server_list_path conf
  return { conf with IS_SERVER := false, SERVER_ON_NODE := false }

def configureDefaultServer (files : Files) (server_list_path : Text) (conf : ConfigurationManager) :
    Option ConfigurationManager := do
  let conf ← configureDefault files server_list_path conf
  return { conf with IS_SERVER := true, SERVER_ON_NODE := true }

variable {files : Files} {conf conf' : ConfigurationManager} {file : Text} {list : List CharStruct}

lemma loadServers_eq (hf : files conf.SERVER_LIST_PATH = some file) (hl : serverList file = some list) :
    loadServers files conf = some (conf.setServers list) := by
  simp [loadServers, hf, hl]

lemma loadServers_eq_some (h : loadServers files conf = some conf') :
    ∃ file list, files conf.SERVER_LIST_PATH = some file ∧ serverList file = some list ∧
      conf' = conf.setServers list := by
  simp only [loadServers, Option.bind_eq_bind, Option.bind_eq_some_iff, Option.pure_def,
    Option.some_inj] at h
  obtain ⟨file, hf, list, hl, rfl⟩ := h
  exact ⟨file, list, hf, hl, rfl⟩

example : serverList "ares-01:2\nares-02".toList = some
    [⟨"ares-01".toList, by decide, by decide⟩, ⟨"ares-01".toList, by decide, by decide⟩,
      ⟨"ares-02".toList, by decide, by decide⟩] := by
  decide +kernel

end ConfigurationManager

end Basket.Common
