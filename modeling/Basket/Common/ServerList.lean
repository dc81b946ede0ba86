import Basket.Common.ConfigurationManager

/-! The text of a server list file, and the server list that is loaded from it. -/

namespace Basket.Common

structure ServerRecord where
  name : Text
  count : ℕ
  name_ne_nil : name ≠ []
  length_lt : name.length < 256
  nul_free : '\x00' ∉ name
  colon_free : ':' ∉ name
  newline_free : '\n' ∉ name
  count_lt : count < 2 ^ 31

def Numeral (n : ℕ) (digits : Text) : Prop :=
  digits ≠ [] ∧ (∀ c ∈ digits, c.isDigit = true) ∧ Nat.ofDigitChars 10 digits 0 = n

namespace ServerRecord

inductive Line (r : ServerRecord) : Text → Prop
  | counted (digits : Text) : Numeral r.count digits → Line r (r.name ++ ':' :: digits)
  | single : r.count = 1 → Line r r.name

def server (r : ServerRecord) : CharStruct := ⟨r.name, r.nul_free, r.length_lt⟩

end ServerRecord

/-- A last newline ends the last line. -/
def Written (records : List ServerRecord) (file : Text) : Prop :=
  ∃ lines, List.Forall₂ ServerRecord.Line records lines ∧
    (file = ['\n'].intercalate lines ∨ lines ≠ [] ∧ file = ['\n'].intercalate lines ++ ['\n'])

def expansion (records : List ServerRecord) : List CharStruct :=
  records.flatMap fun r => List.replicate r.count r.server

def loadTimes (files : Files) : ℕ → ConfigurationManager → Option ConfigurationManager
  | 0, conf => some conf
  | n + 1, conf => (conf.loadServers files).bind (loadTimes files n)

/-- A line from which a server list can be extended. -/
def Readable (file_line : Text) : Prop :=
  ∃ name count, splitLine file_line = some (name, count) ∧ (0 < count → (cStr name).length < 256)

def serversOf (file_line : Text) : ℕ := (splitLine file_line).elim 0 fun p => p.2.toNat

def total (file : Text) : ℕ := ((getlines file).map serversOf).sum

section Numbers

variable {n : ℕ} {digits : Text} {c : Char}

lemma numeral_decimal (n : ℕ) : Numeral n (decimal n) := by
  rw [decimal_natCast]
  refine ⟨Nat.toDigits_ne_nil, fun c hc => ?_, Nat.ofDigitChars_ten_toDigits⟩
  exact Nat.isDigit_of_mem_toDigits (by norm_num) (by norm_num) hc

lemma Numeral.not_mem (h : Numeral n digits) (hc : c.isDigit = false) : c ∉ digits := by
  intro hm
  rw [h.2.1 c hm] at hc
  cases hc

lemma isSpace_of_isDigit (h : c.isDigit = true) : isSpace c = false := by
  have h₀ : 48 ≤ c.toNat := (Char.isDigit_iff_toNat.mp h).1
  have hn : c ≠ ' ' := by
    rintro rfl
    exact absurd h₀ (by decide)
  simp only [isSpace, hn, decide_false, Bool.false_or, Bool.and_eq_false_iff, decide_eq_false_iff_not]
  omega

lemma atoi_numeral (h : Numeral n digits) (hn : n < 2 ^ 31) : atoi (cStr digits) = some (n : ℤ) := by
  have hz : cStr digits = digits := cStr_eq (h.not_mem rfl)
  have hb : digits.dropWhile isSpace = digits := by
    refine List.dropWhile_eq_self_iff.mpr fun hl => ?_
    rw [isSpace_of_isDigit (h.2.1 _ (List.getElem_mem hl))]
    exact Bool.false_ne_true
  have hm : digits.head? ≠ some '-' := fun hc => h.not_mem rfl (List.mem_of_head? hc)
  have hp : digits.head? ≠ some '+' := fun hc => h.not_mem rfl (List.mem_of_head? hc)
  have ht : digits.takeWhile Char.isDigit = digits := List.takeWhile_eq_self_iff.mpr h.2.1
  simp only [atoi, hz, hb, hm, hp, ht, h.2.2, or_self, if_false]
  rw [if_pos (by omega)]

lemma toSize_ofInt (h : n < 2 ^ 31) : toSize (Int32.ofInt n) = n := by
  have hi : (Int32.ofInt n).toInt64.toInt = n := by
    rw [Int32.toInt_toInt64, Int32.toInt_ofInt_of_le (by omega) (by omega)]
  have hz : (0 : Int64) ≤ (Int32.ofInt n).toInt64 := by
    rw [Int64.le_iff_toInt_le, hi]
    simp
  rw [toSize, Int64.toNat_toUInt64_of_le hz, Int64.toNatClampNeg, hi, Int.toNat_natCast]

end Numbers

section Lines

variable {name rest file_line : Text}

lemma splitLine_single (h : ':' ∉ file_line) : splitLine file_line = some (file_line, 1) := by
  have hs : toSize (splitLoc file_line) = npos := by
    rw [splitLoc, if_neg h]
    decide
  rw [splitLine, if_neg (not_not.mpr hs)]

lemma splitLine_counted (h : ':' ∉ name) (hl : name.length < 2 ^ 31 - 1) :
    splitLine (name ++ ':' :: rest) = (atoi (cStr rest)).map fun count => (name, count) := by
  have hi : splitLoc (name ++ ':' :: rest) = Int32.ofInt name.length := by
    rw [splitLoc, if_pos (by simp), List.idxOf_append_of_notMem h, List.idxOf_cons_self, Nat.add_zero]
  have hs : toSize (Int32.ofInt name.length) = name.length := toSize_ofInt (by omega)
  have hn : toSize (Int32.ofInt name.length + 1) = name.length + 1 := by
    have ha : Int32.ofInt name.length + 1 = Int32.ofInt ((name.length + 1 : ℕ) : ℤ) := by
      rw [Nat.cast_succ, Int32.ofInt_add]
      rfl
    rw [ha, toSize_ofInt (by omega)]
  have hm : Int32.ofInt name.length ≠ Int32.maxValue := by
    intro he
    rw [he] at hs
    have hv : toSize Int32.maxValue = 2 ^ 31 - 1 := by decide
    omega
  have hp : name.length ≠ npos := by
    rw [npos]
    omega
  simp [splitLine, hi, hs, hn, hm, hp, substr, Option.map_eq_bind]

lemma intercalate_concat_nil {sep : Text} {lines : List Text} (hl : lines ≠ []) :
    sep.intercalate (lines ++ [[]]) = sep.intercalate lines ++ sep := by
  induction lines with
  | nil => exact absurd rfl hl
  | cons l lines ih =>
    rcases eq_or_ne lines [] with rfl | hn
    · simp [List.intercalate_cons_cons, List.intercalate_singleton]
    · rw [List.cons_append, List.intercalate_cons_of_ne_nil (by simp), ih hn,
        List.intercalate_cons_of_ne_nil hn, List.append_assoc, List.append_assoc, List.append_assoc]

lemma getlines_join {lines : List Text} {file : Text} (hn : ∀ l ∈ lines, '\n' ∉ l)
    (he : ∀ l ∈ lines, l ≠ [])
    (hf : file = ['\n'].intercalate lines ∨ lines ≠ [] ∧ file = ['\n'].intercalate lines ++ ['\n']) :
    getlines file = lines := by
  rcases hf with rfl | ⟨hl, rfl⟩
  · rcases eq_or_ne lines [] with rfl | hl
    · rfl
    · rw [getlines, List.splitOn_intercalate _ hn hl, if_neg]
      exact fun hg => he _ (List.mem_of_getLast? hg) rfl
  · have hs : ∀ l ∈ lines ++ [[]], '\n' ∉ l := by
      intro l hm
      rcases List.mem_append.mp hm with hm | hm
      · exact hn l hm
      · rw [List.mem_singleton.mp hm]
        exact List.not_mem_nil
    rw [getlines, ← intercalate_concat_nil hl, List.splitOn_intercalate _ hs (by simp),
      if_pos List.getLast?_concat, List.dropLast_concat]

variable {r : ServerRecord} {l : Text}

lemma ServerRecord.Line.ne_nil (h : r.Line l) : l ≠ [] := by
  cases h with
  | counted digits hd => simp
  | single hc => exact r.name_ne_nil

lemma ServerRecord.Line.newline_free (h : r.Line l) : '\n' ∉ l := by
  cases h with
  | counted digits hd =>
    have hn : '\n' ∉ digits := hd.not_mem rfl
    simp [r.newline_free, hn]
  | single hc => exact r.newline_free

lemma ServerRecord.Line.splitLine_eq (h : r.Line l) : splitLine l = some (r.name, (r.count : ℤ)) := by
  cases h with
  | counted digits hd =>
    have hl := r.length_lt
    rw [splitLine_counted r.colon_free (by omega), atoi_numeral hd r.count_lt, Option.map_some]
  | single hc => rw [splitLine_single r.colon_free, hc, Nat.cast_one]

lemma loadLine_split {list : List CharStruct} {count : ℤ} (h : splitLine file_line = some (name, count)) :
    loadLine list file_line = if count ≤ 0 then some list
      else (CharStruct.ofText? name).map fun server => list ++ List.replicate count.toNat server := by
  rw [loadLine, h]
  split_ifs with hc
  · simp [hc]
  · simp [hc, Option.map_eq_bind]

lemma ServerRecord.Line.loadLine_eq (h : r.Line l) (list : List CharStruct) :
    loadLine list l = some (list ++ List.replicate r.count r.server) := by
  have hs : CharStruct.ofText? r.name = some r.server :=
    CharStruct.ofText?_eq_some.mpr (cStr_eq r.nul_free).symm
  rw [loadLine_split h.splitLine_eq, hs, Int.toNat_natCast]
  split_ifs with hc
  · have hz : r.count = 0 := by omega
    rw [hz, List.replicate_zero, List.append_nil]
  · rfl

lemma foldlM_loadLine {records : List ServerRecord} {lines : List Text}
    (h : List.Forall₂ ServerRecord.Line records lines) (list : List CharStruct) :
    lines.foldlM loadLine list = some (list ++ expansion records) := by
  induction h generalizing list with
  | nil => simp [expansion]
  | cons hr hrs ih =>
    rw [List.foldlM_cons, hr.loadLine_eq, Option.bind_eq_bind, Option.bind_some, ih, List.append_assoc]
    rfl

lemma line_of_mem {records : List ServerRecord} {lines : List Text}
    (h : List.Forall₂ ServerRecord.Line records lines) (hm : l ∈ lines) :
    ∃ r : ServerRecord, r.Line l := by
  induction h with
  | nil => cases hm
  | cons hr hrs ih =>
    rcases List.mem_cons.mp hm with rfl | hm
    · exact ⟨_, hr⟩
    · exact ih hm

lemma serverList_written {records : List ServerRecord} {file : Text} (h : Written records file) :
    serverList file = some (expansion records) := by
  obtain ⟨lines, hl, hf⟩ := h
  have hg : getlines file = lines := by
    refine getlines_join (fun l hm => ?_) (fun l hm => ?_) hf
    · obtain ⟨r, hr⟩ := line_of_mem hl hm
      exact hr.newline_free
    · obtain ⟨r, hr⟩ := line_of_mem hl hm
      exact hr.ne_nil
  rw [serverList, hg, foldlM_loadLine hl, List.nil_append]

end Lines

section Texts

variable {file_line file : Text} {list list' : List CharStruct} {lines : List Text}

lemma loadLine_readable (h : Readable file_line) (list : List CharStruct) :
    ∃ list', loadLine list file_line = some list' ∧ list'.length = list.length + serversOf file_line := by
  obtain ⟨name, count, hs, hn⟩ := h
  rw [loadLine_split hs, serversOf, hs, Option.elim_some]
  split_ifs with hc
  · refine ⟨list, rfl, ?_⟩
    rw [Int.toNat_of_nonpos hc, Nat.add_zero]
  · obtain ⟨server, ho⟩ := Option.isSome_iff_exists.mp (CharStruct.isSome_ofText?.mpr (hn (not_le.mp hc)))
    rw [ho, Option.map_some]
    exact ⟨_, rfl, by rw [List.length_append, List.length_replicate]⟩

lemma readable_of_loadLine (h : loadLine list file_line = some list') : Readable file_line := by
  cases hs : splitLine file_line with
  | none =>
    rw [loadLine, hs] at h
    cases h
  | some p =>
    obtain ⟨name, count⟩ := p
    refine ⟨name, count, hs, fun hc => ?_⟩
    rw [loadLine_split hs, if_neg (not_le.mpr hc)] at h
    obtain ⟨server, ho, -⟩ := Option.map_eq_some_iff.mp h
    exact CharStruct.isSome_ofText?.mp (Option.isSome_of_eq_some ho)

lemma foldlM_readable (h : ∀ l ∈ lines, Readable l) (list : List CharStruct) :
    ∃ list', lines.foldlM loadLine list = some list' ∧
      list'.length = list.length + (lines.map serversOf).sum := by
  induction lines generalizing list with
  | nil => exact ⟨list, rfl, rfl⟩
  | cons l lines ih =>
    obtain ⟨list₁, hl, hn⟩ := loadLine_readable (h l List.mem_cons_self) list
    obtain ⟨list₂, hl', hn'⟩ := ih (fun l hm => h l (List.mem_cons_of_mem _ hm)) list₁
    refine ⟨list₂, ?_, ?_⟩
    · rw [List.foldlM_cons, hl]
      exact hl'
    · rw [hn', hn, List.map_cons, List.sum_cons, Nat.add_assoc]

lemma readable_of_foldlM (h : lines.foldlM loadLine list = some list') : ∀ l ∈ lines, Readable l := by
  induction lines generalizing list with
  | nil => exact fun l hm => absurd hm List.not_mem_nil
  | cons l lines ih =>
    obtain ⟨list₁, hl, hs⟩ := Option.bind_eq_some_iff.mp h
    exact List.forall_mem_cons.mpr ⟨readable_of_loadLine hl, ih hs⟩

lemma serverList_readable (h : ∀ file_line ∈ getlines file, Readable file_line) :
    ∃ list, serverList file = some list ∧ list.length = total file := by
  obtain ⟨list, hl, hn⟩ := foldlM_readable h []
  exact ⟨list, hl, hn.trans (Nat.zero_add _)⟩

lemma readable_of_serverList (h : serverList file = some list) :
    (∀ file_line ∈ getlines file, Readable file_line) ∧ list.length = total file := by
  have hr := readable_of_foldlM h
  obtain ⟨list', hl, hn⟩ := serverList_readable hr
  rw [h] at hl
  exact ⟨hr, Option.some.inj hl ▸ hn⟩

end Texts

section Loading

variable {files : Files} {conf : ConfigurationManager} {records : List ServerRecord} {file : Text}

lemma length_expansion : (expansion records).length = (records.map ServerRecord.count).sum := by
  simp [expansion, List.length_flatMap]

lemma text_expansion : (expansion records).map CharStruct.text =
    records.flatMap fun r => List.replicate r.count r.name := by
  simp [expansion, List.map_flatMap, ServerRecord.server]

lemma loadTimes_eq {list : List CharStruct} (hf : files conf.SERVER_LIST_PATH = some file)
    (hl : serverList file = some list) (times : ℕ) :
    loadTimes files (times + 1) conf = some (conf.setServers list) := by
  induction times generalizing conf with
  | zero =>
    rw [loadTimes, ConfigurationManager.loadServers_eq hf hl]
    rfl
  | succ times ih =>
    have hc : files (conf.setServers list).SERVER_LIST_PATH = some file := hf
    rw [loadTimes, ConfigurationManager.loadServers_eq hf hl, Option.bind_some, ih hc]
    rfl

theorem load_servers_expands (hw : Written records file) (hf : files conf.SERVER_LIST_PATH = some file)
    (ht : (records.map ServerRecord.count).sum < 2 ^ 31) :
    ∃ conf', (∀ times, loadTimes files (times + 1) conf = some conf') ∧
      conf'.SERVER_LIST.map CharStruct.text = records.flatMap (fun r => List.replicate r.count r.name) ∧
      conf'.NUM_SERVERS.toInt = conf'.SERVER_LIST.length := by
  refine ⟨_, loadTimes_eq hf (serverList_written hw), text_expansion, ?_⟩
  exact Int32.toInt_ofNat_of_lt (length_expansion ▸ ht)

def twoRecords : List ServerRecord :=
  [⟨['c'], 2, by decide, by decide, by decide, by decide, by decide, by decide⟩,
    ⟨['d'], 1, by decide, by decide, by decide, by decide, by decide, by decide⟩]

theorem load_servers_expands_two : ∃ conf',
    (∀ times, loadTimes (fun _ => some ['c', ':', '2', '\n', 'd', '\n']) (times + 1)
      (.initial .RPCLIB 0) = some conf') ∧
    conf'.SERVER_LIST.map CharStruct.text = [['c'], ['c'], ['d']] ∧
    conf'.NUM_SERVERS.toInt = conf'.SERVER_LIST.length := by
  have hd : decimal 2 = ['2'] := by decide
  have hl : List.Forall₂ ServerRecord.Line twoRecords [['c', ':', '2'], ['d']] :=
    .cons (.counted ['2'] (hd ▸ numeral_decimal 2)) (.cons (.single rfl) .nil)
  have hw : Written twoRecords ['c', ':', '2', '\n', 'd', '\n'] :=
    ⟨_, hl, .inr ⟨List.cons_ne_nil _ _, rfl⟩⟩
  exact load_servers_expands hw rfl (by decide)

end Loading

end Basket.Common
