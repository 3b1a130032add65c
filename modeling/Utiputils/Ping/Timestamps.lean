import Utiputils.Lib.Differences
import Utiputils.Ping.Options
import Utiputils.Ping.Types

/-! # The timestamps of a reply

`print_timestamp_info` shows what `extract_ipv4_option` has found: the first timestamp as it is, and of every later one
the difference from the one before. Four numbers that need not agree say how many there are: the pointer, the length
byte, the length of the slice, and the size of an entry. -/

namespace Utiputils.Ping

open Utiputils.Lib Utiputils.Pnet

/-! ## The request -/

/-- The option that `set_timestamp_option` asks the kernel to send. -/
def setTimestampOption (tsType : String) : Except String Bytes := do
  let flags : UInt8 ← match tsType with
    | "tsonly" => .ok 0
    | "tsandaddr" => .ok 1
    | "tsprespec" => .ok 3
    | _ => .error "Invalid timestamp type"
  return 68 :: 40 :: 5 :: flags :: List.replicate 36 0

/-! ## The source's functions -/

/-- An entry: `(Ipv4Addr, u32)`, or a `u32` alone. -/
structure Stamp where
  addr : Option Ipv4Addr
  ts : Nat
  deriving DecidableEq, Repr

structure TimestampLine where
  addr : Option Ipv4Addr
  value : Int
  absolute : Bool
  deriving DecidableEq, Repr

/-- `u32::from_be_bytes` at an offset; `none` where an index panics. -/
def readU32 (timestampData : Bytes) (off : Nat) : Option Nat := do
  return u32At [← timestampData[off]?, ← timestampData[off + 1]?, ← timestampData[off + 2]?,
    ← timestampData[off + 3]?] 0

def readTs (timestampData : Bytes) (i : Nat) : Option Stamp := do
  let off := i * 4
  return ⟨none, ← readU32 timestampData off⟩

def readPair (timestampData : Bytes) (i : Nat) : Option Stamp := do
  let off := i * 8
  let addr : Ipv4Addr := ⟨← timestampData[off]?, ← timestampData[off + 1]?, ← timestampData[off + 2]?,
    ← timestampData[off + 3]?⟩
  return ⟨some addr, ← readU32 timestampData (off + 4)⟩

/-- The loop over the later entries. -/
def printLater (read : Nat → Option Stamp) : (i count : Nat) → (prev : Int) → Option (List TimestampLine)
  | _, 0, _ => return []
  | i, count + 1, prev => do
    let stamp ← read i
    let curr : Int := stamp.ts
    return ⟨stamp.addr, curr - prev, false⟩ :: (← printLater read (i + 1) count curr)

/-- A branch of the source, for entries of one size. -/
def printStamps (read : Bytes → Nat → Option Stamp) (entrySize length pointer : Nat) (timestampData : Bytes) :
    Option (List TimestampLine) :=
  let maxTimestamps := timestampData.length / entrySize
  let pointerClamped := min pointer (length + 1)
  let filled := min ((pointerClamped - 5) / entrySize) maxTimestamps
  if filled = 0 then return []
  else do
    let first ← read timestampData 0
    return ⟨first.addr, first.ts, true⟩ :: (← printLater (read timestampData) 1 (filled - 1) first.ts)

/-- The lines; `none` where an index or a slice panics. -/
def printTimestampInfo (optionData : Bytes) : Option (List TimestampLine) :=
  if optionData.length < 4 then return []
  else do
    let length := (← optionData[1]?).toNat
    let pointer := (← optionData[2]?).toNat
    let flags ← optionData[3]?
    let flag := flags &&& 0x0F
    let effectiveLen := min length optionData.length
    if effectiveLen < 4 then return []
    else
      let timestampData ← slice optionData 4 effectiveLen
      if flag = 0 then printStamps readTs 4 length pointer timestampData
      else if flag = 1 then printStamps readPair 8 length pointer timestampData
      else return []

/-! ## What is printed -/

def laterLines (prev : Int) : List Stamp → List TimestampLine
  | [] => []
  | stamp :: stamps => ⟨stamp.addr, stamp.ts - prev, false⟩ :: laterLines stamp.ts stamps

def linesOf : List Stamp → List TimestampLine
  | [] => []
  | first :: later => ⟨first.addr, first.ts, true⟩ :: laterLines first.ts later

theorem laterLines_values (prev : Int) (stamps : List Stamp) :
    (laterLines prev stamps).map TimestampLine.value = differencesFrom prev (stamps.map fun stamp => (stamp.ts : Int)) := by
  induction stamps generalizing prev with
  | nil => rfl
  | cons stamp stamps inductionHypothesis =>
    simp only [laterLines, List.map_cons, differencesFrom, inductionHypothesis]

theorem laterLines_addrs (prev : Int) (stamps : List Stamp) :
    (laterLines prev stamps).map TimestampLine.addr = stamps.map Stamp.addr := by
  induction stamps generalizing prev with
  | nil => rfl
  | cons stamp stamps inductionHypothesis => simp only [laterLines, List.map_cons, inductionHypothesis]

theorem laterLines_relative (prev : Int) (stamps : List Stamp) :
    ∀ line ∈ laterLines prev stamps, line.absolute = false := by
  induction stamps generalizing prev with
  | nil => exact List.forall_mem_nil _
  | cons stamp stamps inductionHypothesis => exact List.forall_mem_cons.mpr ⟨rfl, inductionHypothesis stamp.ts⟩

theorem linesOf_values (stamps : List Stamp) :
    (linesOf stamps).map TimestampLine.value = differences (stamps.map fun stamp => (stamp.ts : Int)) := by
  cases stamps with
  | nil => rfl
  | cons first later => simp only [linesOf, List.map_cons, differences, laterLines_values]

theorem linesOf_addrs (stamps : List Stamp) : (linesOf stamps).map TimestampLine.addr = stamps.map Stamp.addr := by
  cases stamps with
  | nil => rfl
  | cons first later => simp only [linesOf, List.map_cons, laterLines_addrs]

/-- Only the first line is absolute. -/
theorem linesOf_absolute (stamps : List Stamp) (i : Nat) (line : TimestampLine)
    (shown : (linesOf stamps)[i]? = some line) : line.absolute = true ↔ i = 0 := by
  cases stamps with
  | nil => simp [linesOf] at shown
  | cons first later =>
    cases i with
    | zero =>
      simp only [linesOf, List.getElem?_cons_zero, Option.some.injEq] at shown
      simp [← shown]
    | succ i =>
      simp only [linesOf, List.getElem?_cons_succ] at shown
      simp [laterLines_relative _ _ line (List.mem_of_getElem? shown)]

/-! ## The loop -/

section

variable {read : Nat → Option Stamp}

theorem printLater_eq {stamps : List Stamp} {i : Nat}
    (reads : ∀ j stamp, stamps[j]? = some stamp → read (i + j) = some stamp) (prev : Int) :
    printLater read i stamps.length prev = some (laterLines prev stamps) := by
  induction stamps generalizing i prev with
  | nil => rfl
  | cons stamp stamps inductionHypothesis =>
    have first : read i = some stamp := reads 0 stamp rfl
    have later := @inductionHypothesis (i + 1)
      (fun j other found => by rw [Nat.add_right_comm, Nat.add_assoc]; exact reads (j + 1) other found) stamp.ts
    simp only [List.length_cons, printLater, first, later, Option.bind_eq_bind, Option.bind_some, Option.pure_def,
      laterLines]

theorem printLater_isSome {i count : Nat} (reads : ∀ j, j < i + count → (read j).isSome) (prev : Int) :
    (printLater read i count prev).isSome := by
  induction count generalizing i prev with
  | zero => rfl
  | succ count inductionHypothesis =>
    obtain ⟨stamp, first⟩ := Option.isSome_iff_exists.mp (reads i (by omega))
    obtain ⟨lines, later⟩ := Option.isSome_iff_exists.mp
      (@inductionHypothesis (i + 1) (fun j below => reads j (by omega)) stamp.ts)
    simp only [printLater, first, later, Option.bind_eq_bind, Option.bind_some, Option.pure_def, Option.isSome_some]

end

/-! ## The entries -/

theorem readU32_isSome {timestampData : Bytes} {off : Nat} (inside : off + 4 ≤ timestampData.length) :
    (readU32 timestampData off).isSome := by
  simp only [readU32, List.getElem?_eq_getElem (show off < timestampData.length by omega),
    List.getElem?_eq_getElem (show off + 1 < timestampData.length by omega),
    List.getElem?_eq_getElem (show off + 2 < timestampData.length by omega),
    List.getElem?_eq_getElem (show off + 3 < timestampData.length by omega)]
  rfl

theorem readTs_isSome {timestampData : Bytes} {i : Nat} (inside : (i + 1) * 4 ≤ timestampData.length) :
    (readTs timestampData i).isSome := by
  obtain ⟨ts, read⟩ := Option.isSome_iff_exists.mp (readU32_isSome (show i * 4 + 4 ≤ timestampData.length by omega))
  simp only [readTs, read]
  rfl

theorem readPair_isSome {timestampData : Bytes} {i : Nat} (inside : (i + 1) * 8 ≤ timestampData.length) :
    (readPair timestampData i).isSome := by
  obtain ⟨ts, read⟩ := Option.isSome_iff_exists.mp
    (readU32_isSome (show i * 8 + 4 + 4 ≤ timestampData.length by omega))
  simp only [readPair, read, List.getElem?_eq_getElem (show i * 8 < timestampData.length by omega),
    List.getElem?_eq_getElem (show i * 8 + 1 < timestampData.length by omega),
    List.getElem?_eq_getElem (show i * 8 + 2 < timestampData.length by omega),
    List.getElem?_eq_getElem (show i * 8 + 3 < timestampData.length by omega)]
  rfl

theorem readU32_append (front : Bytes) (ts : UInt32) (rest : Bytes) :
    readU32 (front ++ (beBytes32 ts ++ rest)) front.length = some ts.toNat := by
  have whole := u32At_beBytes32 ts []
  have at0 : (front ++ (beBytes32 ts ++ rest))[front.length]? = (beBytes32 ts ++ rest)[0]? :=
    getElem?_append_length_add front _ 0
  simp only [readU32, at0, getElem?_append_length_add]
  exact congrArg some whole

theorem readTs_append (front : Bytes) (ts : UInt32) (rest : Bytes) (i : Nat) (isAt : front.length = i * 4) :
    readTs (front ++ (beBytes32 ts ++ rest)) i = some ⟨none, ts.toNat⟩ := by
  rw [readTs, ← isAt, readU32_append]
  rfl

theorem readPair_append (front : Bytes) (addr : Ipv4Addr) (ts : UInt32) (rest : Bytes) (i : Nat)
    (isAt : front.length = i * 8) :
    readPair (front ++ ((addr.octets ++ beBytes32 ts) ++ rest)) i = some ⟨some addr, ts.toNat⟩ := by
  have behind := readU32_append (front ++ addr.octets) ts rest
  rw [List.length_append, List.append_assoc, ← List.append_assoc addr.octets] at behind
  have at0 : (front ++ ((addr.octets ++ beBytes32 ts) ++ rest))[front.length]? = some addr.a :=
    getElem?_append_length front addr.a _
  simp only [readPair, ← isAt, at0, getElem?_append_length_add,
    show front.length + 4 = front.length + addr.octets.length from rfl,
    behind]
  rfl

section

variable {read : Bytes → Nat → Option Stamp} {entrySize : Nat}

theorem printStamps_isSome {timestampData : Bytes}
    (reads : ∀ i, (i + 1) * entrySize ≤ timestampData.length → (read timestampData i).isSome) (length pointer : Nat) :
    (printStamps read entrySize length pointer timestampData).isSome := by
  simp only [printStamps]
  generalize isFilled : min ((min pointer (length + 1) - 5) / entrySize) (timestampData.length / entrySize) = filled
  have small : filled ≤ timestampData.length / entrySize := isFilled ▸ Nat.min_le_right _ _
  have inside : ∀ i, i < filled → (read timestampData i).isSome := fun i below =>
    reads i ((Nat.mul_le_mul_right _ (by omega)).trans (Nat.div_mul_le_self timestampData.length entrySize))
  cases filled with
  | zero => rfl
  | succ later =>
    obtain ⟨first, isFirst⟩ := Option.isSome_iff_exists.mp (inside 0 (by omega))
    obtain ⟨lines, rest⟩ := Option.isSome_iff_exists.mp
      (@printLater_isSome (read timestampData) 1 later (fun j below => inside j (by omega)) first.ts)
    simp only [Nat.add_one_ne_zero, if_false, isFirst, Nat.add_sub_cancel, rest, Option.bind_eq_bind, Option.bind_some,
      Option.pure_def, Option.isSome_some]

theorem printStamps_eq {timestampData : Bytes} {stamps : List Stamp}
    (reads : ∀ i stamp, stamps[i]? = some stamp → read timestampData i = some stamp) {length pointer : Nat}
    (filled : min ((min pointer (length + 1) - 5) / entrySize) (timestampData.length / entrySize) = stamps.length) :
    printStamps read entrySize length pointer timestampData = some (linesOf stamps) := by
  simp only [printStamps, filled]
  cases stamps with
  | nil => rfl
  | cons first later =>
    have isFirst : read timestampData 0 = some first := reads 0 first rfl
    have rest := @printLater_eq (read timestampData) later 1
      (fun j stamp found => by rw [Nat.add_comm]; exact reads (j + 1) stamp found) first.ts
    simp only [List.length_cons, Nat.add_one_ne_zero, if_false, isFirst, Nat.add_sub_cancel, rest, Option.bind_eq_bind,
      Option.bind_some, Option.pure_def, linesOf]

end

/-! ## A timestamp option -/

/-- What the hosts on the way have written, in one of the two layouts. -/
inductive Stamps where
  | tsonly (timestamps : List UInt32)
  | tsandaddr (pairs : List (Ipv4Addr × UInt32))

namespace Stamps

def flag : Stamps → UInt8
  | tsonly _ => 0
  | tsandaddr _ => 1

/-- What `-T` calls the layout. -/
def tsType : Stamps → String
  | tsonly _ => "tsonly"
  | tsandaddr _ => "tsandaddr"

def entrySize : Stamps → Nat
  | tsonly _ => 4
  | tsandaddr _ => 8

def entries : Stamps → List Stamp
  | tsonly timestamps => timestamps.map fun ts => ⟨none, ts.toNat⟩
  | tsandaddr pairs => pairs.map fun pair => ⟨some pair.1, pair.2.toNat⟩

def bytes : Stamps → Bytes
  | tsonly timestamps => timestamps.flatMap beBytes32
  | tsandaddr pairs => pairs.flatMap fun pair => pair.1.octets ++ beBytes32 pair.2

def reader : Stamps → Bytes → Nat → Option Stamp
  | tsonly _ => readTs
  | tsandaddr _ => readPair

variable (stamps : Stamps)

theorem length_bytes : stamps.bytes.length = stamps.entries.length * stamps.entrySize := by
  cases stamps with
  | tsonly timestamps =>
    rw [entries, List.length_map]
    exact length_flatMap_uniform length_beBytes32 timestamps
  | tsandaddr pairs =>
    rw [entries, List.length_map]
    have uniform : ∀ pair : Ipv4Addr × UInt32, (pair.1.octets ++ beBytes32 pair.2).length = 8 := fun _ => rfl
    exact length_flatMap_uniform uniform pairs

theorem entrySize_pos : 0 < stamps.entrySize := by
  cases stamps <;> exact Nat.succ_pos _

theorem reads (free : Bytes) (i : Nat) (stamp : Stamp) (found : stamps.entries[i]? = some stamp) :
    stamps.reader (stamps.bytes ++ free) i = some stamp := by
  cases stamps with
  | tsonly timestamps =>
    rw [entries, List.getElem?_map, Option.map_eq_some_iff] at found
    obtain ⟨ts, found, rfl⟩ := found
    obtain ⟨front, back, split, isAt⟩ := flatMap_split length_beBytes32 found
    rw [bytes, split, List.append_assoc, List.append_assoc]
    exact readTs_append front ts (back ++ free) i isAt
  | tsandaddr pairs =>
    rw [entries, List.getElem?_map, Option.map_eq_some_iff] at found
    obtain ⟨⟨addr, ts⟩, found, rfl⟩ := found
    have uniform : ∀ pair : Ipv4Addr × UInt32, (pair.1.octets ++ beBytes32 pair.2).length = 8 := fun _ => rfl
    obtain ⟨front, back, split, isAt⟩ := flatMap_split uniform found
    rw [bytes, split, List.append_assoc, List.append_assoc]
    exact readPair_append front addr ts (back ++ free) i isAt

end Stamps

/-- A timestamp option: its entries, the bytes that are free for more, and how many hosts had no room. -/
structure TimestampOption where
  stamps : Stamps
  free : Bytes
  overflow : Fin 16
  fits : 4 + (stamps.entries.length * stamps.entrySize + free.length) < 256

namespace TimestampOption

variable (self : TimestampOption)

def count : Nat := self.stamps.entries.length

def flags : UInt8 := UInt8.ofNat (16 * self.overflow.val) ||| self.stamps.flag

def length : UInt8 := UInt8.ofNat (4 + (self.count * self.stamps.entrySize + self.free.length))

def pointer : UInt8 := UInt8.ofNat (5 + self.count * self.stamps.entrySize)

def bytes : Bytes := 68 :: self.length :: self.pointer :: self.flags :: (self.stamps.bytes ++ self.free)

theorem toNat_length : self.length.toNat = 4 + (self.count * self.stamps.entrySize + self.free.length) :=
  UInt8.toNat_ofNat_of_lt self.fits

/-- The pointer fits its byte: past the last entry there is at most the end of the option. -/
theorem toNat_pointer : self.pointer.toNat = 5 + self.count * self.stamps.entrySize := by
  have fits := self.fits
  have isCount : self.stamps.entries.length = self.count := rfl
  refine UInt8.toNat_ofNat_of_lt (show _ < 256 from ?_)
  cases isStamps : self.stamps with
  | tsonly timestamps =>
    simp only [isStamps, Stamps.entrySize] at fits isCount ⊢
    omega
  | tsandaddr pairs =>
    simp only [isStamps, Stamps.entrySize] at fits isCount ⊢
    omega

theorem flag_flags : self.flags &&& 0x0F = self.stamps.flag := by
  have nibble : ∀ (overflow : Fin 16), (UInt8.ofNat (16 * overflow.val) ||| 0) &&& 0x0F = 0 ∧
      (UInt8.ofNat (16 * overflow.val) ||| 1) &&& 0x0F = 1 := by decide
  unfold flags
  cases self.stamps with
  | tsonly timestamps => exact (nibble self.overflow).1
  | tsandaddr pairs => exact (nibble self.overflow).2

def option : LongOption ipv4Form where
  type := 68
  data := self.pointer :: self.flags :: (self.stamps.bytes ++ self.free)
  isLong := rfl
  short := by
    have fits := self.fits
    simp only [List.length_cons, List.length_append, self.stamps.length_bytes]
    omega

theorem bytes_option : (OptionItem.long self.option).bytes = self.bytes := by
  have size : self.option.size = 4 + (self.count * self.stamps.entrySize + self.free.length) := by
    simp only [LongOption.size, option, List.length_cons, List.length_append, self.stamps.length_bytes, count]
    omega
  rw [OptionItem.bytes, LongOption.bytes, size]
  rfl

/-- The function shows the entries of the option. -/
theorem printed : printTimestampInfo self.bytes = some (linesOf self.stamps.entries) := by
  have size : self.bytes.length = self.length.toNat := by
    simp only [bytes, List.length_cons, List.length_append, self.stamps.length_bytes, self.toNat_length, count]
    omega
  have long := self.toNat_length
  have data : slice self.bytes 4 self.length.toNat = some (self.stamps.bytes ++ self.free) := by
    rw [slice, if_pos ⟨by omega, by omega⟩, ← size]
    simp [bytes]
  have byte1 : self.bytes[1]? = some self.length := rfl
  have byte2 : self.bytes[2]? = some self.pointer := rfl
  have byte3 : self.bytes[3]? = some self.flags := rfl
  -- the pointer and the length leave room for exactly the entries that are filled
  have filled : min ((min self.pointer.toNat (self.length.toNat + 1) - 5) / self.stamps.entrySize)
      ((self.stamps.bytes ++ self.free).length / self.stamps.entrySize) = self.stamps.entries.length := by
    have positive := self.stamps.entrySize_pos
    have isCount : self.stamps.entries.length = self.count := rfl
    rw [self.toNat_pointer, self.toNat_length, List.length_append, self.stamps.length_bytes, isCount,
      show min (5 + self.count * self.stamps.entrySize)
        (4 + (self.count * self.stamps.entrySize + self.free.length) + 1) - 5 = self.count * self.stamps.entrySize by omega,
      Nat.mul_div_cancel _ positive, Nat.mul_comm, Nat.mul_add_div positive]
    exact Nat.min_eq_left (Nat.le_add_right _ _)
  have shown := printStamps_eq (self.stamps.reads self.free) filled
  simp only [printTimestampInfo, byte1, byte2, byte3, Option.bind_eq_bind, Option.bind_some, self.flag_flags, size,
    Nat.min_self, data]
  rw [if_neg (by omega), if_neg (by omega)]
  cases isStamps : self.stamps with
  | tsonly timestamps =>
    rw [isStamps] at shown
    exact shown
  | tsandaddr pairs =>
    rw [isStamps] at shown
    exact shown

end TimestampOption

/-- The tool asks for an option of forty bytes without entries. -/
theorem setTimestampOption_tsType (stamps : Stamps) (noEntries : stamps.entries = []) :
    ∃ option : TimestampOption, option.stamps = stamps ∧ setTimestampOption stamps.tsType = .ok option.bytes := by
  have empty : stamps = .tsonly [] ∨ stamps = .tsandaddr [] := by
    cases stamps with
    | tsonly timestamps => exact .inl (congrArg Stamps.tsonly (List.map_eq_nil_iff.mp noEntries))
    | tsandaddr pairs => exact .inr (congrArg Stamps.tsandaddr (List.map_eq_nil_iff.mp noEntries))
  cases empty with
  | inl empty => exact ⟨⟨stamps, List.replicate 36 0, 0, by rw [empty]; decide⟩, rfl, by subst empty; rfl⟩
  | inr empty => exact ⟨⟨stamps, List.replicate 36 0, 0, by rw [empty]; decide⟩, rfl, by subst empty; rfl⟩

theorem printTimestampInfo_isSome (optionData : Bytes) : (printTimestampInfo optionData).isSome := by
  rw [printTimestampInfo]
  split
  next => rfl
  next long =>
    simp only [List.getElem?_eq_getElem (show 1 < optionData.length by omega),
      List.getElem?_eq_getElem (show 2 < optionData.length by omega),
      List.getElem?_eq_getElem (show 3 < optionData.length by omega), Option.bind_eq_bind, Option.bind_some]
    split
    next => rfl
    next some =>
      rw [slice, if_pos ⟨by omega, Nat.min_le_right _ _⟩, Option.bind_some]
      split
      · exact printStamps_isSome (fun _ inside => readTs_isSome inside) _ _
      · split
        · exact printStamps_isSome (fun _ inside => readPair_isSome inside) _ _
        · rfl

/-- What a reply with a timestamp option shows: an absolute line, and a difference for every later entry, from which
prefix sums give back all that the hosts have written. -/
theorem printTimestampInfo_recovers :
    (∀ optionData, (printTimestampInfo optionData).isSome) ∧
    ∀ (before after : List (OptionItem ipv4Form)) (tail : Bytes) (option : TimestampOption),
      (∀ item ∈ before ++ after, item.type ≠ 68) → OptionItem.Unreadable ipv4Form tail →
        extractIpv4Option (OptionItem.encode before ++ option.bytes ++ OptionItem.encode after ++ tail) 68 =
          some (some option.bytes) ∧
        ∃ lines, printTimestampInfo option.bytes = some lines ∧ lines.length = option.count ∧
          (∀ (i : Nat) line, lines[i]? = some line → (line.absolute = true ↔ i = 0)) ∧
          lines.map TimestampLine.value = differences (option.stamps.entries.map fun stamp => (stamp.ts : Int)) ∧
          prefixSums (lines.map TimestampLine.value) = option.stamps.entries.map (fun stamp => (stamp.ts : Int)) ∧
          lines.map TimestampLine.addr = option.stamps.entries.map Stamp.addr := by
  refine ⟨printTimestampInfo_isSome, fun before after tail option others unreadable => ⟨?_, ?_⟩⟩
  · have extracted := @extractIpv4Option_encode 68 rfl (before ++ .long option.option :: after) tail unreadable
    have first : (before ++ .long option.option :: after).find? (fun item => item.type = 68) =
        some (.long option.option) := by
      rw [List.find?_append, List.find?_eq_none.mpr fun item member => by
        simpa using others item (List.mem_append_left after member), Option.none_or]
      exact List.find?_cons_of_pos rfl
    rw [OptionItem.encode_append, OptionItem.encode_cons, option.bytes_option, first, Option.map_some,
      option.bytes_option, ← List.append_assoc] at extracted
    exact extracted
  · have sums := linesOf_values option.stamps.entries
    refine ⟨linesOf option.stamps.entries, option.printed, ?_, linesOf_absolute _, sums, ?_, linesOf_addrs _⟩
    · have length := congrArg List.length sums
      rwa [List.length_map, length_differences, List.length_map] at length
    · rw [sums, prefixSums_differences]

/-- Two of three timestamps, and three hosts that had no room. -/
def twoOfThree : TimestampOption where
  stamps := .tsonly [5000, 4800]
  free := [0, 0, 0, 0]
  overflow := 3
  fits := by decide

/-- Behind a NOP and before the end of the list; the second clock is behind the first. -/
theorem printTimestampInfo_recovers_twoOfThree :
    extractIpv4Option ([1] ++ twoOfThree.bytes ++ [] ++ [0, 68]) 68 = some (some twoOfThree.bytes) ∧
      ∃ lines, printTimestampInfo twoOfThree.bytes = some lines ∧ lines.map TimestampLine.value = [5000, -200] ∧
        prefixSums (lines.map TimestampLine.value) = [5000, 4800] := by
  obtain ⟨extracted, lines, shown, -, -, values, sums, -⟩ := printTimestampInfo_recovers.2 [.single 1 rfl] [] [0, 68]
    twoOfThree (by decide) (.stop 0 [68] rfl)
  exact ⟨extracted, lines, shown, values, sums⟩

end Utiputils.Ping
