import Utiputils.Ping.Options
import Utiputils.Ping.RecordRoute

/-! # Two walks over the options

`parse_record_route_option` and `extract_ipv4_option` walk over the same format. They differ at the byte that ends the
list: the one stops there, the other passes over it and reads what stands behind. -/

namespace Utiputils.Ping

open Utiputils.Lib Utiputils.Pnet

/-! ## What a list of items says of the route -/

/-- The addresses recorded in an option. -/
def recordedIn : Bytes → List Ipv4Addr
  | _ :: _ :: pointer :: slots => recordedIps pointer slots
  | _ => []

section

variable {form : UInt8 → OptionForm}

def routeIps (item : OptionItem form) : List Ipv4Addr := if item.type = 7 then recordedIn item.bytes else []

def scanOf (items : List (OptionItem form)) : RouteScan where
  foundRr := items.any fun item => item.type = 7
  rrIps := items.flatMap routeIps
  hasNop := items.any fun item => item.type = 1

theorem scanOf_reform {form' : UInt8 → OptionForm} (passes : OptionItem.Passes form form')
    (items : List (OptionItem form)) : scanOf (items.map (OptionItem.reform passes)) = scanOf items := by
  have ips : ∀ item, routeIps (OptionItem.reform passes item) = routeIps item := fun item => by
    rw [routeIps, OptionItem.type_reform, OptionItem.bytes_reform, routeIps]
  simp only [scanOf, List.any_map, List.flatMap_map, Function.comp_def, ips, OptionItem.type_reform]

/-- Where at most one item is a Record Route option, the addresses are those of the first one. -/
theorem rrIps_scanOf {items : List (OptionItem form)} (single : items.countP (fun item => item.type = 7) ≤ 1) :
    (scanOf items).rrIps = ((items.find? fun item => item.type = 7).map fun item => recordedIn item.bytes).getD [] := by
  show items.flatMap routeIps = _
  induction items with
  | nil => rfl
  | cons item items inductionHypothesis =>
    rw [List.flatMap_cons]
    by_cases isRoute : item.type = 7
    · rw [List.countP_cons_of_pos (by simpa using isRoute)] at single
      have others : ∀ other ∈ items, routeIps other = [] := fun other member => by
        have notRoute := List.countP_eq_zero.mp (show items.countP (fun item => item.type = 7) = 0 by omega) other member
        rw [routeIps, if_neg (by simpa using notRoute)]
      rw [List.find?_cons_of_pos (by simpa using isRoute), List.flatMap_eq_nil_iff.mpr others, routeIps, if_pos isRoute,
        List.append_nil]
      rfl
    · rw [List.countP_cons_of_neg (by simpa using isRoute)] at single
      rw [List.find?_cons_of_neg (by simpa using isRoute), ← inductionHypothesis single, routeIps, if_neg isRoute,
        List.nil_append]

end

/-- What an item adds to the scan. -/
theorem RouteScan.item_eq (scan : RouteScan) (item : OptionItem scanForm) :
    scan.item item =
      ⟨scan.foundRr || decide (item.type = 7), scan.rrIps ++ routeIps item, scan.hasNop || decide (item.type = 1)⟩ := by
  cases item with
  | single type isSingle =>
    have notRoute : (OptionItem.single type isSingle).type ≠ 7 := by
      rintro rfl
      cases isSingle
    rw [routeIps, if_neg notRoute, decide_eq_false notRoute, Bool.or_false, List.append_nil]
    rfl
  | long option =>
    have notNop : option.type ≠ 1 := fun isNop => by
      have isLong := option.isLong
      rw [isNop] at isLong
      cases isLong
    by_cases isRoute : option.type = 7
    · cases data : option.data with
      | nil => simp [RouteScan.item, RouteScan.option, routeIps, OptionItem.type, OptionItem.bytes, LongOption.bytes,
          recordedIn, isRoute, data]
      | cons pointer slots => simp [RouteScan.item, RouteScan.option, routeIps, OptionItem.type, OptionItem.bytes,
          LongOption.bytes, recordedIn, isRoute, data]
    · simp [RouteScan.item, routeIps, OptionItem.type, notNop, isRoute]

theorem foldl_item (items : List (OptionItem scanForm)) (scan : RouteScan) :
    items.foldl RouteScan.item scan =
      ⟨scan.foundRr || (scanOf items).foundRr, scan.rrIps ++ (scanOf items).rrIps,
        scan.hasNop || (scanOf items).hasNop⟩ := by
  induction items generalizing scan with
  | nil => simp [scanOf]
  | cons item items inductionHypothesis =>
    rw [List.foldl_cons, inductionHypothesis, scan.item_eq]
    simp only [scanOf, List.any_cons, List.flatMap_cons, Bool.or_assoc, List.append_assoc]

theorem scanOptions_encode (items : List (OptionItem scanForm)) {tail : Bytes}
    (unreadable : OptionItem.Unreadable scanForm tail) :
    scanOptionsFrom (OptionItem.encode items ++ tail) 0 {} = some (scanOf items) := by
  have scanned := scanOptionsFrom_encode items unreadable [] {}
  rw [foldl_item] at scanned
  simpa using scanned

/-! ## The end of the list -/

theorem ipv4Form_passes : OptionItem.Passes ipv4Form scanForm := by
  intro type goesOn
  by_cases isNop : type = 1
  · subst isNop
    rfl
  · have notEnd : type ≠ 0 := fun isEnd => goesOn (ipv4Form_eq_stop.mpr isEnd)
    rw [ipv4Form_eq_long.mpr ⟨notEnd, isNop⟩]
    exact scanForm_eq_long.mpr (not_or.mpr ⟨notEnd, isNop⟩)

/-- The walk that does not stop at the end of the list, over what stands before it and behind it. -/
theorem scanOptions_end (items : List (OptionItem ipv4Form)) (behind : List (OptionItem scanForm)) {tail : Bytes}
    (unreadable : OptionItem.Unreadable scanForm tail) :
    scanOptionsFrom (OptionItem.encode items ++ 0 :: (OptionItem.encode behind ++ tail)) 0 {} =
      some ⟨(scanOf items).foundRr || (scanOf behind).foundRr, (scanOf items).rrIps ++ (scanOf behind).rrIps,
        (scanOf items).hasNop || (scanOf behind).hasNop⟩ := by
  have scanned := scanOptions_encode (items.map (OptionItem.reform ipv4Form_passes) ++ endOfList :: behind) unreadable
  have ends : scanOf (items.map (OptionItem.reform ipv4Form_passes) ++ endOfList :: behind) =
      ⟨(scanOf (items.map (OptionItem.reform ipv4Form_passes))).foundRr || (scanOf behind).foundRr,
        (scanOf (items.map (OptionItem.reform ipv4Form_passes))).rrIps ++ (scanOf behind).rrIps,
        (scanOf (items.map (OptionItem.reform ipv4Form_passes))).hasNop || (scanOf behind).hasNop⟩ := by
    simp only [scanOf, List.any_append, List.flatMap_append, List.any_cons, List.flatMap_cons]
    rfl
  rw [ends, scanOf_reform, OptionItem.encode_append, OptionItem.encode_reform, OptionItem.encode_cons,
    List.append_assoc, List.append_assoc] at scanned
  exact scanned

/-- Behind the end of the list stands nothing new for the walk that does not stop there: no NOP without one before, and
no Record Route option without one before, and none that records an address. -/
def NothingBehindEnd (data : Bytes) : Prop :=
  ∀ (items : List (OptionItem ipv4Form)) (behind : List (OptionItem scanForm)) (tail : Bytes),
    data = OptionItem.encode items ++ 0 :: (OptionItem.encode behind ++ tail) → OptionItem.Unreadable scanForm tail →
      (∀ item ∈ behind, item.type = 1 → ∃ earlier ∈ items, earlier.type = 1) ∧
      ∀ item ∈ behind, item.type = 7 → (∃ earlier ∈ items, earlier.type = 7) ∧ recordedIn item.bytes = []

/-- The same for the scans. -/
theorem nothingBehind_iff (items : List (OptionItem ipv4Form)) (behind : List (OptionItem scanForm)) :
    ((∀ item ∈ behind, item.type = 1 → ∃ earlier ∈ items, earlier.type = 1) ∧
      ∀ item ∈ behind, item.type = 7 → (∃ earlier ∈ items, earlier.type = 7) ∧ recordedIn item.bytes = []) ↔
    (⟨(scanOf items).foundRr || (scanOf behind).foundRr, (scanOf items).rrIps ++ (scanOf behind).rrIps,
      (scanOf items).hasNop || (scanOf behind).hasNop⟩ : RouteScan) = scanOf items := by
  have found : ((scanOf items).foundRr || (scanOf behind).foundRr) = (scanOf items).foundRr ↔
      ∀ item ∈ behind, item.type = 7 → ∃ earlier ∈ items, earlier.type = 7 := by
    rw [Bool.or_eq_left_iff_imp]
    simp [scanOf]
  have nop : ((scanOf items).hasNop || (scanOf behind).hasNop) = (scanOf items).hasNop ↔
      ∀ item ∈ behind, item.type = 1 → ∃ earlier ∈ items, earlier.type = 1 := by
    rw [Bool.or_eq_left_iff_imp]
    simp [scanOf]
  have ips : (scanOf items).rrIps ++ (scanOf behind).rrIps = (scanOf items).rrIps ↔
      ∀ item ∈ behind, item.type = 7 → recordedIn item.bytes = [] := by
    rw [List.append_right_eq_self]
    simp [scanOf, routeIps]
  rw [RouteScan.mk.injEq, found, ips, nop]
  constructor
  · intro ⟨nops, routes⟩
    exact ⟨fun item member isRoute => (routes item member isRoute).1,
      fun item member isRoute => (routes item member isRoute).2, nops⟩
  · intro ⟨routes, empty, nops⟩
    exact ⟨nops, fun item member isRoute => ⟨routes item member isRoute, empty item member isRoute⟩⟩

/-! ## Agreement -/

/-- The list holds no second Record Route option. -/
def AtMostOneRoute (data : Bytes) : Prop :=
  ∀ (items : List (OptionItem ipv4Form)) (tail : Bytes), data = OptionItem.encode items ++ tail →
    OptionItem.Unreadable ipv4Form tail → items.countP (fun item => item.type = 7) ≤ 1

/-- The walks find the same; and they find what they would find if the bytes ended with the list. -/
structure WalkersAgree (data : Bytes) (scan : RouteScan) (result : Option Bytes) : Prop where
  found : scan.foundRr = true ↔ result.isSome = true
  listed : AtMostOneRoute data → scan.rrIps = (result.map recordedIn).getD []
  ends : ∀ (items : List (OptionItem ipv4Form)) (behind : Bytes), data = OptionItem.encode items ++ 0 :: behind →
    scanOptionsFrom (OptionItem.encode items ++ [0]) 0 {} = some scan ∧
      extractIpv4Option (OptionItem.encode items ++ [0]) 7 = some result

theorem scanOptions_stop (items : List (OptionItem ipv4Form)) :
    scanOptionsFrom (OptionItem.encode items ++ [0]) 0 {} = some (scanOf items) := by
  have scanned := scanOptions_end items [] .empty
  simpa [scanOf] using scanned

/-- Up to the end of the list both walks read the same items. -/
theorem scanOptions_of_nothingBehind {items : List (OptionItem ipv4Form)} {tail : Bytes}
    (unreadable : OptionItem.Unreadable ipv4Form tail)
    (nothing : NothingBehindEnd (OptionItem.encode items ++ tail)) :
    scanOptionsFrom (OptionItem.encode items ++ tail) 0 {} = some (scanOf items) := by
  obtain same | ⟨type, rest, rfl, stops⟩ := unreadable.reform ipv4Form_passes
  · have scanned := scanOptions_encode (items.map (OptionItem.reform ipv4Form_passes)) same
    rwa [OptionItem.encode_reform, scanOf_reform] at scanned
  · cases ipv4Form_eq_stop.mp stops
    obtain ⟨behind, tail, rfl, last⟩ := OptionItem.exists_items scanForm rest
    have nothing := nothing items behind tail rfl last
    rw [scanOptions_end items behind last, (nothingBehind_iff items behind).mp nothing]

/-- The two walks agree on a byte string exactly if nothing new stands behind the end of its option list. -/
theorem walkersAgree_iff (data : Bytes) :
    (∃ scan result, Finds data scan ∧ extractIpv4Option data 7 = some result ∧ WalkersAgree data scan result) ↔
      NothingBehindEnd data := by
  constructor
  · rintro ⟨scan, result, finds, -, agree⟩ items behind tail rfl unreadable
    obtain ⟨stopped, -⟩ := agree.ends items _ rfl
    rw [nothingBehind_iff, ← Option.some_inj, ← scanOptions_end items behind unreadable, finds.scanned, ← stopped,
      scanOptions_stop]
  · intro nothing
    obtain ⟨items, tail, rfl, unreadable⟩ := OptionItem.exists_items ipv4Form data
    have extracted := @extractIpv4Option_encode 7 rfl
    have scanned := scanOptions_of_nothingBehind unreadable nothing
    refine ⟨_, _, finds_of_scanned scanned, extracted items unreadable, ?_, ?_, ?_⟩
    · simp [scanOf, List.find?_isSome]
    · intro single
      rw [rrIps_scanOf (single items tail rfl unreadable), Option.map_map]
      rfl
    · intro others behind split
      -- the same bytes, cut where this list ends
      have stop : ∀ rest, OptionItem.Unreadable ipv4Form (0 :: rest) := fun rest => .stop 0 rest rfl
      have same := scanOptions_of_nothingBehind (stop behind) (split ▸ nothing)
      rw [← split, scanned] at same
      constructor
      · rw [scanOptions_stop, same]
      · rw [extracted others (stop []), ← extracted others (stop behind), ← split, extracted items unreadable]

/-- A Record Route option behind the end of the list: the one walk finds its address, the other finds nothing. -/
theorem walkers_differ_behindEnd :
    ¬ ∃ scan result, Finds [0, 7, 7, 8, 192, 0, 2, 1] scan ∧
      extractIpv4Option [0, 7, 7, 8, 192, 0, 2, 1] 7 = some result ∧
      WalkersAgree [0, 7, 7, 8, 192, 0, 2, 1] scan result := by
  rintro ⟨scan, result, finds, extracted, agree⟩
  have routed := scanOptions_end [] [.long ⟨7, [8, 192, 0, 2, 1], rfl, by decide⟩] .empty
  have nothing := @extractIpv4Option_encode 7 rfl [] [0, 7, 7, 8, 192, 0, 2, 1] (.stop 0 _ rfl)
  cases finds.scanned.symm.trans routed
  cases extracted.symm.trans nothing
  exact absurd (agree.found.mp rfl) (by decide)

end Utiputils.Ping
