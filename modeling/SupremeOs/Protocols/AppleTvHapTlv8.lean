import SupremeOs.Support.Framing
import SupremeOs.Support.OrderedMap

/-!
# Tagged values of pairing messages

Pairing messages list values under tags of one byte.  A value is written in
fragments of at most 255 bytes, each with its tag and its length, and a reader
puts the fragments of a tag together again.
-/

namespace SupremeOs.Protocols.AppleTvHapTlv8

open Support Support.Framing List

inductive Tlv8Error where
  | tagOutOfRange (tag : Int)
  | truncatedHeader
  | truncatedValue
  | outOfFuel

def Tlv8Error.message : Tlv8Error → String
  | .tagOutOfRange tag => "hap-tlv8: tag out of range: " ++ toString tag
  | .truncatedHeader => "hap-tlv8: truncated entry header"
  | .truncatedValue => "hap-tlv8: truncated entry value"
  | .outOfFuel => ""

abbrev Entry := UInt8 × List UInt8

def maxChunk : Nat := 255

/-- The slices of a value at the offsets that are multiples of `maxChunk`. -/
def slices (value : List UInt8) : List (List UInt8) :=
  (List.range ((value.length + (maxChunk - 1)) / maxChunk)).map fun index =>
    (value.drop (index * maxChunk)).take maxChunk

def writeEntry (entry : Entry) : List UInt8 :=
  entry.1 :: UInt8.ofNat entry.2.length :: entry.2

/-- The entries in which a value is written. -/
def fragments (entry : Entry) : List Entry :=
  if entry.2.isEmpty then [entry] else (slices entry.2).map (Prod.mk entry.1)

/-- Entries with numbers for tags. -/
def encodeTlv8 (entries : List (Int × List UInt8)) : Except Tlv8Error (List UInt8) :=
  match entries with
  | [] => .ok []
  | (tag, value) :: rest =>
    if tag < 0 ∨ 255 < tag then .error (.tagOutOfRange tag)
    else (encodeTlv8 rest).map ((fragments (UInt8.ofNat tag.toNat, value)).flatMap writeEntry ++ ·)

def readEntry : Reader UInt8 Entry Tlv8Error
  | tag :: length :: rest =>
    if rest.length < length.toNat then .error .truncatedValue
    else .ok ((tag, rest.take length.toNat), rest.drop length.toNat)
  | _ => .error .truncatedHeader

/-- Append a value to those of its tag. -/
def add (result : OrderedMap UInt8 (List UInt8)) (entry : Entry) :
    OrderedMap UInt8 (List UInt8) :=
  match result.get entry.1 with
  | some existing => result.set entry.1 (existing ++ entry.2)
  | none => result.set entry.1 entry.2

def decodeTlv8 (data : List UInt8) : Except Tlv8Error (OrderedMap UInt8 (List UInt8)) :=
  (readAll readEntry .outOfFuel data.length data).map fun entries => entries.foldl add .empty

variable {entry : Entry} {entries : List Entry} {data rest value : List UInt8} {tag : UInt8}

/-- An entry whose length fits into a byte. -/
def Complete (entry : Entry) : Prop := entry.2.length ≤ 255

theorem readEntry_eq_ok_iff : readEntry data = .ok (entry, rest) ↔
    Complete entry ∧ data = writeEntry entry ++ rest := by
  constructor
  · intro ok
    rcases data with _ | ⟨tag, _ | ⟨length, others⟩⟩
    · cases ok
    · cases ok
    · rw [readEntry] at ok
      split at ok
      · cases ok
      · rename_i enough
        cases Except.ok.inj ok
        have taken : (others.take length.toNat).length = length.toNat :=
          length_take_of_le (Nat.le_of_not_lt enough)
        have byte := length.toNat_lt
        refine ⟨by rw [Complete, taken]; omega, ?_⟩
        rw [writeEntry, taken, UInt8.ofNat_toNat, cons_append, cons_append, take_append_drop]
  · rintro ⟨complete, rfl⟩
    have length : (UInt8.ofNat entry.2.length).toNat = entry.2.length :=
      UInt8.toNat_ofNat_of_lt' (Nat.lt_succ_of_le complete)
    rw [writeEntry, cons_append, cons_append, readEntry, length, length_append,
      if_neg (by omega), take_left, drop_left]

theorem readEntry_stable : Stable readEntry := by
  intro data entry rest ok more
  rw [readEntry_eq_ok_iff] at ok ⊢
  exact ⟨ok.1, by rw [ok.2, append_assoc]⟩

theorem readEntry_advances : Advances readEntry := by
  intro data entry rest ok
  obtain ⟨-, rfl⟩ := readEntry_eq_ok_iff.mp ok
  simp only [writeEntry, cons_append, length_cons, length_append]
  omega

theorem flatten_slices_of_le {count : Nat} (enough : value.length ≤ count * maxChunk) :
    ((List.range count).map fun index =>
      (value.drop (index * maxChunk)).take maxChunk).flatten = value := by
  induction count generalizing value with
  | zero =>
    obtain rfl := length_eq_zero_iff.mp (Nat.le_zero.mp (by simpa using enough))
    rfl
  | succ count ih =>
    have shorter : (value.drop maxChunk).length ≤ count * maxChunk := by
      rw [length_drop]
      rw [Nat.succ_mul] at enough
      omega
    have later := ih shorter
    simp only [drop_drop] at later
    rw [range_succ_eq_map, map_cons, map_map, flatten_cons, Nat.zero_mul, drop_zero]
    conv_rhs => rw [← take_append_drop maxChunk value, ← later]
    congr 3
    funext index
    rw [Function.comp_apply, Nat.succ_mul, Nat.add_comm]

theorem flatten_slices (value : List UInt8) : (slices value).flatten = value := by
  apply flatten_slices_of_le
  simp only [maxChunk]
  omega

theorem flatMap_fragments (entry : Entry) : (fragments entry).flatMap Prod.snd = entry.2 := by
  rw [fragments]
  split
  · rw [flatMap_singleton]
  · rw [flatMap_map]
    have whole := flatten_slices entry.2
    rw [← flatMap_id] at whole
    exact whole

theorem fst_of_mem_fragments {fragment : Entry} (member : fragment ∈ fragments entry) :
    fragment.1 = entry.1 := by
  rw [fragments] at member
  split at member
  · rw [mem_singleton.mp member]
  · obtain ⟨slice, -, rfl⟩ := mem_map.mp member
    rfl

theorem complete_of_mem_fragments {fragment : Entry} (member : fragment ∈ fragments entry) :
    Complete fragment := by
  rw [fragments] at member
  split at member
  · rename_i empty
    obtain rfl := mem_singleton.mp member
    rw [Complete, List.isEmpty_iff.mp empty]
    exact Nat.zero_le _
  · obtain ⟨slice, inside, rfl⟩ := mem_map.mp member
    obtain ⟨index, -, rfl⟩ := mem_map.mp inside
    exact length_take_le _ _

theorem fragments_ne_nil (entry : Entry) : fragments entry ≠ [] := by
  rw [fragments]
  split
  · exact cons_ne_nil _ _
  · rename_i nonempty
    have positive := length_pos_iff.mpr fun empty => nonempty (List.isEmpty_iff.mpr empty)
    simp only [slices, ne_eq, map_eq_nil_iff, range_eq_nil, maxChunk]
    omega

theorem encodeTlv8_eq (entries : List Entry) :
    encodeTlv8 (entries.map fun entry => ((entry.1.toNat : Int), entry.2)) =
      .ok ((entries.flatMap fragments).flatMap writeEntry) := by
  induction entries with
  | nil => rfl
  | cons entry others ih =>
    have byte := entry.1.toNat_lt
    have tag : UInt8.ofNat (entry.1.toNat : Int).toNat = entry.1 := by
      rw [Int.toNat_natCast, UInt8.ofNat_toNat]
    rw [map_cons, encodeTlv8, if_neg (by omega), ih, tag, flatMap_cons, flatMap_append]
    rfl

/-- The values that are listed under a tag, one after the other. -/
def valueOf (entries : List Entry) (tag : UInt8) : List UInt8 :=
  (entries.filter fun entry => entry.1 = tag).flatMap Prod.snd

theorem valueOf_cons (entry : Entry) (entries : List Entry) (tag : UInt8) :
    valueOf (entry :: entries) tag =
      (if tag = entry.1 then entry.2 else []) ++ valueOf entries tag := by
  by_cases own : tag = entry.1
  · simp [valueOf, own]
  · have other : ¬entry.1 = tag := fun same => own same.symm
    simp [valueOf, own, other]

theorem valueOf_of_not_mem (absent : tag ∉ entries.map Prod.fst) : valueOf entries tag = [] := by
  induction entries with
  | nil => rfl
  | cons entry others ih =>
    rw [map_cons, mem_cons, not_or] at absent
    rw [valueOf_cons, if_neg absent.1, ih absent.2, append_nil]

theorem valueOf_append (entries others : List Entry) (tag : UInt8) :
    valueOf (entries ++ others) tag = valueOf entries tag ++ valueOf others tag := by
  rw [valueOf, filter_append, flatMap_append]
  rfl

theorem get_add (result : OrderedMap UInt8 (List UInt8)) (entry : Entry) (tag : UInt8) :
    (add result entry).get tag =
      if tag = entry.1 then some ((result.get tag).getD [] ++ entry.2) else result.get tag := by
  rw [add]
  cases found : result.get entry.1 with
  | some existing =>
    rw [OrderedMap.get_set]
    by_cases own : tag = entry.1
    · subst own
      simp [found]
    · simp [own]
  | none =>
    rw [OrderedMap.get_set]
    by_cases own : tag = entry.1
    · subst own
      simp [found]
    · simp [own]

theorem get_foldl_add (entries : List Entry) (result : OrderedMap UInt8 (List UInt8))
    (tag : UInt8) :
    (entries.foldl add result).get tag =
      if tag ∈ entries.map Prod.fst then some ((result.get tag).getD [] ++ valueOf entries tag)
      else result.get tag := by
  induction entries generalizing result with
  | nil => rfl
  | cons entry others ih =>
    rw [foldl_cons, ih, get_add, valueOf_cons, map_cons]
    by_cases own : tag = entry.1
    · by_cases later : tag ∈ others.map Prod.fst
      · simp only [own, if_true, mem_cons, true_or, Option.getD_some, append_assoc]
        rw [own] at later
        rw [if_pos later]
      · rw [if_neg later, if_pos own, if_pos (own ▸ mem_cons_self), if_pos own,
          valueOf_of_not_mem later, append_nil]
    · simp only [own, if_false, nil_append, mem_cons, false_or]

theorem valueOf_fragments (entry : Entry) (tag : UInt8) :
    valueOf (fragments entry) tag = if tag = entry.1 then entry.2 else [] := by
  rw [valueOf]
  split
  · rename_i own
    have all : (fragments entry).filter (fun fragment => fragment.1 = tag) = fragments entry :=
      filter_eq_self.mpr fun fragment member =>
        decide_eq_true ((fst_of_mem_fragments member).trans own.symm)
    rw [all, flatMap_fragments]
  · rename_i other
    have none : (fragments entry).filter (fun fragment => fragment.1 = tag) = [] :=
      filter_eq_nil_iff.mpr fun fragment member same =>
        other ((of_decide_eq_true same).symm.trans (fst_of_mem_fragments member))
    rw [none, flatMap_nil]

theorem valueOf_flatMap_fragments (entries : List Entry) (tag : UInt8) :
    valueOf (entries.flatMap fragments) tag = valueOf entries tag := by
  induction entries with
  | nil => rfl
  | cons entry others ih =>
    rw [flatMap_cons, valueOf_append, valueOf_fragments, ih, valueOf_cons]

theorem mem_fst_flatMap_fragments (entries : List Entry) (tag : UInt8) :
    tag ∈ (entries.flatMap fragments).map Prod.fst ↔ tag ∈ entries.map Prod.fst := by
  simp only [mem_map, mem_flatMap]
  constructor
  · rintro ⟨fragment, ⟨entry, member, inside⟩, rfl⟩
    exact ⟨entry, member, (fst_of_mem_fragments inside).symm⟩
  · rintro ⟨entry, member, rfl⟩
    obtain ⟨fragment, inside⟩ := exists_mem_of_ne_nil _ (fragments_ne_nil entry)
    exact ⟨fragment, ⟨entry, member, inside⟩, fst_of_mem_fragments inside⟩

theorem takes_readEntry_iff : Takes readEntry data entries [] ↔
    (∀ entry ∈ entries, Complete entry) ∧ data = entries.flatMap writeEntry := by
  constructor
  · intro takes
    generalize nothing : ([] : List UInt8) = left at takes
    induction takes with
    | nil data =>
      subst nothing
      exact ⟨nofun, rfl⟩
    | cons taken _ ih =>
      obtain ⟨complete, rfl⟩ := readEntry_eq_ok_iff.mp taken
      obtain ⟨others, rest⟩ := ih nothing
      exact ⟨forall_mem_cons.mpr ⟨complete, others⟩, by rw [flatMap_cons, ← rest]⟩
  · rintro ⟨complete, rfl⟩
    have takes := takes_written readEntry_stable (fun entry member =>
      readEntry_eq_ok_iff.mpr ⟨complete entry member, (append_nil _).symm⟩) []
    rwa [append_nil] at takes

theorem decodeTlv8_eq_ok_iff {result : OrderedMap UInt8 (List UInt8)} :
    decodeTlv8 data = .ok result ↔ ∃ entries : List Entry,
      ((∀ entry ∈ entries, Complete entry) ∧ data = entries.flatMap writeEntry) ∧
        entries.foldl add .empty = result := by
  simp only [← takes_readEntry_iff]
  rw [decodeTlv8]
  constructor
  · intro ok
    cases read : readAll readEntry .outOfFuel data.length data with
    | error error =>
      rw [read] at ok
      cases ok
    | ok entries =>
      rw [read] at ok
      exact ⟨entries, (readAll_eq_ok_iff readEntry_advances (Nat.le_refl _)).mp read,
        Except.ok.inj ok⟩
  · rintro ⟨entries, takes, rfl⟩
    rw [(readAll_eq_ok_iff readEntry_advances (Nat.le_refl _)).mpr takes]
    rfl

/-- Written values are read back, and exactly the streams of complete entries are read. -/
structure Tlv8Exact : Prop where
  decoded : ∀ entries : List Entry, ∃ data result,
    encodeTlv8 (entries.map fun entry => ((entry.1.toNat : Int), entry.2)) = .ok data ∧
      decodeTlv8 data = .ok result ∧ (∀ tag, result.get tag =
        if tag ∈ entries.map Prod.fst then some (valueOf entries tag) else none) ∧
      ((entries.map Prod.fst).Nodup →
        ∀ tag value, result.get tag = some value ↔ (tag, value) ∈ entries)
  throws : ∀ data, (∃ error, decodeTlv8 data = .error error) ↔
    ¬∃ entries : List Entry, (∀ entry ∈ entries, Complete entry) ∧ data = entries.flatMap writeEntry

theorem valueOf_eq_some_iff (distinct : (entries.map Prod.fst).Nodup) :
    (if tag ∈ entries.map Prod.fst then some (valueOf entries tag) else none) = some value ↔
      (tag, value) ∈ entries := by
  induction entries with
  | nil => simp
  | cons entry others ih =>
    rw [map_cons, nodup_cons] at distinct
    rw [valueOf_cons, map_cons]
    by_cases own : tag = entry.1
    · have absent : tag ∉ others.map Prod.fst := own ▸ distinct.1
      rw [if_pos (own ▸ mem_cons_self), if_pos own, valueOf_of_not_mem absent,
        append_nil, Option.some.injEq, mem_cons]
      constructor
      · rintro rfl
        exact .inl (by rw [own])
      · rintro (same | member)
        · rw [← same]
        · exact absurd (mem_map_of_mem member) absent
    · have other : (tag, value) ≠ entry := by
        rintro rfl
        exact own rfl
      simp only [mem_cons, own, false_or, if_false, nil_append, other]
      exact ih distinct.2

theorem tlv8_exact : Tlv8Exact where
  decoded entries := by
    have complete : ∀ fragment ∈ entries.flatMap fragments, Complete fragment := by
      intro fragment member
      obtain ⟨entry, -, inside⟩ := mem_flatMap.mp member
      exact complete_of_mem_fragments inside
    have get : ∀ tag, ((entries.flatMap fragments).foldl add .empty).get tag =
        if tag ∈ entries.map Prod.fst then some (valueOf entries tag) else none := by
      intro tag
      rw [get_foldl_add, OrderedMap.get_empty, Option.getD_none, nil_append,
        valueOf_flatMap_fragments]
      simp only [mem_fst_flatMap_fragments]
    refine ⟨_, _, encodeTlv8_eq entries,
      decodeTlv8_eq_ok_iff.mpr ⟨_, ⟨complete, rfl⟩, rfl⟩, get, fun distinct tag value => ?_⟩
    rw [get]
    exact valueOf_eq_some_iff distinct
  throws data := by
    have reads : (∃ result, decodeTlv8 data = .ok result) ↔
        ∃ entries : List Entry, (∀ entry ∈ entries, Complete entry) ∧
          data = entries.flatMap writeEntry := by
      constructor
      · rintro ⟨result, ok⟩
        obtain ⟨entries, written, -⟩ := decodeTlv8_eq_ok_iff.mp ok
        exact ⟨entries, written⟩
      · rintro ⟨entries, written⟩
        exact ⟨_, decodeTlv8_eq_ok_iff.mpr ⟨entries, written, rfl⟩⟩
    rw [← reads]
    cases decodeTlv8 data <;> simp

end SupremeOs.Protocols.AppleTvHapTlv8
