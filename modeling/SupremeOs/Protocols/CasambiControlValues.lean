import SupremeOs.Protocols.CasambiUdpCodec

/-!
# Control values in notifications

A notification lists control values of a target.  The type of a value says how
many bytes it has, or, if its highest bit is set, that an index and a length
come first.  The list is cut short where no length is known.  Where the
arguments end inside a value, the bytes that are there are taken for all of it,
and nothing in the result says so.
-/

namespace SupremeOs.Protocols.CasambiUdpCodec

open List

structure ControlTypeInfo where
  name : String
  size : Option Nat

def casambiControlType : Nat → Option ControlTypeInfo
  | 1 => some ⟨"dimmerChannel", some 1⟩
  | 2 => some ⟨"colorTemperature", some 1⟩
  | 3 => some ⟨"hueSaturation", some 3⟩
  | 4 => some ⟨"xyColor", some 4⟩
  | 5 => some ⟨"colorSourceSelector", some 1⟩
  | 6 => some ⟨"deviceTemperature", some 1⟩
  | 7 => some ⟨"batteryLevel", some 1⟩
  | 8 => some ⟨"overheatingIndicator", some 1⟩
  | 9 => some ⟨"generalErrorIndicator", some 1⟩
  | 10 => some ⟨"verticalControl", some 1⟩
  | 11 => some ⟨"whiteChannel", some 1⟩
  | 14 => some ⟨"sensorField", none⟩
  | 15 => some ⟨"slider", some 2⟩
  | 16 => some ⟨"onOffToggle", some 1⟩
  | 17 => some ⟨"button", some 1⟩
  | 18 => some ⟨"pushButton", some 1⟩
  | 19 => some ⟨"whiteColorMatch", some 1⟩
  | 20 => some ⟨"lightSensorLux", some 2⟩
  | 21 => some ⟨"presenceSensor", some 1⟩
  | _ => none

structure CasambiControlValue where
  type : Nat
  typeName : String
  index : Option Nat
  valueBytes : List Nat

structure CasambiNotifyControlValues where
  targetId : Nat
  values : List CasambiControlValue
  truncated : Bool

def shortType (rawType : Nat) : Nat := rawType &&& 0x7f

def typeNameOf (rawType : Nat) : String :=
  match casambiControlType (shortType rawType) with
  | some info => info.name
  | none => "unknown_" ++ toString (shortType rawType)

/-- The size of a value in its short form, if it has one. -/
def sizeOf (rawType : Nat) : Option Nat :=
  (casambiControlType (shortType rawType)).bind ControlTypeInfo.size

def IsLongForm (rawType : Nat) : Prop := rawType &&& 0x80 ≠ 0

instance (rawType : Nat) : Decidable (IsLongForm rawType) := inferInstanceAs (Decidable (_ ≠ _))

/-- The loop over the arguments after the target: the values, and whether it was cut short. -/
def parseValues : List Nat → List CasambiControlValue × Bool
  | [] => ([], false)
  | rawType :: rest =>
    if IsLongForm rawType then
      match rest with
      | index :: len :: rest =>
        let (values, truncated) := parseValues (rest.drop len)
        (⟨rawType, typeNameOf rawType, some index, rest.take len⟩ :: values, truncated)
      | _ => ([], true)
    else
      match sizeOf rawType with
      | none => ([], true)
      | some size =>
        let (values, truncated) := parseValues (rest.drop size)
        (⟨rawType, typeNameOf rawType, none, rest.take size⟩ :: values, truncated)
termination_by arguments => arguments.length
decreasing_by all_goals simp only [length_drop, length_cons]; omega

def wrongOpcode (name : String) (expected got : Nat) : String :=
  name ++ ": expected opcode 0x" ++ integerText 16 (.finite expected) ++ ", got 0x" ++
    integerText 16 (.finite got)

def parseNotifyControlValues (packet : CasambiPacket Nat) :
    Except String CasambiNotifyControlValues :=
  if packet.opcode ≠ 0x4b then
    .error (wrongOpcode "parseNotifyControlValues" 0x4b packet.opcode)
  else
    let (values, truncated) := parseValues (packet.args.drop 1)
    .ok ⟨packet.args.headD 0, values, truncated⟩

/-- A value is named by its type and has as many bytes as that says in its short form. -/
structure ValidValue (value : CasambiControlValue) : Prop where
  name : value.typeName = typeNameOf value.type
  form : IsLongForm value.type ↔ value.index.isSome
  size : value.index = none → sizeOf value.type = some value.valueBytes.length

def wire (value : CasambiControlValue) : List Nat :=
  match value.index with
  | none => value.type :: value.valueBytes
  | some index => value.type :: index :: value.valueBytes.length :: value.valueBytes

/-- What stands before the bytes of a value, and how many bytes it announces. -/
inductive Announces : List Nat → Nat → Prop
  | short (rawType size : Nat) (form : ¬IsLongForm rawType) (known : sizeOf rawType = some size) :
      Announces [rawType] size
  | long (rawType index len : Nat) (form : IsLongForm rawType) :
      Announces [rawType, index, len] len

/-- After some values the arguments end inside another one. -/
def EndsInValue (arguments : List Nat) : Prop :=
  ∃ (values : List CasambiControlValue) (head : List Nat) (size : Nat) (part : List Nat),
    (∀ value ∈ values, ValidValue value) ∧ Announces head size ∧ part.length < size ∧
      arguments = values.flatMap wire ++ (head ++ part)

/--
A list of values is read back from a notification it is written to, and what is
read without being cut short is all that was written.
-/
structure ControlValuesExact (packet : CasambiPacket Nat) : Prop where
  written : ∀ (targetId : Nat) (values : List CasambiControlValue), (∀ value ∈ values,
    ValidValue value) → packet.opcode = 0x4b → packet.args = targetId :: values.flatMap wire →
      parseNotifyControlValues packet = .ok ⟨targetId, values, false⟩
  read : ∀ notify, parseNotifyControlValues packet = .ok notify → notify.truncated = false →
    (∀ value ∈ notify.values, ValidValue value) ∧ packet.args.drop 1 = notify.values.flatMap wire

variable {arguments : List Nat} {value : CasambiControlValue} {values : List CasambiControlValue}

theorem parseValues_short {rawType size : Nat} (form : ¬IsLongForm rawType)
    (known : sizeOf rawType = some size) (rest : List Nat) :
    parseValues (rawType :: rest) =
      (⟨rawType, typeNameOf rawType, none, rest.take size⟩ :: (parseValues (rest.drop size)).1,
        (parseValues (rest.drop size)).2) := by
  rw [parseValues.eq_def]
  dsimp only
  rw [if_neg form, known]

theorem parseValues_long {rawType : Nat} (form : IsLongForm rawType) (index len : Nat)
    (rest : List Nat) :
    parseValues (rawType :: index :: len :: rest) =
      (⟨rawType, typeNameOf rawType, some index, rest.take len⟩ :: (parseValues (rest.drop len)).1,
        (parseValues (rest.drop len)).2) := by
  rw [parseValues, if_pos form]

theorem parseValues_wire (valid : ValidValue value) (rest : List Nat) :
    parseValues (wire value ++ rest) = (value :: (parseValues rest).1, (parseValues rest).2) := by
  obtain ⟨type, typeName, index, valueBytes⟩ := value
  obtain ⟨name, form, size⟩ := valid
  dsimp only at name form size
  subst name
  cases index with
  | none =>
    have short : ¬IsLongForm type := mt form.mp (by decide)
    rw [wire, cons_append, parseValues_short short (size rfl), take_left, drop_left]
  | some index =>
    rw [wire, cons_append, cons_append, cons_append,
      parseValues_long (form.mpr rfl), take_left, drop_left]

theorem parseValues_append (valid : ∀ value ∈ values, ValidValue value) (rest : List Nat) :
    parseValues (values.flatMap wire ++ rest) =
      (values ++ (parseValues rest).1, (parseValues rest).2) := by
  induction values with
  | nil => rfl
  | cons value others ih =>
    rw [flatMap_cons, append_assoc, parseValues_wire (valid value (.head _)),
      ih fun other member => valid other (.tail _ member)]
    rfl

theorem parseValues_cut {head part : List Nat} {size : Nat} (announces : Announces head size)
    (cut : part.length < size) :
    ∃ value, parseValues (head ++ part) = ([value], false) ∧
      ¬(ValidValue value ∧ head ++ part = wire value) := by
  have whole : part.take size = part := take_of_length_le (Nat.le_of_lt cut)
  have rest : part.drop size = [] := drop_of_length_le (Nat.le_of_lt cut)
  cases announces with
  | short rawType size form known =>
    refine ⟨⟨rawType, typeNameOf rawType, none, part⟩, ?_, fun ⟨valid, _⟩ => ?_⟩
    · rw [singleton_append, parseValues_short form known, whole, rest, parseValues]
    · exact Nat.ne_of_lt cut (Option.some.inj ((valid.size rfl).symm.trans known))
  | long rawType index len form =>
    refine ⟨⟨rawType, typeNameOf rawType, some index, part⟩, ?_, fun ⟨_, same⟩ => ?_⟩
    · rw [cons_append, cons_append, singleton_append, parseValues_long form,
        whole, rest, parseValues]
    · simp only [wire, cons_append, nil_append, List.cons.injEq, true_and] at same
      exact Nat.ne_of_lt cut same.1.symm

theorem EndsInValue.wire_append {rest : List Nat} (valid : ValidValue value)
    (ends : EndsInValue rest) : EndsInValue (wire value ++ rest) := by
  obtain ⟨values, head, size, part, all, announces, cut, rfl⟩ := ends
  refine ⟨value :: values, head, size, part, forall_mem_cons.mpr ⟨valid, all⟩, announces,
    cut, ?_⟩
  rw [flatMap_cons, append_assoc]

theorem endsInValue_of_announces {head part : List Nat} {size : Nat}
    (announces : Announces head size) (cut : part.length < size) : EndsInValue (head ++ part) :=
  ⟨[], head, size, part, fun _ member => (nomatch member), announces, cut, rfl⟩

theorem read_value {rest : List Nat} (valid : ValidValue value)
    (whole : ¬EndsInValue (wire value ++ rest))
    (ih : (parseValues rest).2 = false → ¬EndsInValue rest →
      (∀ value ∈ (parseValues rest).1, ValidValue value) ∧ rest = (parseValues rest).1.flatMap wire)
    (complete : (parseValues rest).2 = false) :
    (∀ other ∈ value :: (parseValues rest).1, ValidValue other) ∧
      wire value ++ rest = (value :: (parseValues rest).1).flatMap wire := by
  obtain ⟨all, same⟩ := ih complete fun ends => whole (ends.wire_append valid)
  refine ⟨forall_mem_cons.mpr ⟨valid, all⟩, ?_⟩
  rw [flatMap_cons, ← same]

/-- What is read without being cut short or ending inside a value is all that is there. -/
theorem parseValues_exact (complete : (parseValues arguments).2 = false)
    (whole : ¬EndsInValue arguments) :
    (∀ value ∈ (parseValues arguments).1, ValidValue value) ∧
      arguments = (parseValues arguments).1.flatMap wire := by
  induction arguments using parseValues.induct with
  | case1 =>
    rw [parseValues]
    exact ⟨fun _ member => (nomatch member), rfl⟩
  | case2 rawType form index len rest _ _ _ ih =>
    have enough : len ≤ rest.length := by
      by_contra short
      exact whole (endsInValue_of_announces (.long rawType index len form) (by omega))
    have valid : ValidValue ⟨rawType, typeNameOf rawType, some index, rest.take len⟩ :=
      ⟨rfl, iff_of_true form rfl, nofun⟩
    have written : rawType :: index :: len :: rest =
        wire ⟨rawType, typeNameOf rawType, some index, rest.take len⟩ ++ rest.drop len := by
      simp [wire, Nat.min_eq_left enough]
    rw [parseValues_long form] at complete ⊢
    rw [written] at whole ⊢
    exact read_value valid whole ih complete
  | case3 rawType rest form short =>
    rw [parseValues.eq_def] at complete
    dsimp only at complete
    rw [if_pos form] at complete
    split at complete
    · exact (short _ _ _ rfl).elim
    · cases complete
  | case4 rawType rest form unknown =>
    rw [parseValues.eq_def] at complete
    dsimp only at complete
    rw [if_neg form, unknown] at complete
    cases complete
  | case5 rawType rest form size known _ _ _ ih =>
    have enough : size ≤ rest.length := by
      by_contra short
      exact whole (endsInValue_of_announces (.short rawType size form known) (by omega))
    have valid : ValidValue ⟨rawType, typeNameOf rawType, none, rest.take size⟩ := by
      refine ⟨rfl, iff_of_false form nofun, fun _ => ?_⟩
      rw [length_take, Nat.min_eq_left enough]
      exact known
    have written : rawType :: rest =
        wire ⟨rawType, typeNameOf rawType, none, rest.take size⟩ ++ rest.drop size := by
      simp [wire]
    rw [parseValues_short form known] at complete ⊢
    rw [written] at whole ⊢
    exact read_value valid whole ih complete

theorem parseNotifyControlValues_eq {packet : CasambiPacket Nat} (opcode : packet.opcode = 0x4b) :
    parseNotifyControlValues packet =
      .ok ⟨packet.args.headD 0, (parseValues (packet.args.drop 1)).1,
        (parseValues (packet.args.drop 1)).2⟩ := by
  rw [parseNotifyControlValues, if_neg (not_not_intro opcode)]

/-- A packet is read exactly if and only if it is no notification that ends inside a value. -/
theorem controlValuesExact_iff (packet : CasambiPacket Nat) : ControlValuesExact packet ↔
      (packet.opcode = 0x4b → ¬EndsInValue (packet.args.drop 1)) := by
  by_cases opcode : packet.opcode = 0x4b
  swap
  · refine iff_of_true ⟨fun _ _ _ is => (opcode is).elim, fun notify ok => ?_⟩
      fun is => (opcode is).elim
    rw [parseNotifyControlValues, if_pos opcode] at ok
    cases ok
  have parsed := parseNotifyControlValues_eq opcode
  constructor
  · rintro exact - ⟨values, head, size, part, valid, announces, cut, ends⟩
    obtain ⟨bad, read, not⟩ := parseValues_cut announces cut
    have result := parseValues_append valid (head ++ part)
    rw [← ends, read] at result
    obtain ⟨all, same⟩ := exact.read _ parsed (by rw [result])
    rw [result] at all same
    rw [ends, flatMap_append, append_cancel_left_eq] at same
    refine not ⟨all bad (mem_append_right values (mem_singleton_self bad)), ?_⟩
    rw [same, flatMap_cons, flatMap_nil, append_nil]
  · intro whole
    refine ⟨fun targetId values valid _ args => ?_, fun notify ok complete => ?_⟩
    · have result := parseValues_append valid []
      rw [append_nil, parseValues, append_nil] at result
      rw [parsed, args, drop_one, tail_cons, result]
      rfl
    · rw [parsed] at ok
      cases ok
      exact parseValues_exact complete (whole opcode)

/-- A colour of which two bytes of four have arrived. -/
def cutColour : CasambiPacket Nat := ⟨1, .fromCasambi, 0x4b, [5, 4, 10, 20], false⟩

theorem cutColour_is_whole : parseNotifyControlValues cutColour =
        .ok ⟨5, [⟨4, "xyColor", none, [10, 20]⟩], false⟩ ∧ ¬ControlValuesExact cutColour := by
  have read : parseNotifyControlValues cutColour =
      .ok ⟨5, [⟨4, "xyColor", none, [10, 20]⟩], false⟩ := by
    rw [parseNotifyControlValues_eq rfl, show cutColour.args.drop 1 = [4, 10, 20] from rfl,
      parseValues_short (by decide) (show sizeOf 4 = some 4 from rfl),
      show [10, 20].drop 4 = ([] : List Nat) from rfl, parseValues]
    rfl
  refine ⟨read, fun exact => ?_⟩
  have valid := (exact.read _ read rfl).1 _ (.head _)
  exact absurd (valid.size rfl) (by decide)

end SupremeOs.Protocols.CasambiUdpCodec
